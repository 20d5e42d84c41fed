import Mathlib
import TransitStore.Proofs.Audit.Quality
import TransitStore.Proofs.Import.Account
import TransitStore.Proofs.Span

/-!
# Where journey patterns lie

The rows of an imported container say where the points, the stop times and the vehicle
journeys of each journey pattern stand.  No number is cut off, since no table is longer
than its row numbers reach, so they do stand there (`Laid.points_at`, `Laid.journey_at`).
The runs follow one another through their tables and tile them (`Laid.tiles_points`,
`Laid.tiles_journeys`, `Laid.tiles_stopTimes`).
-/

namespace TransitStore

namespace Import

open Entity Container

/-! ## Laid pieces -/

/-- The point that was given is in a record. -/
def ShowsPoint (pool : Pool) : JourneyPatternPoint.Draft → JourneyPatternPoint → Prop :=
  Entity.Shows pool .journeyPatternPoint

/-- The vehicle journey that was given is in a record. -/
def ShowsJourney (pool : Pool) : VehicleJourney.Draft → VehicleJourney → Prop :=
  Entity.Shows pool .vehicleJourney

/-- The trips of a piece have stop times for the points of its pattern, and none of these
are more than the pattern can count. -/
structure Piece.Counted (piece : Piece) : Prop where
  points : piece.1.points.length = piece.1.stops.length
  stopTimes : ∀ t ∈ piece.2, t.stopTimes.length = piece.1.stops.length
  stops : piece.1.stops.length ≤ 65535
  trips : piece.2.length ≤ 65535

/-- The journey patterns, points, vehicle journeys and stop times of a container are those
of some pieces, in order. -/
structure Laid (days : ServiceDays) (timeOffset : Int8) (modes : Array UInt8)
    (pieces : List Piece) (c : Container) : Prop where
  patterns : c.journeyPatterns.rows.toList = patternsOf modes 0 0 pieces
  points : List.Forall₂ (ShowsPoint c.pool) (pieces.flatMap (·.1.points))
    c.journeyPatternPoints.rows.toList
  journeys : List.Forall₂ (ShowsJourney c.pool)
    (journeyDrafts days timeOffset 0 (pieces.flatMap (·.2))) c.vehicleJourneys.rows.toList
  stopTimes : (pieces.flatMap (·.2)).flatMap (·.stopTimes) = c.stopTimes.rows.toList
  counted : ∀ piece ∈ pieces, piece.Counted
  /-- The numbers of points fit their bits, and so do those of the other rows. -/
  pointsShort : c.journeyPatternPoints.rows.size < UInt32.size
  journeysShort : c.vehicleJourneys.rows.size < UInt32.size
  stopTimesShort : c.stopTimes.rows.size < UInt32.size

theorem counted_piecesOf {feed : Feed} {piece : Piece} (mem : piece ∈ piecesOf feed)
    (stops : piece.1.stops.length ≤ 65535) : piece.Counted := by
  obtain ⟨key, trips⟩ := piece
  obtain ⟨some_, few, keyed⟩ := mem_piecesOf mem
  have each (t : FollowedTrip) (mem : t ∈ trips) :
      ∃ line, key = .of line t := by
    obtain ⟨-, line, -, same⟩ := along_of_mem_keyedTrips (keyed t mem)
    exact ⟨line, same⟩
  refine ⟨?_, ?_, stops, few⟩
  · obtain ⟨t, mem⟩ := List.exists_mem_of_ne_nil _ some_
    obtain ⟨line, rfl⟩ := each t mem
    simp [PatternKey.points, PatternKey.of]
  · intro t mem
    obtain ⟨line, rfl⟩ := each t mem
    simp [FollowedTrip.stopTimes, PatternKey.of]

variable {days : ServiceDays} {timeOffset : Int8} {modes : Array UInt8} {c : Container}

theorem eq_of_forall₂ {α : Type} {l m : List α} (same : List.Forall₂ (fun a b => b = a) l m) :
    l = m :=
  (congrFun₂ List.forall₂_eq_eq_eq l m).mp (same.imp fun _ _ eq => eq.symm)

theorem laid_of_account {feed : Feed} {l : Ledger} (same : Matches c l)
    (account : Account feed days timeOffset modes l) (fits : Fits c) :
    Laid days timeOffset modes (piecesOf feed) c where
  patterns := by
    rw [← account.patterns]
    exact (eq_of_forall₂ (same.shows journeyPattern)).symm
  points := by
    rw [← account.points]
    exact same.shows journeyPatternPoint
  journeys := by
    rw [← account.journeys]
    exact same.shows vehicleJourney
  stopTimes := by
    rw [← account.stopTimes]
    exact eq_of_forall₂ (same.shows stopTime)
  counted piece mem := counted_piecesOf mem (account.counted piece mem)
  pointsShort := Nat.lt_succ_of_le (fits.tables journeyPatternPoint)
  journeysShort := Nat.lt_succ_of_le (fits.tables vehicleJourney)
  stopTimesShort := Nat.lt_succ_of_le (fits.tables stopTime)

/-! ## One pattern after the other -/

theorem length_patternsOf (points journeys : Nat) (pieces : List Piece) :
    (patternsOf modes points journeys pieces).length = pieces.length := by
  induction pieces generalizing points journeys with
  | nil => rfl
  | cons piece pieces ih => rw [patternsOf, List.length_cons, List.length_cons, ih]

section

variable {front rest : List Piece} {key : PatternKey} {trips : List FollowedTrip}
  (laid : Laid days timeOffset modes (front ++ (key, trips) :: rest) c)

include laid

theorem Laid.counted_at : Piece.Counted (key, trips) := laid.counted _ (by simp)

theorem Laid.pattern_at : c.journeyPatterns.rows[front.length]? =
    some (patternOf modes (front.flatMap (·.1.points)).length (front.flatMap (·.2)).length key
      trips) := by
  have length : (patternsOf modes 0 0 front).length = front.length := length_patternsOf 0 0 front
  rw [← Array.getElem?_toList, laid.patterns, patternsOf_append, patternsOf, Nat.zero_add,
    Nat.zero_add, List.getElem?_append_right (Nat.le_of_eq length), length, Nat.sub_self]
  rfl

/-- The points of a pattern are those of its piece. -/
theorem Laid.points_at : ∃ run, c.patternPoints? front.length = some run ∧
    List.Forall₂ (ShowsPoint c.pool) key.points run.slice := by
  have counted := laid.counted_at
  have points := laid.points
  rw [List.flatMap_append, List.flatMap_cons] at points
  obtain ⟨run, made, shown⟩ := Span.exists_slice points
  refine ⟨run, ?_, shown⟩
  have inside := (Span.isSome_run?.1 (by rw [made]; rfl)).trans_lt laid.pointsShort
  rw [Container.patternPoints?, laid.pattern_at, Option.bind_some, JourneyPattern.points?,
    patternOf, UInt32.toNat_ofNat_of_lt' (by omega), UInt16.toNat_ofNat_of_lt'
      (Nat.lt_succ_of_le counted.stops), ← counted.points]
  exact made

/-- The vehicle journeys of a pattern are as many as the trips of its piece. -/
theorem Laid.journeys_at : ∃ run, c.patternVehicleJourneys? front.length = some run ∧
    run.start = (front.flatMap (·.2)).length ∧
      run.stop = (front.flatMap (·.2)).length + trips.length := by
  have total : (front.flatMap (·.2)).length + trips.length ≤ c.vehicleJourneys.rows.size := by
    have length : (front.flatMap (·.2)).length + (trips.length + (rest.flatMap (·.2)).length) =
        c.vehicleJourneys.rows.size := by
      simpa [length_journeyDrafts] using laid.journeys.length_eq
    omega
  have short := laid.journeysShort
  obtain ⟨run, made⟩ := Option.isSome_iff_exists.1 (Span.isSome_run?.2 total)
  refine ⟨run, ?_, Span.run?_eq_some_iff.1 made⟩
  rw [Container.patternVehicleJourneys?, laid.pattern_at, Option.bind_some,
    JourneyPattern.vehicleJourneys?, patternOf, UInt32.toNat_ofNat_of_lt' (by omega),
    UInt16.toNat_ofNat_of_lt' (Nat.lt_succ_of_le laid.counted_at.trips)]
  exact made

end

section

variable {front rest : List Piece} {key : PatternKey} {before after : List FollowedTrip}
  {t : FollowedTrip}
  (laid : Laid days timeOffset modes (front ++ (key, before ++ t :: after) :: rest) c)

include laid

/-- The vehicle journey of a trip is the one with its place among the trips. -/
theorem Laid.journey_at : ∃ v,
    c.vehicleJourneys.rows[(front.flatMap (·.2)).length + before.length]? = some v ∧
      ShowsJourney c.pool (journeyDraft days timeOffset t
        ((front.flatMap (·.2) ++ before).flatMap (·.stopTimes)).length) v := by
  have same := rel_getElem?_of_forall₂ laid.journeys
    ((front.flatMap (·.2)).length + before.length)
  have length : (journeyDrafts days timeOffset 0 (front.flatMap (·.2) ++ before)).length =
      (front.flatMap (·.2)).length + before.length := by
    rw [length_journeyDrafts, List.length_append]
  rw [List.flatMap_append, List.flatMap_cons, List.append_assoc, List.cons_append,
    ← List.append_assoc, journeyDrafts_append, journeyDrafts, ← length,
    List.getElem?_append_right (Nat.le_refl _), Nat.sub_self, List.getElem?_cons_zero, length,
    Array.getElem?_toList, Nat.zero_add] at same
  generalize c.vehicleJourneys.rows[(front.flatMap (·.2)).length + before.length]? = found at same ⊢
  cases same with
  | some shown => exact ⟨_, rfl, shown⟩

/-- The stop times of a vehicle journey are those of its trip. -/
theorem Laid.stopTimes_at : ∃ run, c.vehicleJourneyStopTimes? front.length
      ((front.flatMap (·.2)).length + before.length) = some run ∧
    Span.run? _ ((front.flatMap (·.2) ++ before).flatMap (·.stopTimes)).length
      t.stopTimes.length = some run ∧ run.slice = t.stopTimes := by
  have counted := laid.counted_at
  obtain ⟨v, at_, shown⟩ := laid.journey_at
  have times := laid.stopTimes
  rw [List.flatMap_append, List.flatMap_cons, List.append_assoc, List.cons_append,
    ← List.append_assoc, List.flatMap_append, List.flatMap_cons] at times
  rw [← List.forall₂_eq_eq_eq] at times
  obtain ⟨run, made, same⟩ := Span.exists_slice times
  rw [List.forall₂_eq_eq_eq] at same
  refine ⟨run, ?_, made, same.symm⟩
  have inside := (Span.isSome_run?.1 (by rw [made]; rfl)).trans_lt laid.stopTimesShort
  rw [Container.vehicleJourneyStopTimes?, laid.pattern_at, Option.bind_some, at_, Option.bind_some,
    VehicleJourney.stopTimes?, shown.1, journeyDraft, UInt32.toNat_ofNat_of_lt' (by omega),
    patternOf, UInt16.toNat_ofNat_of_lt' (Nat.lt_succ_of_le counted.stops),
    ← counted.stopTimes t (by simp)]
  exact made

end

/-! ## Tiles -/

/-- Rows that say where runs stand that follow one another through a table have runs that
tile it. -/
theorem exists_tiles_of_rows {α : Type} {xs : Array α} {n : Nat} {g : α → Nat × Nat}
    {counts : List Nat} (same : xs.toList.map g = runsFrom 0 counts) (all : counts.sum = n) :
    ∃ runs : List (Span n), runs.length = xs.size ∧
      (∀ i : Nat, (xs[i]?.bind fun a => Span.run? n (g a).1 (g a).2) = runs[i]?) ∧
        Span.Tiles runs := by
  obtain ⟨runs, made, tiles⟩ := exists_tiles all
  rw [← same] at made
  refine ⟨runs, ?_, ?_, tiles⟩
  · rw [← made.length_eq, List.length_map, Array.length_toList]
  · intro i
    have at_ := rel_getElem?_of_forall₂ made i
    rw [List.getElem?_map, Array.getElem?_toList] at at_
    generalize xs[i]? = a?, runs[i]? = run? at at_ ⊢
    cases a? with
    | none =>
      cases at_
      rfl
    | some a =>
      cases at_ with
      | some found => exact found

/-- The rows of journey patterns say where the runs of their points and of their vehicle
journeys start that follow one another. -/
theorem runs_patternsOf {points journeys : Nat} {pieces : List Piece}
    (counted : ∀ piece ∈ pieces, piece.Counted)
    (pointsShort : points + (pieces.flatMap (·.1.points)).length < UInt32.size)
    (journeysShort : journeys + (pieces.flatMap (·.2)).length < UInt32.size) :
    (patternsOf modes points journeys pieces).map
        (fun p => (p.pointOffset.toNat, p.stopCount.toNat)) =
      runsFrom points (pieces.map (·.1.points.length)) ∧
    (patternsOf modes points journeys pieces).map
        (fun p => (p.vehicleJourneyOffset.toNat, p.vehicleJourneyCount.toNat)) =
      runsFrom journeys (pieces.map (·.2.length)) := by
  induction pieces generalizing points journeys with
  | nil => exact ⟨rfl, rfl⟩
  | cons piece pieces ih =>
    have head := counted piece (.head _)
    have stops := UInt16.toNat_ofNat_of_lt' (Nat.lt_succ_of_le head.stops)
    have trips := UInt16.toNat_ofNat_of_lt' (Nat.lt_succ_of_le head.trips)
    rw [List.flatMap_cons, List.length_append, ← Nat.add_assoc] at pointsShort journeysShort
    obtain ⟨pointRuns, journeyRuns⟩ :=
      ih (fun piece mem => counted piece (.tail _ mem)) pointsShort journeysShort
    constructor
    · rw [patternsOf, List.map_cons, List.map_cons, runsFrom, pointRuns]
      simp only [patternOf]
      rw [UInt32.toNat_ofNat_of_lt' (by omega), stops, head.points]
    · rw [patternsOf, List.map_cons, List.map_cons, runsFrom, journeyRuns]
      simp only [patternOf]
      rw [UInt32.toNat_ofNat_of_lt' (by omega), trips]

section

variable {pieces : List Piece} (laid : Laid days timeOffset modes pieces c)

include laid

theorem Laid.length_points :
    (pieces.flatMap (·.1.points)).length = c.journeyPatternPoints.rows.size :=
  laid.points.length_eq.trans Array.length_toList

theorem Laid.length_journeys : (pieces.flatMap (·.2)).length = c.vehicleJourneys.rows.size := by
  have length := laid.journeys.length_eq.trans Array.length_toList
  rwa [length_journeyDrafts] at length

theorem Laid.runs :
    c.journeyPatterns.rows.toList.map (fun p => (p.pointOffset.toNat, p.stopCount.toNat)) =
      runsFrom 0 (pieces.map (·.1.points.length)) ∧
    c.journeyPatterns.rows.toList.map
        (fun p => (p.vehicleJourneyOffset.toNat, p.vehicleJourneyCount.toNat)) =
      runsFrom 0 (pieces.map (·.2.length)) := by
  rw [laid.patterns]
  refine runs_patternsOf laid.counted ?_ ?_
  · rw [Nat.zero_add, laid.length_points]
    exact laid.pointsShort
  · rw [Nat.zero_add, laid.length_journeys]
    exact laid.journeysShort

/-- The points of the patterns are all points, in order. -/
theorem Laid.tiles_points : ∃ runs : List (Span c.journeyPatternPoints.rows.size),
    runs.length = c.journeyPatterns.rows.size ∧
      (∀ pattern, c.patternPoints? pattern = runs[pattern]?) ∧ Span.Tiles runs :=
  exists_tiles_of_rows laid.runs.1 (by rw [← laid.length_points, List.length_flatMap])

/-- The vehicle journeys of the patterns are all vehicle journeys, in order. -/
theorem Laid.tiles_journeys : ∃ runs : List (Span c.vehicleJourneys.rows.size),
    runs.length = c.journeyPatterns.rows.size ∧
      (∀ pattern, c.patternVehicleJourneys? pattern = runs[pattern]?) ∧ Span.Tiles runs :=
  exists_tiles_of_rows laid.runs.2 (by rw [← laid.length_journeys, List.length_flatMap])

/-- A vehicle journey that lies in a pattern is that of a trip of its piece. -/
theorem Laid.exists_of_liesIn {journey pattern : Nat} (lies : c.LiesIn journey pattern) :
    ∃ front key before t after rest, pieces = front ++ (key, before ++ t :: after) :: rest ∧
      front.length = pattern ∧ (front.flatMap (·.2)).length + before.length = journey := by
  obtain ⟨run, found, start, stop⟩ := lies
  have inside : pattern < pieces.length := by
    obtain ⟨p, at_, -⟩ := Option.bind_eq_some_iff.1 found
    have lt := (Array.getElem?_eq_some_iff.1 at_).1
    rwa [← Array.length_toList, laid.patterns, length_patternsOf] at lt
  obtain ⟨front, ⟨key, trips⟩, rest, rfl, rfl⟩ := exists_split inside
  obtain ⟨run', found', start', stop'⟩ := laid.journeys_at
  cases found.symm.trans found'
  have lt : journey - run.start < trips.length := by omega
  obtain ⟨before, t, after, rfl, length⟩ := exists_split lt
  refine ⟨front, key, before, t, after, rest, rfl, rfl, ?_⟩
  rw [length, ← start', Nat.add_sub_of_le start]

/-- The stop times of the vehicle journeys are all stop times, in order. -/
theorem Laid.tiles_stopTimes : ∃ runs : List (Span c.stopTimes.rows.size),
    runs.length = c.vehicleJourneys.rows.size ∧
      (∀ pattern journey, c.LiesIn journey pattern →
        c.vehicleJourneyStopTimes? pattern journey = runs[journey]?) ∧ Span.Tiles runs := by
  have total : ((pieces.flatMap (·.2)).map (·.stopTimes.length)).sum = c.stopTimes.rows.size := by
    rw [← List.length_flatMap, laid.stopTimes, Array.length_toList]
  obtain ⟨runs, made, tiles⟩ := exists_tiles total
  have length := made.length_eq
  rw [length_runsFrom, List.length_map, laid.length_journeys] at length
  refine ⟨runs, length.symm, ?_, tiles⟩
  intro pattern journey lies
  obtain ⟨front, key, before, t, after, rest, rfl, rfl, rfl⟩ := laid.exists_of_liesIn lies
  obtain ⟨run, found, run?, -⟩ := laid.stopTimes_at
  rw [found]
  have at_ := rel_getElem?_of_forall₂ made ((front.flatMap (·.2)).length + before.length)
  have place : (front.flatMap (·.2)).length + before.length =
      ((front.flatMap (·.2) ++ before).map (·.stopTimes.length)).length := by
    rw [List.length_map, List.length_append]
  rw [List.flatMap_append, List.flatMap_cons, List.append_assoc, List.cons_append,
    ← List.append_assoc, List.map_append, List.map_cons, place, getElem?_runsFrom, Nat.zero_add,
    ← List.length_flatMap, ← place] at at_
  generalize runs[(front.flatMap (·.2)).length + before.length]? = other at at_ ⊢
  cases at_ with
  | some made' => exact (made'.symm.trans run?).symm

end

end Import

end TransitStore
