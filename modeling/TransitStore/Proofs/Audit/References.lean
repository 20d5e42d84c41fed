import Mathlib
import TransitStore.Audit.References
import TransitStore.Proofs.Container.Growth
import TransitStore.Proofs.StopIndex

/-!
# What the check of references finds

Each check passes exactly if something holds of all rows it looks at, and the
checks in a row pass exactly if every one of them does.  The transfers of stop
points are only compared with their neighbors, which is enough for each of them
to be a run of the table (`checkTransfers_eq_ok`).  So the whole check passes
exactly if every query that follows a reference has an answer
(`checkReferences_eq_ok_iff_resolves`).
-/

namespace TransitStore.Audit

/-! ## References -/

/-- The references of single records lead somewhere. -/
structure RowsResolve (c : Container) : Prop where
  /-- The name of the time zone is in the pool. -/
  timezone : ∀ place, c.metadata.timezone = some place → place.toNat < c.pool.size
  /-- The texts of each record are in the pool. -/
  texts : ∀ e : Entity, ∀ r ∈ e.rows c, ∀ place ∈ e.places r, place.toNat < c.pool.size
  /-- A stop point belongs to a stop area. -/
  stopArea : ∀ p ∈ c.stopPoints.rows, p.stopArea.toNat < c.stopAreas.size
  /-- A walk leads to a stop point. -/
  targetStop : ∀ t ∈ c.transfers.rows, t.targetStop.toNat < c.stopPoints.size
  /-- A line has an operator. -/
  operator : ∀ l ∈ c.lines.rows, l.operator.toNat < c.operators.size
  /-- A line has a physical mode. -/
  physicalMode : ∀ l ∈ c.lines.rows, l.physicalMode.toNat < c.physicalModes.size
  /-- A route belongs to a line. -/
  line : ∀ r ∈ c.routes.rows, r.line.toNat < c.lines.size
  /-- A point of a pattern is at a stop point. -/
  stopPoint : ∀ p ∈ c.journeyPatternPoints.rows, p.stopPoint.toNat < c.stopPoints.size
  /-- A pattern belongs to a route. -/
  route : ∀ p ∈ c.journeyPatterns.rows, p.route.toNat < c.routes.size
  /-- A pattern has a commercial mode. -/
  commercialMode : ∀ p ∈ c.journeyPatterns.rows, p.commercialMode.toNat < c.commercialModes.size
  /-- The transfers to other vehicle journeys are a run of their table. -/
  forward : ∀ v ∈ c.vehicleJourneys.rows, (v.forwardTransfers? c.vehicleTransfers.size).isSome
  /-- The transfers from other vehicle journeys are a run of their table. -/
  backward : ∀ v ∈ c.vehicleJourneys.rows, (v.backwardTransfers? c.vehicleTransfers.size).isSome
  /-- A transfer leads to a vehicle journey of a pattern. -/
  vehicleTransfer : ∀ r ∈ c.vehicleTransfers.rows, ∃ p,
    c.journeyPatterns.rows[r.pattern.toNat]? = some p ∧ r.offset.toNat < p.vehicleJourneyCount.toNat
  /-- The stop index was never built, or it fits the stop points and the patterns. -/
  stopIndex : c.stopIndex.isEmpty ∨ c.stopIndex.Sound c.stopPoints.size c.journeyPatterns.size

/-- The references of a container lead somewhere, and the queries that follow them have
answers. -/
structure Resolves (c : Container) : Prop extends RowsResolve c where
  /-- The transfers from each stop point are a run of their table. -/
  transfers : ∀ stop < c.stopPoints.size, (c.transfersFrom? stop).isSome
  /-- The points of each pattern are a run of their table. -/
  points : ∀ pattern < c.journeyPatterns.size, (c.patternPoints? pattern).isSome
  /-- The vehicle journeys of each pattern are a run of their table, and the stop times of
  each of them along the pattern are one of theirs. -/
  vehicleJourneys : ∀ pattern < c.journeyPatterns.size,
    ∃ run, c.patternVehicleJourneys? pattern = some run ∧
      ∀ v ∈ run.rows, (c.vehicleJourneyStopTimes? pattern v).isSome

/-- The place where the transfers of a stop point end. -/
def transfersEnd (stops : Array StopPoint) (transfers stop : Nat) : Nat :=
  (stops[stop + 1]?.map (·.transfersOffset.toNat)).getD transfers

/-- The transfers of each stop point are rows of the table. -/
def TransfersResolve (stops : Array StopPoint) (transfers : Nat) : Prop :=
  ∀ (s : Nat) (p : StopPoint), stops[s]? = some p →
    p.transfersOffset.toNat ≤ transfersEnd stops transfers s ∧
      transfersEnd stops transfers s ≤ transfers

/-- The runs of a pattern are rows of their tables. -/
structure PatternResolves (c : Container) (p : JourneyPattern) : Prop where
  /-- The points are there. -/
  points : p.pointOffset.toNat + p.stopCount.toNat ≤ c.journeyPatternPoints.size
  /-- The vehicle journeys are there. -/
  vehicleJourneys :
    p.vehicleJourneyOffset.toNat + p.vehicleJourneyCount.toNat ≤ c.vehicleJourneys.size
  /-- The stop times of each vehicle journey are there. -/
  stopTimes : ∀ i < p.vehicleJourneyCount.toNat,
    ∀ v, c.vehicleJourneys.rows[p.vehicleJourneyOffset.toNat + i]? = some v →
      v.stopTimesOffset.toNat + p.stopCount.toNat ≤ c.stopTimes.size

/-- The references of a container lead somewhere, by the row numbers they are made of. -/
structure Sound (c : Container) : Prop extends RowsResolve c where
  /-- The transfers of each stop point are rows of the table. -/
  transfers : TransfersResolve c.stopPoints.rows c.transfers.size
  /-- The runs of each pattern are rows of their tables. -/
  patterns : ∀ p ∈ c.journeyPatterns.rows, PatternResolves c p

/-! ## Checks in a row -/

theorem andThen_eq_ok {ε : Type} {x y : Except ε Unit} :
    (x >>= fun _ => y) = .ok () ↔ x = .ok () ∧ y = .ok () := by
  cases x with
  | error e => simp [bind, Except.bind]
  | ok u => simp [bind, Except.bind]

theorem unless_eq_ok {ε : Type} {bad : Prop} [Decidable bad] {e : ε} {x : Except ε Unit} :
    (if bad then (throw e : Except ε Unit) >>= fun _ => x else x) = .ok () ↔
      ¬bad ∧ x = .ok () := by
  by_cases holds : bad
  · simp [holds, throw, throwThe, MonadExceptOf.throw, bind, Except.bind]
  · simp [holds]

variable {ρ : Type} {rows : Array ρ}

/-- A check of rows passes if nothing is broken in any row. -/
theorem firstBroken_eq_ok {broken? : Nat → ρ → Option BrokenReference} :
    firstBroken rows broken? = .ok () ↔ ∀ i r, rows[i]? = some r → broken? i r = none := by
  have found : firstBroken rows broken? =
      pass (rows.zipIdx.findSome? fun pair => broken? pair.2 pair.1) := rfl
  have none_ : firstBroken rows broken? = .ok () ↔
      (rows.zipIdx.findSome? fun pair => broken? pair.2 pair.1) = none := by
    rw [found]
    cases rows.zipIdx.findSome? fun pair => broken? pair.2 pair.1 with
    | none => simp [pass]
    | some broken => simp [pass]
  rw [none_, Array.findSome?_eq_none_iff]
  constructor
  · intro all i r at_
    exact all (r, i) (Array.mk_mem_zipIdx_iff_getElem?.2 at_)
  · rintro all ⟨r, i⟩ mem
    exact all i r (Array.mk_mem_zipIdx_iff_getElem?.1 mem)

/-- A check that does not look at row numbers passes if nothing is broken in any row. -/
theorem firstBroken_eq_ok_of_mem {broken? : Nat → ρ → Option BrokenReference} {good : ρ → Prop}
    (same : ∀ i r, broken? i r = none ↔ good r) :
    firstBroken rows broken? = .ok () ↔ ∀ r ∈ rows, good r := by
  rw [firstBroken_eq_ok]
  simp only [same, Array.mem_iff_getElem?]
  constructor
  · rintro all r ⟨i, at_⟩
    exact all i r at_
  · intro all i r at_
    exact all r ⟨i, at_⟩

theorem checkTexts_eq_ok {what : String} {poolSize : Nat} {place : ρ → UInt32} :
    checkTexts what rows poolSize place = .ok () ↔ ∀ r ∈ rows, (place r).toNat < poolSize := by
  apply firstBroken_eq_ok_of_mem
  intro i r
  rw [ite_eq_right_iff, ← Nat.not_le]
  simp

theorem checkRows_eq_ok {what target : String} {count : Nat} {row : ρ → Nat} :
    checkRows what rows target count row = .ok () ↔ ∀ r ∈ rows, row r < count := by
  apply firstBroken_eq_ok_of_mem
  intro i r
  rw [ite_eq_right_iff, ← Nat.not_le]
  simp

/-! ## Transfers of stop points -/

section

variable {stops : Array StopPoint} {transfers : Nat}

/-- The transfers of a stop point are a run if its neighbors and the last stop point say so.
A start is no greater than the ones behind it, so none is past the end of the table. -/
theorem transfersResolve_iff : TransfersResolve stops transfers ↔
    (∀ (s : Nat) (p next : StopPoint), stops[s]? = some p → stops[s + 1]? = some next →
      p.transfersOffset ≤ next.transfersOffset) ∧
        ∀ last, stops.back? = some last → last.transfersOffset.toNat ≤ transfers := by
  constructor
  · intro resolve
    refine ⟨?_, ?_⟩
    · intro s p next at_ behind
      have run := (resolve s p at_).1
      rwa [transfersEnd, behind] at run
    · intro last back
      rw [Array.back?_eq_getElem?] at back
      have run := resolve _ last back
      exact Nat.le_trans run.1 run.2
  · rintro ⟨ordered, finish⟩
    -- Going down from the last stop point, no start is past the end.
    have inside (k : Nat) : ∀ s p, stops[s]? = some p → stops.size = s + 1 + k →
        p.transfersOffset.toNat ≤ transfers := by
      induction k with
      | zero =>
        intro s p at_ size
        apply finish p
        rw [Array.back?_eq_getElem?, size]
        exact at_
      | succ k ih =>
        intro s p at_ size
        obtain ⟨next, behind⟩ : ∃ next, stops[s + 1]? = some next :=
          ⟨_, Array.getElem?_eq_getElem (by omega)⟩
        have le : p.transfersOffset.toNat ≤ next.transfersOffset.toNat :=
          ordered s p next at_ behind
        exact Nat.le_trans le (ih (s + 1) next behind (by omega))
    have start {s : Nat} {p : StopPoint} (at_ : stops[s]? = some p) :
        p.transfersOffset.toNat ≤ transfers := by
      have lt := (Array.getElem?_eq_some_iff.1 at_).1
      exact inside (stops.size - (s + 1)) s p at_ (by omega)
    intro s p at_
    rw [transfersEnd]
    cases behind : stops[s + 1]? with
    | none => exact ⟨start at_, Nat.le_refl _⟩
    | some next => exact ⟨ordered s p next at_ behind, start behind⟩

theorem checkTransfers_eq_ok :
    checkTransfers stops transfers = .ok () ↔ TransfersResolve stops transfers := by
  rw [checkTransfers, andThen_eq_ok, firstBroken_eq_ok, transfersResolve_iff]
  refine and_congr ?_ ?_
  · constructor
    · intro all s p next at_ behind
      have unbroken := all s p at_
      simp only [behind] at unbroken
      split at unbroken
      · cases unbroken
      · exact UInt32.not_lt.1 ‹_›
    · intro all s p at_
      cases behind : stops[s + 1]? with
      | none => rfl
      | some next => exact if_neg (UInt32.not_lt.2 (all s p next at_ behind))
  · cases stops.back? with
    | none => simp
    | some last =>
      rw [ite_eq_right_iff]
      simp

end

/-! ## Runs -/

variable {c : Container}

/-- A run has the vehicle journeys from its first row on. -/
theorem patternResolves_iff {p : JourneyPattern} : PatternResolves c p ↔
    (p.points? c.journeyPatternPoints.rows.size).isSome ∧
      ∃ run, p.vehicleJourneys? c.vehicleJourneys.rows.size = some run ∧
        ∀ v ∈ run.slice, (v.stopTimes? p.stopCount.toNat c.stopTimes.rows.size).isSome := by
  constructor
  · intro resolves
    obtain ⟨run, found⟩ := Option.isSome_iff_exists.1
      (Span.isSome_run?.2 resolves.vehicleJourneys)
    refine ⟨Span.isSome_run?.2 resolves.points, run, found, fun v mem => ?_⟩
    obtain ⟨i, lt, at_⟩ := (Span.mem_slice_of_run? found).1 mem
    exact Span.isSome_run?.2 (resolves.stopTimes i lt v at_)
  · rintro ⟨points, run, found, times⟩
    refine ⟨Span.isSome_run?.1 points, Span.isSome_run?.1 (Option.isSome_of_mem found), ?_⟩
    intro i lt v at_
    exact Span.isSome_run?.1 (times v ((Span.mem_slice_of_run? found).2 ⟨i, lt, at_⟩))

theorem brokenPattern?_eq_none {number : Nat} {p : JourneyPattern} :
    brokenPattern? c number p = none ↔ PatternResolves c p := by
  rw [patternResolves_iff]
  simp only [brokenPattern?, Table.size]
  cases p.points? c.journeyPatternPoints.rows.size with
  | none => simp
  | some _ =>
    cases p.vehicleJourneys? c.vehicleJourneys.rows.size with
    | none => simp
    | some run =>
      simp only [List.findSome?_eq_none_iff, Option.isSome_some, true_and, Option.some.injEq,
        exists_eq_left', Span.slice, List.forall_mem_map]
      refine forall₂_congr ?_
      intro v _
      split
      · rename_i none_
        refine iff_of_false (Option.some_ne_none _) ?_
        exact Option.not_isSome_iff_eq_none.2 none_
      · rename_i some_
        exact iff_of_true rfl (Option.isSome_of_mem some_)

theorem brokenJourney?_eq_none {transfers number : Nat} {v : VehicleJourney} :
    brokenJourney? transfers number v = none ↔
      (v.forwardTransfers? transfers).isSome ∧ (v.backwardTransfers? transfers).isSome := by
  rw [brokenJourney?]
  cases v.forwardTransfers? transfers with
  | none => simp
  | some _ =>
    cases v.backwardTransfers? transfers with
    | none => simp
    | some _ => simp

theorem brokenVehicleTransfer?_eq_none {patterns : Array JourneyPattern} {number : Nat}
    {r : JourneyRef} : brokenVehicleTransfer? patterns number r = none ↔
      ∃ p, patterns[r.pattern.toNat]? = some p ∧
        r.offset.toNat < p.vehicleJourneyCount.toNat := by
  rw [brokenVehicleTransfer?]
  cases patterns[r.pattern.toNat]? with
  | none => simp
  | some p =>
    simp only [Option.some.injEq, exists_eq_left', ite_eq_left_iff, UInt16.lt_iff_toNat_lt]
    simp

/-! ## The stop index -/

/-- Offsets that do not descend are in order. -/
theorem descends_eq_false {offsets : List UInt32} :
    descends offsets = false ↔ offsets.Pairwise fun a b => a.toNat ≤ b.toNat := by
  have chain : descends offsets = false ↔ offsets.IsChain fun a b => a.toNat ≤ b.toNat := by
    induction offsets with
    | nil => simp [descends]
    | cons a rest ih =>
      cases rest with
      | nil => simp [descends]
      | cons b rest =>
        rw [descends, Bool.or_eq_false_iff, ih, List.isChain_cons_cons, decide_eq_false_iff_not,
          UInt32.lt_iff_toNat_lt, Nat.not_lt]
  have trans : IsTrans UInt32 fun a b => a.toNat ≤ b.toNat := ⟨fun _ _ _ => Nat.le_trans⟩
  rw [chain, List.isChain_iff_pairwise]

theorem checkStopIndex_eq_ok : checkStopIndex c = .ok () ↔
    c.stopIndex.isEmpty ∨ c.stopIndex.Sound c.stopPoints.size c.journeyPatterns.size := by
  simp only [checkStopIndex, StopIndex.isEmpty]
  split
  · rename_i empty
    exact ⟨fun _ => .inl empty, fun _ => rfl⟩
  · rename_i some_
    obtain ⟨last, back⟩ : ∃ last, c.stopIndex.offsets.values.back? = some last := by
      rw [← Option.isSome_iff_exists, Array.back?_isSome]
      simpa using some_
    simp only [unless_eq_ok, checkRows_eq_ok, ne_eq, not_not, Bool.or_eq_true, not_or,
      Bool.not_eq_true, descends_eq_false, bne_iff_ne, back, Option.getD_some]
    constructor
    · rintro ⟨size, ⟨ordered, finish⟩, rows⟩
      exact .inr ⟨size, ordered, by rw [back, Option.map_some, finish], rows⟩
    · rintro (empty | sound)
      · exact absurd empty some_
      · have finish := sound.finish
        rw [back, Option.map_some, Option.some.injEq] at finish
        exact ⟨sound.size, ⟨sound.ordered, finish⟩, sound.rows⟩

/-! ## The whole check -/

/-- The check passes exactly if the row numbers and places are good. -/
theorem checkReferences_eq_ok : checkReferences c = .ok () ↔ Sound c := by
  have timezone : (∀ place ∈ c.metadata.timezone.toArray, (id place).toNat < c.pool.size) ↔
      ∀ place, c.metadata.timezone = some place → place.toNat < c.pool.size := by
    cases c.metadata.timezone with
    | none => simp
    | some place => simp
  have patterns : firstBroken c.journeyPatterns.rows (brokenPattern? c) = .ok () ↔
      ∀ p ∈ c.journeyPatterns.rows, PatternResolves c p :=
    firstBroken_eq_ok_of_mem fun _ _ => brokenPattern?_eq_none
  have journeys : firstBroken c.vehicleJourneys.rows (brokenJourney? c.vehicleTransfers.size) =
      .ok () ↔ _ := firstBroken_eq_ok_of_mem fun _ _ => brokenJourney?_eq_none
  have vehicleTransfers : firstBroken c.vehicleTransfers.rows
      (brokenVehicleTransfer? c.journeyPatterns.rows) = .ok () ↔ _ :=
    firstBroken_eq_ok_of_mem fun _ _ => brokenVehicleTransfer?_eq_none
  simp only [checkReferences, andThen_eq_ok, checkTexts_eq_ok, checkRows_eq_ok,
    checkTransfers_eq_ok, checkStopIndex_eq_ok, timezone, patterns, journeys, vehicleTransfers]
  constructor
  · rintro ⟨timezone, areaId, areaName, areaTimezone, stopId, stopName, stopPlatform, stopArea,
      transfers, targetStop, operatorId, operatorUrl, operatorName, physicalId, physicalName,
      commercialId, commercialName, lineId, lineCode, lineName, lineColor, lineTextColor, operator,
      physicalMode, line, stopPoint, headsign, route, commercialMode, journeyId, patterns,
      journeys, vehicleTransfer, stopIndex⟩
    refine ⟨⟨timezone, ?_, stopArea, targetStop, operator, physicalMode, line, stopPoint, route,
      commercialMode, fun v mem => (journeys v mem).1, fun v mem => (journeys v mem).2,
      vehicleTransfer, stopIndex⟩, transfers, patterns⟩
    intro e r mem
    cases e with
    | stopArea =>
      rintro place (_ | ⟨_, _ | ⟨_, _ | ⟨_, ⟨⟩⟩⟩⟩)
      exacts [areaId r mem, areaName r mem, areaTimezone r mem]
    | stopPoint =>
      rintro place (_ | ⟨_, _ | ⟨_, _ | ⟨_, ⟨⟩⟩⟩⟩)
      exacts [stopId r mem, stopName r mem, stopPlatform r mem]
    | operator =>
      rintro place (_ | ⟨_, _ | ⟨_, _ | ⟨_, ⟨⟩⟩⟩⟩)
      exacts [operatorId r mem, operatorUrl r mem, operatorName r mem]
    | physicalMode =>
      rintro place (_ | ⟨_, _ | ⟨_, ⟨⟩⟩⟩)
      exacts [physicalId r mem, physicalName r mem]
    | commercialMode =>
      rintro place (_ | ⟨_, _ | ⟨_, ⟨⟩⟩⟩)
      exacts [commercialId r mem, commercialName r mem]
    | line =>
      rintro place (_ | ⟨_, _ | ⟨_, _ | ⟨_, _ | ⟨_, _ | ⟨_, ⟨⟩⟩⟩⟩⟩⟩)
      exacts [lineId r mem, lineCode r mem, lineName r mem, lineColor r mem, lineTextColor r mem]
    | journeyPatternPoint =>
      rintro place (_ | ⟨_, ⟨⟩⟩)
      exact headsign r mem
    | vehicleJourney =>
      rintro place (_ | ⟨_, ⟨⟩⟩)
      exact journeyId r mem
    | transfer | route | journeyPattern | stopTime | vehicleTransfer => exact nofun
  · intro sound
    have text (e : Entity) (j : Nat) (r : e.Row) (mem : r ∈ e.rows c) {place : UInt32}
        (at_ : (e.places r)[j]? = some place) : place.toNat < c.pool.size :=
      sound.texts e r mem place (List.mem_of_getElem? at_)
    exact ⟨sound.timezone, fun r mem => text .stopArea 0 r mem rfl,
      fun r mem => text .stopArea 1 r mem rfl, fun r mem => text .stopArea 2 r mem rfl,
      fun r mem => text .stopPoint 0 r mem rfl, fun r mem => text .stopPoint 1 r mem rfl,
      fun r mem => text .stopPoint 2 r mem rfl, sound.stopArea, sound.transfers, sound.targetStop,
      fun r mem => text .operator 0 r mem rfl, fun r mem => text .operator 1 r mem rfl,
      fun r mem => text .operator 2 r mem rfl, fun r mem => text .physicalMode 0 r mem rfl,
      fun r mem => text .physicalMode 1 r mem rfl, fun r mem => text .commercialMode 0 r mem rfl,
      fun r mem => text .commercialMode 1 r mem rfl, fun r mem => text .line 0 r mem rfl,
      fun r mem => text .line 1 r mem rfl, fun r mem => text .line 2 r mem rfl,
      fun r mem => text .line 3 r mem rfl, fun r mem => text .line 4 r mem rfl, sound.operator,
      sound.physicalMode, sound.line, sound.stopPoint,
      fun r mem => text .journeyPatternPoint 0 r mem rfl, sound.route, sound.commercialMode,
      fun r mem => text .vehicleJourney 0 r mem rfl, sound.patterns,
      fun v mem => ⟨sound.forward v mem, sound.backward v mem⟩, sound.vehicleTransfer,
      sound.stopIndex⟩

theorem isSome_transfersFrom? {stop : Nat} {p : StopPoint}
    (at_ : c.stopPoints.rows[stop]? = some p) : (c.transfersFrom? stop).isSome ↔
      p.transfersOffset.toNat ≤ transfersEnd c.stopPoints.rows c.transfers.size stop ∧
        transfersEnd c.stopPoints.rows c.transfers.size stop ≤ c.transfers.size := by
  rw [Container.transfersFrom?, Table.transfers?, at_, Option.bind_some, Span.isSome_between?]
  rfl

theorem patternResolves_iff_queries {pattern : Nat} {p : JourneyPattern}
    (at_ : c.journeyPatterns.rows[pattern]? = some p) : PatternResolves c p ↔
      (c.patternPoints? pattern).isSome ∧
        ∃ run, c.patternVehicleJourneys? pattern = some run ∧
          ∀ v ∈ run.rows, (c.vehicleJourneyStopTimes? pattern v).isSome := by
  have times (v : Fin c.vehicleJourneys.rows.size) : c.vehicleJourneyStopTimes? pattern v =
      c.vehicleJourneys.rows[v].stopTimes? p.stopCount.toNat c.stopTimes.rows.size := by
    rw [Container.vehicleJourneyStopTimes?, at_, Option.bind_some,
      Array.getElem?_eq_getElem v.isLt, Option.bind_some]
    rfl
  rw [patternResolves_iff, Container.patternPoints?, Container.patternVehicleJourneys?, at_,
    Option.bind_some, Option.bind_some]
  simp only [times, Span.slice, List.forall_mem_map]

/-- Row numbers and places are good exactly if the queries that follow them have answers. -/
theorem sound_iff_resolves : Sound c ↔ Resolves c := by
  constructor
  · intro sound
    have pattern {i : Nat} (inside : i < c.journeyPatterns.size) :=
      (patternResolves_iff_queries (Array.getElem?_eq_getElem inside)).1
        (sound.patterns _ (Array.getElem_mem inside))
    refine ⟨sound.toRowsResolve, ?_, fun i inside => (pattern inside).1,
      fun i inside => (pattern inside).2⟩
    intro stop inside
    have at_ := Array.getElem?_eq_getElem inside
    exact (isSome_transfersFrom? at_).2 (sound.transfers stop _ at_)
  · intro resolves
    refine ⟨resolves.toRowsResolve, ?_, ?_⟩
    · intro stop p at_
      have inside := (Array.getElem?_eq_some_iff.1 at_).1
      exact (isSome_transfersFrom? at_).1 (resolves.transfers stop inside)
    · intro p mem
      obtain ⟨i, at_⟩ := Array.mem_iff_getElem?.1 mem
      have inside := (Array.getElem?_eq_some_iff.1 at_).1
      exact (patternResolves_iff_queries at_).2
        ⟨resolves.points i inside, resolves.vehicleJourneys i inside⟩

/-- The check of all references passes exactly if they lead somewhere and every query that
follows them has an answer. -/
theorem checkReferences_eq_ok_iff_resolves (c : Container) :
    checkReferences c = .ok () ↔ Resolves c :=
  checkReferences_eq_ok.trans sound_iff_resolves

end TransitStore.Audit
