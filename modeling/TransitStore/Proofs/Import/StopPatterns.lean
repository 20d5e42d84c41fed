import Mathlib
import TransitStore.Proofs.Import.Patterns

/-!
# Journey patterns at the stop points of a feed

The stop index of an imported container answers which journey patterns call at a stop
point of the feed (`Answers`): a built index lists the patterns whose points have the row
of the stop point, and the points of a pattern are the stops of any of its trips.  A
container that is opened from the snapshot gives the same answers.
-/

namespace TransitStore.Import

open Entity Container

/-- A trip calls at a stop with an identifier. -/
def Calls (feed : Feed) (trip : Feed.Trip) (stopId : String) : Prop :=
  ∃ time ∈ feed.stopTimes, time.tripId = trip.id ∧ time.stopId = stopId

/-- A container whose vehicle journeys are those of some trips knows which journey patterns call
at a stop point, which is in a row. -/
structure Answers (feed : Feed) (c : Container) (trips : List Feed.Trip) (row : Nat)
    (stop : Feed.Stop) : Prop where
  found : c.findStopPoint? stop.id = some row
  ascending : ((c.journeyPatternsAtStop row).map UInt16.toNat).Pairwise (· < ·)
  patterns : ∀ pattern, pattern ∈ (c.journeyPatternsAtStop row).map UInt16.toNat ↔
    ∃ journey trip, c.LiesIn journey pattern ∧ trips[journey]? = some trip ∧
      Calls feed trip stop.id

variable {feed : Feed} {options : Options} {c : Container}

/-! ## Stop points -/

/-- Identifiers that are not repeated stand for their own rows only. -/
theorem lastRow_iff_of_nodup {α : Type} {f : α → String} {l : List α} (nodup : (l.map f).Nodup)
    {row : Nat} {a : α} (at_ : l[row]? = some a) (id : String) :
    LastRow l (f · = id) row ↔ id = f a := by
  constructor
  · intro last
    obtain ⟨b, at', same⟩ := last.holds
    cases at_.symm.trans at'
    exact same.symm
  · rintro rfl
    refine ⟨⟨a, at_, rfl⟩, ?_⟩
    intro later b behind at' same
    obtain ⟨lt, rfl⟩ := List.getElem?_eq_some_iff.1 at_
    obtain ⟨lt', rfl⟩ := List.getElem?_eq_some_iff.1 at'
    exact List.pairwise_iff_getElem.1 (List.pairwise_map.1 nodup) row later lt lt' behind same.symm

theorem findStopPoint?_of_account {l : Ledger} {days : ServiceDays} {timeOffset : Int8}
    {modes : Array UInt8} (same : Matches c l) (account : Account feed days timeOffset modes l)
    (distinct : ((stopPoints feed).map (·.id)).Nodup)
    (free : ∀ stop ∈ stopPoints feed, '\x00' ∉ stop.id.toList) {row : Nat} {stop : Feed.Stop}
    (at_ : (stopPoints feed)[row]? = some stop) : c.findStopPoint? stop.id = some row := by
  have ids : (l.rows .stopPoint).findIdx? (fun d : StopPoint.Draft =>
      Text.untilZero d.id == stop.id) =
        ((stopPoints feed).map (·.id)).findIdx? (Text.untilZero · == stop.id) := by
    rw [← account.stopPoints, List.findIdx?_map]
    rfl
  rw [same.refines.stopPoint, ids, List.findIdx?_map, List.findIdx?_eq_some_iff_getElem]
  obtain ⟨inside, rfl⟩ := List.getElem?_eq_some_iff.1 at_
  have whole (i : Nat) (lt : i < (stopPoints feed).length) :
      Text.untilZero (stopPoints feed)[i].id = (stopPoints feed)[i].id :=
    Text.untilZero_eq (free _ (List.getElem_mem lt))
  refine ⟨inside, by simp [whole row inside], ?_⟩
  intro i before
  have lt := before.trans inside
  have other := List.pairwise_iff_getElem.1 (List.pairwise_map.1 distinct) i row lt inside before
  simpa [whole i lt] using other

/-! ## Patterns -/

/-- The index of an imported container was built from its tables. -/
theorem build_of_run {imported : Imported} (h : run feed options = .ok imported) :
    StopIndex.build imported.container.stopPoints.size imported.container.journeyPatterns.rows
      imported.container.journeyPatternPoints.rows = .ok imported.container.stopIndex := by
  obtain ⟨_, -, h₁⟩ := Edit.ofExcept_bind_eq_ok.1 (run_eq_ok h)
  obtain ⟨_, _, -, h₂⟩ := Edit.bind_eq_ok.1 h₁
  obtain ⟨_, _, -, h₃⟩ := Edit.bind_eq_ok.1 h₂
  obtain ⟨_, -, h₄⟩ := Edit.ofExcept_bind_eq_ok.1 h₃
  obtain ⟨_, _, -, h₅⟩ := Edit.bind_eq_ok.1 h₄
  obtain ⟨_, _, -, h₆⟩ := Edit.bind_eq_ok.1 h₅
  obtain ⟨_, _, -, h₇⟩ := Edit.bind_eq_ok.1 h₆
  obtain ⟨_, c, index, h₈⟩ := Edit.bind_eq_ok.1 h₇
  obtain ⟨-, same⟩ := Edit.pure_eq_ok.1 h₈
  obtain ⟨stopIndex, built, rfl⟩ := buildStopIndex_eq_ok index
  rw [← same]
  exact built

theorem exists_liesIn {days : ServiceDays} {timeOffset : Int8} {modes : Array UInt8}
    (laid : Laid days timeOffset modes (piecesOf feed) c) {pattern : Nat}
    (inside : pattern < c.journeyPatterns.rows.size) : ∃ journey, c.LiesIn journey pattern := by
  have length := congrArg List.length laid.patterns
  rw [length_patternsOf, Array.length_toList] at length
  obtain ⟨front, ⟨key, trips⟩, rest, pieces, rfl⟩ := exists_split (length ▸ inside)
  have mem : (key, trips) ∈ piecesOf feed := by simp [pieces]
  have some_ := List.length_pos_iff.2 (mem_piecesOf mem).1
  rw [pieces] at laid
  obtain ⟨run, found, start, stop⟩ := laid.journeys_at
  exact ⟨run.start, run, found, Nat.le_refl _, by omega⟩

/-- A pattern visits a stop point if one of its trips calls there. -/
theorem mem_visits_iff {trips : List Feed.Trip} (carries : Carries feed options c trips)
    (distinct : ((stopPoints feed).map (·.id)).Nodup) {row : Nat} {stop : Feed.Stop}
    (at_ : (stopPoints feed)[row]? = some stop) {pattern journey : Nat} {trip : Feed.Trip}
    (lies : c.LiesIn journey pattern) (own : trips[journey]? = some trip) {p : JourneyPattern}
    (found : c.journeyPatterns.rows[pattern]? = some p) :
    row ∈ StopIndex.visits c.journeyPatternPoints.rows p ↔ Calls feed trip stop.id := by
  obtain ⟨stops, visited, along⟩ := (carries.journeyOf journey pattern trip own lies).stops
  have rows : StopIndex.visits c.journeyPatternPoints.rows p = stops.map UInt16.toNat := by
    rw [Container.patternStopPoints?, Container.patternPoints?, found, Option.bind_some,
      Option.map_eq_some_iff] at visited
    obtain ⟨run, made, rfl⟩ := visited
    rw [StopIndex.visits, made, List.map_map]
    rfl
  have times (time : Feed.StopTime) :
      time ∈ timesOf feed trip ↔ time ∈ feed.stopTimes ∧ time.tripId = trip.id := by
    rw [timesOf, List.mem_mergeSort, List.mem_filter, beq_iff_eq]
  have calls : Calls feed trip stop.id ↔ ∃ time ∈ timesOf feed trip, time.stopId = stop.id := by
    simp only [Calls, times, and_assoc]
  rw [rows, calls, List.mem_map]
  constructor
  · rintro ⟨s, mem, rfl⟩
    obtain ⟨time, there, last⟩ := exists_of_forall₂ along mem
    exact ⟨time, there, (lastRow_iff_of_nodup distinct at_ _).1 last⟩
  · rintro ⟨time, there, same⟩
    obtain ⟨s, mem, last⟩ := exists_of_forall₂ along.flip there
    refine ⟨s, mem, ?_⟩
    exact last.unique ((lastRow_iff_of_nodup distinct at_ time.stopId).2 same)

theorem answers_of_run {imported : Imported} (h : run feed options = .ok imported)
    (distinct : ((stopPoints feed).map (·.id)).Nodup)
    (free : ∀ stop ∈ stopPoints feed, '\x00' ∉ stop.id.toList) {row : Nat} {stop : Feed.Stop}
    (at_ : (stopPoints feed)[row]? = some stop) :
    Answers feed imported.container (laidTrips feed) row stop := by
  obtain ⟨timeOffset, start, modes, l, -, -, same, account, fits⟩ := account_of_run h
  have carries := (carries_of_run h).1
  have laid := laid_of_account same account fits
  have built := build_of_run h
  generalize imported.container = c at *
  have few : c.journeyPatterns.rows.size ≤ UInt16.size :=
    Nat.le_succ_of_le (fits.tables journeyPattern)
  have inside : row < c.stopPoints.size := by
    obtain ⟨r, there, -⟩ := carries.stopRows row stop at_
    exact (Array.getElem?_eq_some_iff.1 there).1
  have listed : (c.journeyPatternsAtStop row).map UInt16.toNat =
      StopIndex.visitors c.journeyPatternPoints.rows c.journeyPatterns.rows.toList row :=
    StopIndex.map_toNat_patternsFor built few inside
  refine ⟨findStopPoint?_of_account same account distinct free at_, ?_, ?_⟩
  · rw [listed]
    exact StopIndex.pairwise_visitors _ _ _
  · intro pattern
    rw [listed, StopIndex.mem_visitors]
    constructor
    · rintro ⟨p, found, visited⟩
      rw [Array.getElem?_toList] at found
      -- A pattern has a vehicle journey, whose trip goes along the points of the pattern.
      obtain ⟨journey, lies⟩ := exists_liesIn laid (Array.getElem?_eq_some_iff.1 found).1
      have lt : journey < (laidTrips feed).length := by
        obtain ⟨run, -, -, stop⟩ := lies
        rw [← carries.size]
        exact stop.trans_le run.stop_le
      have own := List.getElem?_eq_getElem lt
      exact ⟨journey, _, lies, own,
        (mem_visits_iff carries distinct at_ lies own found).1 visited⟩
    · rintro ⟨journey, trip, lies, own, calls⟩
      obtain ⟨p, found, -⟩ := Option.bind_eq_some_iff.1 lies.choose_spec.1
      refine ⟨p, ?_, (mem_visits_iff carries distinct at_ lies own found).2 calls⟩
      rw [Array.getElem?_toList]
      exact found

/-! ## Snapshots -/

/-- An imported container is opened from its snapshot, also with a check of its references. -/
theorem openImage_of_run {imported : Imported} (h : run feed options = .ok imported)
    (path : String) (validate : Bool) :
    Snapshot.openImage path validate (Snapshot.encode imported.container) =
      .ok (imported.container.mappedFrom path (Snapshot.encode imported.container).size) := by
  obtain ⟨-, -, -, -, -, -, -, -, fits⟩ := account_of_run h
  have decoded := Snapshot.decode_encode fits path
  cases validate with
  | false => exact Snapshot.openImage_false_eq_ok.2 decoded
  | true =>
    have good := Audit.checkReferences_eq_ok.2 (sound_addFeed (run_eq_ok h))
    rw [Snapshot.openImage_true decoded, Snapshot.checkReferences_mappedFrom, good]

theorem journeyPatternsAtStop_mappedFrom (c : Container) (path : String) (size row : Nat) :
    (c.mappedFrom path size).journeyPatternsAtStop row = c.journeyPatternsAtStop row :=
  StopIndex.patternsFor_ofMapped c.stopIndex row

/-- What is opened from the snapshot of a container answers as the container does. -/
theorem Answers.mappedFrom {trips : List Feed.Trip} {row : Nat} {stop : Feed.Stop}
    (answers : Answers feed c trips row stop) (path : String) (size : Nat) :
    Answers feed (c.mappedFrom path size) trips row stop := by
  have same := journeyPatternsAtStop_mappedFrom c path size row
  exact ⟨answers.found, same ▸ answers.ascending, same ▸ answers.patterns⟩

/-- If the identifiers of its stop points are not repeated and can be put in the pool, an import
that succeeds gives a container that finds each stop point of the feed and knows which journey
patterns call there.  So does what is opened from its snapshot, and with the same list. -/
theorem exists_answers_of_run {imported : Imported} (h : run feed options = .ok imported)
    (distinct : ((stopPoints feed).map (·.id)).Nodup)
    (free : ∀ stop ∈ stopPoints feed, '\x00' ∉ stop.id.toList) :
    ∃ trips, Carries feed options imported.container trips ∧
      ∀ (row : Nat) (stop : Feed.Stop), (stopPoints feed)[row]? = some stop →
        Answers feed imported.container trips row stop ∧
        (∀ path validate, ∃ opened,
          Snapshot.openImage path validate (Snapshot.encode imported.container) = .ok opened ∧
            Answers feed opened trips row stop ∧
            opened.journeyPatternsAtStop row = imported.container.journeyPatternsAtStop row) ∧
        ∀ (path : String) (validate : Bool) (before after : Directory),
          saveSnapshot (m := StateM Directory) imported.container path before = (.ok (), after) →
          ∃ opened, openFile (m := StateM Directory) path validate after = (.ok opened, after) ∧
            Answers feed opened trips row stop ∧
            opened.journeyPatternsAtStop row = imported.container.journeyPatternsAtStop row := by
  refine ⟨_, (carries_of_run h).1, fun row stop at_ => ?_⟩
  have answers := answers_of_run h distinct free at_
  refine ⟨answers, ?_, ?_⟩
  · intro path validate
    exact ⟨_, openImage_of_run h path validate, answers.mappedFrom path _,
      journeyPatternsAtStop_mappedFrom _ _ _ _⟩
  · intro path validate before after saved
    have read := Snapshot.openFile_of_saveSnapshot saved validate
    rw [openImage_of_run h path validate] at read
    exact ⟨_, read, answers.mappedFrom path _, journeyPatternsAtStop_mappedFrom _ _ _ _⟩

/-- The container of the feed with a trip knows that it calls at both stop points. -/
theorem exists_answers_oneTrip : ∃ imported trips, run oneTrip chosenDay = .ok imported ∧
    Carries oneTrip chosenDay imported.container trips ∧
      Answers oneTrip imported.container trips 0
        ⟨"S", .stopPoint, none, none, none, none, none, none⟩ ∧
      Answers oneTrip imported.container trips 1
        ⟨"T", .stopPoint, none, none, none, none, none, none⟩ := by
  obtain ⟨imported, made, -⟩ := run_oneTrip
  obtain ⟨trips, carries, answers⟩ := exists_answers_of_run made (by decide) (by decide)
  exact ⟨imported, trips, made, carries, (answers 0 _ rfl).1, (answers 1 _ rfl).1⟩

end TransitStore.Import
