import Mathlib
import TransitStore.Proofs.Guarded.Access
import TransitStore.Proofs.PatternTimes

/-!
# Guarded pattern times

The times of all patterns, from the columns of an opened image into three arrays side by
side.  The last departure of a vehicle journey is read at the place before the end of its
stop times, a run that was checked against the arrivals, and its days are read by a row
that was checked against the identifiers.  No fault is made, and the arrays have the
summaries that the container's build has (`patternTimes_eq`).
-/

namespace TransitStore.Guarded

open Snapshot (Shows)
open PatternTimes (build_eq join journeySummary? lastDeparture? latest_concat numberedSummary
  patternSummary?)

/-- When the vehicle journeys of all patterns run, an array for each part of a summary. -/
structure Times where
  /-- The first time a vehicle journey begins. -/
  earliest : Array CoarseTime
  /-- The last time one departs from its last stop. -/
  latest : Array CoarseTime
  /-- The days on which one runs. -/
  active : Array UInt32
  /-- The last time any vehicle journey is over. -/
  maxTime : CoarseTime
deriving DecidableEq

variable (image : ByteArray)

/-- The departure of a vehicle journey from the last stop of a pattern of `stops` points. -/
def lastDeparture (vehicleJourney : UInt32) (stops : Nat) (broken : Error) :
    Checked Error CoarseTime :=
  if stops = 0 then pure 0
  else do
    let run ← require (stopTimesRange? image vehicleJourney stops (rowCount image .stopTime))
      broken
    let last ← lift (sub run.stop 1)
    lift (index (StopTimes.departures.read image) last)

/-- A summary with one more vehicle journey. -/
def addJourney (stops : Nat) (broken : Error) (summary : PatternSummary) (row : Nat) :
    Checked Error PatternSummary := do
  let vehicleJourney ← lift (narrow32 row)
  let begin_ ← require (value? image VehicleJourneys.beginTimes vehicleJourney.toNat) broken
  let departure ← lastDeparture image vehicleJourney stops broken
  let active ← lift (index (VehicleJourneys.active.read image) vehicleJourney.toNat)
  return ⟨min summary.earliest begin_, max summary.latest (begin_.saturatingAdd departure),
    summary.active ||| active⟩

/-- The summary that any vehicle journey changes. -/
def noJourneys : PatternSummary := ⟨UInt16.ofNat 65535, 0, 0⟩

/-- Puts the summary of a pattern in the arrays.  They stay as they are for a pattern
without vehicle journeys. -/
def summarize (times : Times) (number : Nat) : Checked Error Times := do
  let pattern ← lift (narrow16 number)
  let broken : Error := .invalidReference (.summedRun number)
  let run ← require (vehicleJourneysRange? image pattern (rowCount image .vehicleJourney)) broken
  let stops ← require (value? image Patterns.stopCounts pattern.toNat) broken
  let summary ← run.list.foldlM (addJourney image stops.toNat broken) noJourneys
  if run.start < run.stop then
    let earliest ← lift (store times.earliest number summary.earliest)
    let latest ← lift (store times.latest number summary.latest)
    let active ← lift (store times.active number summary.active)
    return ⟨earliest, latest, active, max times.maxTime summary.latest⟩
  else return times

/-- The times of all patterns. -/
def patternTimes : Checked Error Times :=
  let patterns := rowCount image .journeyPattern
  (List.range patterns).foldlM (summarize image)
    ⟨.replicate patterns 0, .replicate patterns 0, .replicate patterns 0, 0⟩

/-! ## Vehicle journeys -/

variable {image : ByteArray} {path : String} {c : Container}

theorem lastDeparture_eq (shows : Shows path image c) {vehicleJourney : UInt32}
    {v : VehicleJourney} (at_ : c.vehicleJourneys.rows[vehicleJourney.toNat]? = some v)
    (stops : Nat) (broken : Error) :
    lastDeparture image vehicleJourney stops broken =
      require (lastDeparture? c v stops) broken := by
  have count : rowCount image .stopTime = c.stopTimes.rows.size := rowCount_eq shows _
  have short : c.stopTimes.rows.size < wordSize := rows_lt_wordSize shows .stopTime
  rw [lastDeparture, lastDeparture?, count, stopTimesRange?_eq shows vehicleJourney stops short,
    at_]
  by_cases none_ : stops = 0
  · rw [if_pos none_, if_pos none_]
    rfl
  · rw [if_neg none_, if_neg none_, Option.bind_some]
    cases there : v.stopTimes? stops c.stopTimes.rows.size with
    | none => rfl
    | some run =>
      obtain ⟨start, stop⟩ := Span.run?_eq_some_iff.1 there
      have length : run.slice.length = stops := by
        rw [Span.length_slice, Span.length]
        omega
      obtain ⟨t, last⟩ : ∃ t, run.slice.getLast? = some t :=
        ⟨_, List.getLast?_eq_some_getLast (List.ne_nil_of_length_pos (by omega))⟩
      have place : sub run.stop 1 = .ok (run.stop - 1) := sub_of_le (by omega)
      have departure : index (StopTimes.departures.read image) (run.stop - 1) =
          .ok t.departure := index_read _ shows (getElem?_of_getLast? last)
      simp only [Option.map_some, require_some, pure_bind, Span.stop_places, place, lift_ok,
        departure, Option.bind_some, last]

theorem addJourney_eq (shows : Shows path image c) (stops : Nat) (broken : Error)
    (summary : PatternSummary) {row : Nat} {v : VehicleJourney}
    (at_ : c.vehicleJourneys.rows[row]? = some v) :
    addJourney image stops broken summary row =
      require ((journeySummary? c v stops).map (join summary)) broken := by
  obtain ⟨inTable, -⟩ := Array.getElem?_eq_some_iff.1 at_
  obtain ⟨vehicleJourney, narrowed, rfl⟩ :=
    exists_narrow32 (Nat.lt_trans inTable (rows_lt32 shows .vehicleJourney))
  have begin_ : value? image VehicleJourneys.beginTimes vehicleJourney.toNat =
      some v.beginTime := by
    rw [value?_eq _ shows]
    exact congrArg (Option.map VehicleJourney.beginTime) at_
  have active : index (VehicleJourneys.active.read image) vehicleJourney.toNat = .ok v.active :=
    index_read _ shows at_
  simp only [addJourney, narrowed, lift_ok, pure_bind, begin_, require_some, active,
    lastDeparture_eq shows at_, journeySummary?]
  cases lastDeparture? c v stops <;> rfl

theorem foldlM_addJourney (shows : Shows path image c) (stops : Nat) (broken : Error)
    (run : Span c.vehicleJourneys.rows.size) (summary : PatternSummary) :
    run.places.list.foldlM (addJourney image stops broken) summary =
      require ((run.slice.mapM fun v => journeySummary? c v stops).map (·.foldl join summary))
        broken := by
  rw [list_places, Span.slice]
  induction run.rows generalizing summary with
  | nil => rfl
  | cons v rest ih =>
    rw [List.map_cons, List.foldlM_cons, List.map_cons, List.mapM_cons,
      addJourney_eq shows stops broken summary (Array.getElem?_eq_getElem v.isLt)]
    cases journeySummary? c c.vehicleJourneys.rows[v] stops with
    | none => rfl
    | some s =>
      simp only [Option.map_some, require_some, pure_bind, ih, Option.bind_eq_bind,
        Option.bind_some, Option.map_bind]
      cases (rest.map fun i => c.vehicleJourneys.rows[i]).mapM fun v => journeySummary? c v stops
        <;> rfl

/-- The first vehicle journey is the summary so far. -/
theorem join_noJourneys (s : PatternSummary) : join noJourneys s = s := by
  have earliest : min (UInt16.ofNat 65535) s.earliest = s.earliest := by
    show (if UInt16.ofNat 65535 ≤ s.earliest then UInt16.ofNat 65535 else s.earliest) = s.earliest
    split
    · rename_i le
      have bound := s.earliest.toNat_lt
      have le' : 65535 ≤ s.earliest.toNat := le
      apply UInt16.toNat_inj.1
      show 65535 = s.earliest.toNat
      omega
    · rfl
  have latest : max 0 s.latest = s.latest := by
    have least : (0 : UInt16) ≤ s.latest := Nat.zero_le _
    exact if_pos least
  rw [join, noJourneys, earliest, latest, UInt32.zero_or]

/-! ## Patterns -/

/-- An array of some elements, filled up with another one. -/
def fill {α : Type} (count : Nat) (rest : α) (xs : List α) : Array α :=
  (xs ++ List.replicate (count - xs.length) rest).toArray

theorem store_fill {α : Type} {count : Nat} {xs : List α} (room : xs.length < count) (rest x : α) :
    store (fill count rest xs) xs.length x = .ok (fill count rest (xs ++ [x])) := by
  obtain ⟨k, rfl⟩ : ∃ k, count = xs.length + (k + 1) := ⟨count - xs.length - 1, by omega⟩
  have less : xs.length + (k + 1) - (xs.length + 1) = k := by omega
  rw [store_of_lt (by simp [fill])]
  simp [fill, List.replicate_succ, less]

theorem fill_rest {α : Type} {count : Nat} {xs : List α} (room : xs.length < count) (rest : α) :
    fill count rest (xs ++ [rest]) = fill count rest xs := by
  obtain ⟨k, rfl⟩ : ∃ k, count = xs.length + (k + 1) := ⟨count - xs.length - 1, by omega⟩
  have less : xs.length + (k + 1) - (xs.length + 1) = k := by omega
  simp [fill, List.replicate_succ, less]

/-- The arrays of some patterns' summaries, with room for those of `count` patterns. -/
def Times.ofSummaries (count : Nat) (summaries : List PatternSummary) : Times where
  earliest := fill count 0 (summaries.map (·.earliest))
  latest := fill count 0 (summaries.map (·.latest))
  active := fill count 0 (summaries.map (·.active))
  maxTime := PatternTimes.latest ⟨summaries⟩

/-- The summary of a pattern without vehicle journeys is what the arrays start with. -/
theorem ofSummaries_empty {count : Nat} {done : List PatternSummary} (room : done.length < count) :
    Times.ofSummaries count (done ++ [⟨0, 0, 0⟩]) = .ofSummaries count done := by
  have maxTime : max (PatternTimes.latest ⟨done⟩) 0 = PatternTimes.latest ⟨done⟩ := by
    show (if PatternTimes.latest ⟨done⟩ ≤ 0 then 0 else PatternTimes.latest ⟨done⟩) = _
    split
    · rename_i le
      exact UInt16.toNat_inj.1 (Nat.le_zero.1 le).symm
    · rfl
  simp only [Times.ofSummaries, List.map_append, List.map_cons, List.map_nil, latest_concat,
    maxTime]
  rw [fill_rest (by simpa), fill_rest (by simpa), fill_rest (by simpa)]

theorem store_ofSummaries {count : Nat} {done : List PatternSummary} (room : done.length < count)
    (s : PatternSummary) :
    (do
      let times := Times.ofSummaries count done
      let earliest ← lift (store times.earliest done.length s.earliest)
      let latest ← lift (store times.latest done.length s.latest)
      let active ← lift (store times.active done.length s.active)
      return ⟨earliest, latest, active, max times.maxTime s.latest⟩ : Checked Error Times) =
        pure (.ofSummaries count (done ++ [s])) := by
  have stored {α : Type} (part : PatternSummary → α) (rest : α) :
      store (fill count rest (done.map part)) done.length (part s) =
        .ok (fill count rest ((done ++ [s]).map part)) := by
    rw [← List.length_map part, store_fill (by simpa), List.map_append]
    rfl
  simp only [Times.ofSummaries, stored, lift_ok, pure_bind, latest_concat]

/-- The vehicle journeys of a pattern are joined one by one to a summary that each of them
changes, if there are any. -/
theorem patternSummary?_of_run {p : JourneyPattern} {run : Span c.vehicleJourneys.rows.size}
    (there : p.vehicleJourneys? c.vehicleJourneys.rows.size = some run) :
    patternSummary? c p =
      (run.slice.mapM fun v => journeySummary? c v p.stopCount.toNat).map fun journeys =>
        if run.start < run.stop then journeys.foldl join noJourneys else ⟨0, 0, 0⟩ := by
  have length : run.slice.length = run.stop - run.start := Span.length_slice run
  simp only [patternSummary?, there, Option.bind_eq_bind, Option.bind_some]
  cases slice : run.slice with
  | nil =>
    rw [slice, List.length_nil] at length
    have empty : ¬run.start < run.stop := by omega
    rw [List.mapM_nil]
    simp only [empty, if_false]
    rfl
  | cons v rest =>
    rw [slice, List.length_cons] at length
    have some_ : run.start < run.stop := by omega
    rw [List.mapM_cons]
    cases journeySummary? c v p.stopCount.toNat with
    | none => rfl
    | some first =>
      cases rest.mapM fun v => journeySummary? c v p.stopCount.toNat with
      | none => rfl
      | some journeys =>
        show some (journeys.foldl join first) = some (if run.start < run.stop then
          journeys.foldl join (join noJourneys first) else ⟨0, 0, 0⟩)
        rw [if_pos some_, join_noJourneys]

theorem summarize_eq (shows : Shows path image c) {done : List PatternSummary}
    {p : JourneyPattern} (at_ : c.journeyPatterns.rows[done.length]? = some p) :
    summarize image (.ofSummaries c.journeyPatterns.rows.size done) done.length =
      require ((patternSummary? c p).map fun s =>
        .ofSummaries c.journeyPatterns.rows.size (done ++ [s]))
        (.invalidReference (.summedRun done.length)) := by
  obtain ⟨room, -⟩ := Array.getElem?_eq_some_iff.1 at_
  obtain ⟨pattern, narrowed, number⟩ :=
    exists_narrow16 (Nat.lt_trans room (patterns_lt16 shows))
  rw [← number] at at_
  have short : c.vehicleJourneys.rows.size < wordSize := rows_lt_wordSize shows .vehicleJourney
  have count : rowCount image .vehicleJourney = c.vehicleJourneys.rows.size := rowCount_eq shows _
  have stops : value? image Patterns.stopCounts pattern.toNat = some p.stopCount := by
    rw [value?_eq _ shows]
    exact congrArg (Option.map JourneyPattern.stopCount) at_
  simp only [summarize, narrowed, lift_ok, pure_bind, count,
    vehicleJourneysRange?_eq shows pattern short, at_, Option.bind_some, stops, require_some]
  cases there : p.vehicleJourneys? c.vehicleJourneys.rows.size with
  | none =>
    rw [patternSummary?, there]
    rfl
  | some run =>
    simp only [Option.map_some, require_some, pure_bind, foldlM_addJourney shows,
      patternSummary?_of_run there, Option.map_map, Span.start_places, Span.stop_places]
    cases run.slice.mapM fun v => journeySummary? c v p.stopCount.toNat with
    | none => rfl
    | some journeys =>
      simp only [Option.map_some, require_some, pure_bind, Function.comp_apply]
      by_cases some_ : run.start < run.stop
      · simp only [some_, if_true]
        exact store_ofSummaries room _
      · simp only [some_, if_false, ofSummaries_empty room]

theorem foldlM_summarize (shows : Shows path image c) {done : List PatternSummary}
    {rest : List JourneyPattern}
    (there : ∀ i p, rest[i]? = some p → c.journeyPatterns.rows[done.length + i]? = some p) :
    (List.range' done.length rest.length).foldlM (summarize image)
        (.ofSummaries c.journeyPatterns.rows.size done) =
      settled (((rest.zipIdx done.length).mapM (numberedSummary c)).map fun more =>
        .ofSummaries c.journeyPatterns.rows.size (done ++ more)) := by
  induction rest generalizing done with
  | nil =>
    show _ = settled (.ok (Times.ofSummaries c.journeyPatterns.rows.size (done ++ [])))
    rw [List.append_nil]
    rfl
  | cons p rest ih =>
    have at_ : c.journeyPatterns.rows[done.length]? = some p := there 0 p rfl
    rw [List.length_cons, List.range'_succ, List.foldlM_cons, summarize_eq shows at_,
      List.zipIdx_cons, List.mapM_cons, numberedSummary]
    cases patternSummary? c p with
    | none => rfl
    | some s =>
      have later := forall_getElem?_tail
        (P := fun i p => c.journeyPatterns.rows[i]? = some p) there
      have length : (done ++ [s]).length = done.length + 1 := List.length_append
      rw [← length] at later
      have rounds := ih later
      rw [length] at rounds
      simp only [Option.map_some, require_some, pure_bind, rounds]
      cases (rest.zipIdx (done.length + 1)).mapM (numberedSummary c) with
      | error e => rfl
      | ok more =>
        show settled (.ok (Times.ofSummaries c.journeyPatterns.rows.size (done ++ [s] ++ more))) =
          settled (.ok (Times.ofSummaries c.journeyPatterns.rows.size (done ++ s :: more)))
        rw [List.append_assoc, List.singleton_append]

/-- No fault is made on the way to the times of all patterns, and they are those of the
container. -/
theorem patternTimes_eq (shows : Shows path image c) :
    patternTimes image = settled ((PatternTimes.build c).map fun times =>
      .ofSummaries c.journeyPatterns.rows.size times.summaries) := by
  have count : rowCount image .journeyPattern = c.journeyPatterns.rows.size := rowCount_eq shows _
  have start : Times.ofSummaries c.journeyPatterns.rows.size [] =
      ⟨.replicate c.journeyPatterns.rows.size 0, .replicate c.journeyPatterns.rows.size 0,
        .replicate c.journeyPatterns.rows.size 0, 0⟩ := by
    simp [Times.ofSummaries, fill, PatternTimes.latest]
  have there : ∀ i p, c.journeyPatterns.rows.toList[i]? = some p →
      c.journeyPatterns.rows[([] : List PatternSummary).length + i]? = some p := by
    intro i p at_
    rwa [List.length_nil, Nat.zero_add, ← Array.getElem?_toList]
  have rounds : (List.range' 0 c.journeyPatterns.rows.toList.length).foldlM (summarize image)
      (.ofSummaries c.journeyPatterns.rows.size []) =
        settled ((c.journeyPatterns.rows.toList.zipIdx.mapM (numberedSummary c)).map fun all =>
          .ofSummaries c.journeyPatterns.rows.size all) := foldlM_summarize shows there
  rw [Array.length_toList] at rounds
  rw [patternTimes, count, List.range_eq_range', ← start, rounds, build_eq]
  cases c.journeyPatterns.rows.toList.zipIdx.mapM (numberedSummary c) <;> rfl

end TransitStore.Guarded
