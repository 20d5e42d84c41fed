import Mathlib
import TransitStore.PatternTimes
import TransitStore.Proofs.Edit
import TransitStore.Proofs.Span

/-!
# Pattern times as a summary

The times of a pattern can be summed up exactly if its vehicle journeys and their stop times
are rows of their tables (`Timed`).  The summary says when the first of them begins, when
the last one departs from its last stop, and on which days any of them runs (`Summarizes`).
Each vehicle journey that joins a summary leaves it one of all so far (`Joins.join`), so no
value that the sum starts from is left in the result.
-/

namespace TransitStore

/-- A vehicle journey is one of a pattern: it is at one of the rows that the pattern says are
its vehicle journeys. -/
def JourneyPattern.Has (p : JourneyPattern) (c : Container) (v : VehicleJourney) : Prop :=
  ∃ i < p.vehicleJourneyCount.toNat,
    c.vehicleJourneys.rows[p.vehicleJourneyOffset.toNat + i]? = some v

namespace PatternTimes

/-- When a vehicle journey departs from the last of a number of stops, counted from its
begin. -/
inductive LastDeparture (c : Container) (v : VehicleJourney) : Nat → CoarseTime → Prop where
  | none : LastDeparture c v 0 0
  | some {stops : Nat} {t : StopTime} :
      c.stopTimes.rows[v.stopTimesOffset.toNat + stops]? = some t →
      LastDeparture c v (stops + 1) t.departure

/-- The vehicle journeys of a pattern are rows of their table, and so are the stop times of
each of them if the pattern has a stop. -/
structure Timed (c : Container) (p : JourneyPattern) : Prop where
  inside : p.vehicleJourneyOffset.toNat + p.vehicleJourneyCount.toNat ≤
    c.vehicleJourneys.rows.size
  stopTimes : 0 < p.stopCount.toNat → ∀ v, p.Has c v →
    v.stopTimesOffset.toNat + p.stopCount.toNat ≤ c.stopTimes.rows.size

/-- A pattern is the first one whose times cannot be summed up. -/
structure FirstUntimed (c : Container) (number : Nat) : Prop where
  untimed : ∃ p, c.journeyPatterns.rows[number]? = some p ∧ ¬Timed c p
  first : ∀ earlier < number, ∀ p, c.journeyPatterns.rows[earlier]? = some p → Timed c p

/-- The times at which vehicle journeys of a pattern begin. -/
def begins (c : Container) (p : JourneyPattern) : Set CoarseTime :=
  {t | ∃ v, p.Has c v ∧ t = v.beginTime}

/-- The times at which vehicle journeys of a pattern are over.  A vehicle journey that ends
later than the last time there is ends then. -/
def ends (c : Container) (p : JourneyPattern) : Set CoarseTime :=
  {t | ∃ v departure, p.Has c v ∧ LastDeparture c v p.stopCount.toNat departure ∧
    t.toNat = min (v.beginTime.toNat + departure.toNat) 65535}

/-- The values that some summaries have at a place. -/
def values (part : PatternSummary → CoarseTime) (summaries : List PatternSummary) :
    Set CoarseTime :=
  {t | ∃ s ∈ summaries, t = part s}

/-- What the summary of a pattern says of its vehicle journeys. -/
inductive Summarizes (c : Container) (p : JourneyPattern) : PatternSummary → Prop where
  | none : p.vehicleJourneyCount.toNat = 0 → Summarizes c p ⟨0, 0, 0⟩
  | some {s : PatternSummary} : IsLeast (begins c p) s.earliest → IsGreatest (ends c p) s.latest →
      (∀ day, hasDay s.active day ↔ ∃ v, p.Has c v ∧ v.isActiveOn day) → Summarizes c p s

/-- What the times of all patterns say of the tables. -/
structure Describes (c : Container) (times : PatternTimes) : Prop where
  summaries : List.Forall₂ (Summarizes c) c.journeyPatterns.rows.toList times.summaries
  ordered : ∀ s ∈ times.summaries, s.earliest ≤ s.latest
  latest_of_none : times.summaries = [] → times.latest = 0
  latest : times.summaries ≠ [] → IsGreatest (values PatternSummary.latest times.summaries) times.latest
  runsOn : ∀ pattern day, times.runsOn pattern day ↔
    ∃ p v, c.journeyPatterns.rows[pattern]? = some p ∧ p.Has c v ∧ v.isActiveOn day

variable {c : Container} {p : JourneyPattern} {v : VehicleJourney} {stops : Nat}
  {s : PatternSummary} {times : PatternTimes}

/-! ## Vehicle journeys -/

/-- The last stop is at the last of the stop times. -/
theorem lastDeparture?_succ (c : Container) (v : VehicleJourney) (stops : Nat) :
    lastDeparture? c v (stops + 1) =
      (c.stopTimes.rows[v.stopTimesOffset.toNat + stops]?).map (·.departure) := by
  rw [lastDeparture?, if_neg (Nat.succ_ne_zero stops)]
  cases found : v.stopTimes? (stops + 1) c.stopTimes.rows.size with
  | none =>
    have outside : ¬v.stopTimesOffset.toNat + (stops + 1) ≤ c.stopTimes.rows.size := by
      rw [← Span.isSome_run?]
      exact Option.not_isSome_iff_eq_none.2 found
    rw [Array.getElem?_eq_none (by omega)]
    rfl
  | some run =>
    obtain ⟨start, stop⟩ := Span.run?_eq_some_iff.1 found
    have length : run.slice.length = stops + 1 := by
      rw [Span.length_slice, Span.length]
      omega
    rw [Option.bind_some, List.getLast?_eq_getElem?, length, Nat.add_sub_cancel,
      Span.getElem?_slice_of_run? found, if_pos (Nat.lt_succ_self stops)]

theorem isSome_lastDeparture? : (lastDeparture? c v stops).isSome ↔
    (0 < stops → v.stopTimesOffset.toNat + stops ≤ c.stopTimes.rows.size) := by
  cases stops with
  | zero => simp [lastDeparture?]
  | succ stops =>
    rw [lastDeparture?_succ, Option.isSome_map, isSome_getElem?,
      forall_prop_of_true (Nat.succ_pos stops)]
    exact Iff.rfl

theorem lastDeparture?_eq_some {departure : CoarseTime} :
    lastDeparture? c v stops = some departure ↔ LastDeparture c v stops departure := by
  cases stops with
  | zero =>
    have zero : lastDeparture? c v 0 = some 0 := rfl
    rw [zero, Option.some.injEq]
    constructor
    · rintro rfl
      exact .none
    · rintro ⟨⟩
      rfl
  | succ stops =>
    rw [lastDeparture?_succ, Option.map_eq_some_iff]
    constructor
    · rintro ⟨t, at_, rfl⟩
      exact .some at_
    · intro last
      cases last with
      | some at_ => exact ⟨_, at_, rfl⟩

theorem journeySummary?_eq_some : journeySummary? c v stops = some s ↔
    ∃ departure, LastDeparture c v stops departure ∧
      s = ⟨v.beginTime, v.beginTime.saturatingAdd departure, v.active⟩ := by
  simp only [journeySummary?, Option.map_eq_some_iff, lastDeparture?_eq_some, @eq_comm _ _ s]

/-! ## Joined summaries -/

theorem isLeast_min {times : Set CoarseTime} {a : CoarseTime} (least : IsLeast times a)
    (b : CoarseTime) : IsLeast (insert b times) (min a b) := by
  show IsLeast _ (if a ≤ b then a else b)
  split
  · refine ⟨.inr least.1, ?_⟩
    rintro t (rfl | mem)
    · assumption
    · exact least.2 mem
  · rename_i greater
    refine ⟨.inl rfl, ?_⟩
    rintro t (rfl | mem)
    · exact UInt16.le_refl t
    · exact UInt16.le_trans ((UInt16.le_total a b).resolve_left greater) (least.2 mem)

theorem isGreatest_max {times : Set CoarseTime} {a : CoarseTime} (greatest : IsGreatest times a)
    (b : CoarseTime) : IsGreatest (insert b times) (max a b) := by
  show IsGreatest _ (if a ≤ b then b else a)
  split
  · refine ⟨.inl rfl, ?_⟩
    rintro t (rfl | mem)
    · exact UInt16.le_refl t
    · exact UInt16.le_trans (greatest.2 mem) ‹_›
  · rename_i greater
    refine ⟨.inr greatest.1, ?_⟩
    rintro t (rfl | mem)
    · exact (UInt16.le_total a t).resolve_left greater
    · exact greatest.2 mem

theorem values_concat (part : PatternSummary → CoarseTime) (summaries : List PatternSummary)
    (s : PatternSummary) :
    values part (summaries ++ [s]) = insert (part s) (values part summaries) := by
  ext t
  simp [values, or_and_right, exists_or, or_comm]

/-- A summary is one of some others together. -/
structure Joins (parts : List PatternSummary) (s : PatternSummary) : Prop where
  earliest : IsLeast (values PatternSummary.earliest parts) s.earliest
  latest : IsGreatest (values PatternSummary.latest parts) s.latest
  active : ∀ day, hasDay s.active day ↔ ∃ part ∈ parts, hasDay part.active day

theorem Joins.single (s : PatternSummary) : Joins [s] s where
  earliest := by simp [values, IsLeast, lowerBounds]
  latest := by simp [values, IsGreatest, upperBounds]
  active day := by simp

theorem Joins.join {parts : List PatternSummary} (joins : Joins parts s) (part : PatternSummary) :
    Joins (parts ++ [part]) (PatternTimes.join s part) where
  earliest := by
    rw [values_concat]
    exact isLeast_min joins.earliest _
  latest := by
    rw [values_concat]
    exact isGreatest_max joins.latest _
  active day := by
    simp [PatternTimes.join, joins.active, or_and_right, exists_or]

theorem joins_foldl (first : PatternSummary) (rest : List PatternSummary) :
    Joins (first :: rest) (rest.foldl join first) := by
  induction rest using List.reverseRecOn with
  | nil => exact .single first
  | append_singleton rest last ih =>
    rw [List.foldl_append]
    exact ih.join last

/-! ## Patterns -/

theorem mem_slice {run : Span c.vehicleJourneys.rows.size}
    (found : p.vehicleJourneys? c.vehicleJourneys.rows.size = some run) :
    v ∈ run.slice ↔ p.Has c v := Span.mem_slice_of_run? found

theorem isSome_patternSummary? : (patternSummary? c p).isSome ↔ Timed c p := by
  cases found : p.vehicleJourneys? c.vehicleJourneys.rows.size with
  | none =>
    have outside := Option.not_isSome_iff_eq_none.2 found
    constructor
    · intro some_
      rw [patternSummary?, found] at some_
      cases some_
    · intro timed
      exact absurd (Span.isSome_run?.2 timed.inside) outside
  | some run =>
    have inside := Span.isSome_run?.1 (Option.isSome_of_mem found)
    have each : (run.slice.mapM fun v => journeySummary? c v p.stopCount.toNat).isSome ↔
        Timed c p := by
      simp only [isSome_mapM, mem_slice found, journeySummary?, Option.isSome_map,
        isSome_lastDeparture?]
      constructor
      · intro times
        exact ⟨inside, fun some_ v has => times v has some_⟩
      · intro timed v has some_
        exact timed.stopTimes some_ v has
    rw [← each]
    cases summed : run.slice.mapM fun v => journeySummary? c v p.stopCount.toNat with
    | none => simp [patternSummary?, found, summed]
    | some journeys => cases journeys <;> simp [patternSummary?, found, summed]

/-- Each vehicle journey of a pattern with times departs from the last stop. -/
theorem Timed.exists_lastDeparture (timed : Timed c p) (has : p.Has c v) :
    ∃ departure, LastDeparture c v p.stopCount.toNat departure := by
  obtain ⟨departure, found⟩ := Option.isSome_iff_exists.1
    (isSome_lastDeparture?.2 fun some_ => timed.stopTimes some_ v has)
  exact ⟨departure, lastDeparture?_eq_some.1 found⟩

/-- What joins the summaries of all vehicle journeys of a pattern is that of the pattern. -/
theorem Joins.summarizes {journeys : List PatternSummary} (joins : Joins journeys s)
    (timed : Timed c p)
    (mem : ∀ j, j ∈ journeys ↔ ∃ v, p.Has c v ∧ journeySummary? c v p.stopCount.toNat = some j) :
    Summarizes c p s := by
  simp only [journeySummary?_eq_some] at mem
  have earliest : values PatternSummary.earliest journeys = begins c p := by
    ext t
    constructor
    · rintro ⟨j, there, rfl⟩
      obtain ⟨v, has, departure, -, rfl⟩ := (mem j).1 there
      exact ⟨v, has, rfl⟩
    · rintro ⟨v, has, rfl⟩
      obtain ⟨departure, last⟩ := timed.exists_lastDeparture has
      exact ⟨_, (mem _).2 ⟨v, has, departure, last, rfl⟩, rfl⟩
  have latest : values PatternSummary.latest journeys = ends c p := by
    ext t
    constructor
    · rintro ⟨j, there, rfl⟩
      obtain ⟨v, has, departure, last, rfl⟩ := (mem j).1 there
      exact ⟨v, departure, has, last, CoarseTime.toNat_saturatingAdd _ _⟩
    · rintro ⟨v, departure, has, last, finish⟩
      rw [← CoarseTime.toNat_saturatingAdd, UInt16.toNat_inj] at finish
      exact ⟨_, (mem _).2 ⟨v, has, departure, last, rfl⟩, finish⟩
  refine .some (earliest ▸ joins.earliest) (latest ▸ joins.latest) fun day => ?_
  rw [joins.active]
  constructor
  · rintro ⟨j, there, active⟩
    obtain ⟨v, has, departure, -, rfl⟩ := (mem j).1 there
    exact ⟨v, has, active⟩
  · rintro ⟨v, has, active⟩
    obtain ⟨departure, last⟩ := timed.exists_lastDeparture has
    exact ⟨_, (mem _).2 ⟨v, has, departure, last, rfl⟩, active⟩

theorem summarizes_of_patternSummary? (h : patternSummary? c p = some s) : Summarizes c p s := by
  have timed := isSome_patternSummary?.1 (Option.isSome_of_mem h)
  obtain ⟨run, found, h⟩ := Option.bind_eq_some_iff.1 h
  obtain ⟨journeys, summed, h⟩ := Option.bind_eq_some_iff.1 h
  cases journeys with
  | nil =>
    cases h
    have length := (mapM_eq_some_iff.1 summed).length_eq
    obtain ⟨start, stop⟩ := Span.run?_eq_some_iff.1 found
    rw [Span.length_slice, Span.length, start, stop, Nat.add_sub_cancel_left] at length
    exact .none length
  | cons first rest =>
    cases h
    refine (joins_foldl first rest).summarizes timed fun j => ?_
    simp only [mem_of_mapM_eq_some summed, mem_slice found]

theorem Summarizes.earliest_le_latest (summarizes : Summarizes c p s) : s.earliest ≤ s.latest := by
  cases summarizes with
  | none => exact UInt16.le_refl 0
  | some earliest latest active =>
    -- the last one to be over began before that, and the first one not after it
    obtain ⟨v, departure, has, -, finish⟩ := latest.1
    have begun := UInt16.le_iff_toNat_le.1 (earliest.2 ⟨v, has, rfl⟩)
    rw [UInt16.le_iff_toNat_le, finish]
    have := v.beginTime.toNat_lt
    omega

/-- A set of days is all that there is in its bits. -/
theorem eq_of_hasDay {a b : UInt32} (same : ∀ day, hasDay a day = hasDay b day) : a = b := by
  simp only [hasDay_eq_getLsbD] at same
  exact UInt32.toBitVec_inj.1 (BitVec.eq_of_getLsbD_eq fun day _ => same day)

/-- A pattern has one summary. -/
theorem Summarizes.unique {s' : PatternSummary} (summarizes : Summarizes c p s)
    (other : Summarizes c p s') : s = s' := by
  cases summarizes with
  | none empty =>
    cases other with
    | none => rfl
    | some earliest =>
      obtain ⟨v, ⟨i, lt, -⟩, -⟩ := earliest.1
      omega
  | some earliest latest active =>
    cases other with
    | none empty =>
      obtain ⟨v, ⟨i, lt, -⟩, -⟩ := earliest.1
      omega
    | some earliest' latest' active' =>
      obtain ⟨earliest₁, latest₁, active₁⟩ := s
      obtain ⟨earliest₂, latest₂, active₂⟩ := s'
      congr 1
      · exact UInt16.le_antisymm (earliest.2 earliest'.1) (earliest'.2 earliest.1)
      · exact UInt16.le_antisymm (latest'.2 latest.1) (latest.2 latest'.1)
      · exact eq_of_hasDay fun day => Bool.eq_iff_iff.2 ((active day).trans (active' day).symm)

theorem patternSummary?_eq_some : patternSummary? c p = some s ↔ Timed c p ∧ Summarizes c p s := by
  constructor
  · intro h
    exact ⟨isSome_patternSummary?.1 (Option.isSome_of_mem h), summarizes_of_patternSummary? h⟩
  · rintro ⟨timed, summarizes⟩
    obtain ⟨s', found⟩ := Option.isSome_iff_exists.1 (isSome_patternSummary?.2 timed)
    rw [found, (summarizes_of_patternSummary? found).unique summarizes]

/-! ## Tables -/

/-- The summary of a numbered pattern. -/
def numberedSummary (c : Container) : JourneyPattern × Nat → Except Error PatternSummary :=
  fun (p, number) =>
    match patternSummary? c p with
    | some summary => .ok summary
    | none => .error (.invalidReference (.summedRun number))

theorem build_eq (c : Container) : build c =
    (c.journeyPatterns.rows.toList.zipIdx.mapM (numberedSummary c)).map PatternTimes.mk := rfl

theorem numberedSummary_eq_ok {pair : JourneyPattern × Nat} :
    numberedSummary c pair = .ok s ↔ Timed c pair.1 ∧ Summarizes c pair.1 s := by
  rw [← patternSummary?_eq_some, numberedSummary]
  cases patternSummary? c pair.1 <;> simp

theorem exists_numberedSummary {pair : JourneyPattern × Nat} :
    (∃ s, numberedSummary c pair = .ok s) ↔ Timed c pair.1 := by
  rw [← isSome_patternSummary?, Option.isSome_iff_exists]
  simp only [numberedSummary_eq_ok, patternSummary?_eq_some]

theorem numberedSummary_eq_error {number : Nat} (untimed : ¬Timed c p) :
    numberedSummary c (p, number) = .error (.invalidReference (.summedRun number)) := by
  rw [← isSome_patternSummary?, Option.not_isSome_iff_eq_none] at untimed
  simp only [numberedSummary, untimed]

theorem build_eq_ok : build c = .ok times ↔
    c.journeyPatterns.rows.toList.zipIdx.mapM (numberedSummary c) = .ok times.summaries := by
  obtain ⟨summaries⟩ := times
  rw [build_eq]
  cases c.journeyPatterns.rows.toList.zipIdx.mapM (numberedSummary c) with
  | error e => simp [Except.map]
  | ok summaries => simp [Except.map]

/-- The times of patterns are the summaries of all of them. -/
theorem build_eq_ok_iff : build c = .ok times ↔ (∀ p ∈ c.journeyPatterns.rows, Timed c p) ∧
    List.Forall₂ (Summarizes c) c.journeyPatterns.rows.toList times.summaries := by
  simp only [build_eq_ok, mapM_eq_ok_iff, numberedSummary_eq_ok]
  rw [forall₂_zipIdx_iff (r := fun p s => Timed c p ∧ Summarizes c p s), List.forall₂_and_left]
  simp only [Array.mem_toList_iff]

theorem exists_build_iff :
    (∃ times, build c = .ok times) ↔ ∀ p ∈ c.journeyPatterns.rows, Timed c p := by
  constructor
  · rintro ⟨times, built⟩
    exact (build_eq_ok_iff.1 built).1
  · intro timed
    obtain ⟨summaries, summed⟩ :
        ∃ summaries, c.journeyPatterns.rows.toList.zipIdx.mapM (numberedSummary c) = .ok summaries := by
      refine exists_mapM_eq_ok.2 fun pair mem => exists_numberedSummary.2 (timed pair.1 ?_)
      exact Array.mem_of_getElem? (Array.getElem?_toList ▸ List.mem_zipIdx_iff_getElem?.1 mem)
    exact ⟨⟨summaries⟩, build_eq_ok.2 summed⟩

/-- The first pattern without times is named. -/
theorem build_eq_error {number : Nat} (untimed : FirstUntimed c number) :
    build c = .error (.invalidReference (.summedRun number)) := by
  obtain ⟨⟨p, at_, untimed⟩, first⟩ := untimed
  rw [← Array.getElem?_toList] at at_
  obtain ⟨front, rest, split, inFront⟩ := exists_split_zipIdx at_
  rw [build_eq, split, mapM_eq_error _ (numberedSummary_eq_error untimed)]
  · rfl
  · rintro ⟨q, earlier⟩ mem
    obtain ⟨before, there⟩ := inFront q earlier mem
    rw [Array.getElem?_toList] at there
    exact exists_numberedSummary.2 (first earlier before q there)

theorem build_eq_error_iff {e : Error} : build c = .error e ↔
    ∃ number, FirstUntimed c number ∧ e = .invalidReference (.summedRun number) := by
  classical
  constructor
  · intro h
    have bad : ¬∀ p ∈ c.journeyPatterns.rows, Timed c p := by
      rw [← exists_build_iff]
      rintro ⟨times, built⟩
      rw [built] at h
      cases h
    have some_ : ∃ (number : Nat) (p : JourneyPattern),
        c.journeyPatterns.rows[number]? = some p ∧ ¬Timed c p := by
      push Not at bad
      obtain ⟨p, mem, untimed⟩ := bad
      obtain ⟨number, at_⟩ := Array.mem_iff_getElem?.1 mem
      exact ⟨number, p, at_, untimed⟩
    have first : FirstUntimed c (Nat.find some_) := by
      refine ⟨Nat.find_spec some_, fun earlier before q there => ?_⟩
      by_contra untimed
      exact Nat.find_min some_ before ⟨q, there, untimed⟩
    rw [build_eq_error first] at h
    cases h
    exact ⟨_, first, rfl⟩
  · rintro ⟨number, first, rfl⟩
    exact build_eq_error first

/-! ## All patterns together -/

theorem latest_concat (done : List PatternSummary) (s : PatternSummary) :
    latest ⟨done ++ [s]⟩ = max (latest ⟨done⟩) s.latest := by
  rw [latest, List.foldl_append]
  rfl

/-- The last time is the greatest of those of the patterns and zero, which it starts from. -/
theorem isGreatest_latest (summaries : List PatternSummary) :
    IsGreatest (insert 0 (values PatternSummary.latest summaries)) (latest ⟨summaries⟩) := by
  induction summaries using List.reverseRecOn with
  | nil => simp [values, latest, IsGreatest, upperBounds]
  | append_singleton summaries last ih =>
    rw [values_concat, latest_concat, Set.insert_comm]
    exact isGreatest_max ih _

theorem runsOn_iff {pattern day : Nat} : times.runsOn pattern day ↔
    ∃ s, times.summaries[pattern]? = some s ∧ hasDay s.active day := by
  rw [runsOn]
  cases times.summaries[pattern]? <;> simp

theorem Summarizes.hasDay_iff (summarizes : Summarizes c p s) {day : Nat} :
    hasDay s.active day ↔ ∃ v, p.Has c v ∧ v.isActiveOn day := by
  cases summarizes with
  | none empty =>
    refine ⟨fun active => by simp at active, ?_⟩
    rintro ⟨v, ⟨i, lt, -⟩, -⟩
    omega
  | some earliest latest active => exact active day

theorem describes_of_build (built : build c = .ok times) : Describes c times := by
  obtain ⟨-, summaries⟩ := build_eq_ok_iff.1 built
  refine ⟨summaries, ?ordered, ?none_, ?latest, ?runsOn⟩
  case ordered =>
    intro s mem
    obtain ⟨p, -, summarizes⟩ := exists_of_forall₂ summaries mem
    exact summarizes.earliest_le_latest
  case none_ =>
    intro empty
    rw [latest, empty]
    rfl
  case latest =>
    intro some_
    obtain ⟨s, mem⟩ := List.exists_mem_of_ne_nil _ some_
    have greatest := isGreatest_latest times.summaries
    refine ⟨?_, fun t there => greatest.2 (.inr there)⟩
    rcases greatest.1 with zero | there
    · -- a pattern that there is has its last time at zero as well
      have le := greatest.2 (.inr ⟨s, mem, rfl⟩)
      rw [zero] at le
      have least : 0 ≤ s.latest := Nat.zero_le s.latest.toNat
      exact ⟨s, mem, zero.trans (UInt16.le_antisymm least le)⟩
    · exact there
  case runsOn =>
    intro pattern day
    rw [runsOn_iff]
    have same := rel_getElem?_of_forall₂ summaries pattern
    rw [Array.getElem?_toList] at same
    generalize c.journeyPatterns.rows[pattern]? = p? at same ⊢
    generalize times.summaries[pattern]? = s? at same ⊢
    cases same with
    | none => simp
    | some summarizes => simp [summarizes.hasDay_iff]

/-- The times of all patterns can be summed up exactly if those of each can, and otherwise the
first pattern is named for which they cannot.  What is built has the summary of each pattern,
and says of all of them when the last vehicle journey is over and which of them run on a day. -/
theorem build_summarizes (c : Container) :
    ((∃ times, build c = .ok times) ↔ ∀ p ∈ c.journeyPatterns.rows, Timed c p) ∧
    (∀ e, build c = .error e ↔
      ∃ number, FirstUntimed c number ∧ e = .invalidReference (.summedRun number)) ∧
    ∀ times, build c = .ok times → Describes c times :=
  ⟨exists_build_iff, fun _ => build_eq_error_iff, fun _ => describes_of_build⟩

end PatternTimes

end TransitStore
