import Mathlib
import TransitStore.Proofs.Audit.Quality
import TransitStore.Proofs.Audit.References

/-!
# Vehicle journeys that go forward

The check of quality compares each time of a vehicle journey with the one before it only.
That decides the order of all times of the journey: nothing is found from the first stop on
exactly if the times start at zero and none is before an earlier one
(`noTimeIssue_iff_goesForward`).  A vehicle journey may lie in the runs of several patterns,
which start at the same stop time and only differ in their length, so an issue at a stop says
the same of all of them (`decidesTimes_of_checkReferences`).
-/

namespace TransitStore.Audit

variable {c : Container}

/-! ## The order of times -/

/-- The arrivals and departures of a vehicle journey, in the order it comes to them. -/
def timeline (times : List StopTime) : List CoarseTime :=
  times.flatMap fun t => [t.arrival, t.departure]

theorem timeline_cons (t : StopTime) (rest : List StopTime) :
    timeline (t :: rest) = t.arrival :: t.departure :: timeline rest := rfl

/-- A vehicle journey starts at time zero and none of its times is before an earlier one. -/
structure GoesForward (times : List StopTime) : Prop where
  start : ∀ t, times[0]? = some t → t.arrival = 0
  ascending : (timeline times).Pairwise (· ≤ ·)

/-- Nothing is found exactly if nothing is the matter at the first stop and nothing is found
behind it. -/
theorem noTimeIssue_cons {journey start : Nat} {departed : Option CoarseTime} {t : StopTime}
    {rest : List StopTime} : (∀ issue, ¬TimeIssue journey start departed (t :: rest) issue) ↔
      (departed = none → t.arrival = 0) ∧ t.arrival ≤ t.departure ∧
        (∀ before, departed = some before → before ≤ t.arrival) ∧
          ∀ issue, ¬TimeIssue journey (start + 1) (some t.departure) rest issue := by
  simp only [timeIssue_cons, not_or, forall_and, not_and, ne_eq]
  constructor
  · rintro ⟨start, departure, travel, later⟩
    refine ⟨fun first => ?_, ?_, fun before same => ?_, later⟩
    · exact by_contra fun late => start _ first late rfl
    · exact UInt16.not_lt.1 fun early => departure _ early rfl
    · exact UInt16.not_lt.1 fun early => travel _ ⟨before, same, early⟩ rfl
  · rintro ⟨start, departure, travel, later⟩
    refine ⟨fun _ first late => absurd (start first) late, ?_, ?_, later⟩
    · exact fun _ early => absurd early (UInt16.not_lt.2 departure)
    · rintro _ ⟨before, same, early⟩
      exact absurd early (UInt16.not_lt.2 (travel before same))

/-- Behind a departure, nothing is found exactly if the times go on from there, each one from
the one before it. -/
theorem noTimeIssue_iff_isChain {journey start : Nat} {departed : CoarseTime}
    {times : List StopTime} : (∀ issue, ¬TimeIssue journey start (some departed) times issue) ↔
      (departed :: timeline times).IsChain (· ≤ ·) := by
  induction times generalizing start departed with
  | nil =>
    refine iff_of_true ?_ (.singleton departed)
    rintro _ (_ | _ | _) <;> contradiction
  | cons t rest ih =>
    rw [noTimeIssue_cons, ih, timeline_cons, List.isChain_cons_cons, List.isChain_cons_cons]
    simp only [reduceCtorEq, false_implies, true_and, Option.some.injEq, forall_eq']
    exact and_left_comm

/-- Nothing is found from the first stop on exactly if the journey goes forward.  Times that
are in order with their neighbors are so with all others. -/
theorem noTimeIssue_iff_goesForward (journey : Nat) {times : List StopTime} :
    (∀ issue, ¬TimeIssue journey 0 none times issue) ↔ GoesForward times := by
  cases times with
  | nil =>
    refine iff_of_true ?_ ⟨nofun, .nil⟩
    rintro _ (_ | _ | _) <;> contradiction
  | cons t rest =>
    have forward : GoesForward (t :: rest) ↔
        t.arrival = 0 ∧ (timeline (t :: rest)).IsChain (· ≤ ·) := by
      rw [List.isChain_iff_pairwise]
      constructor
      · exact fun forward => ⟨forward.start t rfl, forward.ascending⟩
      · rintro ⟨start, ascending⟩
        exact ⟨fun _ first => Option.some.inj first ▸ start, ascending⟩
    rw [forward, noTimeIssue_cons, noTimeIssue_iff_isChain, timeline_cons, List.isChain_cons_cons]
    simp only [reduceCtorEq, false_implies, implies_true, true_and, true_implies]

/-! ## What is reported -/

/-- An issue of the times of a vehicle journey. -/
inductive QualityIssue.IsOfTimes : QualityIssue → Prop where
  | first (journey : Nat) : IsOfTimes (.firstArrivalNotZero journey)
  | departure (journey stop : Nat) : IsOfTimes (.departureBeforeArrival journey stop)
  | travel (journey stop : Nat) : IsOfTimes (.negativeTravelTime journey stop)

/-- What is reported of one vehicle journey with some stop times. -/
structure DecidedAlong (c : Container) (journey : Nat) (times : List StopTime) : Prop where
  first : ∀ t, times[0]? = some t →
    (.firstArrivalNotZero journey ∈ qualityIssues c ↔ t.arrival ≠ 0)
  departure : ∀ stop t, times[stop]? = some t →
    (.departureBeforeArrival journey stop ∈ qualityIssues c ↔ t.departure < t.arrival)
  /-- A journey arrives nowhere before its first stop. -/
  travel_first : ∀ t, times[0]? = some t → .negativeTravelTime journey 0 ∉ qualityIssues c
  travel : ∀ stop before t, times[stop]? = some before → times[stop + 1]? = some t →
    (.negativeTravelTime journey (stop + 1) ∈ qualityIssues c ↔ t.arrival < before.departure)

/-- What the check of quality finds decides the order of the times of each vehicle journey. -/
structure DecidesTimes (c : Container) : Prop where
  /-- Nothing is found exactly if every vehicle journey goes forward along the patterns it
  lies in. -/
  none_iff : (∀ issue ∈ qualityIssues c, ¬issue.IsOfTimes) ↔
    ∀ journey pattern, c.LiesIn journey pattern → ∃ run,
      c.vehicleJourneyStopTimes? pattern journey = some run ∧ GoesForward run.slice
  /-- What is found at a stop only depends on the journey's own times there and before. -/
  along : ∀ journey pattern, c.LiesIn journey pattern → ∃ run,
    c.vehicleJourneyStopTimes? pattern journey = some run ∧ DecidedAlong c journey run.slice
  /-- Nothing is found at a stop that no pattern of the journey has. -/
  located : ∀ journey stop, .departureBeforeArrival journey stop ∈ qualityIssues c ∨
    .negativeTravelTime journey stop ∈ qualityIssues c → ∃ pattern run,
      c.LiesIn journey pattern ∧ c.vehicleJourneyStopTimes? pattern journey = some run ∧
        stop < run.length

theorem timeIssue_isOfTimes {journey start : Nat} {departed : Option CoarseTime}
    {times : List StopTime} {issue : QualityIssue}
    (found : TimeIssue journey start departed times issue) : issue.IsOfTimes := by
  cases found with
  | first _ _ _ => exact .first journey
  | departure _ _ => exact .departure journey _
  | travel _ _ _ => exact .travel journey _

theorem isOfTimes_mem_iff {issue : QualityIssue} : issue ∈ qualityIssues c ∧ issue.IsOfTimes ↔
    ∃ journey pattern run, c.LiesIn journey pattern ∧
      c.vehicleJourneyStopTimes? pattern journey = some run ∧
        TimeIssue journey 0 none run.slice issue := by
  rw [mem_qualityIssues]
  constructor
  · rintro ⟨issued | issued | issued | issued, ofTimes⟩
    · cases issued <;> cases ofTimes
    · cases issued
      cases ofTimes
    · exact issued
    · cases issued <;> cases ofTimes
  · intro issued
    obtain ⟨_, _, _, -, -, found⟩ := id issued
    exact ⟨.inr (.inr (.inl issued)), timeIssue_isOfTimes found⟩

/-- The stop times of a vehicle journey along two patterns are the same ones at each stop that
both of them have. -/
theorem eq_of_stopTimes {journey pattern other stop : Nat} {run run' : Span c.stopTimes.rows.size}
    {t t' : StopTime} (found : c.vehicleJourneyStopTimes? pattern journey = some run)
    (found' : c.vehicleJourneyStopTimes? other journey = some run')
    (at_ : run.slice[stop]? = some t) (at' : run'.slice[stop]? = some t') : t = t' := by
  obtain ⟨p, -, found⟩ := Option.bind_eq_some_iff.1 found
  obtain ⟨p', -, found'⟩ := Option.bind_eq_some_iff.1 found'
  obtain ⟨v, there, found⟩ := Option.bind_eq_some_iff.1 found
  obtain ⟨v', there', found'⟩ := Option.bind_eq_some_iff.1 found'
  cases there.symm.trans there'
  rw [Span.getElem?_slice_of_run? found] at at_
  rw [Span.getElem?_slice_of_run? found'] at at'
  obtain ⟨-, row⟩ := Option.ite_none_right_eq_some.1 at_
  obtain ⟨-, row'⟩ := Option.ite_none_right_eq_some.1 at'
  exact Option.some.inj (row.symm.trans row')

theorem decidedAlong {journey pattern : Nat} {run : Span c.stopTimes.rows.size}
    (lies : c.LiesIn journey pattern)
    (found : c.vehicleJourneyStopTimes? pattern journey = some run) :
    DecidedAlong c journey run.slice where
  first t at_ := by
    rw [firstArrivalNotZero_mem_iff]
    constructor
    · rintro ⟨_, _, t', -, found', at', late⟩
      rwa [eq_of_stopTimes found found' at_ at']
    · intro late
      exact ⟨pattern, run, t, lies, found, at_, late⟩
  departure stop t at_ := by
    rw [departureBeforeArrival_mem_iff]
    constructor
    · rintro ⟨_, _, t', -, found', at', early⟩
      rwa [eq_of_stopTimes found found' at_ at']
    · intro early
      exact ⟨pattern, run, t, lies, found, at_, early⟩
  travel_first t at_ := by
    rw [negativeTravelTime_mem_iff]
    rintro ⟨_, _, _, _, _, -, -, ⟨⟩, -⟩
  travel stop before t first second := by
    rw [negativeTravelTime_mem_iff]
    constructor
    · rintro ⟨_, _, before', t', _, -, found', ⟨⟩, first', second', early⟩
      rwa [eq_of_stopTimes found found' first first', eq_of_stopTimes found found' second second']
    · intro early
      exact ⟨pattern, run, before, t, stop, lies, found, rfl, first, second, early⟩

/-- Good references lead from a pattern and a vehicle journey in it to its stop times. -/
theorem Resolves.exists_stopTimes (resolves : Resolves c) {journey pattern : Nat}
    (lies : c.LiesIn journey pattern) :
    ∃ run, c.vehicleJourneyStopTimes? pattern journey = some run := by
  obtain ⟨run, found, start, stop⟩ := lies
  obtain ⟨p, at_, -⟩ := Option.bind_eq_some_iff.1 found
  obtain ⟨run', found', times⟩ :=
    resolves.vehicleJourneys pattern (Array.getElem?_eq_some_iff.1 at_).1
  cases found.symm.trans found'
  have inside : journey < c.vehicleJourneys.rows.size := Nat.lt_of_lt_of_le stop run.stop_le
  exact Option.isSome_iff_exists.1 (times ⟨journey, inside⟩ (Span.mem_rows.2 ⟨start, stop⟩))

/-- If the references of a container are good, the check of quality finds nothing in its times
exactly if they start at zero and ascend along each vehicle journey, and what it finds at a
stop only depends on the times of that journey there and at the stop before. -/
theorem decidesTimes_of_checkReferences (good : checkReferences c = .ok ()) : DecidesTimes c := by
  have resolves := sound_iff_resolves.1 (checkReferences_eq_ok.1 good)
  refine ⟨⟨?forward, ?clean⟩, ?along, ?located⟩
  case forward =>
    intro none_ journey pattern lies
    obtain ⟨run, found⟩ := resolves.exists_stopTimes lies
    refine ⟨run, found, (noTimeIssue_iff_goesForward journey).1 ?_⟩
    intro issue issued
    obtain ⟨mem, ofTimes⟩ := isOfTimes_mem_iff.2 ⟨journey, pattern, run, lies, found, issued⟩
    exact none_ issue mem ofTimes
  case clean =>
    intro forward issue mem ofTimes
    obtain ⟨journey, pattern, run, lies, found, issued⟩ := isOfTimes_mem_iff.1 ⟨mem, ofTimes⟩
    obtain ⟨run', found', goes⟩ := forward journey pattern lies
    cases found.symm.trans found'
    exact (noTimeIssue_iff_goesForward journey).2 goes issue issued
  case along =>
    intro journey pattern lies
    obtain ⟨run, found⟩ := resolves.exists_stopTimes lies
    exact ⟨run, found, decidedAlong lies found⟩
  case located =>
    have short {run : Span c.stopTimes.rows.size} {stop : Nat} {t : StopTime}
        (at_ : run.slice[stop]? = some t) : stop < run.length := by
      have lt := (List.getElem?_eq_some_iff.1 at_).1
      rwa [Span.length_slice] at lt
    rintro journey stop (issued | issued)
    · obtain ⟨pattern, run, t, lies, found, at_, -⟩ := departureBeforeArrival_mem_iff.1 issued
      exact ⟨pattern, run, lies, found, short at_⟩
    · obtain ⟨pattern, run, _, t, i, lies, found, rfl, -, at_, -⟩ :=
        negativeTravelTime_mem_iff.1 issued
      exact ⟨pattern, run, lies, found, short at_⟩

/-- Two vehicle journeys along a pattern of three points.  The first one ends later than the
second one starts.  The second one goes back in time, and also lies in a pattern of which it
has no times behind the first point. -/
def backwards : Container where
  pool := ⟨.ofArray #[0]⟩
  stopAreas := ⟨#[⟨0, ⟨0, 0⟩, 0, 0⟩], .owned 1⟩
  stopPoints := ⟨#[⟨0, 0, 0, ⟨0, 0⟩, 0, 0, 0, 0⟩], .owned 1⟩
  operators := ⟨#[⟨0, 0, 0⟩], .owned 1⟩
  physicalModes := ⟨#[⟨0, 0⟩], .owned 1⟩
  commercialModes := ⟨#[⟨0, 0⟩], .owned 1⟩
  lines := ⟨#[⟨0, 0, 0, 0, 0, 0, 0⟩], .owned 1⟩
  routes := ⟨#[⟨0⟩], .owned 1⟩
  journeyPatternPoints := ⟨#[⟨0, 0, 0⟩, ⟨0, 0, 0⟩, ⟨0, 0, 0⟩], .owned 3⟩
  journeyPatterns := ⟨#[⟨0, 3, 0, 2, 0, 0, 0⟩, ⟨0, 1, 1, 1, 0, 0, 0⟩], .owned 2⟩
  stopTimes := ⟨#[⟨0, 5⟩, ⟨7, 7⟩, ⟨9, 20⟩, ⟨0, 4⟩, ⟨3, 6⟩, ⟨8, 2⟩], .owned 6⟩
  vehicleJourneys := ⟨#[⟨0, 0, 0, 0, 0, 0, 0, 0, 0, 0⟩, ⟨0, 3, 0, 0, 0, 0, 0, 0, 0, 0⟩], .owned 2⟩

/-- Nothing is said of the first stop of the second journey, although the row in front of it has
a later departure. -/
theorem decidesTimes_backwards : checkReferences backwards = .ok () ∧ DecidesTimes backwards ∧
    .negativeTravelTime 1 0 ∉ qualityIssues backwards ∧
    .negativeTravelTime 1 1 ∈ qualityIssues backwards ∧
    .departureBeforeArrival 1 2 ∈ qualityIssues backwards := by
  have good : checkReferences backwards = .ok () := by decide
  have decides := decidesTimes_of_checkReferences good
  have lies : backwards.LiesIn 1 0 := ⟨⟨0, 2, by decide, by decide⟩, rfl, by decide, by decide⟩
  obtain ⟨run, found, along⟩ := decides.along 1 0 lies
  have slice : run.slice = [⟨0, 4⟩, ⟨3, 6⟩, ⟨8, 2⟩] := by
    cases found
    rfl
  rw [slice] at along
  refine ⟨good, decides, along.travel_first _ rfl, ?_, ?_⟩
  · exact (along.travel 0 _ _ rfl rfl).2 (by decide)
  · exact (along.departure 2 _ rfl).2 (by decide)

end TransitStore.Audit
