import Mathlib
import TransitStore.Audit.Quality

/-!
# What the check of quality finds

The check walks over the ends of the patterns, the coordinates, the stop times of the vehicle
journeys of each pattern and the transfers, and lists what it finds on the way.  Each issue
says where it was found, and is in the list exactly if something is the matter there
(`mem_timeIssuesFrom`, `mem_timeIssues`, `mem_boardingIssues`).  A vehicle journey is only
compared with itself: a departure is that of the stop before on the same journey.
-/

namespace TransitStore

/-- A vehicle journey lies in the run of a journey pattern. -/
def Container.LiesIn (c : Container) (journey pattern : Nat) : Prop :=
  ∃ run, c.patternVehicleJourneys? pattern = some run ∧ run.start ≤ journey ∧ journey < run.stop

namespace Audit

variable {c : Container} {issue : QualityIssue}

/-! ## Times -/

/-- The departure from the stop before, behind one from the stop in front of all. -/
def departedBefore (departed : Option CoarseTime) (times : List StopTime) :
    (stop : Nat) → Option CoarseTime
  | 0 => departed
  | stop + 1 => times[stop]?.map (·.departure)

/-- An issue of the stop times of a vehicle journey, which are those from the stop `start` on. -/
inductive TimeIssue (journey start : Nat) (departed : Option CoarseTime) (times : List StopTime) :
    QualityIssue → Prop where
  | first {t : StopTime} : departed = none → times[0]? = some t → t.arrival ≠ 0 →
      TimeIssue journey start departed times (.firstArrivalNotZero journey)
  | departure {stop : Nat} {t : StopTime} : times[stop]? = some t → t.departure < t.arrival →
      TimeIssue journey start departed times (.departureBeforeArrival journey (start + stop))
  | travel {stop : Nat} {t : StopTime} {before : CoarseTime} : times[stop]? = some t →
      departedBefore departed times stop = some before → t.arrival < before →
      TimeIssue journey start departed times (.negativeTravelTime journey (start + stop))

theorem departedBefore_cons (departed : Option CoarseTime) (t : StopTime) (rest : List StopTime)
    (stop : Nat) : departedBefore departed (t :: rest) (stop + 1) =
      departedBefore (some t.departure) rest stop := by
  cases stop <;> rfl

/-- The issues of stop times are those of the first one and those of the others behind it. -/
theorem timeIssue_cons {journey start : Nat} {departed : Option CoarseTime} {t : StopTime}
    {rest : List StopTime} : TimeIssue journey start departed (t :: rest) issue ↔
      (departed = none ∧ t.arrival ≠ 0 ∧ issue = .firstArrivalNotZero journey) ∨
      (t.departure < t.arrival ∧ issue = .departureBeforeArrival journey start) ∨
      ((∃ before, departed = some before ∧ t.arrival < before) ∧
        issue = .negativeTravelTime journey start) ∨
      TimeIssue journey (start + 1) (some t.departure) rest issue := by
  have behind (stop : Nat) : start + (stop + 1) = start + 1 + stop := by omega
  constructor
  · intro found
    cases found with
    | first none_ at_ late =>
      cases at_
      exact .inl ⟨none_, late, rfl⟩
    | @departure stop _ at_ early =>
      cases stop with
      | zero =>
        cases at_
        exact .inr (.inl ⟨early, rfl⟩)
      | succ stop =>
        rw [behind]
        exact .inr (.inr (.inr (.departure at_ early)))
    | @travel stop _ before at_ departed early =>
      cases stop with
      | zero =>
        cases at_
        exact .inr (.inr (.inl ⟨⟨before, departed, early⟩, rfl⟩))
      | succ stop =>
        rw [departedBefore_cons] at departed
        rw [behind]
        exact .inr (.inr (.inr (.travel at_ departed early)))
  · rintro (⟨rfl, late, rfl⟩ | ⟨early, rfl⟩ | ⟨⟨before, rfl, early⟩, rfl⟩ | later)
    · exact .first rfl rfl late
    · rw [← Nat.add_zero start]
      exact .departure rfl early
    · rw [← Nat.add_zero start]
      exact .travel rfl rfl early
    · cases later with
      | first none_ => cases none_
      | @departure stop _ at_ early =>
        rw [← behind]
        exact .departure at_ early
      | @travel stop _ before at_ departed early =>
        rw [← departedBefore_cons] at departed
        rw [← behind]
        exact .travel at_ departed early

theorem mem_timeIssuesFrom {journey start : Nat} {departed : Option CoarseTime}
    {times : List StopTime} : issue ∈ timeIssuesFrom journey start departed times ↔
      TimeIssue journey start departed times issue := by
  induction times generalizing start departed with
  | nil =>
    rw [timeIssuesFrom]
    refine iff_of_false List.not_mem_nil ?_
    rintro (_ | _ | _) <;> contradiction
  | cons t rest ih =>
    rw [timeIssue_cons, ← ih, timeIssuesFrom]
    simp only [List.mem_append, List.mem_ite_nil_right, List.mem_singleton, Bool.and_eq_true,
      Option.isNone_iff_eq_none, bne_iff_ne, Option.any_eq_true, decide_eq_true_iff, or_assoc,
      and_assoc]

/-- The issues of the times of all vehicle journeys. -/
theorem mem_timeIssues : issue ∈ timeIssues c ↔ ∃ journey pattern times,
    c.LiesIn journey pattern ∧ c.vehicleJourneyStopTimes? pattern journey = some times ∧
      TimeIssue journey 0 none times.slice issue := by
  constructor
  · intro mem
    obtain ⟨p, there, mem⟩ := List.mem_flatMap.1 mem
    obtain ⟨pattern, at_⟩ := List.mem_iff_getElem?.1 there
    rw [Array.getElem?_toList] at at_
    split at mem
    · cases mem
    · rename_i run found
      obtain ⟨v, inside, mem⟩ := List.mem_flatMap.1 mem
      rw [journeyTimeIssues] at mem
      split at mem
      · cases mem
      · rename_i times found'
        refine ⟨v, pattern, times, ⟨run, ?_, Span.mem_rows.1 inside⟩, ?_, mem_timeIssuesFrom.1 mem⟩
        · rw [Container.patternVehicleJourneys?, at_, Option.bind_some, found]
        · rw [Container.vehicleJourneyStopTimes?, at_, Option.bind_some,
            Array.getElem?_eq_getElem v.isLt, Option.bind_some]
          exact found'
  · rintro ⟨journey, pattern, times, ⟨run, found, start, stop⟩, found', issued⟩
    obtain ⟨p, at_, found⟩ := Option.bind_eq_some_iff.1 found
    obtain ⟨p', at', found'⟩ := Option.bind_eq_some_iff.1 found'
    cases at_.symm.trans at'
    obtain ⟨v, vAt, found'⟩ := Option.bind_eq_some_iff.1 found'
    obtain ⟨lt, rfl⟩ := Array.getElem?_eq_some_iff.1 vAt
    refine List.mem_flatMap.2 ⟨p, ?_, ?_⟩
    · exact Array.mem_toList_iff.2 (Array.mem_of_getElem? at_)
    · rw [found]
      refine List.mem_flatMap.2 ⟨⟨journey, lt⟩, Span.mem_rows.2 ⟨start, stop⟩, ?_⟩
      rw [journeyTimeIssues]
      dsimp only [Fin.getElem_fin]
      rw [found']
      exact mem_timeIssuesFrom.2 issued

/-! ## Boarding, coordinates and transfers -/

/-- What numbered rows yield is what a row yields with its number. -/
theorem mem_flatMap_zipIdx {α β : Type} {rows : Array α} {f : α × Nat → List β} {b : β} :
    b ∈ rows.toList.zipIdx.flatMap f ↔ ∃ row a, rows[row]? = some a ∧ b ∈ f (a, row) := by
  rw [List.mem_flatMap]
  constructor
  · rintro ⟨⟨a, row⟩, there, mem⟩
    have at_ := List.mk_mem_zipIdx_iff_getElem?.1 there
    exact ⟨row, a, (Array.getElem?_toList ..).symm.trans at_, mem⟩
  · rintro ⟨row, a, at_, mem⟩
    refine ⟨(a, row), ?_, mem⟩
    exact List.mk_mem_zipIdx_iff_getElem?.2 ((Array.getElem?_toList ..).trans at_)

/-- An issue of the first or the last point of a pattern. -/
inductive BoardingIssue (c : Container) : QualityIssue → Prop where
  | first {pattern : Nat} {run : Span c.journeyPatternPoints.rows.size}
      {point : JourneyPatternPoint} : c.patternPoints? pattern = some run →
      run.slice.head? = some point → point.allowsAlighting →
      BoardingIssue c (.alightingAtFirstStop pattern)
  | last {pattern : Nat} {run : Span c.journeyPatternPoints.rows.size}
      {point : JourneyPatternPoint} : c.patternPoints? pattern = some run →
      run.slice.getLast? = some point → point.allowsBoarding →
      BoardingIssue c (.boardingAtLastStop pattern)

theorem mem_boardingIssuesOf {pattern : Nat} {p : JourneyPattern}
    (at_ : c.journeyPatterns.rows[pattern]? = some p) : issue ∈ boardingIssuesOf c pattern p ↔
      ∃ run, c.patternPoints? pattern = some run ∧
        ((∃ point, run.slice.head? = some point ∧ point.allowsAlighting) ∧
            issue = .alightingAtFirstStop pattern ∨
          (∃ point, run.slice.getLast? = some point ∧ point.allowsBoarding) ∧
            issue = .boardingAtLastStop pattern) := by
  rw [Container.patternPoints?, at_, Option.bind_some, boardingIssuesOf]
  cases p.points? c.journeyPatternPoints.rows.size with
  | none => simp
  | some run =>
    simp only [List.mem_append, List.mem_ite_nil_right, List.mem_singleton, Option.any_eq_true,
      Option.some.injEq, exists_eq_left']

theorem mem_boardingIssues : issue ∈ boardingIssues c ↔ BoardingIssue c issue := by
  rw [boardingIssues, mem_flatMap_zipIdx]
  constructor
  · rintro ⟨pattern, p, at_, mem⟩
    obtain ⟨run, points, ends⟩ := (mem_boardingIssuesOf at_).1 mem
    rcases ends with ⟨⟨point, first, alights⟩, rfl⟩ | ⟨⟨point, last, boards⟩, rfl⟩
    · exact .first points first alights
    · exact .last points last boards
  · intro issued
    cases issued with
    | @first pattern run point points first alights =>
      obtain ⟨p, at_, -⟩ := Option.bind_eq_some_iff.1 points
      refine ⟨pattern, p, at_, (mem_boardingIssuesOf at_).2 ⟨run, points, .inl ⟨?_, rfl⟩⟩⟩
      exact ⟨point, first, alights⟩
    | @last pattern run point points last boards =>
      obtain ⟨p, at_, -⟩ := Option.bind_eq_some_iff.1 points
      refine ⟨pattern, p, at_, (mem_boardingIssuesOf at_).2 ⟨run, points, .inr ⟨?_, rfl⟩⟩⟩
      exact ⟨point, last, boards⟩

/-- A stop point that lies where there is none. -/
inductive CoordinateIssue (c : Container) : QualityIssue → Prop where
  | misplaced {row : Nat} {stop : StopPoint} : c.stopPoints.rows[row]? = some stop →
      isPlausible stop.coord = false → CoordinateIssue c (.coordinateOutOfRange row stop.coord)

theorem mem_coordinateIssues : issue ∈ coordinateIssues c ↔ CoordinateIssue c issue := by
  rw [coordinateIssues, mem_flatMap_zipIdx]
  constructor
  · rintro ⟨row, stop, at_, mem⟩
    dsimp only at mem
    obtain ⟨misplaced, mem⟩ := List.mem_ite_nil_left.1 mem
    cases List.mem_singleton.1 mem
    exact .misplaced at_ (Bool.eq_false_iff.2 misplaced)
  · intro issued
    cases issued with
    | @misplaced row stop at_ misplaced =>
      refine ⟨row, stop, at_, List.mem_ite_nil_left.2 ⟨?_, List.mem_singleton_self _⟩⟩
      exact Bool.eq_false_iff.1 misplaced

/-- A transfer without a reverse, or whose first reverse takes another time. -/
inductive TransferIssue (c : Container) : QualityIssue → Prop where
  | missing {source : Nat} {t : Transfer} : source < c.stopPoints.size → t ∈ transfersOf c source →
      (transfersOf c t.targetStop.toNat).find? (·.targetStop.toNat == source) = none →
      TransferIssue c (.missingReverseTransfer source t.targetStop.toNat)
  | asymmetric {source : Nat} {t reverse : Transfer} : source < c.stopPoints.size →
      t ∈ transfersOf c source →
      (transfersOf c t.targetStop.toNat).find? (·.targetStop.toNat == source) = some reverse →
      reverse.duration ≠ t.duration →
      TransferIssue c (.asymmetricTransfer source t.targetStop.toNat)

theorem mem_transferIssues : issue ∈ transferIssues c ↔ TransferIssue c issue := by
  constructor
  · intro mem
    obtain ⟨source, inside, mem⟩ := List.mem_flatMap.1 mem
    rw [List.mem_range] at inside
    obtain ⟨t, walk, found⟩ := List.mem_filterMap.1 mem
    unfold transferIssue? at found
    dsimp only at found
    split at found
    · cases found
      exact .missing inside walk ‹_›
    · obtain ⟨differs, same⟩ := Option.ite_none_left_eq_some.1 found
      cases same
      exact .asymmetric inside walk ‹_› differs
  · intro issued
    cases issued with
    | @missing source t inside walk none_ =>
      refine List.mem_flatMap.2 ⟨source, List.mem_range.2 inside, List.mem_filterMap.2 ⟨t, walk, ?_⟩⟩
      simp only [transferIssue?, none_]
    | @asymmetric source t reverse inside walk found differs =>
      refine List.mem_flatMap.2 ⟨source, List.mem_range.2 inside, List.mem_filterMap.2 ⟨t, walk, ?_⟩⟩
      simp only [transferIssue?, found, if_neg differs]

/-! ## All issues -/

theorem mem_qualityIssues : issue ∈ qualityIssues c ↔
    BoardingIssue c issue ∨ CoordinateIssue c issue ∨
      (∃ journey pattern times, c.LiesIn journey pattern ∧
        c.vehicleJourneyStopTimes? pattern journey = some times ∧
          TimeIssue journey 0 none times.slice issue) ∨
      TransferIssue c issue := by
  rw [qualityIssues, List.mem_append, List.mem_append, List.mem_append, mem_boardingIssues,
    mem_coordinateIssues, mem_timeIssues, mem_transferIssues, or_assoc, or_assoc]

theorem alightingAtFirstStop_mem_iff {pattern : Nat} :
    .alightingAtFirstStop pattern ∈ qualityIssues c ↔ ∃ run point,
      c.patternPoints? pattern = some run ∧ run.slice.head? = some point ∧
        point.allowsAlighting := by
  rw [mem_qualityIssues]
  constructor
  · rintro (issued | issued | ⟨_, _, _, -, -, issued⟩ | issued) <;> cases issued
    exact ⟨_, _, ‹_›, ‹_›, ‹_›⟩
  · rintro ⟨run, point, points, first, alights⟩
    exact .inl (.first points first alights)

theorem boardingAtLastStop_mem_iff {pattern : Nat} :
    .boardingAtLastStop pattern ∈ qualityIssues c ↔ ∃ run point,
      c.patternPoints? pattern = some run ∧ run.slice.getLast? = some point ∧
        point.allowsBoarding := by
  rw [mem_qualityIssues]
  constructor
  · rintro (issued | issued | ⟨_, _, _, -, -, issued⟩ | issued) <;> cases issued
    exact ⟨_, _, ‹_›, ‹_›, ‹_›⟩
  · rintro ⟨run, point, points, last, boards⟩
    exact .inl (.last points last boards)

theorem firstArrivalNotZero_mem_iff {journey : Nat} :
    .firstArrivalNotZero journey ∈ qualityIssues c ↔ ∃ pattern times t,
      c.LiesIn journey pattern ∧ c.vehicleJourneyStopTimes? pattern journey = some times ∧
        times.slice[0]? = some t ∧ t.arrival ≠ 0 := by
  rw [mem_qualityIssues]
  constructor
  · rintro (issued | issued | ⟨_, pattern, times, lies, found, issued⟩ | issued) <;> cases issued
    exact ⟨pattern, times, _, lies, found, ‹_›, ‹_›⟩
  · rintro ⟨pattern, times, t, lies, found, at_, late⟩
    exact .inr (.inr (.inl ⟨journey, pattern, times, lies, found, .first rfl at_ late⟩))

theorem departureBeforeArrival_mem_iff {journey stop : Nat} :
    .departureBeforeArrival journey stop ∈ qualityIssues c ↔ ∃ pattern times t,
      c.LiesIn journey pattern ∧ c.vehicleJourneyStopTimes? pattern journey = some times ∧
        times.slice[stop]? = some t ∧ t.departure < t.arrival := by
  rw [mem_qualityIssues]
  constructor
  · rintro (issued | issued | ⟨_, pattern, times, lies, found, issued⟩ | issued) <;> cases issued
    rw [Nat.zero_add]
    exact ⟨pattern, times, _, lies, found, ‹_›, ‹_›⟩
  · rintro ⟨pattern, times, t, lies, found, at_, early⟩
    refine .inr (.inr (.inl ⟨journey, pattern, times, lies, found, ?_⟩))
    rw [← Nat.zero_add stop]
    exact .departure at_ early

/-- A journey arrives too early at the stop behind another one, never at its first stop. -/
theorem negativeTravelTime_mem_iff {journey stop : Nat} :
    .negativeTravelTime journey stop ∈ qualityIssues c ↔ ∃ pattern times before t i,
      c.LiesIn journey pattern ∧ c.vehicleJourneyStopTimes? pattern journey = some times ∧
        stop = i + 1 ∧ times.slice[i]? = some before ∧ times.slice[i + 1]? = some t ∧
          t.arrival < before.departure := by
  rw [mem_qualityIssues]
  constructor
  · rintro (issued | issued | ⟨_, pattern, times, lies, found, issued⟩ | issued) <;> cases issued
    rename_i stop t _ at_ departed early
    cases stop with
    | zero => cases departed
    | succ i =>
      obtain ⟨before, there, rfl⟩ := Option.map_eq_some_iff.1 departed
      exact ⟨pattern, times, before, t, i, lies, found, Nat.zero_add _, there, at_, early⟩
  · rintro ⟨pattern, times, before, t, i, lies, found, rfl, there, at_, early⟩
    refine .inr (.inr (.inl ⟨journey, pattern, times, lies, found, ?_⟩))
    rw [← Nat.zero_add (i + 1)]
    exact .travel at_ (Option.map_eq_some_iff.2 ⟨before, there, rfl⟩) early

end Audit

end TransitStore
