import Mathlib
import TransitStore.Proofs.Import.StopPatterns

/-!
# The quality of imported feeds

However careless a feed is about who may get on and off, the ends of imported journey patterns
are clean, and so is the first stop of each vehicle journey, whose times count from there.  A
feed whose trips go forward in time yields vehicle journeys that do: the order of times outlives
counting from the first arrival, the steps of four seconds, and the end of what sixteen
bits can count (`forward_relativeTimes`).
-/

namespace TransitStore.Import

open Audit (qualityIssues)
open Container

/-- The times of a trip never go back, neither at a stop nor between two of them. -/
def Forward (feed : Feed) (trip : Feed.Trip) : Prop :=
  ((timesOf feed trip).flatMap fun t => [arrivalOf t, departureOf t]).IsChain (· ≤ ·)

/-- What is never found in an imported container: passengers that get off first or on last, and
a first stop where a vehicle is late or departs before it arrives. -/
structure CleanEnds (c : Container) : Prop where
  alighting : ∀ pattern, .alightingAtFirstStop pattern ∉ qualityIssues c
  boarding : ∀ pattern, .boardingAtLastStop pattern ∉ qualityIssues c
  arrival : ∀ journey, .firstArrivalNotZero journey ∉ qualityIssues c
  departure : ∀ journey, .departureBeforeArrival journey 0 ∉ qualityIssues c

/-- No vehicle journey goes back in time. -/
structure CleanTimes (c : Container) : Prop where
  departure : ∀ journey stop, .departureBeforeArrival journey stop ∉ qualityIssues c
  travel : ∀ journey stop, .negativeTravelTime journey stop ∉ qualityIssues c

variable {feed : Feed} {options : Options} {trip : Feed.Trip} {c : Container}

/-! ## Times of trips -/

theorem getElem?_relativeTimes {stop : Nat} {t : StopTime}
    (at_ : (relativeTimes feed trip)[stop]? = some t) : ∃ time,
      (timesOf feed trip)[stop]? = some time ∧
        t = ⟨.ofSeconds (arrivalOf time - baseOf feed trip),
          .ofSeconds (departureOf time - baseOf feed trip)⟩ := by
  rw [relativeTimes, List.getElem?_map, Option.map_eq_some_iff] at at_
  obtain ⟨time, at_, same⟩ := at_
  exact ⟨time, at_, same.symm⟩

/-- Times are counted from the first arrival. -/
theorem arrival_first {t : StopTime} (at_ : (relativeTimes feed trip)[0]? = some t) :
    t.arrival = 0 := by
  obtain ⟨time, first, rfl⟩ := getElem?_relativeTimes at_
  rw [baseOf, List.head?_eq_getElem?, first, Option.map_some, Option.getD_some, Nat.sub_self]
  rfl

section

variable (forward : Forward feed trip)

include forward

theorem Forward.departure {stop : Nat} {time : Feed.StopTime}
    (at_ : (timesOf feed trip)[stop]? = some time) : arrivalOf time ≤ departureOf time := by
  obtain ⟨front, rest, split, -⟩ := exists_split_of_getElem? at_
  rw [Forward, split, List.flatMap_append, List.flatMap_cons] at forward
  exact (List.isChain_cons_cons.1 forward.right_of_append).1

theorem Forward.travel {stop : Nat} {before time : Feed.StopTime}
    (first : (timesOf feed trip)[stop]? = some before)
    (second : (timesOf feed trip)[stop + 1]? = some time) :
    departureOf before ≤ arrivalOf time := by
  obtain ⟨front, rest, split, rfl⟩ := exists_split_of_getElem? first
  rw [split, List.getElem?_append_right (Nat.le_add_right _ 1), Nat.add_sub_cancel_left,
    List.getElem?_cons_succ] at second
  cases rest with
  | nil => cases second
  | cons time' rest =>
    cases second
    rw [Forward, split, List.flatMap_append, List.flatMap_cons, List.flatMap_cons] at forward
    have behind := (List.isChain_cons_cons.1 forward.right_of_append).2
    exact (List.isChain_cons_cons.1 behind).1

/-- The order of the times outlives the first arrival that they are counted from and the steps
they are counted in. -/
theorem Forward.relativeTimes_departure {stop : Nat} {t : StopTime}
    (at_ : (relativeTimes feed trip)[stop]? = some t) : t.arrival ≤ t.departure := by
  obtain ⟨time, given, rfl⟩ := getElem?_relativeTimes at_
  exact ofSeconds_le (Nat.sub_le_sub_right (forward.departure given) _)

theorem Forward.relativeTimes_travel {stop : Nat} {before t : StopTime}
    (first : (relativeTimes feed trip)[stop]? = some before)
    (second : (relativeTimes feed trip)[stop + 1]? = some t) : before.departure ≤ t.arrival := by
  obtain ⟨time, given, rfl⟩ := getElem?_relativeTimes first
  obtain ⟨time', given', rfl⟩ := getElem?_relativeTimes second
  exact ofSeconds_le (Nat.sub_le_sub_right (forward.travel given given') _)

end

/-! ## Imported containers -/

section

variable {imported : Imported} (h : run feed options = .ok imported)

include h

/-- A vehicle journey in a pattern is that of a trip. -/
theorem exists_journeyOf {journey pattern : Nat}
    (lies : imported.container.LiesIn journey pattern) : ∃ trip ∈ keptTrips feed,
      JourneyOf feed options imported.container trip pattern journey := by
  obtain ⟨carries, -⟩ := carries_of_run h
  have inside : journey < (laidTrips feed).length := by
    obtain ⟨run, -, -, stop⟩ := lies
    exact carries.size ▸ stop.trans_le run.stop_le
  refine ⟨(laidTrips feed)[journey], carries.usable.mem_iff.1 (List.getElem_mem inside), ?_⟩
  exact carries.journeyOf journey pattern _ (List.getElem?_eq_getElem inside) lies

/-- The stop times along a pattern are those of a trip. -/
theorem exists_trip_of_times {journey pattern : Nat}
    {times : Span imported.container.stopTimes.rows.size}
    (lies : imported.container.LiesIn journey pattern)
    (found : imported.container.vehicleJourneyStopTimes? pattern journey = some times) :
    ∃ trip ∈ keptTrips feed, times.slice = relativeTimes feed trip := by
  obtain ⟨trip, kept, journeyOf⟩ := exists_journeyOf h lies
  obtain ⟨times', found', slice⟩ := journeyOf.times
  cases found.symm.trans found'
  exact ⟨trip, kept, slice⟩

/-- A point of a pattern is that of a trip at the same place. -/
theorem exists_trip_of_point {pattern place : Nat}
    {points : Span imported.container.journeyPatternPoints.rows.size} {point : JourneyPatternPoint}
    (found : imported.container.patternPoints? pattern = some points)
    (at_ : points.slice[place]? = some point) : ∃ trip time,
      PointOf imported.container.pool trip points.slice.length (time, place) point := by
  obtain ⟨_, _, _, laid, -⟩ := laid_of_run h
  obtain ⟨p, there, -⟩ := Option.bind_eq_some_iff.1 found
  obtain ⟨journey, lies⟩ := exists_liesIn laid (Array.getElem?_eq_some_iff.1 there).1
  obtain ⟨trip, -, journeyOf⟩ := exists_journeyOf h lies
  obtain ⟨points', found', along⟩ := journeyOf.points
  cases found.symm.trans found'
  have length := along.length_eq
  rw [List.length_zipIdx] at length
  have same := rel_getElem?_of_forall₂ along place
  rw [at_, List.getElem?_zipIdx, Nat.zero_add, length] at same
  generalize (timesOf feed trip)[place]? = time? at same
  cases time? with
  | none => cases same
  | some time =>
    cases same with
    | some point => exact ⟨trip, time, point⟩

/-- Whatever a feed says of boarding and of times, the ends of what it yields are clean. -/
theorem cleanEnds_of_run : CleanEnds imported.container := by
  refine ⟨?alighting, ?boarding, ?arrival, ?departure⟩
  case alighting =>
    intro pattern found
    obtain ⟨run, point, points, first, alights⟩ := Audit.alightingAtFirstStop_mem_iff.1 found
    rw [List.head?_eq_getElem?] at first
    obtain ⟨trip, time, rules⟩ := exists_trip_of_point h points first
    exact (rules.alighting.1 alights).1 rfl
  case boarding =>
    intro pattern found
    obtain ⟨run, point, points, last, boards⟩ := Audit.boardingAtLastStop_mem_iff.1 found
    rw [List.getLast?_eq_getElem?] at last
    obtain ⟨trip, time, rules⟩ := exists_trip_of_point h points last
    have some_ := (List.getElem?_eq_some_iff.1 last).1
    have place : run.slice.length - 1 + 1 = run.slice.length := by omega
    exact (rules.boarding.1 boards).1 place
  case arrival =>
    intro journey found
    obtain ⟨pattern, times, t, lies, found, at_, late⟩ :=
      Audit.firstArrivalNotZero_mem_iff.1 found
    obtain ⟨trip, -, slice⟩ := exists_trip_of_times h lies found
    rw [slice] at at_
    exact late (arrival_first at_)
  case departure =>
    intro journey found
    obtain ⟨pattern, times, t, lies, found, at_, early⟩ :=
      Audit.departureBeforeArrival_mem_iff.1 found
    obtain ⟨trip, -, slice⟩ := exists_trip_of_times h lies found
    rw [slice] at at_
    rw [arrival_first at_] at early
    exact UInt16.not_lt_zero early

/-- If the trips that are kept go forward in time, so do the vehicle journeys. -/
theorem cleanTimes_of_run (forward : ∀ trip ∈ keptTrips feed, Forward feed trip) :
    CleanTimes imported.container := by
  constructor
  · intro journey stop found
    obtain ⟨pattern, times, t, lies, found, at_, early⟩ :=
      Audit.departureBeforeArrival_mem_iff.1 found
    obtain ⟨trip, kept, slice⟩ := exists_trip_of_times h lies found
    rw [slice] at at_
    exact UInt16.not_lt.2 ((forward trip kept).relativeTimes_departure at_) early
  · intro journey stop found
    obtain ⟨pattern, times, before, t, i, lies, found, -, first, second, early⟩ :=
      Audit.negativeTravelTime_mem_iff.1 found
    obtain ⟨trip, kept, slice⟩ := exists_trip_of_times h lies found
    rw [slice] at first second
    exact UInt16.not_lt.2 ((forward trip kept).relativeTimes_travel first second) early

end

/-- An import yields patterns and vehicle journeys with clean ends, and if all trips that are
kept go forward in time then the check of quality finds none that goes back. -/
theorem clean_of_run {imported : Imported} (h : run feed options = .ok imported) :
    CleanEnds imported.container ∧
      ((∀ trip ∈ keptTrips feed, Forward feed trip) → CleanTimes imported.container) :=
  ⟨cleanEnds_of_run h, cleanTimes_of_run h⟩

/-- Both trips go forward in time. -/
theorem clean_lateFirst : ∃ imported, run lateFirst chosenDay = .ok imported ∧
    CleanEnds imported.container ∧ CleanTimes imported.container := by
  obtain ⟨imported, made, -⟩ := run_lateFirst
  have kept : keptTrips lateFirst = lateFirst.trips := by decide
  have forward : ∀ trip ∈ keptTrips lateFirst, Forward lateFirst trip := by
    rw [kept]
    simp [lateFirst, Forward, timesOf, List.mergeSort, arrivalOf, departureOf]
  obtain ⟨ends, times⟩ := clean_of_run made
  exact ⟨imported, made, ends, times forward⟩

end TransitStore.Import
