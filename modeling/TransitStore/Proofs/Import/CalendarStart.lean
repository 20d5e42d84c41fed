import Mathlib
import TransitStore.Proofs.Import.Calendar

/-!
# Where an imported calendar starts

The words of the vehicle journeys count the days from the date the calendar starts on.  The
container keeps midnight of that date as a number without a sign.  Such a number reaches past
the last date there is, but not into the time before 1970, so for an earlier date the start of
1970 is kept while the words go on counting from the date (`startsFrom_of_run`).
-/

namespace TransitStore

namespace Calendar

/-- Midnight of a date is an instant, which is the start of 1970 for all dates before that. -/
theorem Date.exists_instant (date : Date) :
    ∃ t, Instant.ofSeconds? (UInt64.ofNat date.midnight.toNat).toNat = some t ∧
      (t.seconds : Int) = max date.midnight 0 := by
  have last : date.midnight < (lastDay + 1) * 86400 := by
    have := date.le_lastDay
    unfold midnight
    omega
  have some_ : 0 < (lastDay + 1) * 86400 := by decide
  have few : (lastDay + 1) * 86400 < (UInt64.size : Int) := by decide
  have small : date.midnight.toNat < UInt64.size := by omega
  have inside : (date.midnight.toNat : Int) < (lastDay + 1) * 86400 := by omega
  rw [UInt64.toNat_ofNat_of_lt' small, Instant.ofSeconds?, dif_pos inside]
  exact ⟨_, rfl, Int.toNat_eq_max _⟩

theorem Date.midnight_nonneg {date : Date} : 0 ≤ date.midnight ↔ 0 ≤ date.dayNumber := by
  unfold midnight
  omega

/-- Days later, midnight is so many times 86400 seconds later. -/
theorem Date.addDays?_eq_some_iff_midnight {start date : Date} {days : Nat} :
    start.addDays? days = some date ↔ date.midnight = start.midnight + 86400 * days := by
  rw [addDays?_eq_some]
  unfold midnight
  omega

end Calendar

namespace Import

open Calendar (Date Instant)

variable {feed : Feed} {options : Options} {imported : Imported}

/-- Each day of a vehicle journey is one on which the feed has its trip run, where the days of
the calendar are counted from an instant. -/
def CountsFrom (feed : Feed) (options : Options) (c : Container) (trips : List Feed.Trip)
    (seconds : Int) : Prop :=
  ∀ (journey : Nat) (trip : Feed.Trip) (v : VehicleJourney), trips[journey]? = some trip →
    c.vehicleJourneys.rows[journey]? = some v → ∀ day : Nat,
      v.isActiveOn day = true ↔ day < min options.days.toNat 32 ∧
        ∃ date : Date, date.midnight = seconds + 86400 * day ∧ Operates feed trip.serviceId date

theorem calendarStart_addFeed {warnings : List Warning} {c : Container} {start : Date}
    (h : addFeed feed options {} = .ok warnings c)
    (began : calendarStart? feed options = .ok start) :
    c.metadata.calendarStart = UInt64.ofNat start.midnight.toNat := by
  obtain ⟨_, _, start', _, _, _, _, _, -, -, -, began', -, calendar, zone, index⟩ :=
    addFeed_eq_ok h
  cases began.symm.trans began'
  obtain rfl := Container.setCalendar_eq_ok calendar
  obtain ⟨_, _, -, rfl⟩ := Container.setTimezone_eq_ok zone
  obtain ⟨_, -, rfl⟩ := Container.buildStopIndex_eq_ok index
  rfl

theorem calendarStart?_of_run (h : run feed options = .ok imported) {start : Date}
    (began : calendarStart? feed options = .ok start) :
    ∃ t, imported.container.calendarStart? = some t ∧ (t.seconds : Int) = max start.midnight 0 := by
  rw [Container.calendarStart?, calendarStart_addFeed (run_eq_ok h) began]
  exact start.exists_instant

theorem countsFrom_of_run (h : run feed options = .ok imported) {start : Date}
    (began : calendarStart? feed options = .ok start) :
    CountsFrom feed options imported.container (laidTrips feed) start.midnight := by
  obtain ⟨-, start', began', active⟩ := carries_of_run h
  cases began.symm.trans began'
  intro journey trip v at_ found day
  rw [VehicleJourney.isActiveOn, active journey trip v at_ found]
  simp only [← Date.addDays?_eq_some_iff_midnight]
  exact hasDay_daysOf (Nat.min_le_right _ _) feed trip.serviceId day

/-- The words of the vehicle journeys count the days from the date the calendar starts on.  The
start of an imported calendar is midnight of that date, unless the date is before 1970.  Then it
is the start of 1970. -/
theorem startsFrom_of_run (h : run feed options = .ok imported) :
    ∃ start trips t, StartsOn feed options start ∧ Carries feed options imported.container trips ∧
      CountsFrom feed options imported.container trips start.midnight ∧
      imported.container.calendarStart? = some t ∧ (t.seconds : Int) = max start.midnight 0 ∧
      (0 ≤ start.dayNumber → (t.seconds : Int) = start.midnight ∧
        CountsFrom feed options imported.container trips t.seconds) := by
  obtain ⟨carries, start, began, -⟩ := carries_of_run h
  obtain ⟨t, kept, seconds⟩ := calendarStart?_of_run h began
  have counts := countsFrom_of_run h began
  refine ⟨start, laidTrips feed, t, startsOn_of_calendarStart? began, carries, counts, kept,
    seconds, fun late => ?_⟩
  have same : (t.seconds : Int) = start.midnight :=
    seconds.trans (max_eq_left (Date.midnight_nonneg.2 late))
  exact ⟨same, same ▸ counts⟩

theorem startsFrom_excepted : ∃ imported, run excepted {} = .ok imported ∧
    ∃ start trips t, StartsOn excepted {} start ∧ Carries excepted {} imported.container trips ∧
      CountsFrom excepted {} imported.container trips start.midnight ∧
      imported.container.calendarStart? = some t ∧ (t.seconds : Int) = max start.midnight 0 ∧
      (0 ≤ start.dayNumber → (t.seconds : Int) = start.midnight ∧
        CountsFrom excepted {} imported.container trips t.seconds) := by
  obtain ⟨imported, made, -⟩ := run_excepted
  exact ⟨imported, made, startsFrom_of_run made⟩

/-- The last day of the year 1969. -/
def eve : Date := ⟨-1, by decide, by decide⟩

/-- A feed whose trip runs on the last day of the year 1969 only. -/
def lastTrip : Feed where
  __ := oneTrip
  exceptions := [⟨"D", eve, true⟩]

theorem run_lastTrip : ∃ imported, run lastTrip {} = .ok imported ∧
    imported.container.vehicleJourneys.size = 1 := by
  have followed : lastTrip.trips.filterMap
      (follow? (stopTimesByTrip lastTrip.stopTimes) (stopLookup lastTrip)) = [oneTripFollowed] :=
    followed_oneTrip
  have keyed : withKeys (lineLookup lastTrip.routes) [oneTripFollowed] =
      [(.of 0 oneTripFollowed, oneTripFollowed)] := withKeys_oneTrip
  apply exists_run_of_size
  simp only [run, addFeed, addTrips, followed, keyed, group_singleton]
  decide +kernel

/-- The calendar is said to start on the first day of the year 1970, when the trip does not run.
But the first day in the word of the vehicle journey is the day before. -/
theorem startsLate_lastTrip : ∃ imported t v, run lastTrip {} = .ok imported ∧
    StartsOn lastTrip {} eve ∧ imported.container.calendarStart? = some t ∧
    (t.seconds : Int) ≠ eve.midnight ∧ t.seconds = (dayOf 0).midnight ∧
    imported.container.vehicleJourneys.rows[0]? = some v ∧ v.isActiveOn 0 = true ∧
    Operates lastTrip "D" eve ∧ ¬Operates lastTrip "D" (dayOf 0) := by
  obtain ⟨imported, made, size⟩ := run_lastTrip
  have began : calendarStart? lastTrip {} = .ok eve := rfl
  obtain ⟨t, kept, seconds⟩ := calendarStart?_of_run made began
  have zero : (t.seconds : Int) = 0 := seconds.trans (by decide)
  have usable : (lastTrip.trips.filter fun trip => Usable lastTrip trip) = lastTrip.trips := by
    decide
  have perm := (carries_of_run made).1.usable
  rw [usable] at perm
  have laid : laidTrips lastTrip = lastTrip.trips := List.perm_singleton.1 perm
  have inside : 0 < imported.container.vehicleJourneys.rows.size :=
    Nat.lt_of_lt_of_eq Nat.one_pos size.symm
  have found := Array.getElem?_eq_getElem inside
  have operates : Operates lastTrip "D" eve := by decide
  refine ⟨imported, t, _, made, startsOn_of_calendarStart? began, kept, ?_, zero, found, ?_,
    operates, by decide⟩
  · rw [zero]
    decide
  · exact (countsFrom_of_run made began 0 _ _ (by rw [laid]; rfl) found 0).2
      ⟨by decide, eve, by decide, operates⟩

end Import

end TransitStore
