import Mathlib
import TransitStore.Proofs.Import.Journeys

/-!
# Days of vehicle journeys

The days of a service are worked out service by service and exception by exception, in a
word for each identifier.  The word that comes out has the days that the feed says
(`hasDay_daysOf`): on a date the last exception decides, and where there is none the days
of the week of the last service (`Operates`).
-/

namespace TransitStore

namespace Calendar.Date

theorem ofDayNumber?_eq_some {n : Int} {date : Date} :
    ofDayNumber? n = some date ↔ date.dayNumber = n := by
  unfold ofDayNumber?
  split
  · rw [Option.some.injEq, Date.mk.injEq]
    exact eq_comm
  · rename_i outside
    refine iff_of_false nofun ?_
    rintro rfl
    exact outside ⟨date.firstDay_le, date.le_lastDay⟩

theorem addDays?_eq_some {start date : Date} {days : Nat} :
    start.addDays? days = some date ↔ date.dayNumber = start.dayNumber + days :=
  ofDayNumber?_eq_some

theorem dayNumber_earlier (a b : Date) :
    (a.earlier b).dayNumber = min a.dayNumber b.dayNumber := by
  unfold earlier
  split <;> omega

end Calendar.Date

namespace Import

open Calendar (Date)

theorem hasDay_dayBit {bit : Nat} (small : bit < 32) (day : Nat) :
    hasDay (dayBit bit) day = decide (day = bit) := by
  have word : (dayBit bit).toNat = 2 ^ bit := by
    rw [dayBit, Nat.one_shiftLeft]
    exact UInt32.toNat_ofNat_of_lt' (Nat.pow_lt_pow_right Nat.one_lt_two small)
  rw [hasDay, word, Nat.testBit_two_pow]
  by_cases same : day = bit
  · simp [same, small]
  · simp [same, Ne.symm same]

/-- A day that is set or taken out is decided, and the other days stay. -/
theorem hasDay_decided {bit : Nat} (small : bit < 32) (set : UInt32) (runs : Bool) (day : Nat) :
    hasDay (if runs then set ||| dayBit bit else set &&& ~~~(dayBit bit)) day =
      if bit = day then runs else hasDay set day := by
  by_cases same : bit = day
  · cases runs <;> simp [same, hasDay_and_not, hasDay_dayBit (same ▸ small)]
  · cases runs <;> simp [same, Ne.symm same, hasDay_and_not, hasDay_dayBit small]

/-! ## The first day -/

/-- The dates of a feed that its calendar can start on. -/
def datesOf (feed : Feed) : List Date := feed.services.map (·.start) ++ feed.exceptions.map (·.date)

/-- The calendar of a feed starts on a date. -/
inductive StartsOn (feed : Feed) (options : Options) (start : Date) : Prop where
  /-- The date was chosen. -/
  | chosen (chosen : options.calendarStart = some start)
  /-- None was chosen, and no date of the feed is earlier. -/
  | earliest (free : options.calendarStart = none) (mem : start ∈ datesOf feed)
    (le : ∀ date ∈ datesOf feed, start.dayNumber ≤ date.dayNumber)

theorem earliest?_eq_some {dates : List Date} {start : Date} (h : earliest? dates = some start) :
    start ∈ dates ∧ ∀ date ∈ dates, start.dayNumber ≤ date.dayNumber := by
  cases dates with
  | nil => cases h
  | cons d rest =>
    cases h
    induction rest using List.reverseRecOn with
    | nil => simp
    | append_singleton rest date ih =>
      obtain ⟨mem, le⟩ := ih
      rw [List.foldl_append, List.foldl_cons, List.foldl_nil, ← List.cons_append]
      set first := rest.foldl Date.earlier d
      constructor
      · unfold Date.earlier
        split
        · simp
        · exact List.mem_append_left _ mem
      · intro other mem'
        rw [Date.dayNumber_earlier]
        obtain before | behind := List.mem_append.1 mem'
        · exact (min_le_left _ _).trans (le other before)
        · rw [List.mem_singleton.1 behind]
          exact min_le_right _ _

variable {feed : Feed} {options : Options} {start : Date} {days : Nat} {service : String}

theorem startsOn_of_calendarStart? (h : calendarStart? feed options = .ok start) :
    StartsOn feed options start := by
  unfold calendarStart? at h
  cases chosen : options.calendarStart with
  | some date =>
    rw [chosen] at h
    cases h
    exact .chosen chosen
  | none =>
    rw [chosen] at h
    dsimp only at h
    split at h
    · rename_i date found
      cases h
      obtain ⟨mem, le⟩ := earliest?_eq_some found
      exact .earliest chosen mem le
    · cases h

/-! ## The days of a service -/

/-- A service has a day of the week among its days. -/
inductive RunsOnWeekday (service : Feed.Service) : Calendar.Weekday → Prop
  | monday : service.monday = true → RunsOnWeekday service .monday
  | tuesday : service.tuesday = true → RunsOnWeekday service .tuesday
  | wednesday : service.wednesday = true → RunsOnWeekday service .wednesday
  | thursday : service.thursday = true → RunsOnWeekday service .thursday
  | friday : service.friday = true → RunsOnWeekday service .friday
  | saturday : service.saturday = true → RunsOnWeekday service .saturday
  | sunday : service.sunday = true → RunsOnWeekday service .sunday

/-- A service runs on a date by its days of the week. -/
structure RegularlyOn (service : Feed.Service) (date : Date) : Prop where
  begun : service.start.dayNumber ≤ date.dayNumber
  unfinished : date.dayNumber ≤ service.finish.dayNumber
  weekday : RunsOnWeekday service date.weekday

/-- A feed has a service run on a date. -/
inductive Operates (feed : Feed) (service : String) (date : Date) : Prop where
  /-- The last exception of the service on the date is that it runs. -/
  | exceptionally {row : Nat} {e : Feed.ServiceException}
    (last : LastRow feed.exceptions (fun e => e.serviceId = service ∧ e.date = date) row)
    (at_ : feed.exceptions[row]? = some e) (runs : e.runs = true)
  /-- There is no exception, and the last service of the name runs by its days of the week. -/
  | regularly {row : Nat} {s : Feed.Service}
    (regular : ∀ e ∈ feed.exceptions, ¬ (e.serviceId = service ∧ e.date = date))
    (last : LastRow feed.services (·.id = service) row)
    (at_ : feed.services[row]? = some s) (runs : RegularlyOn s date)

theorem weekdayFlag_eq_true {s : Feed.Service} {day : Calendar.Weekday} :
    weekdayFlag s day = true ↔ RunsOnWeekday s day := by
  constructor
  · intro flag
    cases day <;> constructor <;> exact flag
  · intro runs
    cases runs <;> assumption

theorem runsOn_eq_true {s : Feed.Service} {date : Date} :
    runsOn s date = true ↔ RegularlyOn s date := by
  simp only [runsOn, Bool.and_eq_true, decide_eq_true_eq, weekdayFlag_eq_true]
  exact ⟨fun ⟨⟨begun, unfinished⟩, weekday⟩ => ⟨begun, unfinished, weekday⟩,
    fun ⟨begun, unfinished, weekday⟩ => ⟨⟨begun, unfinished⟩, weekday⟩⟩

/-- Whether a feed has a service run on a date. -/
def operates (feed : Feed) (service : String) (date : Date) : Bool :=
  match last? (fun e => e.serviceId = service ∧ e.date = date) feed.exceptions with
  | some e => e.runs
  | none => (last? (·.id = service) feed.services).any fun s => runsOn s date

theorem operates_eq_true {date : Date} :
    operates feed service date = true ↔ Operates feed service date := by
  unfold operates
  cases found : last? (fun e => e.serviceId = service ∧ e.date = date) feed.exceptions with
  | some e =>
    obtain ⟨row, last, at_⟩ := last?_eq_some.1 found
    constructor
    · exact .exceptionally last at_
    · rintro (⟨last', at', runs⟩ | ⟨regular, -, -, -⟩)
      · rw [last?_eq_some.2 ⟨_, last', at'⟩] at found
        cases found
        exact runs
      · rw [last?_eq_none.2 regular] at found
        cases found
  | none =>
    rw [Option.any_eq_true]
    constructor
    · rintro ⟨s, found', runs⟩
      obtain ⟨row, last, at_⟩ := last?_eq_some.1 found'
      exact .regularly (last?_eq_none.1 found) last at_ (runsOn_eq_true.1 runs)
    · rintro (⟨last, at_, -⟩ | ⟨-, last, at_, runs⟩)
      · rw [last?_eq_some.2 ⟨_, last, at_⟩] at found
        cases found
      · exact ⟨_, last?_eq_some.2 ⟨_, last, at_⟩, runsOn_eq_true.2 runs⟩

instance (date : Date) : Decidable (Operates feed service date) :=
  decidable_of_iff _ operates_eq_true

/-- The word of a service has the days on whose dates the service runs. -/
theorem hasDay_activeDays (small : days ≤ 32) (s : Feed.Service) (day : Nat) :
    hasDay (activeDays start days s) day =
      (decide (day < days) && (start.addDays? day).any (runsOn s)) := by
  induction days with
  | zero => simp [activeDays]
  | succ days ih =>
    have step : hasDay (activeDays start (days + 1) s) day =
        (hasDay (activeDays start days s) day ||
          (decide (day = days) && (start.addDays? days).any (runsOn s))) := by
      rw [activeDays, List.range_succ, List.foldl_append, List.foldl_cons, List.foldl_nil,
        ← activeDays]
      cases start.addDays? days with
      | none => simp
      | some date => cases runs : runsOn s date <;> simp [runs, hasDay_dayBit small]
    rw [step, ih (Nat.le_of_succ_le small)]
    by_cases same : day = days
    · simp [same]
    · have inside : day < days + 1 ↔ day < days := by omega
      simp [same, inside]

theorem getD_serviceDays (services : List Feed.Service) :
    (serviceDays start days services).getD service 0 =
      match last? (·.id = service) services with
      | some s => activeDays start days s
      | none => 0 := by
  induction services using List.reverseRecOn with
  | nil => simp [serviceDays, last?]
  | append_singleton services s ih =>
    rw [last?_concat, serviceDays, List.foldl_append, List.foldl_cons, List.foldl_nil,
      ← serviceDays, Std.HashMap.getD_insert]
    by_cases same : s.id = service
    · simp [same]
    · simpa [same] using ih

theorem calendarDay?_eq_some {date : Date} {day : Nat} :
    calendarDay? start days date = some day ↔ day < days ∧ start.addDays? day = some date := by
  rw [Date.addDays?_eq_some, calendarDay?, Date.daysTo]
  split
  · rw [Option.some.injEq]
    omega
  · refine iff_of_false nofun ?_
    omega

/-- An exception decides about its service on its day and about nothing else. -/
theorem hasDay_withException (small : days ≤ 32) (found : ServiceDays)
    (e : Feed.ServiceException) (day : Nat) :
    hasDay ((withException start days found e).getD service 0) day =
      if e.serviceId = service ∧ calendarDay? start days e.date = some day then e.runs
      else hasDay (found.getD service 0) day := by
  unfold withException
  cases at_ : calendarDay? start days e.date with
  | none => simp
  | some bit =>
    have inside : bit < 32 := (calendarDay?_eq_some.1 at_).1.trans_le small
    dsimp only
    rw [Std.HashMap.getD_insert]
    by_cases same : e.serviceId = service
    · simp [same, hasDay_decided inside]
    · simp [same]

theorem hasDay_foldl_withException (small : days ≤ 32) (found : ServiceDays)
    (exceptions : List Feed.ServiceException) (day : Nat) :
    hasDay ((exceptions.foldl (withException start days) found).getD service 0) day =
      match last? (fun e => e.serviceId = service ∧ calendarDay? start days e.date = some day)
        exceptions with
      | some e => e.runs
      | none => hasDay (found.getD service 0) day := by
  induction exceptions using List.reverseRecOn with
  | nil => simp [last?]
  | append_singleton exceptions e ih =>
    rw [List.foldl_append, List.foldl_cons, List.foldl_nil, hasDay_withException small, ih,
      last?_concat]
    split <;> rfl

theorem hasDay_daysOf_of_date (small : days ≤ 32) (feed : Feed) (service : String) {day : Nat}
    {date : Date} (inside : day < days) (at_ : start.addDays? day = some date) :
    hasDay ((daysOf feed start days).getD service 0) day = operates feed service date := by
  -- Inside the calendar an exception names the day exactly if it names its date.
  have names (other : Date) : calendarDay? start days other = some day ↔ other = date := by
    rw [calendarDay?_eq_some, at_, Option.some.injEq, and_iff_right inside, eq_comm]
  rw [daysOf, hasDay_foldl_withException small, getD_serviceDays, operates]
  simp only [names]
  cases last? (fun e => e.serviceId = service ∧ e.date = date) feed.exceptions with
  | some e => rfl
  | none =>
    cases last? (·.id = service) feed.services with
    | none => exact hasDay_zero day
    | some s => simp [hasDay_activeDays small, inside, at_]

/-- No word has a day outside the calendar or behind the last date there is. -/
theorem exists_date_of_hasDay (small : days ≤ 32) {day : Nat}
    (has : hasDay ((daysOf feed start days).getD service 0) day = true) :
    day < days ∧ ∃ date, start.addDays? day = some date := by
  -- The day came into the word by an exception or by the service, both of which have its date.
  rw [daysOf, hasDay_foldl_withException small, getD_serviceDays] at has
  split at has
  · rename_i e found
    obtain ⟨row, last, -⟩ := last?_eq_some.1 found
    obtain ⟨other, -, -, names⟩ := last.holds
    obtain ⟨inside, at_⟩ := calendarDay?_eq_some.1 names
    exact ⟨inside, _, at_⟩
  · split at has
    · rw [hasDay_activeDays small, Bool.and_eq_true, decide_eq_true_eq, Option.any_eq_true] at has
      obtain ⟨inside, date, at_, -⟩ := has
      exact ⟨inside, date, at_⟩
    · rw [hasDay_zero] at has
      cases has

/-- The word of a service has the days of the calendar on whose dates the feed has it run. -/
theorem hasDay_daysOf (small : days ≤ 32) (feed : Feed) (service : String) (day : Nat) :
    hasDay ((daysOf feed start days).getD service 0) day = true ↔
      day < days ∧ ∃ date, start.addDays? day = some date ∧ Operates feed service date := by
  constructor
  · intro has
    obtain ⟨inside, date, at_⟩ := exists_date_of_hasDay small has
    rw [hasDay_daysOf_of_date small feed service inside at_] at has
    exact ⟨inside, date, at_, operates_eq_true.1 has⟩
  · rintro ⟨inside, date, at_, runs⟩
    rw [hasDay_daysOf_of_date small feed service inside at_]
    exact operates_eq_true.2 runs

/-- A vehicle journey of a feed runs on the days of the calendar that the feed says. -/
theorem isActiveOn_of_run {imported : Imported} (h : run feed options = .ok imported) :
    ∃ start trips, StartsOn feed options start ∧ Carries feed options imported.container trips ∧
      ∀ (journey : Nat) (trip : Feed.Trip) (v : VehicleJourney), trips[journey]? = some trip →
        imported.container.vehicleJourneys.rows[journey]? = some v → ∀ day : Nat,
          v.isActiveOn day = true ↔ day < min options.days.toNat 32 ∧
            ∃ date, start.addDays? day = some date ∧ Operates feed trip.serviceId date := by
  obtain ⟨carries, start, began, active⟩ := carries_of_run h
  refine ⟨start, _, startsOn_of_calendarStart? began, carries, ?_⟩
  intro journey trip v at_ found day
  rw [VehicleJourney.isActiveOn, active journey trip v at_ found]
  exact hasDay_daysOf (Nat.min_le_right _ _) feed trip.serviceId day

/-- A feed whose trip runs on Thursdays and Fridays.  Its first service is replaced by the
second one, and its exceptions are the first day, the third day and the third day again. -/
def excepted : Feed where
  __ := oneTrip
  services := [⟨"D", false, false, false, false, false, true, true, dayOf 3, dayOf 9⟩,
    ⟨"D", false, false, false, true, true, false, false, dayOf 0, dayOf 4⟩]
  exceptions := [⟨"D", dayOf 0, false⟩, ⟨"D", dayOf 2, false⟩,
    ⟨"D", dayOf 2, true⟩]

theorem run_excepted : ∃ imported, run excepted {} = .ok imported ∧
    imported.container.vehicleJourneys.size = 1 := by
  have followed : excepted.trips.filterMap
      (follow? (stopTimesByTrip excepted.stopTimes) (stopLookup excepted)) = [oneTripFollowed] :=
    followed_oneTrip
  have keyed : withKeys (lineLookup excepted.routes) [oneTripFollowed] =
      [(.of 0 oneTripFollowed, oneTripFollowed)] := withKeys_oneTrip
  apply exists_run_of_size
  simp only [run, addFeed, addTrips, followed, keyed, group_singleton]
  decide +kernel

theorem startsOn_excepted {start : Date} (starts : StartsOn excepted {} start) :
    start = ⟨0, by decide, by decide⟩ := by
  cases starts with
  | chosen chosen => cases chosen
  | earliest _ mem le =>
    have first : ∀ date ∈ datesOf excepted, 0 ≤ date.dayNumber := by decide
    have least := le ⟨0, by decide, by decide⟩ (by decide)
    have zero : start.dayNumber = 0 := le_antisymm least (first start mem)
    cases start
    cases zero
    rfl

/-- The trip runs on the second day by its days of the week and on the third day by the last
exception. -/
theorem isActiveOn_excepted : ∃ imported v, run excepted {} = .ok imported ∧
    imported.container.vehicleJourneys.rows[0]? = some v ∧
      ∀ day : Nat, v.isActiveOn day = true ↔ day = 1 ∨ day = 2 := by
  obtain ⟨imported, made, size⟩ := run_excepted
  obtain ⟨start, trips, starts, carries, active⟩ := isActiveOn_of_run made
  have usable : (excepted.trips.filter fun trip => Usable excepted trip) = excepted.trips := by
    decide
  have perm := carries.usable
  rw [usable] at perm
  cases List.perm_singleton.1 perm
  cases startsOn_excepted starts
  have inside : 0 < imported.container.vehicleJourneys.rows.size :=
    Nat.lt_of_lt_of_eq Nat.one_pos size.symm
  have found := Array.getElem?_eq_getElem inside
  refine ⟨imported, _, made, found, fun day => ?_⟩
  rw [active 0 _ _ rfl found]
  have days : ∀ day < 32, ((⟨0, by decide, by decide⟩ : Date).addDays? day).any
      (operates excepted "D") = true ↔ day = 1 ∨ day = 2 := by decide +kernel
  simp only [Option.any_eq_true, operates_eq_true] at days
  constructor
  · rintro ⟨small, runs⟩
    exact (days day small).1 runs
  · intro chosen
    have small : day < 32 := by omega
    exact ⟨small, (days day small).2 chosen⟩

end Import

end TransitStore
