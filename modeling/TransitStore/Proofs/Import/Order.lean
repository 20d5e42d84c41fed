import Mathlib
import TransitStore.Proofs.Import.Calendar

/-!
# Rows in another order

The stop times of a trip are sorted before the trip is followed, and exceptions of
different services or dates do not meet.  So if no two rows stand for the same thing,
what is imported does not depend on the order of the stop times, of the services or of
the exceptions (`run_eq_of_reordered`).
-/

namespace TransitStore.Import

open Calendar (Date)

/-- A feed is another one with its stop times, services and exceptions in some other order. -/
structure Reordered (feed other : Feed) : Prop where
  stopTimes : other.stopTimes.Perm feed.stopTimes
  services : other.services.Perm feed.services
  exceptions : other.exceptions.Perm feed.exceptions
  rest : other = { feed with
    stopTimes := other.stopTimes, services := other.services, exceptions := other.exceptions }

/-- No two stop times of a trip have the same place, no two services the same identifier, and
no two exceptions of a service the same date. -/
structure Distinct (feed : Feed) : Prop where
  stopTimes : (feed.stopTimes.map fun t => (t.tripId, t.sequence)).Nodup
  services : (feed.services.map (·.id)).Nodup
  exceptions : (feed.exceptions.map fun e => (e.serviceId, e.date)).Nodup

/-! ## Lists in another order -/

/-- Sorting by numbers that differ leaves nothing of the order that was. -/
theorem mergeSort_eq_of_perm {α : Type} {f : α → Nat} {l l' : List α} (perm : l'.Perm l)
    (nodup : (l.map f).Nodup) :
    (l'.mergeSort fun a b => f a ≤ f b) = l.mergeSort fun a b => f a ≤ f b := by
  refine List.Perm.eq_of_pairwise ?_ (stablySorted_mergeSort f l').ordered
    (stablySorted_mergeSort f l).ordered
    ((List.mergeSort_perm _ _).trans (perm.trans (List.mergeSort_perm _ _).symm))
  intro a b memA memB le ge
  have memA := perm.subset (List.mem_mergeSort.1 memA)
  exact List.inj_on_of_nodup_map nodup memA (List.mem_mergeSort.1 memB) (Nat.le_antisymm le ge)

/-- If one row at most has a property, it is the last one in any order. -/
theorem last?_eq_of_perm {α : Type} {p : α → Prop} [DecidablePred p] {l l' : List α}
    (perm : l'.Perm l) (unique : ∀ a ∈ l, ∀ b ∈ l, p a → p b → a = b) : last? p l' = last? p l := by
  have found {l : List α} {a : α} (is : last? p l = some a) : a ∈ l ∧ p a := by
    obtain ⟨row, last, at_⟩ := last?_eq_some.1 is
    obtain ⟨b, at', holds⟩ := last.holds
    cases at_.symm.trans at'
    exact ⟨List.mem_of_getElem? at_, holds⟩
  cases here : last? p l with
  | none =>
    rw [last?_eq_none] at here ⊢
    exact fun a mem => here a (perm.subset mem)
  | some a =>
    obtain ⟨mem, holds⟩ := found here
    cases there : last? p l' with
    | none => exact absurd holds (last?_eq_none.1 there a (perm.symm.subset mem))
    | some b =>
      obtain ⟨mem', holds'⟩ := found there
      rw [unique b (perm.subset mem') a mem holds' holds]

theorem earliest?_eq_of_perm {l l' : List Date} (perm : l'.Perm l) :
    earliest? l' = earliest? l := by
  cases here : earliest? l with
  | none =>
    cases l with
    | nil => rw [perm.eq_nil]; rfl
    | cons => cases here
  | some first =>
    obtain ⟨mem, le⟩ := earliest?_eq_some here
    cases there : earliest? l' with
    | none =>
      cases l' with
      | nil => rw [List.nil_perm.1 perm] at mem; cases mem
      | cons => cases there
    | some other =>
      obtain ⟨mem', le'⟩ := earliest?_eq_some there
      have same : other.dayNumber = first.dayNumber :=
        le_antisymm (le' first (perm.symm.subset mem)) (le other (perm.subset mem'))
      cases first
      cases other
      cases same
      rfl

variable {feed other : Feed} {options : Options} {start : Date} {days : Nat}

namespace Reordered

variable (reordered : Reordered feed other)

include reordered

/-! ## Trips -/

theorem timesOf_eq (distinct : Distinct feed) (trip : Feed.Trip) :
    timesOf other trip = timesOf feed trip := by
  refine mergeSort_eq_of_perm (reordered.stopTimes.filter _) ?_
  have own : ((feed.stopTimes.filter (·.tripId == trip.id)).map fun t =>
      (t.tripId, t.sequence)).Nodup := distinct.stopTimes.sublist (List.filter_sublist.map _)
  refine List.pairwise_map.2 ((List.pairwise_map.1 own).imp_of_mem ?_)
  intro a b memA memB ne same
  have tripA := (List.mem_filter.1 memA).2
  have tripB := (List.mem_filter.1 memB).2
  rw [beq_iff_eq] at tripA tripB
  exact ne (Prod.ext (tripA.trans tripB.symm) (UInt16.toNat_inj.1 same))

theorem follow?_eq (distinct : Distinct feed) (stops : Lookup) :
    follow? (stopTimesByTrip other.stopTimes) stops =
      follow? (stopTimesByTrip feed.stopTimes) stops := by
  funext trip
  rw [Import.follow?_eq, Import.follow?_eq, reordered.timesOf_eq distinct]

/-! ## Days -/

theorem calendarStart?_eq (options : Options) :
    calendarStart? other options = calendarStart? feed options := by
  have dates := (reordered.services.map (·.start)).append (reordered.exceptions.map (·.date))
  rw [calendarStart?, calendarStart?, earliest?_eq_of_perm dates]

theorem operates_eq (distinct : Distinct feed) (service : String) (date : Date) :
    operates other service date = operates feed service date := by
  have exceptions : last? (fun e => e.serviceId = service ∧ e.date = date) other.exceptions =
      last? (fun e => e.serviceId = service ∧ e.date = date) feed.exceptions := by
    refine last?_eq_of_perm reordered.exceptions fun a memA b memB isA isB => ?_
    exact List.inj_on_of_nodup_map distinct.exceptions memA memB
      (Prod.ext (isA.1.trans isB.1.symm) (isA.2.trans isB.2.symm))
  have services : last? (·.id = service) other.services = last? (·.id = service) feed.services := by
    refine last?_eq_of_perm reordered.services fun a memA b memB isA isB => ?_
    exact List.inj_on_of_nodup_map distinct.services memA memB (isA.trans isB.symm)
  rw [operates, operates, exceptions, services]

theorem hasDay_daysOf_eq (distinct : Distinct feed) (small : days ≤ 32) (service : String)
    (day : Nat) : hasDay ((daysOf other start days).getD service 0) day =
      hasDay ((daysOf feed start days).getD service 0) day := by
  rw [Bool.eq_iff_iff, hasDay_daysOf small, hasDay_daysOf small]
  simp only [← operates_eq_true, reordered.operates_eq distinct]

theorem getD_daysOf_eq (distinct : Distinct feed) (small : days ≤ 32) (service : String) :
    (daysOf other start days).getD service 0 = (daysOf feed start days).getD service 0 := by
  rw [← UInt32.toBitVec_inj]
  refine BitVec.eq_of_getLsbD_eq fun day _ => ?_
  rw [← hasDay_eq_getLsbD, ← hasDay_eq_getLsbD, reordered.hasDay_daysOf_eq distinct small]

end Reordered

/-! ## Imports -/

/-- Vehicle journeys only ask for the days of their own services. -/
theorem addTrips_eq_of_days {days days' : ServiceDays}
    (same : ∀ service, days'.getD service 0 = days.getD service 0) (feed : Feed) (stops : Lookup)
    (lines : List Line.Draft) (timeOffset : Int8) :
    addTrips feed stops lines days' timeOffset = addTrips feed stops lines days timeOffset := by
  have journey : journeyDraft days' timeOffset = journeyDraft days timeOffset := by
    funext t stopTimes
    rw [journeyDraft, journeyDraft, same]
  have pattern : addPattern days' timeOffset = addPattern days timeOffset := by
    funext mode key trips
    rw [addPattern, addPattern, journey]
  have group : addGroup days' timeOffset = addGroup days timeOffset := by
    funext modes key trips
    rw [addGroup, addGroup, pattern]
  rw [addTrips, addTrips, group]

namespace Reordered

variable (reordered : Reordered feed other)

include reordered

theorem addTrips_eq (distinct : Distinct feed) (stops : Lookup) (lines : List Line.Draft)
    (days : ServiceDays) (timeOffset : Int8) :
    addTrips other stops lines days timeOffset = addTrips feed stops lines days timeOffset := by
  have trips : other.trips = feed.trips := by rw [reordered.rest]
  have routes : other.routes = feed.routes := by rw [reordered.rest]
  rw [addTrips, addTrips, trips, routes, reordered.follow?_eq distinct]

theorem addFeed_eq (distinct : Distinct feed) (options : Options) :
    addFeed other options = addFeed feed options := by
  have lines : addLines other = addLines feed := by rw [reordered.rest]; rfl
  have lookup : stopLookup other = stopLookup feed := by rw [reordered.rest]; rfl
  have stops : addStops other = addStops feed := by rw [reordered.rest]; rfl
  have zone : feedTimezone other = feedTimezone feed := by rw [reordered.rest]; rfl
  have days (start : Date) (lines : List Line.Draft) (timeOffset : Int8) :
      addTrips other (stopLookup feed) lines (daysOf other start options.keptDays) timeOffset =
        addTrips feed (stopLookup feed) lines (daysOf feed start options.keptDays) timeOffset := by
    rw [reordered.addTrips_eq distinct]
    exact addTrips_eq_of_days (reordered.getD_daysOf_eq distinct (Nat.min_le_right _ _)) ..
  simp only [addFeed, lines, lookup, stops, zone, reordered.calendarStart?_eq, days]

end Reordered

/-- If no two rows stand for the same thing, an import gives the same result, be it an error or
a container, in whatever order the stop times, the services and the exceptions are. -/
theorem run_eq_of_reordered (distinct : Distinct feed) (reordered : Reordered feed other)
    (options : Options) : run other options = run feed options := by
  rw [run, run, reordered.addFeed_eq distinct]

/-- A feed with its stop times, services and exceptions from the last to the first. -/
def backwards (feed : Feed) : Feed where
  __ := feed
  stopTimes := feed.stopTimes.reverse
  services := feed.services.reverse
  exceptions := feed.exceptions.reverse

theorem reordered_backwards (feed : Feed) : Reordered feed (backwards feed) where
  stopTimes := List.reverse_perm _
  services := List.reverse_perm _
  exceptions := List.reverse_perm _
  rest := rfl

/-- A feed whose trip runs on Thursdays and Fridays, but not on the first day. -/
def calendared : Feed where
  __ := oneTrip
  services := [⟨"E", false, false, false, false, false, false, true, dayOf 3, dayOf 9⟩,
    ⟨"D", false, false, false, true, true, false, false, dayOf 1, dayOf 8⟩]
  exceptions := [⟨"D", dayOf 1, false⟩, ⟨"D", dayOf 2, true⟩,
    ⟨"E", dayOf 1, true⟩]

theorem run_calendared : ∃ imported, run calendared {} = .ok imported ∧
    imported.container.vehicleJourneys.size = 1 := by
  have followed : calendared.trips.filterMap
      (follow? (stopTimesByTrip calendared.stopTimes) (stopLookup calendared)) =
        [oneTripFollowed] := followed_oneTrip
  have keyed : withKeys (lineLookup calendared.routes) [oneTripFollowed] =
      [(.of 0 oneTripFollowed, oneTripFollowed)] := withKeys_oneTrip
  apply exists_run_of_size
  simp only [run, addFeed, addTrips, followed, keyed, group_singleton]
  decide +kernel

/-- Read backwards, the feed gives the same container. -/
theorem run_backwards_calendared : ∃ imported, run (backwards calendared) {} = .ok imported ∧
    run calendared {} = .ok imported ∧ imported.container.vehicleJourneys.size = 1 := by
  obtain ⟨imported, made, size⟩ := run_calendared
  have distinct : Distinct calendared := ⟨by decide, by decide, by decide⟩
  have same := run_eq_of_reordered distinct (reordered_backwards calendared) {}
  exact ⟨imported, same.trans made, made, size⟩

end TransitStore.Import
