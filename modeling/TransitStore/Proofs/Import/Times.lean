import Mathlib
import TransitStore.Proofs.Import.Journeys

/-!
# Times of vehicle journeys

A vehicle journey is stored with the step of four seconds that its first arrival lies in, and
with its other times in steps from that arrival.  Both counts round down, and both end at the
last step there is a number for (`CoarseTime.isStepOf_ofSeconds`).  So the time that they add
up to is never late and at most six seconds early, as long as neither of them has ended
(`CoarseTime.faithful_ofSeconds`).  This holds of all times of an imported feed
(`exists_timed_of_run`).
-/

namespace TransitStore

namespace CoarseTime

/-- The seconds that there are steps for. -/
def span : Nat := 65536 * resolution

/-- A step is the one of a second. -/
structure IsStepOf (second : Nat) (step : CoarseTime) : Prop where
  /-- The second lies in the step, if there is one for it. -/
  near : second < span → step.toSeconds ≤ second ∧ second < step.toSeconds + resolution
  /-- A second that there is no step for has the last one. -/
  far : span ≤ second → step = 65535

theorem isStepOf_ofSeconds (second : Nat) : IsStepOf second (ofSeconds second) := by
  constructor
  · intro near
    simp only [span, resolution] at near
    simp only [toSeconds, toNat_ofSeconds, resolution]
    omega
  · intro far
    simp only [span, resolution] at far
    apply UInt16.toNat_inj.1
    rw [toNat_ofSeconds, resolution]
    show min (second / 4) 65535 = 65535
    omega

/-- A second of a trip is stored as the step of the first arrival, `base`, and the steps from
there. -/
structure Faithful (base second : Nat) (start relative : CoarseTime) : Prop where
  begins : IsStepOf base start
  /-- Steps are counted from the first arrival itself and not from the beginning of its step. -/
  counts : base ≤ second → IsStepOf (second - base) relative
  /-- What is before the first arrival is stored as at the first arrival. -/
  early : second < base → relative = 0
  /-- Unless a count has ended, both together are at most six seconds early. -/
  sum : base < span → base ≤ second → second < base + span →
    start.toSeconds + relative.toSeconds ≤ second ∧
      second ≤ start.toSeconds + relative.toSeconds + 6

theorem faithful_ofSeconds (base second : Nat) :
    Faithful base second (ofSeconds base) (ofSeconds (second - base)) := by
  have start := isStepOf_ofSeconds base
  have relative := isStepOf_ofSeconds (second - base)
  refine ⟨start, fun _ => relative, ?_, ?_⟩
  · intro early
    rw [Nat.sub_eq_zero_of_le early.le]
    rfl
  · intro near late close
    obtain ⟨first, first'⟩ := start.near near
    obtain ⟨rest, rest'⟩ := relative.near (by omega)
    have four : resolution = 4 := rfl
    omega

-- Six seconds are lost from the second 10 on, if the first arrival is at the second 3.
example : (ofSeconds 3).toSeconds + (ofSeconds (10 - 3)).toSeconds = 10 - 6 := by decide

end CoarseTime

namespace Import

open CoarseTime (Faithful)

/-- A vehicle journey is stored with the times of a trip, stop by stop. -/
def Timed (feed : Feed) (c : Container) (trip : Feed.Trip) (pattern journey : Nat) : Prop :=
  ∃ v times, c.vehicleJourneys.rows[journey]? = some v ∧
    c.vehicleJourneyStopTimes? pattern journey = some times ∧
      List.Forall₂ (fun time stored =>
        Faithful (baseOf feed trip) (arrivalOf time) v.beginTime stored.arrival ∧
          Faithful (baseOf feed trip) (departureOf time) v.beginTime stored.departure)
        (timesOf feed trip) times.slice

variable {feed : Feed} {options : Options} {c : Container} {trip : Feed.Trip}
  {pattern journey : Nat}

theorem JourneyOf.timed (journeyOf : JourneyOf feed options c trip pattern journey) :
    Timed feed c trip pattern journey := by
  obtain ⟨v, found, record⟩ := journeyOf.record
  obtain ⟨times, foundTimes, slice⟩ := journeyOf.times
  refine ⟨v, times, found, foundTimes, ?_⟩
  rw [slice, relativeTimes, List.forall₂_map_right_iff, List.forall₂_same, record.beginTime]
  intro time _
  exact ⟨CoarseTime.faithful_ofSeconds _ _, CoarseTime.faithful_ofSeconds _ _⟩

/-- An import that succeeds stores the usable trips, each with its times. -/
theorem exists_timed_of_run {imported : Imported} (h : run feed options = .ok imported) :
    ∃ trips, Carries feed options imported.container trips ∧
      ∀ journey trip, trips[journey]? = some trip → ∃ pattern,
        imported.container.LiesIn journey pattern ∧
          Timed feed imported.container trip pattern journey := by
  obtain ⟨carries, -⟩ := carries_of_run h
  refine ⟨laidTrips feed, carries, fun journey trip at_ => ?_⟩
  have inside : journey < imported.container.vehicleJourneys.size :=
    carries.size ▸ (List.getElem?_eq_some_iff.1 at_).1
  obtain ⟨pattern, lies, -⟩ := carries.pattern journey inside
  exact ⟨pattern, lies, (carries.journeyOf journey pattern trip at_ lies).timed⟩

/-- A feed with a trip that arrives at an odd second, stays for more than three days and then
is earlier than at its start. -/
def oddSeconds : Feed where
  __ := oneTrip
  stopTimes := [⟨"V", "S", some 3, none, 0, .regular, .regular⟩,
    ⟨"V", "T", some 10, some 300000, 1, .regular, .regular⟩,
    ⟨"V", "S", none, some 2, 2, .regular, .regular⟩]

/-- The trip once it was followed. -/
def oddTripFollowed : FollowedTrip :=
  ⟨⟨"V", "D", "R", none, .available, .noBikeInfo⟩,
    [⟨0, 2, 3, 3⟩, ⟨1, 6, 10, 300000⟩, ⟨0, 4, 2, 2⟩]⟩

theorem keyedTrips_oddSeconds :
    keyedTrips oddSeconds = [(.of 0 oddTripFollowed, oddTripFollowed)] := by
  obtain ⟨first, last⟩ := stopLookup_oneTrip
  have trip : follow? (stopTimesByTrip oddSeconds.stopTimes) (stopLookup oneTrip)
      ⟨"V", "D", "R", none, .available, .noBikeInfo⟩ = some oddTripFollowed := by
    have times : timesOf oddSeconds ⟨"V", "D", "R", none, .available, .noBikeInfo⟩ =
        [⟨"V", "S", some 3, none, 0, .regular, .regular⟩,
         ⟨"V", "T", some 10, some 300000, 1, .regular, .regular⟩,
          ⟨"V", "S", none, some 2, 2, .regular, .regular⟩] := by
      simp [timesOf, oddSeconds, List.mergeSort]
    simp [follow?_eq, times, visits?, visit?, first, last]
    decide
  have followed : oddSeconds.trips.filterMap
      (follow? (stopTimesByTrip oddSeconds.stopTimes) (stopLookup oddSeconds)) =
        [oddTripFollowed] := by
    show List.filterMap (follow? _ (stopLookup oneTrip)) [_] = _
    simp [trip]
  rw [keyedTrips, followed, show oddSeconds.routes = oneTrip.routes from rfl]
  show List.filterMap _ [_] = _
  rw [List.filterMap_cons, show oddTripFollowed.trip.routeId = "R" from rfl, lineLookup_oneTrip]
  rfl

theorem run_oddSeconds : ∃ imported, run oddSeconds chosenDay = .ok imported ∧
    imported.container.vehicleJourneys.size = 1 := by
  apply exists_run_of_size
  have trips := keyedTrips_oddSeconds
  rw [keyedTrips] at trips
  simp only [run, addFeed, addTrips, trips, group_singleton]
  decide +kernel

/-- The trip is the one vehicle journey.  Its second arrival, at the second 10, is stored six
seconds early, its second departure has the last step, and its third stop the first one. -/
theorem exists_timed_oddSeconds : ∃ imported, run oddSeconds chosenDay = .ok imported ∧
    ∃ trip pattern, oddSeconds.trips = [trip] ∧ imported.container.LiesIn 0 pattern ∧
      Timed oddSeconds imported.container trip pattern 0 := by
  obtain ⟨imported, made, -⟩ := run_oddSeconds
  obtain ⟨trips, carries, timed⟩ := exists_timed_of_run made
  have usable : (oddSeconds.trips.filter fun trip => Usable oddSeconds trip) =
      oddSeconds.trips := by
    decide
  have perm := carries.usable
  rw [usable] at perm
  have same : trips = oddSeconds.trips := List.perm_singleton.1 perm
  obtain ⟨pattern, lies, timed⟩ := timed 0 _ (by rw [same]; rfl)
  exact ⟨imported, made, _, pattern, rfl, lies, timed⟩

end Import

end TransitStore
