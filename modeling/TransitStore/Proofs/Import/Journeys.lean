import Mathlib
import TransitStore.Proofs.Import.Build
import TransitStore.Proofs.Import.Layout

/-!
# Trips and vehicle journeys

An imported container has a vehicle journey for each usable trip of its feed and no
other (`Carries`).  Each lies in one journey pattern, which belongs to the route of the
trip and visits its stops in order, and its times are those of the trip, counted from
the first arrival (`JourneyOf`).
-/

namespace TransitStore.Import

open Entity Container

/-! ## Vehicle journeys of trips -/

/-- The second that the stop times of a trip count from: its first arrival. -/
def baseOf (feed : Feed) (trip : Feed.Trip) : Nat :=
  ((timesOf feed trip).head?.map arrivalOf).getD 0

/-- The stop times of a trip in coarse steps from its first arrival. -/
def relativeTimes (feed : Feed) (trip : Feed.Trip) : List StopTime :=
  (timesOf feed trip).map fun t =>
    ⟨.ofSeconds (arrivalOf t - baseOf feed trip), .ofSeconds (departureOf t - baseOf feed trip)⟩

/-- A record says of a vehicle journey what a trip is. -/
structure RecordOf (feed : Feed) (options : Options) (pool : Pool) (trip : Feed.Trip)
    (v : VehicleJourney) : Prop where
  id : pool.Reads v.id trip.id
  beginTime : v.beginTime = .ofSeconds (baseOf feed trip)
  wheelchairAccessible : v.attributes &&& VehicleJourney.wheelchairAccessible ≠ 0 ↔
    trip.wheelchairAccessible = .available
  bikesAllowed : v.attributes &&& VehicleJourney.bikeAccepted ≠ 0 ↔
    trip.bikesAllowed = .atLeastOneBike
  timeOffset : options.timeOffset? = .ok v.timeOffset

/-- A point says of one of the `count` stops of a trip, whose place is given, who may get on
and off and what is shown. -/
structure PointOf (pool : Pool) (trip : Feed.Trip) (count : Nat) (time : Feed.StopTime × Nat)
    (point : JourneyPatternPoint) : Prop where
  boarding : point.allowsBoarding = true ↔
    time.2 + 1 ≠ count ∧ time.1.pickup ≠ .notAvailable
  alighting : point.allowsAlighting = true ↔
    time.2 ≠ 0 ∧ time.1.dropOff ≠ .notAvailable
  headsign : pool.Reads point.headsign (trip.headsign.getD "")

/-- A vehicle journey in a journey pattern is that of a trip. -/
structure JourneyOf (feed : Feed) (options : Options) (c : Container) (trip : Feed.Trip)
    (pattern journey : Nat) : Prop where
  /-- The vehicle journey says what the trip is. -/
  record : ∃ v, c.vehicleJourneys.rows[journey]? = some v ∧ RecordOf feed options c.pool trip v
  /-- The pattern belongs to the last route with the trip's identifier. -/
  route : ∃ p, c.journeyPatterns.rows[pattern]? = some p ∧
    LastRow feed.routes (·.id = trip.routeId) p.route.toNat
  /-- The pattern visits the trip's stops, each the last stop point with its identifier. -/
  stops : ∃ stops, c.patternStopPoints? pattern = some stops ∧
    List.Forall₂ (fun time stop => LastRow (stopPoints feed) (·.id = time.stopId) stop.toNat)
      (timesOf feed trip) stops
  /-- Its points have the rules and the headsign of the trip. -/
  points : ∃ run, c.patternPoints? pattern = some run ∧
    List.Forall₂ (PointOf c.pool trip (timesOf feed trip).length) (timesOf feed trip).zipIdx
      run.slice
  /-- The stop times are those of the trip. -/
  times : ∃ run, c.vehicleJourneyStopTimes? pattern journey = some run ∧
    run.slice = relativeTimes feed trip

/-! ## What the pieces say -/

/-- Who may get on is not changed by who may get off. -/
theorem boardingRules_eq (t : Feed.StopTime) (isFirst isLast : Bool) :
    (boardingRules t isFirst isLast &&& JourneyPatternPoint.boarding != 0) =
      (!isLast && t.pickup != .notAvailable) ∧
    (boardingRules t isFirst isLast &&& JourneyPatternPoint.alighting != 0) =
      (!isFirst && t.dropOff != .notAvailable) := by
  rw [boardingRules]
  cases !isLast && t.pickup != .notAvailable <;> cases !isFirst && t.dropOff != .notAvailable
  all_goals decide

theorem forall₂_comp {α β γ : Type} {r : α → β → Prop} {s : β → γ → Prop} {l : List α}
    {m : List β} {n : List γ} (first : List.Forall₂ r l m) (second : List.Forall₂ s m n) :
    List.Forall₂ (fun a c => ∃ b, r a b ∧ s b c) l n := by
  induction first generalizing n with
  | nil =>
    cases second
    exact .nil
  | cons head _ ih =>
    cases second with
    | cons head' rest => exact .cons ⟨_, head, head'⟩ (ih rest)

theorem points_of (line : Nat) (t : FollowedTrip) : (PatternKey.of line t).points =
    t.visits.map fun v => ⟨v.stop, t.trip.headsign.getD "", v.attributes⟩ := by
  simp [PatternKey.points, PatternKey.of, List.zip_map', List.map_map]

namespace FollowedTrip.Along

variable {feed : Feed} {t : FollowedTrip} (along : t.Along feed)

include along

theorem firstArrival_eq : t.firstArrival = baseOf feed t.trip := by
  have arrivals := along.map_times fun arrival _ => arrival
  rw [FollowedTrip.firstArrival, baseOf, ← List.head?_map, ← List.head?_map, arrivals]

theorem stopTimes_eq : t.stopTimes = relativeTimes feed t.trip := by
  rw [FollowedTrip.stopTimes, relativeTimes, along.firstArrival_eq]
  exact along.map_times fun arrival departure => StopTime.mk
    (.ofSeconds (arrival - baseOf feed t.trip)) (.ofSeconds (departure - baseOf feed t.trip))

end FollowedTrip.Along

/-- The two flags of a vehicle journey do not disturb each other. -/
theorem attributes_iff (t : FollowedTrip) :
    (t.attributes &&& VehicleJourney.wheelchairAccessible ≠ 0 ↔
      t.trip.wheelchairAccessible = .available) ∧
    (t.attributes &&& VehicleJourney.bikeAccepted ≠ 0 ↔ t.trip.bikesAllowed = .atLeastOneBike) := by
  rw [FollowedTrip.attributes]
  by_cases wheelchair : t.trip.wheelchairAccessible = .available <;>
    by_cases bikes : t.trip.bikesAllowed = .atLeastOneBike
  all_goals
    simp only [wheelchair, bikes, if_true, if_false]
    decide

/-! ## Imported trips -/

variable {feed : Feed} {options : Options} {days : ServiceDays} {timeOffset : Int8}
  {modes : Array UInt8} {c : Container}

theorem getElem?_flatMap_pieces {front rest : List Piece} {key : PatternKey}
    {before after : List FollowedTrip} {t : FollowedTrip} :
    ((front ++ (key, before ++ t :: after) :: rest).flatMap (·.2))[
      (front.flatMap (·.2)).length + before.length]? = some t := by
  rw [List.flatMap_append, List.flatMap_cons, List.append_assoc, List.cons_append,
    ← List.append_assoc, ← List.length_append, List.getElem?_append_right (Nat.le_refl _),
    Nat.sub_self]
  rfl

/-- The trips of a feed in the order of their vehicle journeys. -/
def laidTrips (feed : Feed) : List Feed.Trip := ((piecesOf feed).flatMap (·.2)).map (·.trip)

/-- The points of a pattern go along the stop times of each of its trips. -/
theorem points_along {key : PatternKey} {t : FollowedTrip} {line : Nat} (along : t.Along feed)
    (same : key = .of line t) {points : List JourneyPatternPoint}
    (shown : List.Forall₂ (ShowsPoint c.pool) key.points points) :
    List.Forall₂ (fun time point =>
      (∃ row, LastRow (stopPoints feed) (·.id = time.1.stopId) row ∧
        point.stopPoint = UInt16.ofNat row) ∧
      PointOf c.pool t.trip (timesOf feed t.trip).length time point)
      (timesOf feed t.trip).zipIdx points := by
  rw [same, points_of, List.forall₂_map_left_iff] at shown
  refine (forall₂_comp along shown).imp fun time point both => ?_
  obtain ⟨v, visit, stop, attributes, headsign⟩ := both
  have rules : point.attributes = boardingRules time.1 (time.2 == 0)
      (time.2 + 1 == (timesOf feed t.trip).length) := attributes.trans visit.attributes
  obtain ⟨row, last, at_⟩ := visit.stop
  refine ⟨⟨row, last, stop.trans at_⟩, ?_, ?_, headsign⟩
  · rw [JourneyPatternPoint.allowsBoarding, rules, (boardingRules_eq _ _ _).1]
    simp
  · rw [JourneyPatternPoint.allowsAlighting, rules, (boardingRules_eq _ _ _).2]
    simp

theorem journeyOf_of_laid (laid : Laid days timeOffset modes (piecesOf feed) c)
    (offset : options.timeOffset? = .ok timeOffset) (routes : feed.routes.length < UInt16.size)
    (stops : (stopPoints feed).length < UInt16.size) {trip : Feed.Trip} {pattern journey : Nat}
    (at_ : (laidTrips feed)[journey]? = some trip) (lies : c.LiesIn journey pattern) :
    JourneyOf feed options c trip pattern journey := by
  obtain ⟨front, key, before, t, after, rest, pieces, rfl, rfl⟩ := laid.exists_of_liesIn lies
  have mem : (key, before ++ t :: after) ∈ piecesOf feed := by simp [pieces]
  obtain ⟨along, line, last, same⟩ :=
    along_of_mem_keyedTrips ((mem_piecesOf mem).2.2 t (by simp))
  rw [laidTrips, pieces, List.getElem?_map, getElem?_flatMap_pieces] at at_
  cases at_
  rw [pieces] at laid
  obtain ⟨v, found, shown⟩ := laid.journey_at
  obtain ⟨run, points, shownPoints⟩ := laid.points_at
  obtain ⟨times, foundTimes, -, slice⟩ := laid.stopTimes_at
  have pointsAlong := points_along along same shownPoints
  refine ⟨⟨v, found, ?_⟩, ⟨_, laid.pattern_at, ?_⟩, ⟨run.slice.map (·.stopPoint), ?_, ?_⟩,
    ⟨run, points, pointsAlong.imp fun _ _ both => both.2⟩, ⟨times, foundTimes, ?_⟩⟩
  · obtain ⟨-, beginTime, attributes, -, offset', -, -, -, -, id⟩ := shown
    refine ⟨id, ?_, ?_, ?_, ?_⟩
    · rw [beginTime, ← along.firstArrival_eq]
      rfl
    · rw [attributes]
      exact (attributes_iff t).1
    · rw [attributes]
      exact (attributes_iff t).2
    · rw [offset, offset']
      rfl
  · have row : (patternOf modes (front.flatMap (·.1.points)).length (front.flatMap (·.2)).length key
        (before ++ t :: after)).route.toNat = line := by
      rw [patternOf, same]
      exact UInt16.toNat_ofNat_of_lt' (last.lt_length.trans routes)
    rw [row]
    exact last
  · rw [Container.patternStopPoints?, points]
    rfl
  · rw [List.forall₂_map_right_iff]
    refine forall₂_zipIdx_iff.1 (pointsAlong.imp fun time point both => ?_)
    obtain ⟨⟨row, last, at_⟩, -⟩ := both
    rw [at_, UInt16.toNat_ofNat_of_lt' (last.lt_length.trans stops)]
    exact last
  · rw [slice, along.stopTimes_eq]

/-- The container of a feed carries its usable trips, one vehicle journey each. -/
structure Carries (feed : Feed) (options : Options) (c : Container) (trips : List Feed.Trip) :
    Prop where
  /-- The trips are the usable ones, each as often as the feed has it. -/
  usable : trips.Perm (feed.trips.filter fun trip => Usable feed trip)
  /-- Each trip has a vehicle journey. -/
  size : c.vehicleJourneys.size = trips.length
  /-- The vehicle journeys of the patterns are all vehicle journeys, in order. -/
  journeyRuns : ∃ runs : List (Span c.vehicleJourneys.rows.size),
    runs.length = c.journeyPatterns.size ∧
      (∀ pattern, c.patternVehicleJourneys? pattern = runs[pattern]?) ∧ Span.Tiles runs
  /-- The points of the patterns are all points, in order. -/
  pointRuns : ∃ runs : List (Span c.journeyPatternPoints.rows.size),
    runs.length = c.journeyPatterns.size ∧
      (∀ pattern, c.patternPoints? pattern = runs[pattern]?) ∧ Span.Tiles runs
  /-- The stop times of the vehicle journeys are all stop times, in order. -/
  stopTimeRuns : ∃ runs : List (Span c.stopTimes.rows.size),
    runs.length = c.vehicleJourneys.size ∧
      (∀ pattern journey, c.LiesIn journey pattern →
        c.vehicleJourneyStopTimes? pattern journey = runs[journey]?) ∧ Span.Tiles runs
  /-- A vehicle journey lies in exactly one pattern. -/
  pattern : ∀ journey < c.vehicleJourneys.size, ∃! pattern, c.LiesIn journey pattern
  /-- There it is the one of its trip. -/
  journeyOf : ∀ journey pattern trip, trips[journey]? = some trip → c.LiesIn journey pattern →
    JourneyOf feed options c trip pattern journey
  /-- The stop points are rows by their place in the feed. -/
  stopRows : ∀ (row : Nat) (stop : Feed.Stop), (stopPoints feed)[row]? = some stop →
    ∃ r, c.stopPoints.rows[row]? = some r ∧ c.pool.Reads r.id stop.id
  /-- The routes are rows by their place in the feed, each with a line of its own. -/
  routeRows : ∀ (row : Nat) (route : Feed.Route), feed.routes[row]? = some route →
    ∃ r line, c.routes.rows[row]? = some r ∧ r.line.toNat = row ∧
      c.lines.rows[row]? = some line ∧ c.pool.Reads line.id route.id

theorem perm_laidTrips (feed : Feed) :
    (laidTrips feed).Perm (feed.trips.filter fun trip => Usable feed trip) := by
  rw [← map_trip_keyedTrips, laidTrips]
  have perm := (perm_piecesOf feed).map (·.trip)
  rwa [List.map_map] at perm

theorem length_le_of_told {l : Ledger} (same : Matches c l) (fits : Fits c) {e : Entity} {α : Type}
    {list : List α} {f : e.NewRow → String} {g : α → String}
    (told : (l.rows e).map f = list.map g) : list.length ≤ e.maxRows := by
  have length := congrArg List.length told
  rw [List.length_map, List.length_map, ← same.size e] at length
  exact length ▸ fits.tables e

theorem exists_shown {l : Ledger} (same : Matches c l) {e : Entity} {α : Type} {list : List α}
    {f : e.NewRow → String} {g : α → String} (told : (l.rows e).map f = list.map g) {row : Nat}
    {a : α} (at_ : list[row]? = some a) :
    ∃ d r, f d = g a ∧ (e.rows c)[row]? = some r ∧ e.Shows c.pool d r := by
  have there : ((l.rows e).map f)[row]? = some (g a) := by
    rw [told, List.getElem?_map, at_]
    rfl
  rw [List.getElem?_map, Option.map_eq_some_iff] at there
  obtain ⟨d, at', id⟩ := there
  obtain ⟨r, found, shown⟩ := exists_right_of_forall₂ (same.shows e) at'
  exact ⟨d, r, id, (Array.getElem?_toList ..).symm.trans found, shown⟩

theorem forall₂_journeyDrafts (start : Nat) (trips : List FollowedTrip) :
    List.Forall₂ (fun t d => ∃ place, d = journeyDraft days timeOffset t place) trips
      (journeyDrafts days timeOffset start trips) := by
  induction trips generalizing start with
  | nil => exact .nil
  | cons t trips ih => exact .cons ⟨start, rfl⟩ (ih _)

/-- A vehicle journey runs on the days of its trip's service. -/
theorem active_of_laid (laid : Laid days timeOffset modes (piecesOf feed) c) {journey : Nat}
    {trip : Feed.Trip} {v : VehicleJourney} (at_ : (laidTrips feed)[journey]? = some trip)
    (found : c.vehicleJourneys.rows[journey]? = some v) :
    v.active = days.getD trip.serviceId 0 := by
  have same := rel_getElem?_of_forall₂ (forall₂_comp (forall₂_journeyDrafts 0 _) laid.journeys)
    journey
  rw [laidTrips, List.getElem?_map, Option.map_eq_some_iff] at at_
  obtain ⟨t, at_, rfl⟩ := at_
  rw [at_, Array.getElem?_toList, found] at same
  cases same with
  | some both =>
    obtain ⟨d, ⟨place, rfl⟩, shown⟩ := both
    exact shown.2.2.2.1

theorem existsUnique_pattern (laid : Laid days timeOffset modes (piecesOf feed) c) {journey : Nat}
    (inside : journey < c.vehicleJourneys.size) : ∃! pattern, c.LiesIn journey pattern := by
  obtain ⟨runs, -, at_, tiles⟩ := laid.tiles_journeys
  have lies (pattern : Nat) : c.LiesIn journey pattern ↔
      ∃ run, runs[pattern]? = some run ∧ (⟨journey, inside⟩ : Fin _) ∈ run.rows := by
    rw [Container.LiesIn, at_]
    exact exists_congr fun run => and_congr_right fun _ =>
      (Span.mem_rows (s := run) (i := ⟨journey, inside⟩)).symm
  simp only [lies]
  exact tiles.existsUnique _

/-- Sixteen bits tell the lines apart, and the stop points: their tables are no longer. -/
theorem short_of_account {l : Ledger} (same : Matches c l)
    (account : Account feed days timeOffset modes l) (fits : Fits c) :
    feed.routes.length < UInt16.size ∧ (stopPoints feed).length < UInt16.size :=
  ⟨Nat.lt_succ_of_le (length_le_of_told same fits (e := line) (f := Line.Draft.id) account.lines),
    Nat.lt_succ_of_le (length_le_of_told same fits (e := stopPoint) (f := StopPoint.Draft.id)
      account.stopPoints)⟩

theorem carries_of_account {l : Ledger} (same : Matches c l)
    (account : Account feed days timeOffset modes l) (fits : Fits c)
    (offset : options.timeOffset? = .ok timeOffset) :
    Carries feed options c (laidTrips feed) := by
  have laid := laid_of_account same account fits
  obtain ⟨routes, stops⟩ := short_of_account same account fits
  refine ⟨perm_laidTrips feed, ?_, laid.tiles_journeys, laid.tiles_points, laid.tiles_stopTimes, ?_,
    ?_, ?_, ?_⟩
  · rw [laidTrips, List.length_map, laid.length_journeys]
    rfl
  · exact fun journey inside => existsUnique_pattern laid inside
  · exact fun journey pattern trip at_ lies => journeyOf_of_laid laid offset routes stops at_ lies
  · intro row stop at_
    obtain ⟨d, r, id, found, shown⟩ := exists_shown same (e := stopPoint)
      (f := StopPoint.Draft.id) account.stopPoints at_
    refine ⟨r, found, ?_⟩
    rw [← id]
    exact shown.2.2.2.2.2.1
  · intro row route_ at_
    obtain ⟨d, r, id, found, shown⟩ := exists_shown same (e := line)
      (f := Line.Draft.id) account.lines at_
    have lt := (List.getElem?_eq_some_iff.1 at_).1
    have told : l.routes[row]? = some ⟨UInt16.ofNat row⟩ := by
      rw [account.routes, List.getElem?_map, List.getElem?_range lt]
      rfl
    obtain ⟨own, at', shown'⟩ := exists_right_of_forall₂ (same.shows route) told
    cases shown'
    refine ⟨_, r, (Array.getElem?_toList ..).symm.trans at',
      UInt16.toNat_ofNat_of_lt' (lt.trans routes), found, ?_⟩
    rw [← id]
    exact shown.2.2.1

/-- The container of an import that succeeds was told what the feed says, and its tables fit. -/
theorem account_of_run {imported : Imported} (h : run feed options = .ok imported) :
    ∃ timeOffset start modes l, options.timeOffset? = .ok timeOffset ∧
      calendarStart? feed options = .ok start ∧ Matches imported.container l ∧
      Account feed (daysOf feed start options.keptDays) timeOffset modes l ∧
      Fits imported.container := by
  have fits : Fits imported.container := (holds_of_run Reachable.keeps .new h).fits
  obtain ⟨timeOffset, start, modes, l, offset, began, same, account⟩ :=
    account_addFeed (run_eq_ok h)
  exact ⟨timeOffset, start, modes, l, offset, began, same, account, fits⟩

/-- An import that succeeds carries the usable trips, on the days of their services. -/
theorem carries_of_run {imported : Imported} (h : run feed options = .ok imported) :
    Carries feed options imported.container (laidTrips feed) ∧
      ∃ start, calendarStart? feed options = .ok start ∧
        ∀ (journey : Nat) (trip : Feed.Trip) (v : VehicleJourney),
          (laidTrips feed)[journey]? = some trip →
            imported.container.vehicleJourneys.rows[journey]? = some v →
              v.active = (daysOf feed start options.keptDays).getD trip.serviceId 0 := by
  obtain ⟨timeOffset, start, modes, l, offset, began, same, account, fits⟩ := account_of_run h
  refine ⟨carries_of_account same account fits offset, start, began, ?_⟩
  exact fun journey trip v at_ found => active_of_laid (laid_of_account same account fits) at_ found

/-- An import that succeeds loses, doubles and alters no usable trip: there is an order of
the usable trips in which they are the vehicle journeys of the container. -/
theorem exists_carries_of_run {imported : Imported} (h : run feed options = .ok imported) :
    ∃ trips, Carries feed options imported.container trips :=
  ⟨_, (carries_of_run h).1⟩

/-- The trip of the feed is usable, and it is the one vehicle journey of the container. -/
theorem exists_carries_oneTrip : ∃ imported, run oneTrip chosenDay = .ok imported ∧
    imported.container.vehicleJourneys.size = 1 ∧
      Carries oneTrip chosenDay imported.container oneTrip.trips := by
  obtain ⟨imported, made, size⟩ := run_oneTrip
  obtain ⟨trips, carries⟩ := exists_carries_of_run made
  have usable : (oneTrip.trips.filter fun trip => Usable oneTrip trip) = oneTrip.trips := by decide
  have perm := carries.usable
  rw [usable] at perm
  have same : trips = oneTrip.trips := List.perm_singleton.1 perm
  exact ⟨imported, made, size, same ▸ carries⟩

end TransitStore.Import
