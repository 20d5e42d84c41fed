import TransitStore.Feed.Record
import TransitStore.Import.Lookup
import TransitStore.Network.JourneyPattern
import TransitStore.Network.VehicleJourney

/-!
# Trips of a feed

A trip is followed through the stop times that name it.  Trips that cannot be
followed are dropped, and so are trips of unknown routes.  The others are
grouped: trips of one line along the same stops, with the same boarding rules
and the same headsign, share a journey pattern.
-/

namespace TransitStore.Import

/-! ## Following trips -/

/-- A stop of a trip that was followed.  Times are seconds since midnight. -/
structure Visit where
  /-- The row of the stop point. -/
  stop : UInt16
  /-- Who may get on and off. -/
  attributes : UInt8
  arrival : Nat
  departure : Nat
deriving DecidableEq, Repr

/-- The stop times of a feed by the identifiers of their trips, each list in the
order of the stops, and in the order of the feed where that leaves a choice. -/
def stopTimesByTrip (stopTimes : List Feed.StopTime) :
    Std.HashMap String (List Feed.StopTime) :=
  let found : Std.HashMap String (List Feed.StopTime) :=
    stopTimes.foldl
      (fun found t => found.alter t.tripId fun list? => some (t :: list?.getD [])) ∅
  found.map fun _ list => list.reverse.mergeSort fun a b => a.sequence ≤ b.sequence

/-- Who may get on and off at a stop of a trip.  Nobody gets off at the first stop
or on at the last one. -/
def boardingRules (t : Feed.StopTime) (isFirst isLast : Bool) : UInt8 :=
  (if !isLast && t.pickup != .notAvailable then JourneyPatternPoint.boarding else 0) |||
    (if !isFirst && t.dropOff != .notAvailable then JourneyPatternPoint.alighting else 0)

/-- The visit of a stop time, if its stop is known and it has a time.  A missing
arrival or departure is like the other. -/
def visit? (stops : Lookup) (t : Feed.StopTime) (isFirst isLast : Bool) : Option Visit := do
  let stop ← stops[t.stopId]?
  let arrival ← t.arrival <|> t.departure
  let departure := t.departure.getD arrival
  return ⟨UInt16.ofNat stop, boardingRules t isFirst isLast, arrival.toNat, departure.toNat⟩

/-- The visits of a trip with these stop times.  It needs two or more. -/
def visits? (stops : Lookup) (times : List Feed.StopTime) : Option (List Visit) :=
  if times.length < 2 then none
  else
    times.zipIdx.mapM fun (t, i) => visit? stops t (i == 0) (i + 1 == times.length)

/-- A trip with its visits. -/
structure FollowedTrip where
  trip : Feed.Trip
  visits : List Visit
deriving DecidableEq, Repr

/-- Follows a trip. -/
def follow? (times : Std.HashMap String (List Feed.StopTime)) (stops : Lookup)
    (trip : Feed.Trip) : Option FollowedTrip :=
  (times[trip.id]?.bind (visits? stops)).map fun visits => ⟨trip, visits⟩

namespace FollowedTrip

/-- The first arrival. -/
def firstArrival (t : FollowedTrip) : Nat := (t.visits.head?.map (·.arrival)).getD 0

/-- The first departure. -/
def firstDeparture (t : FollowedTrip) : Nat := (t.visits.head?.map (·.departure)).getD 0

/-- The flags of the vehicle journey. -/
def attributes (t : FollowedTrip) : UInt16 :=
  (if t.trip.wheelchairAccessible = .available then VehicleJourney.wheelchairAccessible else 0) |||
    (if t.trip.bikesAllowed = .atLeastOneBike then VehicleJourney.bikeAccepted else 0)

/-- The stop times of the vehicle journey, counted from the first arrival. -/
def stopTimes (t : FollowedTrip) : List StopTime :=
  t.visits.map fun v =>
    ⟨.ofSeconds (v.arrival - t.firstArrival), .ofSeconds (v.departure - t.firstArrival)⟩

end FollowedTrip

/-! ## Grouping trips -/

/-- What trips of one journey pattern have in common. -/
structure PatternKey where
  /-- The row of the line. -/
  line : UInt16
  /-- The rows of the stop points. -/
  stops : List UInt16
  /-- Who may get on and off at them. -/
  attributes : List UInt8
  /-- What the vehicle shows. -/
  headsign : String
deriving DecidableEq, Hashable, Repr

/-- The key of a trip of a line. -/
def PatternKey.of (line : Nat) (t : FollowedTrip) : PatternKey :=
  ⟨UInt16.ofNat line, t.visits.map (·.stop), t.visits.map (·.attributes), t.trip.headsign.getD ""⟩

/-- The points of a journey pattern. -/
def PatternKey.points (key : PatternKey) : List JourneyPatternPoint.Draft :=
  (key.stops.zip key.attributes).map fun (stop, attributes) => ⟨stop, key.headsign, attributes⟩

/-- Trips by key. -/
structure Groups where
  /-- The keys, in order of appearance. -/
  keys : Array PatternKey := #[]
  /-- The trips of each key, the last one first. -/
  trips : Std.HashMap PatternKey (List FollowedTrip) := ∅

/-- Adds a trip. -/
def Groups.add (g : Groups) (key : PatternKey) (t : FollowedTrip) : Groups :=
  let ⟨keys, trips⟩ := g
  let keys := if trips.contains key then keys else keys.push key
  ⟨keys, trips.alter key fun list? => some (t :: list?.getD [])⟩

/-- Trips grouped by key, the keys in order of appearance and the trips of a key
in order of departure. -/
def group (trips : List (PatternKey × FollowedTrip)) : List (PatternKey × List FollowedTrip) :=
  let groups : Groups := trips.foldl (fun g (key, t) => Groups.add g key t) {}
  groups.keys.toList.map fun key =>
    let list := (groups.trips.getD key []).reverse
    (key, list.mergeSort fun a b => a.firstDeparture ≤ b.firstDeparture)

/-- Cuts a list into pieces of `size + 1` elements.  The last piece may be shorter. -/
def chunks {α : Type} (size : Nat) : List α → List (List α)
  | [] => []
  | a :: rest => (a :: rest.take size) :: chunks size (rest.drop size)
termination_by list => list.length

/-- The trips of known routes with their keys. -/
def withKeys (lines : Lookup) (trips : List FollowedTrip) : List (PatternKey × FollowedTrip) :=
  trips.filterMap fun t => lines[t.trip.routeId]?.map fun line => (.of line t, t)

end TransitStore.Import
