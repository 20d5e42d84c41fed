import TransitStore.Calendar.Date
import TransitStore.Feed.Columns

/-!
# Feeds

A feed describes the service of some agencies as lists of records that refer to
each other by identifiers.  Nothing is promised about them: identifiers may be
repeated or unknown and times may be missing.
-/

namespace TransitStore

namespace Feed

/-- An agency. -/
structure Agency where
  /-- The identifier, if there is one. -/
  id : Option String
  name : String
  /-- The address. -/
  url : String
  /-- The name of the time zone. -/
  timezone : String
deriving DecidableEq, Repr

/-- What a stop is. -/
inductive StopKind where
  /-- A place to board vehicles. -/
  | stopPoint
  /-- A group of stop points. -/
  | station
  /-- An entrance or anything else. -/
  | other
deriving DecidableEq, Repr

/-- A stop. -/
structure Stop where
  id : String
  /-- What it is. -/
  kind : StopKind
  name : Option String
  /-- The identifier of the station it belongs to. -/
  parent : Option String
  /-- Degrees to the north, a datum of the 64 bit floating point format. -/
  latitude : Option UInt64
  /-- Degrees to the east, a datum of the 64 bit floating point format. -/
  longitude : Option UInt64
  /-- The name of the time zone. -/
  timezone : Option String
  platformCode : Option String
deriving DecidableEq, Repr

/-- A kind of vehicle. -/
inductive RouteType where
  | tramway
  | subway
  | rail
  | bus
  | ferry
  | cableCar
  | gondola
  | funicular
  | coach
  | air
  | taxi
  /-- Any other kind, by its code. -/
  | other (code : Int)
deriving DecidableEq, Repr

/-- A route. -/
structure Route where
  id : String
  /-- The identifier of its agency. -/
  agencyId : Option String
  shortName : Option String
  longName : Option String
  /-- The kind of vehicle. -/
  type : RouteType
  color : Color
  textColor : Color
deriving DecidableEq, Repr

/-- Whether a vehicle takes something along. -/
inductive Availability where
  /-- Nothing is known. -/
  | informationNotAvailable
  | available
  | notAvailable
  /-- Anything else, by its code. -/
  | other (code : Int)
deriving DecidableEq, Repr

/-- Whether a vehicle takes bikes. -/
inductive BikesAllowed where
  /-- Nothing is known. -/
  | noBikeInfo
  | atLeastOneBike
  | noBikesAllowed
  /-- Anything else, by its code. -/
  | other (code : Int)
deriving DecidableEq, Repr

/-- A trip. -/
structure Trip where
  id : String
  /-- The identifier of its service. -/
  serviceId : String
  /-- The identifier of its route. -/
  routeId : String
  /-- What the vehicle shows. -/
  headsign : Option String
  /-- Whether it takes wheelchairs. -/
  wheelchairAccessible : Availability
  bikesAllowed : BikesAllowed
deriving DecidableEq, Repr

/-- How passengers get on or off. -/
inductive PickupDropOff where
  | regular
  /-- Not at all. -/
  | notAvailable
  /-- By arrangement with the agency. -/
  | arrangeByPhone
  /-- By arrangement with the driver. -/
  | coordinateWithDriver
  /-- Anything else, by its code. -/
  | other (code : Int)
deriving DecidableEq, Repr

/-- A stop of a trip.  Times are seconds since midnight. -/
structure StopTime where
  /-- The identifier of the trip. -/
  tripId : String
  /-- The identifier of the stop. -/
  stopId : String
  arrival : Option UInt32
  departure : Option UInt32
  /-- The place among the stops of the trip. -/
  sequence : UInt16
  /-- How passengers get on. -/
  pickup : PickupDropOff
  /-- How passengers get off. -/
  dropOff : PickupDropOff
deriving DecidableEq, Repr

/-- A service by days of the week. -/
structure Service where
  id : String
  /-- Whether it runs on Mondays, and so on. -/
  monday : Bool
  tuesday : Bool
  wednesday : Bool
  thursday : Bool
  friday : Bool
  saturday : Bool
  sunday : Bool
  /-- The first day. -/
  start : Calendar.Date
  /-- The last day. -/
  finish : Calendar.Date
deriving DecidableEq

/-- A day on which a service runs or does not run, whatever its days of the week. -/
structure ServiceException where
  /-- The identifier of the service. -/
  serviceId : String
  /-- The day. -/
  date : Calendar.Date
  /-- Whether it runs. -/
  runs : Bool
deriving DecidableEq

/-- A walk between stops. -/
structure Transfer where
  /-- The identifier of the stop it leads from. -/
  source : String
  /-- The identifier of the stop it leads to. -/
  target : String
  /-- The least time it takes, in seconds. -/
  minTime : Option UInt32
deriving DecidableEq, Repr

end Feed

/-- A feed. -/
structure Feed where
  agencies : List Feed.Agency := []
  stops : List Feed.Stop := []
  routes : List Feed.Route := []
  trips : List Feed.Trip := []
  /-- The stops of the trips. -/
  stopTimes : List Feed.StopTime := []
  services : List Feed.Service := []
  /-- The exceptions from the services. -/
  exceptions : List Feed.ServiceException := []
  /-- The walks. -/
  transfers : List Feed.Transfer := []

end TransitStore
