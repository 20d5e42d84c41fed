import TransitStore.Error
import TransitStore.Feed.Record

/-!
# Reading feeds

A feed is a directory of sheets.  `Feed.ofFiles` reads them one after the other
and stops at the first that cannot be read.
-/

namespace TransitStore.Feed

open Feed.Column (required defaulted optional)

/-! ## Fields -/

/-- A text, or none if it is empty. -/
def nonempty (s : String) : Option String := if s.isEmpty then none else some s

/-- The integers of 16 bits. -/
def integer16 : Form := .integer false (-32768) 32767

/-- The numbers of 32 bits, or nothing. -/
def optionalNatural32 : Form := .integer true 0 (UInt32.size - 1)

/-- A number of a field. -/
def numberOf (s : String) : Option UInt64 :=
  if s.isEmpty then none else (Binary.binary64.readNumber? s).map UInt64.ofNat

/-- The integer of a field. -/
def integerOf (s : String) : Int := (Text.decimalOrHex? (-UInt32.size) UInt32.size s).getD 0

/-- The color of a field, or a given one if the field is empty. -/
def colorOf (absent : Color) (s : String) : Color := (Color.read? s).getD absent

/-- A code that has no name of its own. -/
def codeOf (s : String) : Int := (Text.decimal? (-32768) 32767 s).getD 0

/-- The kind of a stop by its code. -/
def StopKind.ofText (s : String) : StopKind :=
  if s = "" ∨ s = "0" then .stopPoint else if s = "1" then .station else .other

/-- The kind of vehicle by its code.  Beside the codes below eight there are
ranges of a hundred each. -/
def RouteType.ofCode (code : Int) : RouteType :=
  let hundreds := Int.tdiv code 100
  if code = 0 ∨ hundreds = 9 then .tramway
  else if code = 1 ∨ hundreds = 4 then .subway
  else if code = 2 ∨ hundreds = 1 then .rail
  else if code = 3 ∨ hundreds = 7 ∨ hundreds = 8 then .bus
  else if code = 4 ∨ hundreds = 10 ∨ hundreds = 12 then .ferry
  else if code = 5 then .cableCar
  else if code = 6 ∨ hundreds = 13 then .gondola
  else if code = 7 ∨ hundreds = 14 then .funicular
  else if hundreds = 2 then .coach
  else if hundreds = 11 then .air
  else if hundreds = 15 then .taxi
  else .other code

/-- Whether a vehicle takes something along, by its code. -/
def Availability.ofText (s : String) : Availability :=
  if s = "" ∨ s = "0" then .informationNotAvailable
  else if s = "1" then .available
  else if s = "2" then .notAvailable
  else .other (codeOf s)

/-- Whether a vehicle takes bikes, by its code. -/
def BikesAllowed.ofText (s : String) : BikesAllowed :=
  if s = "" ∨ s = "0" then .noBikeInfo
  else if s = "1" then .atLeastOneBike
  else if s = "2" then .noBikesAllowed
  else .other (codeOf s)

/-- How passengers get on or off, by its code. -/
def PickupDropOff.ofText (s : String) : PickupDropOff :=
  if s = "" ∨ s = "0" then .regular
  else if s = "1" then .notAvailable
  else if s = "2" then .arrangeByPhone
  else if s = "3" then .coordinateWithDriver
  else .other (codeOf s)

/-! ## Files -/

/-- The wording of a text that is none of some words. -/
def invalidValue (words : String) : Refusal := ⟨"Invalid value `", s!"`, expected {words}"⟩

/-- The wording of a text that names none of some kinds. -/
def unknownVariant (words : String) : Refusal := ⟨"unknown variant `", s!"`, expected {words}"⟩

/-- A column that tells whether passengers may get on or off. -/
def boardingColumn (name : String) : Column := defaulted (.code "PickupDropOffType") name

/-- A column that tells whether passengers may get on or off between stops. -/
def continuousColumn (name : String) : Column := defaulted (.code "ContinuousPickupDropOff") name

/-- The columns of `agency.txt`. -/
def agencyColumns : List Column := [
  optional .text "agency_id", required .text "agency_name", required .text "agency_url",
  required .text "agency_timezone", optional .text "agency_lang", optional .text "agency_phone",
  optional .text "agency_fare_url", optional .text "agency_email"]

/-- The agency of a row. -/
def Agency.ofRow (field : String → String) : Agency where
  id := nonempty (field "agency_id")
  name := field "agency_name"
  url := field "agency_url"
  timezone := field "agency_timezone"

/-- The columns of `stops.txt`. -/
def stopColumns : List Column := [
  required .text "stop_id", optional .text "stop_code", optional .text "stop_name",
  optional .text "stop_desc", defaulted (.code "LocationType") "location_type",
  optional .text "parent_station", optional .text "zone_id", optional .text "stop_url",
  defaulted (.number false) "stop_lon",
  defaulted (.number false) "stop_lat", optional .text "stop_timezone",
  optional (.code "Availability") "wheelchair_boarding", optional .text "level_id",
  optional .text "platform_code", optional .text "tts_stop_name"]

/-- The stop of a row. -/
def Stop.ofRow (field : String → String) : Stop where
  id := field "stop_id"
  kind := .ofText (field "location_type")
  name := nonempty (field "stop_name")
  parent := nonempty (field "parent_station")
  latitude := numberOf (field "stop_lat")
  longitude := numberOf (field "stop_lon")
  timezone := nonempty (field "stop_timezone")
  platformCode := nonempty (field "platform_code")

/-- The columns of `routes.txt`. -/
def routeColumns : List Column := [
  required .text "route_id", optional .text "route_short_name", optional .text "route_long_name",
  optional .text "route_desc", required integer16 "route_type", optional .text "route_url",
  optional .text "agency_id", optional optionalNatural32 "route_sort_order",
  defaulted .color "route_color", defaulted .color "route_text_color",
  continuousColumn "continuous_pickup", continuousColumn "continuous_drop_off"]

/-- The route of a row. -/
def Route.ofRow (field : String → String) : Route where
  id := field "route_id"
  agencyId := nonempty (field "agency_id")
  shortName := nonempty (field "route_short_name")
  longName := nonempty (field "route_long_name")
  type := .ofCode (integerOf (field "route_type"))
  color := colorOf ⟨255, 255, 255⟩ (field "route_color")
  textColor := colorOf ⟨0, 0, 0⟩ (field "route_text_color")

/-- The columns of `trips.txt`. -/
def tripColumns : List Column := [
  required .text "trip_id", required .text "service_id", required .text "route_id",
  optional .text "shape_id", optional .text "trip_headsign", optional .text "trip_short_name",
  optional (.word ["", "0", "1"] (unknownVariant "`0` or `1`")) "direction_id",
  optional .text "block_id", defaulted (.code "Availability") "wheelchair_accessible",
  defaulted (.code "BikeAllowedType") "bikes_allowed"]

/-- The trip of a row. -/
def Trip.ofRow (field : String → String) : Trip where
  id := field "trip_id"
  serviceId := field "service_id"
  routeId := field "route_id"
  headsign := nonempty (field "trip_headsign")
  wheelchairAccessible := .ofText (field "wheelchair_accessible")
  bikesAllowed := .ofText (field "bikes_allowed")

/-- A column of times: the file must have it, single rows may end before it. -/
def timeColumn (name : String) : Column := ⟨name, .time, true, true⟩

/-- The columns of `stop_times.txt`. -/
def stopTimeColumns : List Column := [
  required .text "trip_id", timeColumn "arrival_time", timeColumn "departure_time",
  required .text "stop_id", required (.integer false 0 65535) "stop_sequence",
  optional .text "stop_headsign", boardingColumn "pickup_type", boardingColumn "drop_off_type",
  continuousColumn "continuous_pickup", continuousColumn "continuous_drop_off",
  optional (.number true) "shape_dist_traveled",
  defaulted (.word ["", "0", "1"] ⟨"invalid value for timepoint: ", ""⟩) "timepoint"]

/-- The stop of a trip of a row. -/
def StopTime.ofRow (field : String → String) : StopTime where
  tripId := field "trip_id"
  stopId := field "stop_id"
  arrival := readTime? (field "arrival_time")
  departure := readTime? (field "departure_time")
  sequence := UInt16.ofNat (integerOf (field "stop_sequence")).toNat
  pickup := .ofText (field "pickup_type")
  dropOff := .ofText (field "drop_off_type")

/-- A column that tells whether a service runs on a day of the week. -/
def weekdayColumn (name : String) : Column :=
  required (.word ["0", "1"] (invalidValue "0 or 1")) name

/-- The columns of `calendar.txt`. -/
def serviceColumns : List Column := [
  required .text "service_id", weekdayColumn "monday", weekdayColumn "tuesday",
  weekdayColumn "wednesday", weekdayColumn "thursday", weekdayColumn "friday",
  weekdayColumn "saturday", weekdayColumn "sunday", required .date "start_date",
  required .date "end_date"]

/-- The date of a field. -/
def dateOf (s : String) : Except RowFault Calendar.Date :=
  (Calendar.Date.readCompact s).mapError .date

/-- The service of a row, if its dates can be read. -/
def Service.ofRow (field : String → String) : Except RowFault Service := do
  let start ← dateOf (field "start_date")
  let finish ← dateOf (field "end_date")
  return {
    id := field "service_id"
    monday := field "monday" == "1"
    tuesday := field "tuesday" == "1"
    wednesday := field "wednesday" == "1"
    thursday := field "thursday" == "1"
    friday := field "friday" == "1"
    saturday := field "saturday" == "1"
    sunday := field "sunday" == "1"
    start, finish }

/-- The columns of `calendar_dates.txt`. -/
def exceptionColumns : List Column := [
  required .text "service_id", required .date "date",
  required (.word ["1", "2"] (unknownVariant "`1` or `2`")) "exception_type"]

/-- The exception of a row, if its date can be read. -/
def ServiceException.ofRow (field : String → String) : Except RowFault ServiceException := do
  let date ← dateOf (field "date")
  return { serviceId := field "service_id", date, runs := field "exception_type" == "1" }

/-- The columns of `transfers.txt`. -/
def transferColumns : List Column := [
  required .text "from_stop_id", required .text "to_stop_id",
  required (.word ["", "0", "1", "2", "3", "4", "5"] (invalidValue "0, 1, 2, 3, 4, 5"))
    "transfer_type",
  optional optionalNatural32 "min_transfer_time"]

/-- The walk of a row. -/
def Transfer.ofRow (field : String → String) : Transfer where
  source := field "from_stop_id"
  target := field "to_stop_id"
  minTime := (nonempty (field "min_transfer_time")).map fun s => UInt32.ofNat (integerOf s).toNat

/-! ## Directories -/

/-- The names of the files of a feed. -/
def fileNames : List String := [
  "agency.txt", "stops.txt", "routes.txt", "trips.txt", "stop_times.txt", "calendar.txt",
  "calendar_dates.txt", "transfers.txt"]

/-- The files of a feed directory, by name: nothing if there is no such file, or
else its contents, if they can be read. -/
abbrev Files := String → Option (Except FileFault ByteArray)

variable {α : Type}

/-- The size of a file that is not short. -/
def leastSize : Nat := 3

/-- The records of the rows of a file that is there. -/
def readSheet (name : String) (columns : List Column)
    (record : (String → String) → Except RowFault α) (contents : Except FileFault ByteArray) :
    Except FeedFault (List α) := do
  let bytes ← contents.mapError (.unreadable name)
  if bytes.size < leastSize then throw (.short name)
  else
    ((Sheet.ofBytes bytes).bind (readRows columns record)).mapError (.badTable name)

/-- The records of a file that must be there. -/
def needed (files : Files) (name : String) (columns : List Column)
    (record : (String → String) → α) : Except FeedFault (List α) :=
  match files name with
  | none => .error (.missing name)
  | some contents => readSheet name columns (fun row => .ok (record row)) contents

/-- The records of a file that may be missing. -/
def allowed (files : Files) (name : String) (columns : List Column)
    (record : (String → String) → Except RowFault α) : Except FeedFault (List α) :=
  match files name with
  | none => .ok []
  | some contents => readSheet name columns record contents

/-- The feed of a directory. -/
def ofFiles (files : Files) : Except FeedFault Feed := do
  let agencies ← needed files "agency.txt" agencyColumns Agency.ofRow
  let stops ← needed files "stops.txt" stopColumns Stop.ofRow
  let routes ← needed files "routes.txt" routeColumns Route.ofRow
  let trips ← needed files "trips.txt" tripColumns Trip.ofRow
  let stopTimes ← needed files "stop_times.txt" stopTimeColumns StopTime.ofRow
  let services ← allowed files "calendar.txt" serviceColumns Service.ofRow
  let exceptions ← allowed files "calendar_dates.txt" exceptionColumns ServiceException.ofRow
  let transfers ← allowed files "transfers.txt" transferColumns (fun row => .ok (.ofRow row))
  return { agencies, stops, routes, trips, stopTimes, services, exceptions, transfers }

end TransitStore.Feed
