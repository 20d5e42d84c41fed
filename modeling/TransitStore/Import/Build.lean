import TransitStore.Container.Basic
import TransitStore.Files.Path
import TransitStore.Files.Store
import TransitStore.Feed.Reader
import TransitStore.Import.Lines
import TransitStore.Import.Options
import TransitStore.Import.Services
import TransitStore.Import.Stops
import TransitStore.Import.Trips

/-!
# Importing feeds

`Import.run` builds a container from a feed: first the lines, then the stops,
then the journey patterns with their vehicle journeys, and last the calendar, the
time zone and the stop index.
-/

namespace TransitStore.Import

/-- What an import leaves out. -/
inductive Warning where
  /-- Trips that cannot be followed. -/
  | dropped (trips : Nat)
  /-- Trips of unknown routes. -/
  | skipped (trips : Nat)
deriving DecidableEq, Repr

/-- The wording of a warning. -/
def Warning.message : Warning → String
  | .dropped trips => s!"Dropped {trips} trips with unusable stop times"
  | .skipped trips => s!"Skipped {trips} trips of unknown routes"

/-- Adds the operators, modes, lines and routes of a feed. -/
def addLines (feed : Feed) : Edit Container (List Line.Draft) := do
  let _ ← Container.add (feed.agencies.map operatorDraft)
  let modes := modesOf feed.routes
  let _ ← Container.add (modes.map Mode.physical)
  let _ ← Container.add (modes.map Mode.commercial)
  let operators := operatorLookup feed.agencies
  let lines ← Edit.ofExcept (feed.routes.mapM (lineDraft? operators feed.agencies.length modes))
  let _ ← Container.add lines
  let _ ← Container.add ((List.range lines.length).map fun line => Route.mk (UInt16.ofNat line))
  return lines

/-- Adds the stop areas, stop points and transfers of a feed. -/
def addStops (feed : Feed) (stops : Lookup) : Edit Container Unit := do
  let areas ← Edit.ofExcept (areasOf feed (feedTimezone feed))
  let _ ← Container.add areas.areas.toList
  let points := stopPoints feed
  let walks := walksOf feed stops points.length
  let drafts ← Edit.ofExcept
    (stopDrafts points walks.waits areas.rows (startsOf 0 walks.lists))
  let _ ← Container.add drafts
  walks.lists.forM fun list => do
    let _ ← Container.add list

/-- The vehicle journey of a trip whose stop times start at a row. -/
def journeyDraft (days : ServiceDays) (timeOffset : Int8) (t : FollowedTrip) (stopTimes : Nat) :
    VehicleJourney.Draft where
  id := t.trip.id
  stopTimesOffset := UInt32.ofNat stopTimes
  beginTime := .ofSeconds t.firstArrival
  attributes := t.attributes
  active := days.getD t.trip.serviceId 0
  timeOffset
  forwardTransfersOffset := 0
  forwardTransfersCount := 0
  backwardTransfersOffset := 0
  backwardTransfersCount := 0

/-- The most vehicle journeys of a journey pattern. -/
def maxJourneys : Nat := 65535

/-- Adds one journey pattern with its points and the vehicle journeys of some trips. -/
def addPattern (days : ServiceDays) (timeOffset : Int8) (mode : UInt8) (key : PatternKey)
    (trips : List FollowedTrip) : Edit Container Unit := do
  let points ← Container.add key.points
  let journeys ← trips.mapM fun t => do
    let stopTimes ← Container.add t.stopTimes
    return journeyDraft days timeOffset t stopTimes
  let first ← Container.add journeys
  let _ ← Container.add [{
    pointOffset := UInt32.ofNat points
    stopCount := UInt16.ofNat key.stops.length
    vehicleJourneyOffset := UInt32.ofNat first
    vehicleJourneyCount := UInt16.ofNat trips.length
    attributes := trips.foldl (fun flags t => flags ||| t.attributes) 0
    route := key.line
    commercialMode := mode : JourneyPattern }]

/-- Adds the journey patterns of the trips with one key.  A pattern has only so
many vehicle journeys, so there may be several. -/
def addGroup (days : ServiceDays) (timeOffset : Int8) (modes : Array UInt8) (key : PatternKey)
    (trips : List FollowedTrip) : Edit Container Unit := do
  let label := Record.label JourneyPattern
  if 65535 < key.stops.length then throw (.indexOverflow label 65535 key.stops.length)
  (chunks (maxJourneys - 1) trips).forM
    (addPattern days timeOffset (modes[key.line.toNat]?.getD 0) key)

/-- A warning of some left out trips, none if there are none. -/
def warn (warning : Nat → Warning) (trips : Nat) : List Warning :=
  if trips = 0 then [] else [warning trips]

/-- Adds the journey patterns of a feed. -/
def addTrips (feed : Feed) (stops : Lookup) (lines : List Line.Draft) (days : ServiceDays)
    (timeOffset : Int8) : Edit Container (List Warning) := do
  let followed := feed.trips.filterMap (follow? (stopTimesByTrip feed.stopTimes) stops)
  let keyed := withKeys (lineLookup feed.routes) followed
  let modes := (lines.map (·.physicalMode)).toArray
  (group keyed).forM fun (key, trips) => addGroup days timeOffset modes key trips
  return warn .dropped (feed.trips.length - followed.length) ++
    warn .skipped (followed.length - keyed.length)

/-- Adds a whole feed. -/
def addFeed (feed : Feed) (options : Options) : Edit Container (List Warning) := do
  let timeOffset ← Edit.ofExcept options.timeOffset?
  let lines ← addLines feed
  let stops := stopLookup feed
  addStops feed stops
  let start ← Edit.ofExcept (calendarStart? feed options)
  let days := options.keptDays
  let warnings ← addTrips feed stops lines (daysOf feed start days) timeOffset
  Container.setCalendar (UInt64.ofNat start.midnight.toNat) (UInt32.ofNat days)
  Container.setTimezone (feedTimezone feed) options.utcOffset
  Container.buildStopIndex
  return warnings

/-- A container made from a feed, and what was left out. -/
structure Imported where
  container : Container
  /-- What was left out. -/
  warnings : List Warning

/-- Makes a container from a feed. -/
def run (feed : Feed) (options : Options) : Except Error Imported :=
  match addFeed feed options {} with
  | .ok warnings container => .ok ⟨container, warnings⟩
  | .error e _ => .error e

section Files

variable {m : Type → Type} [Monad m] [FileStore m]

/-- The contents of a feed file, or nothing if there is no such file. -/
def feedFile (directory name : String) : m (Option (Except FileFault ByteArray)) := do
  let path := Path.join directory name
  if ← FileStore.pathExists path then return some (← FileStore.readFile path)
  else return none

/-- Makes a container from a feed directory. -/
def fromDirectory (directory : String) (options : Options) : m (Except Error Imported) := do
  if !(← FileStore.pathExists directory) then return .error (.notFound directory)
  match options.timeOffset? with
  | .error e => return .error e
  | .ok _ =>
    let found ← Feed.fileNames.mapM fun name => do return (name, ← feedFile directory name)
    match Feed.ofFiles fun name => (found.lookup name).join with
    | .error fault => return .error (.feed fault)
    | .ok feed => return run feed options

end Files

end TransitStore.Import
