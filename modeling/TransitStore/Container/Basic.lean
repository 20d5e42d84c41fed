import TransitStore.Calendar.Instant
import TransitStore.Network.Line
import TransitStore.Network.Stop
import TransitStore.Network.VehicleJourney
import TransitStore.StopIndex

/-!
# Containers

A container is a whole timetable: the string pool, the thirteen tables, the stop
index and a few numbers.  It is either built up by edits or opened from a
snapshot.  A container from a snapshot is mapped as a whole and takes no edit.
-/

namespace TransitStore

/-- Where a container's contents come from. -/
inductive Backing where
  /-- From edits. -/
  | owned
  /-- From a snapshot file of so many bytes. -/
  | mapped (path : String) (size : Nat)
deriving DecidableEq, Repr

/-- The numbers of a container that are not in any table. -/
structure Metadata where
  /-- Midnight of the first calendar day, in seconds since the start of 1970. -/
  calendarStart : UInt64 := 0
  /-- The number of calendar days. -/
  days : UInt32 := 0
  /-- The place in the pool of the time zone's name. -/
  timezone : Option UInt32 := none
  /-- The distance of the time zone to universal time, in seconds. -/
  utcOffset : Int32 := 0
deriving DecidableEq, Repr, Inhabited

/-- A timetable. -/
structure Container where
  /-- Where the contents come from. -/
  backing : Backing := .owned
  /-- The numbers that are not in any table. -/
  metadata : Metadata := {}
  /-- The texts. -/
  pool : Pool := {}
  stopAreas : Table StopArea := {}
  stopPoints : Table StopPoint := {}
  /-- The walks between stop points. -/
  transfers : Table Transfer := {}
  operators : Table Operator := {}
  /-- The kinds of vehicles. -/
  physicalModes : Table PhysicalMode := {}
  /-- The kinds of services. -/
  commercialModes : Table CommercialMode := {}
  lines : Table Line := {}
  routes : Table Route := {}
  journeyPatternPoints : Table JourneyPatternPoint := {}
  journeyPatterns : Table JourneyPattern := {}
  stopTimes : Table StopTime := {}
  vehicleJourneys : Table VehicleJourney := {}
  vehicleTransfers : Table JourneyRef := {}
  /-- The journey patterns at each stop point. -/
  stopIndex : StopIndex := {}

instance : Inhabited Container := ⟨{}⟩

/-- The records that a container has a table of. -/
class Stored (ρ : Type) extends Record ρ where
  table : Container → Table ρ
  /-- Puts another table in its place. -/
  setTable : Container → Table ρ → Container

instance : Stored StopArea := ⟨Container.stopAreas, fun c t => { c with stopAreas := t }⟩
instance : Stored StopPoint := ⟨Container.stopPoints, fun c t => { c with stopPoints := t }⟩
instance : Stored Transfer := ⟨Container.transfers, fun c t => { c with transfers := t }⟩
instance : Stored Operator := ⟨Container.operators, fun c t => { c with operators := t }⟩
instance : Stored PhysicalMode :=
  ⟨Container.physicalModes, fun c t => { c with physicalModes := t }⟩
instance : Stored CommercialMode :=
  ⟨Container.commercialModes, fun c t => { c with commercialModes := t }⟩
instance : Stored Line := ⟨Container.lines, fun c t => { c with lines := t }⟩
instance : Stored Route := ⟨Container.routes, fun c t => { c with routes := t }⟩
instance : Stored JourneyPatternPoint :=
  ⟨Container.journeyPatternPoints, fun c t => { c with journeyPatternPoints := t }⟩
instance : Stored JourneyPattern :=
  ⟨Container.journeyPatterns, fun c t => { c with journeyPatterns := t }⟩
instance : Stored StopTime := ⟨Container.stopTimes, fun c t => { c with stopTimes := t }⟩
instance : Stored VehicleJourney :=
  ⟨Container.vehicleJourneys, fun c t => { c with vehicleJourneys := t }⟩
instance : Stored JourneyRef :=
  ⟨Container.vehicleTransfers, fun c t => { c with vehicleTransfers := t }⟩

namespace Container

/-- The container's name in messages. -/
def label : String := "timetable container"

/-- Whether the contents come from a snapshot. -/
def isMapped (c : Container) : Bool :=
  match c.backing with
  | .owned => false
  | .mapped _ _ => true

/-- The snapshot file the contents come from. -/
def sourcePath? (c : Container) : Option String :=
  match c.backing with
  | .owned => none
  | .mapped path _ => some path

/-! ## Edits -/

/-- Fails for a container from a snapshot. -/
def ensureOwned : Edit Container Unit := fun c =>
  if c.isMapped then .error (.denied label) c else .ok () c

/-- Edits the pool of a container. -/
def onPool {α : Type} (edit : Edit Pool α) : Edit Container α := fun c =>
  let pool := c.pool
  -- The container lets go of the pool meanwhile, so that it grows in place.
  let c := { c with pool := {} }
  match edit pool with
  | .ok a pool => .ok a { c with pool }
  | .error e pool => .error e { c with pool }

/-- Edits a table of a container, and the pool with it. -/
def onTable {ρ α : Type} [Stored ρ] (edit : Edit (Table ρ × Pool) α) : Edit Container α :=
  fun c =>
    let table : Table ρ := Stored.table c
    let pool := c.pool
    -- The container lets go of both meanwhile, so that they grow in place.
    let c := Stored.setTable { c with pool := {} } ({} : Table ρ)
    match edit (table, pool) with
    | .ok a (table, pool) => .ok a (Stored.setTable { c with pool } table)
    | .error e (table, pool) => .error e (Stored.setTable { c with pool } table)

/-- Adds rows to the table of their records and gives the number of the first. -/
def add [Memory] {δ ρ : Type} [Draft δ ρ] [Stored ρ] (drafts : List δ) : Edit Container Nat :=
  onTable (Table.add drafts)

/-- Sets the calendar. -/
def setCalendar (start : UInt64) (days : UInt32) : Edit Container Unit := do
  ensureOwned
  modify fun c => { c with metadata := { c.metadata with calendarStart := start, days } }

/-- Sets the time zone. -/
def setTimezone [Memory] (name : String) (utcOffset : Int32) : Edit Container Unit := do
  ensureOwned
  let place ← onPool (Pool.intern name)
  modify fun c => { c with metadata := { c.metadata with timezone := some place, utcOffset } }

/-- Builds the stop index anew from the tables.  An index that cannot be built
leaves the old one. -/
def buildStopIndex [Memory] : Edit Container Unit := do
  ensureOwned
  let c ← get
  match StopIndex.build c.stopPoints.size c.journeyPatterns.rows c.journeyPatternPoints.rows with
  | .ok stopIndex => set { c with stopIndex }
  | .error e => throw e

/-- Empties the table of some records. -/
def resetTable (ρ : Type) [Stored ρ] : Edit Container Unit :=
  onTable fun (table, pool) =>
    match (Table.reset : Edit (Table ρ) Unit) table with
    | .ok a table => .ok a (table, pool)
    | .error e table => .error e (table, pool)

/-- Empties the container: the stop index, then one table after the other, then the pool
and last the numbers. -/
def reset : Edit Container Unit := do
  ensureOwned
  modify fun c => { c with stopIndex := {} }
  resetTable JourneyPattern
  resetTable CommercialMode
  resetTable Route
  resetTable Line
  resetTable PhysicalMode
  resetTable Operator
  resetTable VehicleJourney
  resetTable JourneyRef
  resetTable StopTime
  resetTable JourneyPatternPoint
  resetTable Transfer
  resetTable StopArea
  resetTable StopPoint
  onPool Pool.reset
  modify fun c => { c with metadata := {} }

/-- Lets go of the snapshot a container comes from, and says whether there was one. -/
def unmap (c : Container) : Bool × Container := if c.isMapped then (true, {}) else (false, c)

/-! ## Queries -/

/-- When the calendar starts, if that is an instant. -/
def calendarStart? (c : Container) : Option Calendar.Instant :=
  Calendar.Instant.ofSeconds? c.metadata.calendarStart.toNat

/-- The name of the time zone. -/
def timezoneName? (c : Container) : Option String := c.metadata.timezone.bind c.pool.text?

/-- The text at a place of the pool. -/
def text? (c : Container) (place : UInt32) : Option String := c.pool.text? place

/-- The rows of a pattern's points. -/
def patternPoints? (c : Container) (pattern : Nat) :
    Option (Span c.journeyPatternPoints.rows.size) :=
  c.journeyPatterns.rows[pattern]?.bind (·.points? _)

/-- The stop points of a pattern, in order. -/
def patternStopPoints? (c : Container) (pattern : Nat) : Option (List UInt16) :=
  (c.patternPoints? pattern).map fun run => run.slice.map (·.stopPoint)

/-- The rows of a pattern's vehicle journeys. -/
def patternVehicleJourneys? (c : Container) (pattern : Nat) :
    Option (Span c.vehicleJourneys.rows.size) :=
  c.journeyPatterns.rows[pattern]?.bind (·.vehicleJourneys? _)

/-- The rows of a vehicle journey's stop times along a pattern. -/
def vehicleJourneyStopTimes? (c : Container) (pattern vehicleJourney : Nat) :
    Option (Span c.stopTimes.rows.size) :=
  c.journeyPatterns.rows[pattern]?.bind fun p =>
    c.vehicleJourneys.rows[vehicleJourney]?.bind (·.stopTimes? p.stopCount.toNat _)

/-- The rows of the transfers from a stop point. -/
def transfersFrom? (c : Container) (stop : Nat) : Option (Span c.transfers.rows.size) :=
  c.stopPoints.transfers? stop _

/-- The first stop point with an identifier. -/
def findStopPoint? (c : Container) (id : String) : Option Nat :=
  c.stopPoints.findStopPoint? c.pool id

/-- The patterns that the stop index has for a stop point. -/
def journeyPatternsAtStop (c : Container) (stop : Nat) : List UInt16 :=
  c.stopIndex.patternsFor stop

/-- The sizes of the pool, the tables and the stop index, with their names. -/
def sizes (c : Container) : List (String × Nat) := [
  ("string pool bytes", c.pool.size),
  (Record.label StopArea, c.stopAreas.size),
  (Record.label StopPoint, c.stopPoints.size),
  (Record.label Transfer, c.transfers.size),
  (Record.label Operator, c.operators.size),
  (Record.label PhysicalMode, c.physicalModes.size),
  (Record.label CommercialMode, c.commercialModes.size),
  (Record.label Line, c.lines.size),
  (Record.label Route, c.routes.size),
  (Record.label JourneyPatternPoint, c.journeyPatternPoints.size),
  (Record.label JourneyPattern, c.journeyPatterns.size),
  (Record.label StopTime, c.stopTimes.size),
  (Record.label VehicleJourney, c.vehicleJourneys.size),
  (Record.label JourneyRef, c.vehicleTransfers.size),
  (StopIndex.label, c.stopIndex.patterns.size)]

end Container

end TransitStore
