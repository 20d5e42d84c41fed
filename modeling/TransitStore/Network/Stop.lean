import TransitStore.CoarseTime
import TransitStore.Span
import TransitStore.Table.Basic

/-!
# Stops

Stop points are where vehicles are boarded.  Each belongs to a stop area, and
the walks to other stop points are rows of the transfer table.
-/

namespace TransitStore

/-! ## Stop areas -/

/-- A group of stop points under one name. -/
structure StopArea where
  /-- The identifier's place in the pool. -/
  id : UInt32
  /-- Where the area lies. -/
  coord : Coordinate
  /-- The name's place in the pool. -/
  name : UInt32
  /-- The place in the pool of the time zone's name. -/
  timezone : UInt32
deriving DecidableEq, Repr

/-- A stop area with its texts. -/
structure StopArea.Draft where
  id : String
  name : String
  /-- Where the area lies. -/
  coord : Coordinate
  /-- The name of the time zone. -/
  timezone : String
deriving DecidableEq, Repr

instance : Record StopArea where
  structureName := "StopAreas"
  label := "stop areas"
  width := .bits16
  slack := 16
  fields := [
    .of "ids" "StopAreaIds" StopArea.id,
    .of "coords" "StopAreaCoords" StopArea.coord,
    .of "names" "StopAreaNames" StopArea.name,
    .of "timezones" "StopAreaTimezones" StopArea.timezone]
  ofWords w := ⟨Cell.ofWord (w 0), Cell.ofWord (w 1), Cell.ofWord (w 2), Cell.ofWord (w 3)⟩

instance : Draft StopArea.Draft StopArea where
  intern d := do
    let id ← Pool.intern d.id
    let name ← Pool.intern d.name
    let timezone ← Pool.intern d.timezone
    return { id, coord := d.coord, name, timezone }

/-! ## Stop points -/

/-- A place where vehicles are boarded. -/
structure StopPoint where
  /-- The identifier's place in the pool. -/
  id : UInt32
  /-- The name's place in the pool. -/
  name : UInt32
  /-- The place in the pool of the platform's code. -/
  platformCode : UInt32
  /-- Where the stop point lies. -/
  coord : Coordinate
  /-- The least time to change vehicles here. -/
  waitTime : CoarseTime
  /-- Flags. -/
  attributes : UInt8
  /-- The row of the stop area. -/
  stopArea : UInt16
  /-- The first row of the transfers from here.  They end where the transfers
  of the next stop point start, or with the table. -/
  transfersOffset : UInt32
deriving DecidableEq, Repr

/-- A stop point with its texts. -/
structure StopPoint.Draft where
  id : String
  name : String
  platformCode : String
  /-- Where the stop point lies. -/
  coord : Coordinate
  /-- The least time to change vehicles here. -/
  waitTime : CoarseTime
  /-- Flags. -/
  attributes : UInt8
  /-- The row of the stop area. -/
  stopArea : UInt16
  /-- The first row of the transfers from here. -/
  transfersOffset : UInt32
deriving DecidableEq, Repr

instance : Record StopPoint where
  structureName := "StopPoints"
  label := "stop points"
  width := .bits16
  slack := 16
  fields := [
    .of "ids" "StopPointIds" StopPoint.id,
    .of "names" "StopPointNames" StopPoint.name,
    .of "platform_codes" "StopPointPlatformCodes" StopPoint.platformCode,
    .of "coords" "StopPointCoords" StopPoint.coord,
    .of "wait_times" "StopPointWaitTimes" StopPoint.waitTime,
    .of "attributes" "StopPointAttributes" StopPoint.attributes,
    .of "stop_areas" "StopPointStopAreas" StopPoint.stopArea,
    .of "transfers_offsets" "StopPointTransfersOffsets" StopPoint.transfersOffset]
  ofWords w := ⟨Cell.ofWord (w 0), Cell.ofWord (w 1), Cell.ofWord (w 2), Cell.ofWord (w 3),
    Cell.ofWord (w 4), Cell.ofWord (w 5), Cell.ofWord (w 6), Cell.ofWord (w 7)⟩

instance : Draft StopPoint.Draft StopPoint where
  intern d := do
    let id ← Pool.intern d.id
    let name ← Pool.intern d.name
    let platformCode ← Pool.intern d.platformCode
    return { d with id, name, platformCode }

/-- The rows of the transfers from a stop point, if they lie inside a table of
`transfers` rows. -/
def Table.transfers? (t : Table StopPoint) (stop transfers : Nat) : Option (Span transfers) :=
  t.rows[stop]?.bind fun point =>
    let finish := (t.rows[stop + 1]?.map (·.transfersOffset.toNat)).getD transfers
    Span.between? transfers point.transfersOffset.toNat finish

/-- The first stop point with an identifier. -/
def Table.findStopPoint? (t : Table StopPoint) (pool : Pool) (id : String) : Option Nat :=
  t.rows.findIdx? fun point => pool.text? point.id == some id

/-! ## Transfers -/

/-- A walk from one stop point to another. -/
structure Transfer where
  /-- The row of the stop point it leads to. -/
  targetStop : UInt16
  /-- The time it takes. -/
  duration : CoarseTime
deriving DecidableEq, Repr

instance : Record Transfer where
  structureName := "Transfers"
  label := "transfers"
  width := .bits32
  slack := 256
  fields := [
    .of "target_stops" "TransferTargetStops" Transfer.targetStop,
    .of "durations" "TransferDurations" Transfer.duration]
  ofWords w := ⟨Cell.ofWord (w 0), Cell.ofWord (w 1)⟩

instance : Draft Transfer Transfer := ⟨pure⟩

end TransitStore
