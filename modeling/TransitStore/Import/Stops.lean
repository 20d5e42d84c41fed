import TransitStore.Feed.Record
import TransitStore.Import.Lookup
import TransitStore.Network.Stop

/-!
# Stops and transfers of a feed

Stations become stop areas.  A stop point belongs to the area of its station, or
else to an area of its own.  The walks between stop points become transfers, and
a walk from a stop point to itself is the time to change vehicles there.
-/

namespace TransitStore.Import

open Binary (binary32 binary64)

/-- A number of 64 bits in 32 bits, zero if it is missing. -/
def narrow (degrees : Option UInt64) : UInt32 :=
  match degrees with
  | some bits => UInt32.ofNat (binary64.convert binary32 bits.toNat)
  | none => 0

/-- Where a stop lies. -/
def coordOf (stop : Feed.Stop) : Coordinate := ⟨narrow stop.latitude, narrow stop.longitude⟩

/-- The stations of a feed. -/
def stations (feed : Feed) : List Feed.Stop := feed.stops.filter (·.kind == .station)

/-- The stop points of a feed. -/
def stopPoints (feed : Feed) : List Feed.Stop := feed.stops.filter (·.kind == .stopPoint)

/-! ## Stop areas -/

/-- The area of a stop. -/
def areaDraft (timezone : String) (stop : Feed.Stop) : StopArea.Draft :=
  ⟨stop.id, stop.name.getD "", coordOf stop, stop.timezone.getD timezone⟩

/-- The stations by their identifiers. -/
def stationLookup (feed : Feed) : Lookup := .ofIds ((stations feed).map fun s => some s.id)

/-- Areas, and the areas of the stop points that were looked at. -/
structure Areas where
  areas : Array StopArea.Draft
  /-- The row of each stop point's area. -/
  rows : Array UInt16

/-- Gives a stop point its station's area or a new one. -/
def Areas.place (stations : Lookup) (timezone : String) (a : Areas) (stop : Feed.Stop) :
    Except Error Areas :=
  match stop.parent.bind (stations[·]?) with
  | some station => .ok { a with rows := a.rows.push (UInt16.ofNat station) }
  | none =>
    let area := a.areas.size
    if Table.maxRows StopArea < area then
      .error (.indexOverflow (Record.label StopArea) (Table.maxRows StopArea) (area + 1))
    else
      .ok ⟨a.areas.push (areaDraft timezone stop), a.rows.push (UInt16.ofNat area)⟩

/-- The areas of a feed: those of its stations, and then those of the stop points
that have no station. -/
def areasOf (feed : Feed) (timezone : String) : Except Error Areas :=
  (stopPoints feed).foldlM (Areas.place (stationLookup feed) timezone)
    ⟨((stations feed).map (areaDraft timezone)).toArray, #[]⟩

/-! ## Transfers -/

/-- The stop points by their identifiers. -/
def stopLookup (feed : Feed) : Lookup := .ofIds ((stopPoints feed).map fun s => some s.id)

/-- The walks from stop points, and the times to change vehicles at them. -/
structure Walks where
  /-- The walks from each stop point, the last one first. -/
  transfers : Array (List Transfer)
  /-- The time to change vehicles at each stop point. -/
  waits : Array CoarseTime

/-- Adds a walk.  One from or to an unknown stop point does not count. -/
def Walks.add (stops : Lookup) (w : Walks) (walk : Feed.Transfer) : Walks :=
  match stops[walk.source]?, stops[walk.target]? with
  | some source, some target =>
    let duration := CoarseTime.ofSeconds ((walk.minTime.map UInt32.toNat).getD 0)
    if source = target then { w with waits := w.waits.modify source fun _ => duration }
    else
      { w with
        transfers := w.transfers.modify source fun list =>
          ⟨UInt16.ofNat target, duration⟩ :: list }
  | _, _ => w

/-- The walks of a feed with so many stop points. -/
def walksOf (feed : Feed) (stops : Lookup) (count : Nat) : Walks :=
  feed.transfers.foldl (Walks.add stops) ⟨.replicate count [], .replicate count 0⟩

/-- The walks from each stop point, in the order of the feed. -/
def Walks.lists (w : Walks) : List (List Transfer) := w.transfers.toList.map List.reverse

/-- The rows where lists that stand one behind the other start. -/
def startsOf {α : Type} : (start : Nat) → List (List α) → List Nat
  | _, [] => []
  | start, list :: rest => start :: startsOf (start + list.length) rest

/-! ## Stop points -/

/-- The stop point of a stop. -/
def stopDraft (stop : Feed.Stop) (waitTime : CoarseTime) (area : UInt16) (transfers : Nat) :
    StopPoint.Draft where
  id := stop.id
  name := stop.name.getD ""
  platformCode := stop.platformCode.getD ""
  coord := coordOf stop
  waitTime
  attributes := 0
  stopArea := area
  transfersOffset := UInt32.ofNat transfers

/-- The stop points of a feed.  `starts` are the rows where their transfers start. -/
def stopDrafts (stops : List Feed.Stop) (waits : Array CoarseTime) (areas : Array UInt16)
    (starts : List Nat) : Except Error (List StopPoint.Draft) :=
  match starts.find? (Table.maxRows Transfer < ·) with
  | some start =>
    .error (.indexOverflow (Record.label Transfer) (Table.maxRows Transfer) start)
  | none =>
    .ok ((stops.zip ((waits.toList.zip areas.toList).zip starts)).map
      fun (stop, (wait, area), start) => stopDraft stop wait area start)

end TransitStore.Import
