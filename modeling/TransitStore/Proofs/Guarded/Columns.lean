import Mathlib
import TransitStore.Proofs.Container.Reachable
import TransitStore.Proofs.Guarded.Basic
import TransitStore.Proofs.Snapshot.Acceptance

/-!
# The columns behind an opened image

The tables of an image stay column by column when it is opened, and each column has as
many elements as its own descriptor says.  That a row of one column is a row of all the
others of its table follows only from the lengths the loader compares.

A `Key` names a column.  What is read by a key is that part of all records of the opened
container (`Key.read_eq`), so an element by a key is there exactly if the record is.
-/

namespace TransitStore.Guarded

open Snapshot

/-- A column of a table, with elements of a type. -/
structure Key (e : Entity) (α : Type) [Cell α] where
  /-- The place among the table's columns. -/
  place : Nat
  /-- The part of a record that the column has. -/
  part : e.Row → α
  /-- The part is the field of that place. -/
  isField : ∃ name columnName,
    (Record.fields : List (Field e.Row))[place]? = some (.of name columnName part)

/-- The elements of a column, as many as its descriptor says. -/
def Key.read {e : Entity} {α : Type} [Cell α] (key : Key e α) (image : ByteArray) : Array α :=
  (elements image (Cell.type α) (descriptorOf image (e.firstColumn + key.place))).map Cell.ofWord

/-- The number of rows of a table: the length of its first column. -/
def rowCount (image : ByteArray) (e : Entity) : Nat := (descriptorOf image e.firstColumn).count

/-- The bytes of the string pool. -/
def poolBytes (image : ByteArray) : Array UInt8 :=
  (elements image poolSpec.type (descriptorOf image 0)).map Cell.ofWord

/-- The places in the stop index where the list of each stop starts. -/
def indexOffsets (image : ByteArray) : Array UInt32 :=
  (elements image indexOffsetsSpec.type (descriptorOf image 53)).map Cell.ofWord

/-- The lists of the stop index, one behind the other. -/
def indexPatterns (image : ByteArray) : Array UInt16 :=
  (elements image indexPatternsSpec.type (descriptorOf image 54)).map Cell.ofWord

/-! ## The columns that are read -/

namespace StopAreas

def ids : Key .stopArea UInt32 := ⟨0, StopArea.id, _, _, rfl⟩

def names : Key .stopArea UInt32 := ⟨2, StopArea.name, _, _, rfl⟩

def timezones : Key .stopArea UInt32 := ⟨3, StopArea.timezone, _, _, rfl⟩

end StopAreas

namespace StopPoints

def ids : Key .stopPoint UInt32 := ⟨0, StopPoint.id, _, _, rfl⟩

def names : Key .stopPoint UInt32 := ⟨1, StopPoint.name, _, _, rfl⟩

def platformCodes : Key .stopPoint UInt32 := ⟨2, StopPoint.platformCode, _, _, rfl⟩

def coords : Key .stopPoint Coordinate := ⟨3, StopPoint.coord, _, _, rfl⟩

def stopAreas : Key .stopPoint UInt16 := ⟨6, StopPoint.stopArea, _, _, rfl⟩

def transfersOffsets : Key .stopPoint UInt32 := ⟨7, StopPoint.transfersOffset, _, _, rfl⟩

end StopPoints

namespace Transfers

def targetStops : Key .transfer UInt16 := ⟨0, Transfer.targetStop, _, _, rfl⟩

def durations : Key .transfer CoarseTime := ⟨1, Transfer.duration, _, _, rfl⟩

end Transfers

namespace Operators

def ids : Key .operator UInt32 := ⟨0, Operator.id, _, _, rfl⟩

def urls : Key .operator UInt32 := ⟨1, Operator.url, _, _, rfl⟩

def names : Key .operator UInt32 := ⟨2, Operator.name, _, _, rfl⟩

end Operators

namespace PhysicalModes

def ids : Key .physicalMode UInt32 := ⟨0, PhysicalMode.id, _, _, rfl⟩

def names : Key .physicalMode UInt32 := ⟨1, PhysicalMode.name, _, _, rfl⟩

end PhysicalModes

namespace CommercialModes

def ids : Key .commercialMode UInt32 := ⟨0, CommercialMode.id, _, _, rfl⟩

def names : Key .commercialMode UInt32 := ⟨1, CommercialMode.name, _, _, rfl⟩

end CommercialModes

namespace Lines

def ids : Key .line UInt32 := ⟨0, Line.id, _, _, rfl⟩

def codes : Key .line UInt32 := ⟨1, Line.code, _, _, rfl⟩

def names : Key .line UInt32 := ⟨2, Line.name, _, _, rfl⟩

def colors : Key .line UInt32 := ⟨3, Line.color, _, _, rfl⟩

def textColors : Key .line UInt32 := ⟨4, Line.textColor, _, _, rfl⟩

def operators : Key .line UInt8 := ⟨5, Line.operator, _, _, rfl⟩

def physicalModes : Key .line UInt8 := ⟨6, Line.physicalMode, _, _, rfl⟩

end Lines

namespace Routes

def lines : Key .route UInt16 := ⟨0, Route.line, _, _, rfl⟩

end Routes

namespace Points

def stopPoints : Key .journeyPatternPoint UInt16 := ⟨0, JourneyPatternPoint.stopPoint, _, _, rfl⟩

def headsigns : Key .journeyPatternPoint UInt32 := ⟨1, JourneyPatternPoint.headsign, _, _, rfl⟩

def attributes : Key .journeyPatternPoint UInt8 := ⟨2, JourneyPatternPoint.attributes, _, _, rfl⟩

end Points

namespace Patterns

def pointOffsets : Key .journeyPattern UInt32 := ⟨0, JourneyPattern.pointOffset, _, _, rfl⟩

def stopCounts : Key .journeyPattern UInt16 := ⟨1, JourneyPattern.stopCount, _, _, rfl⟩

def vehicleJourneyOffsets : Key .journeyPattern UInt32 :=
  ⟨2, JourneyPattern.vehicleJourneyOffset, _, _, rfl⟩

def vehicleJourneyCounts : Key .journeyPattern UInt16 :=
  ⟨3, JourneyPattern.vehicleJourneyCount, _, _, rfl⟩

def routes : Key .journeyPattern UInt16 := ⟨5, JourneyPattern.route, _, _, rfl⟩

def commercialModes : Key .journeyPattern UInt8 := ⟨6, JourneyPattern.commercialMode, _, _, rfl⟩

end Patterns

namespace StopTimes

def arrivals : Key .stopTime CoarseTime := ⟨0, StopTime.arrival, _, _, rfl⟩

def departures : Key .stopTime CoarseTime := ⟨1, StopTime.departure, _, _, rfl⟩

end StopTimes

namespace VehicleJourneys

def ids : Key .vehicleJourney UInt32 := ⟨0, VehicleJourney.id, _, _, rfl⟩

def stopTimesOffsets : Key .vehicleJourney UInt32 := ⟨1, VehicleJourney.stopTimesOffset, _, _, rfl⟩

def beginTimes : Key .vehicleJourney CoarseTime := ⟨2, VehicleJourney.beginTime, _, _, rfl⟩

def active : Key .vehicleJourney UInt32 := ⟨4, VehicleJourney.active, _, _, rfl⟩

def forwardTransfersOffsets : Key .vehicleJourney UInt32 :=
  ⟨6, VehicleJourney.forwardTransfersOffset, _, _, rfl⟩

def forwardTransfersCounts : Key .vehicleJourney UInt8 :=
  ⟨7, VehicleJourney.forwardTransfersCount, _, _, rfl⟩

def backwardTransfersOffsets : Key .vehicleJourney UInt32 :=
  ⟨8, VehicleJourney.backwardTransfersOffset, _, _, rfl⟩

def backwardTransfersCounts : Key .vehicleJourney UInt8 :=
  ⟨9, VehicleJourney.backwardTransfersCount, _, _, rfl⟩

end VehicleJourneys

/-- The vehicle journeys that the rows of the vehicle transfers lead to. -/
def transferRefs : Key .vehicleTransfer JourneyRef := ⟨0, id, _, _, rfl⟩

/-! ## What is read -/

variable {path : String} {image : ByteArray} {c : Container}

/-- The values of a column are those of its words in the image. -/
theorem values_eq {α : Type} [Cell α] [LawfulCell α] {k : Nat} {spec : ColumnSpec}
    {values : Array α} (shows : Shows path image c)
    (at_ : (columns c)[k]? = some ⟨spec, values.map Cell.toWord⟩) :
    (elements image spec.type (descriptorOf image k)).map Cell.ofWord = values := by
  have words : values.map Cell.toWord = elements image spec.type (descriptorOf image k) :=
    (shows.column at_).2
  rw [← words, LawfulCell.map_ofWord_toWord]

theorem Key.read_eq {e : Entity} {α : Type} [Cell α] [LawfulCell α] (key : Key e α)
    (shows : Shows path image c) : key.read image = (e.table c).rows.map key.part := by
  obtain ⟨name, columnName, field⟩ := key.isField
  have inside : key.place < e.columnCount := by
    have fields := (List.getElem?_eq_some_iff.1 field).1
    rwa [Entity.columnCount, tableSpecs, List.length_map]
  have at_ := congrArg (·[key.place]?) (columns_table e c)
  simp only [List.getElem?_take_of_lt inside, List.getElem?_drop, tableColumns,
    List.getElem?_map, field, Option.map_some, Field.of] at at_
  have field_ : (columns c)[e.firstColumn + key.place]? =
      some ⟨⟨columnName, Cell.type α⟩, ((e.table c).rows.map key.part).map Cell.toWord⟩ := by
    rw [at_, Array.map_map]
    rfl
  exact values_eq shows field_

theorem rowCount_eq (shows : Shows path image c) (e : Entity) :
    rowCount image e = (e.table c).rows.size := by
  have some_ : 0 < e.columnCount := by cases e <;> decide
  have count := shows.count_table e some_
  rwa [Nat.add_zero] at count

/-! ## Row numbers -/

/-- The rows of a table are numbered with 32 bits. -/
theorem rows_lt32 (shows : Shows path image c) (e : Entity) :
    (e.table c).rows.size < UInt32.size := by
  have short : (e.table c).rows.size ≤ e.maxRows := (shows.tables e).short
  refine Nat.lt_of_le_of_lt short ?_
  cases e <;> decide

theorem rows_lt_wordSize (shows : Shows path image c) (e : Entity) :
    (e.table c).rows.size < wordSize :=
  Nat.lt_trans (rows_lt32 shows e) (by decide)

/-- Stop points are numbered with 16 bits. -/
theorem stopPoints_lt16 (shows : Shows path image c) : c.stopPoints.rows.size < UInt16.size :=
  Nat.lt_of_le_of_lt (shows.tables .stopPoint).short (by decide)

/-- There is a word with one more than the stop points. -/
theorem stopPoints_succ_lt (shows : Shows path image c) :
    c.stopPoints.rows.size + 1 < wordSize :=
  Nat.lt_of_le_of_lt (stopPoints_lt16 shows) (by decide)

/-- Journey patterns are numbered with 16 bits. -/
theorem patterns_lt16 (shows : Shows path image c) : c.journeyPatterns.rows.size < UInt16.size :=
  Nat.lt_of_le_of_lt (shows.tables .journeyPattern).short (by decide)

/-! ## The pool and the stop index -/

theorem poolBytes_eq (shows : Shows path image c) : poolBytes image = c.pool.bytes.values :=
  values_eq shows (show (columns c)[0]? = some (poolColumn c.pool) from rfl)

theorem indexOffsets_eq (shows : Shows path image c) :
    indexOffsets image = c.stopIndex.offsets.values := by
  have at_ := congrArg (·[0]?) (columns_stopIndex c)
  rw [List.getElem?_drop] at at_
  exact values_eq shows at_

theorem indexPatterns_eq (shows : Shows path image c) :
    indexPatterns image = c.stopIndex.patterns.values := by
  have at_ := congrArg (·[1]?) (columns_stopIndex c)
  rw [List.getElem?_drop] at at_
  exact values_eq shows at_

end TransitStore.Guarded
