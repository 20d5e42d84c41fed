import TransitStore.Container.Basic

/-!
# The layout of snapshots

A snapshot starts with a header of fixed size: eight bytes of magic, the numbers
of the container that are in no table, and a descriptor for each column that
says where the column starts and how many elements it has.  The columns follow
in a fixed order, each at a multiple of eight bytes.  The gaps before the columns
and behind the last one are zero.
-/

namespace TransitStore.Snapshot

/-- A column without its elements. -/
structure ColumnSpec where
  name : String
  /-- The element type. -/
  type : CellType
deriving DecidableEq, Repr

/-- The columns of a table of the records `ρ`. -/
def tableSpecs (ρ : Type) [Record ρ] : List ColumnSpec :=
  (Record.fields : List (Field ρ)).map fun f => ⟨f.columnName, f.type⟩

/-- The column of the string pool. -/
def poolSpec : ColumnSpec := ⟨"StringPool", .u8⟩

/-- The column of the stop index's offsets. -/
def indexOffsetsSpec : ColumnSpec := ⟨"PatternsAtStopOffsets", .u32⟩

/-- The column of the stop index's lists. -/
def indexPatternsSpec : ColumnSpec := ⟨"PatternsAtStopPatterns", .u16⟩

/-- All columns, in the order of a snapshot. -/
def specs : List ColumnSpec :=
  [poolSpec] ++ tableSpecs StopArea ++ tableSpecs StopPoint ++ tableSpecs Transfer ++
    tableSpecs Operator ++ tableSpecs PhysicalMode ++ tableSpecs CommercialMode ++
    tableSpecs Line ++ tableSpecs Route ++ tableSpecs JourneyPatternPoint ++
    tableSpecs JourneyPattern ++ tableSpecs StopTime ++ tableSpecs VehicleJourney ++
    tableSpecs JourneyRef ++ [indexOffsetsSpec, indexPatternsSpec]

/-- The bytes that every snapshot starts with, as text. -/
def magic : String := "TTABLEV4"

/-- The time zone of a container that has none. -/
def noTimezone : Nat := UInt32.size - 1

/-- The number of columns. -/
def columnCount : Nat := specs.length

/-- The bytes of the header before the descriptors. -/
def descriptorStart : Nat := 32

/-- The bytes of one descriptor. -/
def descriptorSize : Nat := 16

/-- The bytes of the header. -/
def headerSize : Nat := descriptorStart + columnCount * descriptorSize

/-- The number that the place of a column is a multiple of. -/
def columnAlignment : Nat := 8

/-- The first place from a given one on that a column can start at. -/
def alignUp (place : Nat) : Nat := (place + columnAlignment - 1) / columnAlignment * columnAlignment

/-- Where a column is. -/
structure Descriptor where
  /-- The place of the first element. -/
  offset : Nat
  /-- The number of elements. -/
  count : Nat
deriving DecidableEq, Repr

/-- A column with its elements, as words. -/
structure Column extends ColumnSpec where
  /-- The elements. -/
  words : Array Nat

/-- The bytes of a column. -/
def Column.byteSize (column : Column) : Nat := column.words.size * column.type.size

/-- The columns of a table. -/
def tableColumns {ρ : Type} [Record ρ] (t : Table ρ) : List Column :=
  (Record.fields : List (Field ρ)).map fun f => ⟨⟨f.columnName, f.type⟩, t.rows.map f.word⟩

/-- The columns of a container, in the order of a snapshot. -/
def columns (c : Container) : List Column :=
  [⟨poolSpec, c.pool.bytes.values.map UInt8.toNat⟩] ++ tableColumns c.stopAreas ++
    tableColumns c.stopPoints ++ tableColumns c.transfers ++ tableColumns c.operators ++
    tableColumns c.physicalModes ++ tableColumns c.commercialModes ++ tableColumns c.lines ++
    tableColumns c.routes ++ tableColumns c.journeyPatternPoints ++
    tableColumns c.journeyPatterns ++ tableColumns c.stopTimes ++
    tableColumns c.vehicleJourneys ++ tableColumns c.vehicleTransfers ++
    [⟨indexOffsetsSpec, c.stopIndex.offsets.values.map UInt32.toNat⟩,
      ⟨indexPatternsSpec, c.stopIndex.patterns.values.map UInt16.toNat⟩]

/-- Where columns come to stand that follow a place. -/
def descriptorsFrom (place : Nat) : List Column → List Descriptor
  | [] => []
  | column :: rest =>
    let offset := alignUp place
    ⟨offset, column.words.size⟩ :: descriptorsFrom (offset + column.byteSize) rest

/-- Where the columns of a container come to stand. -/
def descriptors (c : Container) : List Descriptor := descriptorsFrom headerSize (columns c)

example : columnCount = 55 := by decide
example : headerSize = 912 := by decide

end TransitStore.Snapshot
