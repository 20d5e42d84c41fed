import TransitStore.LittleEndian
import TransitStore.Width

/-!
# Records

A table keeps records of one type.  A snapshot keeps the table column by
column, each column a sequence of words.  `Cell` says how an element of a
column is such a word, and `Record` how a record is made of elements.
-/

namespace TransitStore

/-- A place on the globe.  Both numbers are data of the 32 bit floating point
format, kept as their bits. -/
structure Coordinate where
  /-- Degrees to the north. -/
  latitude : UInt32
  /-- Degrees to the east. -/
  longitude : UInt32
deriving DecidableEq, Repr, Inhabited

/-- A vehicle journey, found through its pattern. -/
structure JourneyRef where
  /-- The pattern's row. -/
  pattern : UInt16
  /-- The place among the pattern's vehicle journeys. -/
  offset : UInt16
deriving DecidableEq, Repr, Inhabited

/-- The element types of columns. -/
inductive CellType where
  /-- Bytes. -/
  | u8
  /-- Numbers of 16 bits. -/
  | u16
  /-- Numbers of 32 bits. -/
  | u32
  /-- Signed bytes. -/
  | i8
  | coordinate
  /-- Vehicle journeys. -/
  | journeyRef
deriving DecidableEq, Repr

namespace CellType

/-- The bytes of one element. -/
def size : CellType → Nat
  | u8 | i8 => 1
  | u16 => 2
  | u32 | journeyRef => 4
  | coordinate => 8

/-- The number that the place of an element is a multiple of. -/
def alignment : CellType → Nat
  | u8 | i8 => 1
  | u16 | journeyRef => 2
  | u32 | coordinate => 4

/-- The name in messages. -/
def name : CellType → String
  | u8 => "u8"
  | u16 => "u16"
  | u32 => "u32"
  | i8 => "i8"
  | coordinate => "trip_atlas_timetable::index::LatLon"
  | journeyRef => "trip_atlas_timetable::index::VehicleJourneyRef"

end CellType

/-- The types whose values are elements of columns.  A word of the type's size
stands for each. -/
class Cell (α : Type) where
  /-- The element type. -/
  type : CellType
  /-- The word of a value. -/
  toWord : α → Nat
  /-- The value of a word. -/
  ofWord : Nat → α

instance : Cell UInt8 := ⟨.u8, UInt8.toNat, UInt8.ofNat⟩
instance : Cell UInt16 := ⟨.u16, UInt16.toNat, UInt16.ofNat⟩
instance : Cell UInt32 := ⟨.u32, UInt32.toNat, UInt32.ofNat⟩
instance : Cell Int8 := ⟨.i8, fun x => x.toUInt8.toNat, fun n => (UInt8.ofNat n).toInt8⟩

instance : Cell Coordinate where
  type := .coordinate
  toWord c := c.latitude.toNat + UInt32.size * c.longitude.toNat
  ofWord n := ⟨UInt32.ofNat n, UInt32.ofNat (n / UInt32.size)⟩

instance : Cell JourneyRef where
  type := .journeyRef
  toWord r := r.pattern.toNat + UInt16.size * r.offset.toNat
  ofWord n := ⟨UInt16.ofNat n, UInt16.ofNat (n / UInt16.size)⟩

/-- A column of the records `ρ`. -/
structure Field (ρ : Type) where
  /-- The name among the columns of the table. -/
  name : String
  /-- The name among the columns of a snapshot. -/
  columnName : String
  /-- The element type. -/
  type : CellType
  /-- A record's element, as a word. -/
  word : ρ → Nat

/-- The column of a part of the records. -/
def Field.of {ρ α : Type} [Cell α] (name columnName : String) (part : ρ → α) : Field ρ :=
  ⟨name, columnName, Cell.type α, fun r => Cell.toWord (part r)⟩

/-- The types of records that tables keep. -/
class Record (ρ : Type) where
  /-- The name of the table's structure. -/
  structureName : String
  /-- The table's name in messages. -/
  label : String
  /-- The width of row numbers. -/
  width : Width
  /-- The rows a growing table makes room for beyond what it needs. -/
  slack : Nat
  /-- The columns, in the order of a snapshot. -/
  fields : List (Field ρ)
  /-- The record with the given word in each column. -/
  ofWords : (Nat → Nat) → ρ

end TransitStore
