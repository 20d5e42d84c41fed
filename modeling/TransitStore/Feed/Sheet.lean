import TransitStore.Feed.Fault
import TransitStore.Text.Blank

/-!
# Sheets

A sheet is a text of rows, each a sequence of fields between commas.  A row ends
at a line feed or a carriage return, and empty rows do not count.  A field whose
first byte is a quote goes on to the next single quote, two quotes inside it
stand for one, and what follows up to the comma belongs to it too.  The first
row has the names of the columns.  Blanks around names and fields do not count.

For messages a row starts right behind the byte that ended the row before it.  So
a line feed behind a carriage return belongs to the next row, as do empty rows.
-/

namespace TransitStore.Feed

/-- Where in a sheet the next byte stands. -/
inductive Position where
  /-- Before a row. -/
  | rowStart
  /-- Before a field. -/
  | fieldStart
  /-- In a field that is not quoted, or behind the closing quote of one. -/
  | plain
  /-- In a quoted field. -/
  | quoted
  /-- Behind a quote in a quoted field. -/
  | behindQuote
deriving DecidableEq

/-- A row as it stands in a sheet. -/
structure RawRow where
  /-- Where it starts. -/
  start : Place
  fields : Array ByteArray

/-- What was read of a sheet so far. -/
structure Scan where
  /-- The rows that have ended. -/
  rows : Array RawRow := #[]
  /-- The fields of the row that have ended. -/
  row : Array ByteArray := #[]
  /-- The bytes of the field. -/
  field : ByteArray := .empty
  /-- Where the next byte stands. -/
  position : Position := .rowStart
  /-- Where the row starts. -/
  start : Place := {}
  /-- The place of the next byte. -/
  here : Place := {}

namespace Scan

/-- The byte between fields. -/
def comma : UInt8 := 44

/-- The byte around quoted fields. -/
def quote : UInt8 := 34

/-- The bytes that end a row. -/
def isRowEnd (b : UInt8) : Bool := b == 10 || b == 13

/-- Goes past a byte. -/
def pass (b : UInt8) : Scan → Scan
  | ⟨rows, row, field, position, start, here⟩ =>
    ⟨rows, row, field, position, start, here.behind b⟩

/-- Ends the field. -/
def endField : Scan → Scan
  | ⟨rows, row, field, _, start, here⟩ => ⟨rows, row.push field, .empty, .fieldStart, start, here⟩

/-- Ends the field and the row.  The next row starts here. -/
def endRow : Scan → Scan
  | ⟨rows, row, field, _, start, here⟩ =>
    ⟨rows.push ⟨start, row.push field⟩, #[], .empty, .rowStart, here, here⟩

/-- Adds a byte to the field. -/
def keep (b : UInt8) (position : Position) : Scan → Scan
  | ⟨rows, row, field, _, start, here⟩ => ⟨rows, row, field.push b, position, start, here⟩

/-- Goes to a position without adding anything. -/
def goto (position : Position) : Scan → Scan
  | ⟨rows, row, field, _, start, here⟩ => ⟨rows, row, field, position, start, here⟩

/-- Reads a byte of a field that is not quoted. -/
def plainByte (b : UInt8) (s : Scan) : Scan :=
  if b == comma then s.endField
  else if isRowEnd b then s.endRow
  else s.keep b .plain

/-- Reads a byte before a field. -/
def firstByte (b : UInt8) (s : Scan) : Scan :=
  if b == quote then s.goto .quoted else s.plainByte b

/-- Reads a byte that was gone past. -/
def read (b : UInt8) (s : Scan) : Scan :=
  match s.position with
  | .rowStart => if isRowEnd b then s else s.firstByte b
  | .fieldStart => s.firstByte b
  | .plain => s.plainByte b
  | .quoted => if b == quote then s.goto .behindQuote else s.keep b .quoted
  | .behindQuote => if b == quote then s.keep b .quoted else s.plainByte b

/-- Reads the next byte. -/
def step (s : Scan) (b : UInt8) : Scan := (s.pass b).read b

/-- The rows at the end of a sheet.  The end also ends the row, and a quote. -/
def finish (s : Scan) : Array RawRow :=
  match s.position with
  | .rowStart => s.rows
  | _ => s.endRow.rows

end Scan

/-- The number of bytes before the first that is part of no well-formed character,
from one of them on. -/
def wellFormedFrom (bytes : ByteArray) (start : Nat) : Nat :=
  if start < bytes.size then
    match bytes.utf8DecodeChar? start with
    | some c => wellFormedFrom bytes (start + c.utf8Size)
    | none => start
  else start
termination_by bytes.size - start
decreasing_by
  have := c.utf8Size_pos
  omega

/-- Whether a byte is a blank of the first code block, but no vertical tab. -/
def isBlankByte (b : UInt8) : Bool := b == 32 || b == 9 || b == 10 || b == 12 || b == 13

/-- The number of blanks at the start of a field. -/
def leadingBlanks (field : ByteArray) : Nat := (field.data.toList.takeWhile isBlankByte).length

/-- The fields of a row as texts without the blanks around them.  The place of a
byte that is not well-formed is counted behind the blanks that `skip` gives. -/
def textsOf (skip : ByteArray → Nat) (fields : Array ByteArray) :
    Except RowFault (Array String) :=
  fields.zipIdx.mapM fun (field, number) =>
    match String.fromUTF8? field with
    | some text => .ok (Text.trim text)
    | none => .error (.malformed number (wellFormedFrom field 0 - skip field))

/-- A row behind the names of the columns. -/
structure Row extends RawRow where
  /-- The number, counted from one. -/
  number : Nat

namespace Row

/-- A fault of a row. -/
def wrong (row : Row) (fault : RowFault) : SheetFault := ⟨row.number, row.start, fault⟩

/-- The fields of a row as texts. -/
def texts (row : Row) : Except RowFault (Array String) := textsOf leadingBlanks row.fields

end Row

/-- A sheet. -/
structure Sheet where
  /-- The names of the columns. -/
  header : Array String := #[]
  rows : List Row := []

namespace Sheet

/-- The three bytes of a byte order mark. -/
def mark : Array UInt8 := #[0xef, 0xbb, 0xbf]

/-- A text without a byte order mark at its start. -/
def dropMark (bytes : ByteArray) : ByteArray :=
  if (bytes.extract 0 3).data = mark then bytes.extract 3 bytes.size else bytes

/-- The rows of a sheet.  At its start a byte order mark and one more are dropped.
The second counts as bytes of the first row. -/
def scan (bytes : ByteArray) : Array RawRow :=
  let marked := dropMark bytes
  let plain := dropMark marked
  (plain.foldl Scan.step { here := ⟨marked.size - plain.size, 1⟩ }).finish

/-- Reads a sheet, if the names of its columns are well-formed. -/
def ofBytes (bytes : ByteArray) : Except SheetFault Sheet :=
  match (scan bytes).toList with
  | [] => .ok {}
  | first :: rest =>
    match textsOf (fun _ => 0) first.fields with
    | .error fault => .error ⟨0, first.start, fault⟩
    | .ok header => .ok ⟨header, rest.zipIdx.map fun (row, place) => ⟨row, place + 1⟩⟩

end Sheet

end TransitStore.Feed
