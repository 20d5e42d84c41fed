import TransitStore.Calendar.Date
import TransitStore.Files.Fault
import TransitStore.Text.Integer

/-!
# Faults of feeds

What keeps a feed from being read.  A fault has a wording, and most have one
more that says what lies behind it: what keeps the file from being read, or
which row of its sheet is wrong and how.
-/

namespace TransitStore

namespace Feed

/-- A place in a sheet, between two bytes. -/
structure Place where
  /-- The number of bytes before it. -/
  byte : Nat := 0
  /-- The number of its line, counted by line feeds from one. -/
  line : Nat := 1
deriving DecidableEq, Repr

/-- The place behind a byte. -/
def Place.behind (p : Place) (b : UInt8) : Place :=
  ⟨p.byte + 1, if b == 10 then p.line + 1 else p.line⟩

/-- The wording of a refused text: what stands before and behind it. -/
structure Refusal where
  /-- What stands before the text. -/
  before : String
  /-- What stands behind the text. -/
  behind : String := ""
deriving DecidableEq, Repr

/-- What is wrong with a row of a sheet.  Fields are counted from zero. -/
inductive RowFault where
  /-- A field is not well-formed from one of its bytes on. -/
  | malformed (field byte : Nat)
  /-- A column is there a second time. -/
  | repeatedColumn (name : String)
  /-- A column is not there. -/
  | missingColumn (name : String)
  /-- The row ends before a field that must be there. -/
  | ended
  /-- A field should hold an integer. -/
  | integer (field : Nat) (fault : Text.IntegerFault)
  /-- A field should hold a number.  Some columns do not tell which field. -/
  | number (field : Option Nat)
  /-- A field should hold a date. -/
  | date (fault : Calendar.DateFault)
  /-- A field holds a text that its column does not take. -/
  | refused (text : String) (wording : Refusal)
deriving DecidableEq, Repr

/-- The wording of a fault. -/
def RowFault.message : RowFault → String
  | .malformed field byte =>
    s!"invalid utf-8: invalid UTF-8 in field {field} near byte index {byte}"
  | .repeatedColumn name => s!"duplicate field `{name}`"
  | .missingColumn name => s!"missing field `{name}`"
  | .ended => "expected field, but got end of row"
  | .integer field fault => s!"field {field}: {fault.message}"
  | .number (some field) => s!"field {field}: invalid float literal"
  | .number none => "invalid float literal"
  | .date fault => fault.message
  | .refused text wording => wording.before ++ text ++ wording.behind

/-- A row of a sheet that is wrong. -/
structure SheetFault where
  /-- The number of the row, zero for the names of the columns. -/
  row : Nat
  /-- Where the row starts. -/
  start : Place
  /-- What is wrong with it. -/
  fault : RowFault
deriving DecidableEq, Repr

/-- The wording of a fault.  A row that is no text is told from one that does not
make sense. -/
def SheetFault.message : SheetFault → String
  | ⟨row, ⟨byte, line⟩, fault⟩ =>
    match fault with
    | .malformed field _ =>
      s!"CSV parse error: record {row} (line {line}, field: {field}, byte: {byte}): {fault.message}"
    | _ => s!"CSV deserialize error: record {row} (line: {line}, byte: {byte}): {fault.message}"

end Feed

/-- A file of a feed that cannot be read. -/
inductive FeedFault where
  /-- A needed file is not there. -/
  | missing (file : String)
  /-- A file is too short to be one. -/
  | short (file : String)
  /-- A file is there but its contents are not. -/
  | unreadable (file : String) (fault : FileFault)
  /-- A file has a row that is wrong. -/
  | badTable (file : String) (fault : Feed.SheetFault)
deriving DecidableEq, Repr

namespace FeedFault

/-- The wording of a fault. -/
def message : FeedFault → String
  | missing file => s!"Cound not find file {file}"
  | short file => s!"impossible to read '{file}'"
  | unreadable file _ => s!"impossible to read '{file}'"
  | badTable file _ => s!"impossible to read csv file '{file}'"

/-- The wordings of what lies behind a fault. -/
def causes : FeedFault → List String
  | missing _ => []
  | short _ => ["failed to fill whole buffer"]
  | unreadable _ fault => [fault.message]
  | badTable _ fault => [fault.message]

end FeedFault

end TransitStore
