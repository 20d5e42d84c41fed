import TransitStore.Binary.Text
import TransitStore.Calendar.Date
import TransitStore.Feed.Sheet
import TransitStore.Text.Integer

/-!
# The columns of feed files

The files of a feed have columns of known names, and what a field may hold
depends on its column.  `readRows` checks the rows of a sheet against a list of
columns one after the other and reads each as a function from column names to
fields.
-/

namespace TransitStore.Feed

/-- What a field may hold. -/
inductive Form where
  /-- Any text. -/
  | text
  /-- An integer in a range, or nothing if `optional`. -/
  | integer (optional : Bool) (low high : Int)
  /-- An integer of 16 bits or nothing.  The name is for messages. -/
  | code (name : String)
  /-- One of some words. -/
  | word (words : List String) (wording : Refusal)
  /-- A color or nothing. -/
  | color
  /-- A number or nothing.  Messages tell which field it is if `told`. -/
  | number (told : Bool)
  | date
  /-- A time of day or nothing. -/
  | time
deriving DecidableEq

/-- A color: the parts of red, green and blue. -/
structure Color where
  red : UInt8
  green : UInt8
  blue : UInt8
deriving DecidableEq, Repr

/-- Reads a color: three numbers in base sixteen of two characters each. -/
def Color.read? (s : String) : Option Color :=
  let part? (cs : List Char) : Option UInt8 :=
    (Text.integer? 16 0 255 cs).map fun n => UInt8.ofNat n.toNat
  match s.toList with
  | [a, b, c, d, e, f] => do return ⟨← part? [a, b], ← part? [c, d], ← part? [e, f]⟩
  | _ => none

/-- Reads a time of day: hours, minutes and seconds between colons.  Minutes and
seconds have two characters, and all have seven or more together with the colons.
The seconds since midnight are kept in 32 bits. -/
def readTime? (s : String) : Option UInt32 :=
  let part? (t : String) : Option Nat := (Text.decimal? 0 (UInt32.size - 1) t).map Int.toNat
  if s.utf8ByteSize < 7 then none
  else
    match s.splitOn ":" with
    | [hours, minutes, seconds] =>
      if minutes.utf8ByteSize ≠ 2 ∨ seconds.utf8ByteSize ≠ 2 then none
      else do
        return UInt32.ofNat ((← part? hours) * 3600 + (← part? minutes) * 60 + (← part? seconds))
    | _ => none

/-- The wording of a text that is not an integer. -/
def codeRefusal (name : String) : Refusal :=
  ⟨s!"invalid value for {name}, must be an integer: ", ""⟩

/-- The wording of a text that is not a color. -/
def colorRefusal : Refusal :=
  ⟨"'", "' is not a valid color; RRGGBB format is expected, without a leading `#`"⟩

/-- The wording of a text that is not a time of day. -/
def timeRefusal : Refusal := ⟨"'", "' is not a valid time; HH:MM:SS format is expected."⟩

/-- A fault if a text is not in order. -/
def faultUnless (inOrder : Bool) (fault : RowFault) : Option RowFault :=
  if inOrder then none else some fault

/-- What is wrong with a field, if it does not have its form.  The field's place
in its row is for messages. -/
def Form.fault? (form : Form) (place : Nat) (s : String) : Option RowFault :=
  match form with
  | .text => none
  | .integer optional low high =>
    if optional && s.isEmpty then none
    else
      match Text.readDecimalOrHex low high s with
      | .ok _ => none
      | .error fault => some (.integer place fault)
  | .code name =>
    faultUnless (s.isEmpty || (Text.decimal? (-32768) 32767 s).isSome)
      (.refused s (codeRefusal name))
  | .word words wording => faultUnless (words.contains s) (.refused s wording)
  | .color => faultUnless (s.isEmpty || (Color.read? s).isSome) (.refused s colorRefusal)
  | .number told =>
    faultUnless (s.isEmpty || (Binary.binary64.readNumber? s).isSome)
      (.number (if told then some place else none))
  | .date =>
    match Calendar.Date.readCompact s with
    | .ok _ => none
    | .error fault => some (.date fault)
  | .time => faultUnless (s.isEmpty || (readTime? s).isSome) (.refused s timeRefusal)

/-- A column of a feed file. -/
structure Column where
  name : String
  /-- What its fields hold. -/
  form : Form
  /-- Whether a file with rows must have the column. -/
  needed : Bool
  /-- Whether rows that end before the column are in order. -/
  mayEnd : Bool
deriving DecidableEq

namespace Column

/-- A column that must be there, with a field in every row. -/
def required (form : Form) (name : String) : Column := ⟨name, form, true, false⟩

/-- A column that may be left out, but not by single rows. -/
def defaulted (form : Form) (name : String) : Column := ⟨name, form, false, false⟩

/-- A column that may be left out, also by single rows. -/
def optional (form : Form) (name : String) : Column := ⟨name, form, false, true⟩

end Column

/-- A column of a sheet. -/
structure Heading where
  name : String
  /-- The column of that name, if it is a known one. -/
  column? : Option Column
  /-- Whether a column before it has the same name. -/
  repeated : Bool

/-- The columns of a sheet by their names. -/
def headingsOf (columns : List Column) (header : Array String) : List Heading :=
  header.toList.zipIdx.map fun (name, place) =>
    ⟨name, columns.find? (·.name == name), (header.toList.take place).contains name⟩

/-- What is wrong with a row in one column.  Fields of unknown columns count too,
if they are missing. -/
def Heading.fault? (heading : Heading) (place : Nat) (row : Array String) : Option RowFault :=
  match heading.column?, row[place]? with
  | none, some _ => none
  | none, none => some .ended
  | some column, field? =>
    if heading.repeated then some (.repeatedColumn heading.name)
    else
      match field? with
      | some field => column.form.fault? place field
      | none => faultUnless column.mayEnd .ended

/-- What is wrong with a row: the first fault from the left, or else the first
needed column that is not there.  Fields behind the last column do not count. -/
def rowFault? (columns : List Column) (headings : List Heading) (row : Array String) :
    Option RowFault :=
  (headings.zipIdx.findSome? fun (heading, place) => heading.fault? place row) <|>
    (columns.find? fun column => column.needed && !headings.any (·.name == column.name)).map
      fun column => .missingColumn column.name

/-- A row as a function from column names to fields, empty where there is none. -/
def fieldsOf (header : Array String) (row : Array String) (name : String) : String :=
  ((header.findIdx? (· == name)).bind fun place => row[place]?).getD ""

variable {α : Type}

/-- The records of the rows of a sheet.  Columns that are not in order make each row
wrong, so a sheet without rows is right. -/
def readRows (columns : List Column) (record : (String → String) → Except RowFault α)
    (sheet : Sheet) : Except SheetFault (List α) :=
  let headings := headingsOf columns sheet.header
  sheet.rows.mapM fun row => Except.mapError row.wrong do
    let texts ← row.texts
    match rowFault? columns headings texts with
    | some fault => throw fault
    | none => record (fieldsOf sheet.header texts)

end TransitStore.Feed
