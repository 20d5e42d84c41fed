import TransitStore.Text.Blank

/-!
# Dates

A date is a day of the Gregorian calendar, extended into the past, from the
first day of the year −262143 to the last day of the year 262142.  It is held
as the number of days since the first day of 1970.
-/

namespace TransitStore.Calendar

/-- Days from the first of January 1970 to a day of a year and month.  Years
start in March here, so a leap day is the last day of its year. -/
def dayNumberOf (year : Int) (month day : Nat) : Int :=
  let y := if month ≤ 2 then year - 1 else year
  let era := y / 400
  let yearOfEra := y % 400
  let monthFromMarch : Nat := if 2 < month then month - 3 else month + 9
  let dayOfYear : Nat := (153 * monthFromMarch + 2) / 5 + day - 1
  era * 146097 + yearOfEra * 365 + yearOfEra / 4 - yearOfEra / 100 + dayOfYear - 719468

/-- The year, month and day of a day number. -/
def civilOf (dayNumber : Int) : Int × Nat × Nat :=
  let z := dayNumber + 719468
  let era := z / 146097
  let dayOfEra := (z % 146097).toNat
  let yearOfEra :=
    (dayOfEra - dayOfEra / 1460 + dayOfEra / 36524 - dayOfEra / 146096) / 365
  let dayOfYear := dayOfEra - (365 * yearOfEra + yearOfEra / 4 - yearOfEra / 100)
  let monthFromMarch := (5 * dayOfYear + 2) / 153
  let day := dayOfYear - (153 * monthFromMarch + 2) / 5 + 1
  let month := if monthFromMarch < 10 then monthFromMarch + 3 else monthFromMarch - 9
  let year : Int := yearOfEra + era * 400
  (if month ≤ 2 then year + 1 else year, month, day)

/-- Whether a year has a leap day. -/
def isLeap (year : Int) : Bool := year % 4 == 0 && (year % 100 != 0 || year % 400 == 0)

/-- The number of days of a month. -/
def daysInMonth (year : Int) (month : Nat) : Nat :=
  if month = 2 then (if isLeap year then 29 else 28)
  else if month = 4 ∨ month = 6 ∨ month = 9 ∨ month = 11 then 30
  else 31

/-- The day number of the first date. -/
def firstDay : Int := -96465292

/-- The day number of the last date. -/
def lastDay : Int := 95026236

example : dayNumberOf (-262143) 1 1 = firstDay := by decide
example : dayNumberOf 262142 12 31 = lastDay := by decide
example : dayNumberOf 1970 1 1 = 0 := by decide
example : civilOf 11016 = (2000, 2, 29) := by decide
example : civilOf (-1) = (1969, 12, 31) := by decide

/-- A date. -/
structure Date where
  /-- Days since the first of January 1970. -/
  dayNumber : Int
  /-- No date lies before the first one. -/
  firstDay_le : firstDay ≤ dayNumber
  /-- No date lies behind the last one. -/
  le_lastDay : dayNumber ≤ lastDay
deriving DecidableEq

/-- What is wrong with the text of a date. -/
inductive DateFault where
  /-- It ends too early. -/
  | ended
  /-- A number or a dash should stand where something else stands. -/
  | unexpected
  /-- There is no such year, month or day. -/
  | outOfRange
  /-- Something stands behind it. -/
  | trailing
deriving DecidableEq, Repr

/-- The wording of a fault. -/
def DateFault.message : DateFault → String
  | .ended => "premature end of input"
  | .unexpected => "input contains invalid characters"
  | .outOfRange => "input is out of range"
  | .trailing => "trailing input"

/-- The days of the week. -/
inductive Weekday where
  | monday
  | tuesday
  | wednesday
  | thursday
  | friday
  | saturday
  | sunday
deriving DecidableEq, Repr

namespace Date

/-- The date with a day number, if there is one. -/
def ofDayNumber? (n : Int) : Option Date :=
  if h : firstDay ≤ n ∧ n ≤ lastDay then some ⟨n, h.1, h.2⟩ else none

/-- The date of a year, month and day, if the month has such a day. -/
def ofCivil? (year : Int) (month day : Nat) : Option Date :=
  if 1 ≤ month ∧ month ≤ 12 ∧ 1 ≤ day ∧ day ≤ daysInMonth year month then
    ofDayNumber? (dayNumberOf year month day)
  else none

/-- The date some days later, if there is one. -/
def addDays? (d : Date) (days : Nat) : Option Date := ofDayNumber? (d.dayNumber + days)

/-- The days from one date to another, negative into the past. -/
def daysTo (a b : Date) : Int := b.dayNumber - a.dayNumber

/-- The day of the week.  The first of January 1970 was a Thursday. -/
def weekday (d : Date) : Weekday :=
  match ((d.dayNumber + 3) % 7).toNat with
  | 0 => .monday
  | 1 => .tuesday
  | 2 => .wednesday
  | 3 => .thursday
  | 4 => .friday
  | 5 => .saturday
  | _ => .sunday

/-- The earlier of two dates. -/
def earlier (a b : Date) : Date := if b.dayNumber < a.dayNumber then b else a

/-- Seconds from the start of 1970 to the start of the day, in universal time. -/
def midnight (d : Date) : Int := d.dayNumber * 86400

/-! ## Reading

A written date is a year, a month and a day, with a separator or none.  Blanks
may stand before each number.  A year without a sign has at most four digits,
a month and a day at most two.  Of two faults the one further left counts, but
text behind a date counts before a day that its month does not have. -/

/-- Splits off a number of at least one and at most `width` digits. -/
def takeDigits (width : Nat) (cs : List Char) : Except DateFault (Nat × List Char) :=
  let digits := (cs.take width).takeWhile Char.isDigit
  if cs.isEmpty then .error .ended
  else if digits.isEmpty then .error .unexpected
  else .ok (digits.foldl (fun n c => 10 * n + (c.toNat - '0'.toNat)) 0, cs.drop digits.length)

/-- Splits off a number of at most two digits behind blanks, from one to `last`. -/
def takeField (last : Nat) (cs : List Char) : Except DateFault (Nat × List Char) := do
  let (n, rest) ← takeDigits 2 (Text.skipBlanks cs)
  if 1 ≤ n ∧ n ≤ last then return (n, rest) else throw .outOfRange

/-- Splits off a month. -/
def takeMonth (cs : List Char) : Except DateFault (Nat × List Char) := takeField 12 cs

/-- Splits off a day of a month. -/
def takeDay (cs : List Char) : Except DateFault (Nat × List Char) := takeField 31 cs

/-- Splits off a year behind blanks.  It has 32 bits. -/
def takeYear (cs : List Char) : Except DateFault (Int × List Char) := do
  let (year, rest) ←
    match Text.skipBlanks cs with
    | '-' :: r => (takeDigits r.length r).map fun (n, rest) => (-(n : Int), rest)
    | '+' :: r => (takeDigits r.length r).map fun (n, rest) => ((n : Int), rest)
    | r => (takeDigits 4 r).map fun (n, rest) => ((n : Int), rest)
  if Int32.minValue.toInt ≤ year ∧ year ≤ Int32.maxValue.toInt then return (year, rest)
  else throw .outOfRange

/-- Skips a dash behind blanks. -/
def takeDash (cs : List Char) : Except DateFault (List Char) :=
  match Text.skipBlanks cs with
  | '-' :: r => .ok r
  | [] => .error .ended
  | _ => .error .unexpected

/-- The date of a year, month and day with nothing behind them. -/
def complete (year : Int) (month day : Nat) (rest : List Char) : Except DateFault Date :=
  if rest.isEmpty then
    match ofCivil? year month day with
    | some date => .ok date
    | none => .error .outOfRange
  else .error .trailing

/-- Reads a date written without separators, such as 20250131. -/
def readCompact (s : String) : Except DateFault Date := do
  let (year, r) ← takeYear s.toList
  let (month, r) ← takeMonth r
  let (day, r) ← takeDay r
  complete year month day r

/-- Reads a date written with dashes, such as 2025-01-31. -/
def readDashed (s : String) : Except DateFault Date := do
  let (year, r) ← takeYear s.toList
  let r ← takeDash r
  let (month, r) ← takeMonth r
  let r ← takeDash r
  let (day, r) ← takeDay r
  complete year month day (Text.skipBlanks r)

/-- The date written without separators, if there is one. -/
def ofCompact? (s : String) : Option Date := (readCompact s).toOption

/-- The date written with dashes, if there is one. -/
def ofDashed? (s : String) : Option Date := (readDashed s).toOption

example : (ofCompact? "20240229").map dayNumber = some 19782 := by decide +kernel
example : ofCompact? "20250229" = none := by decide +kernel
example : ofCompact? "+20250101" = none := by decide +kernel
example : (readCompact "2025" matches .error .ended) = true := by decide +kernel
example : (readCompact "202x" matches .error .unexpected) = true := by decide +kernel
example : (readCompact "202513011" matches .error .outOfRange) = true := by decide +kernel
example : (readCompact "202502301" matches .error .trailing) = true := by decide +kernel
example : (ofDashed? "+262142-12-31").map dayNumber = some lastDay := by decide +kernel
example : ofDashed? "+262143-01-01" = none := by decide +kernel
example : (ofDashed? "2025-01-12").map weekday = some .sunday := by decide +kernel

end Date

end TransitStore.Calendar
