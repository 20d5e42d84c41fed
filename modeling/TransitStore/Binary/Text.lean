import TransitStore.Binary.Format

/-!
# Numbers in text

`readNumber?` reads a decimal number, an infinity or the word for no number,
and rounds it to a datum once.
-/

namespace TransitStore.Binary

/-- The number written by decimal digits, if there are only such. -/
def digitsValue (cs : List Char) : Nat :=
  cs.foldl (fun n c => 10 * n + (c.toNat - '0'.toNat)) 0

/-- Splits a leading sign off a text.  The flag says whether it is a minus. -/
def takeSign : List Char → Bool × List Char
  | '+' :: cs => (false, cs)
  | '-' :: cs => (true, cs)
  | cs => (false, cs)

/-- The size an exponent must stay below to take another digit. -/
def exponentReach : Nat := 65536

/-- The number written by the digits of an exponent.  The digits behind a number
that has reached `exponentReach` do not count. -/
def exponentValue (cs : List Char) : Nat :=
  cs.foldl (fun n c => if n < exponentReach then 10 * n + (c.toNat - '0'.toNat) else n) 0

/-- The exponent at the end of a number, zero if the text is empty. -/
def exponent? : List Char → Option Int
  | [] => some 0
  | c :: cs =>
    if c = 'e' ∨ c = 'E' then
      let (negative, digits) := takeSign cs
      if digits.isEmpty ∨ !digits.all Char.isDigit then none
      else some (if negative then -(exponentValue digits : Int) else exponentValue digits)
    else none

/-- More decimal digits than any number has that lies halfway between two
neighbouring data. -/
def Format.digitLimit (f : Format) : Nat := (f.precision + 2 - f.minExponent).toNat

/-- The first digits, with a one behind them if the others are not all zero.  As no
number with so few digits lies between, both are rounded alike. -/
def clip (limit : Nat) (digits : List Char) : List Char :=
  if (digits.drop limit).all (· == '0') then digits.take limit else digits.take limit ++ ['1']

/-- The bits of `0.digits · 10 ^ point` without a sign.  A number far beyond the
format's range is not multiplied out. -/
def Format.ofFraction (f : Format) (digits : List Char) (point : Int) : Nat :=
  let reach : Int := Nat.pow 2 f.exponentBits
  if digits.isEmpty ∨ point < -reach then 0
  else if reach < point then f.infinity
  else
    let kept := clip f.digitLimit digits
    let exponent := point - kept.length
    f.round (digitsValue kept * power 10 exponent) (power 10 (-exponent))

/-- The bits of `digits · 10 ^ exponent` without a sign. -/
def Format.ofDecimal (f : Format) (digits : List Char) (exponent : Int) : Nat :=
  let significant := digits.dropWhile (· == '0')
  f.ofFraction significant (significant.length + exponent)

/-- Reads a decimal without a sign: digits with at most one point among them and
at least one digit, then maybe an exponent. -/
def Format.unsigned? (f : Format) (cs : List Char) : Option Nat :=
  let whole := cs.takeWhile Char.isDigit
  let behind := cs.dropWhile Char.isDigit
  let (fraction, rest) :=
    match behind with
    | '.' :: r => (r.takeWhile Char.isDigit, r.dropWhile Char.isDigit)
    | r => ([], r)
  if whole.isEmpty ∧ fraction.isEmpty then none
  else (exponent? rest).map fun e =>
    f.ofDecimal (whole ++ fraction) (e - fraction.length)

/-- Reads a number.  Words may be in any case. -/
def Format.readNumber? (f : Format) (s : String) : Option Nat :=
  let (negative, cs) := takeSign s.toList
  let word := String.ofList (cs.map Char.toLower)
  if word = "inf" ∨ word = "infinity" then some (f.withSign negative f.infinity)
  else if word = "nan" then some (f.withSign negative f.quietNan)
  else (f.unsigned? cs).map (f.withSign negative)

example : binary64.readNumber? "+1.5" = some 0x3ff8000000000000 := by decide +kernel
example : binary64.readNumber? "-.5e1" = some 0xc014000000000000 := by decide +kernel
example : binary64.readNumber? "5." = binary64.readNumber? "05" := by decide +kernel
example : binary64.digitLimit = 1129 := by decide +kernel
example : clip 2 "1203".toList = "121".toList := by decide +kernel
example : clip 2 "1200".toList = "12".toList := by decide +kernel
example : binary64.readNumber? "1e999999" = some binary64.infinity := by decide +kernel
example : binary64.readNumber? "1e-655369" = some 0 := by decide +kernel
example : exponentValue "655359".toList = 655359 := by decide +kernel
example : exponentValue "655360".toList = 65536 := by decide +kernel
example : binary64.readNumber? "-iNf" = some 0xfff0000000000000 := by decide +kernel
example : binary64.readNumber? "." = none := by decide +kernel
example : binary64.readNumber? "1e" = none := by decide +kernel
example : binary64.readNumber? "1e5x" = none := by decide +kernel

end TransitStore.Binary
