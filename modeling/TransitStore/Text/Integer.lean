/-!
# Integers in text

An integer is written by digits, maybe behind a sign.  A minus is only read
where negative integers are wanted, even before a zero.
-/

namespace TransitStore.Text

/-- The value of a digit in base sixteen. -/
def digit? (c : Char) : Option Nat :=
  if '0' ≤ c ∧ c ≤ '9' then some (c.toNat - '0'.toNat)
  else if 'a' ≤ c ∧ c ≤ 'f' then some (c.toNat - 'a'.toNat + 10)
  else if 'A' ≤ c ∧ c ≤ 'F' then some (c.toNat - 'A'.toNat + 10)
  else none

/-- What is wrong with the text of an integer. -/
inductive IntegerFault where
  /-- There is none. -/
  | empty
  /-- A character is not a digit. -/
  | notDigit
  /-- The integer is larger than wanted. -/
  | tooLarge
  /-- The integer is smaller than wanted. -/
  | tooSmall
deriving DecidableEq, Repr

/-- The wording of a fault. -/
def IntegerFault.message : IntegerFault → String
  | .empty => "cannot parse integer from empty string"
  | .notDigit => "invalid digit found in string"
  | .tooLarge => "number too large to fit in target type"
  | .tooSmall => "number too small to fit in target type"

/-- The number written by digits in a base up to sixteen, behind a number already
read.  It stops with the fault `beyond` at the first digit that leads past the
bound. -/
def digitsUpTo (base bound : Nat) (beyond : IntegerFault) :
    (read : Nat) → List Char → Except IntegerFault Nat
  | read, [] => .ok read
  | read, c :: cs =>
    match (digit? c).filter (· < base) with
    | none => .error .notDigit
    | some d =>
      if bound < base * read + d then .error beyond
      else digitsUpTo base bound beyond (base * read + d) cs

/-- The integer written in a base, from `low` to `high`.  These lie around zero. -/
def readInteger (base : Nat) (low high : Int) : List Char → Except IntegerFault Int
  | [] => .error .empty
  | ['+'] => .error .notDigit
  | ['-'] => .error .notDigit
  | '+' :: digits => (digitsUpTo base high.toNat .tooLarge 0 digits).map Int.ofNat
  | '-' :: digits =>
    if low < 0 then (digitsUpTo base low.natAbs .tooSmall 0 digits).map (-·)
    else .error .notDigit
  | digits => (digitsUpTo base high.toNat .tooLarge 0 digits).map Int.ofNat

/-- The integer written in base ten, or in base sixteen behind `0x`, from `low`
to `high`. -/
def readDecimalOrHex (low high : Int) (s : String) : Except IntegerFault Int :=
  match s.toList with
  | '0' :: 'x' :: digits => readInteger 16 low high digits
  | digits => readInteger 10 low high digits

/-- The integer written in a base, if it lies from `low` to `high`. -/
def integer? (base : Nat) (low high : Int) (cs : List Char) : Option Int :=
  (readInteger base low high cs).toOption

/-- The integer written in base ten, if it lies from `low` to `high`. -/
def decimal? (low high : Int) (s : String) : Option Int := integer? 10 low high s.toList

/-- The integer written in base ten, or in base sixteen behind `0x`, if it lies
from `low` to `high`. -/
def decimalOrHex? (low high : Int) (s : String) : Option Int :=
  (readDecimalOrHex low high s).toOption

example : decimal? (-32768) 32767 "-0" = some 0 := by decide +kernel
example : decimal? 0 65535 "-0" = none := by decide +kernel
example : decimal? 0 65535 "+65535" = some 65535 := by decide +kernel
example : decimal? 0 65535 "65536" = none := by decide +kernel
example : decimal? 0 65535 "+" = none := by decide +kernel
example : decimalOrHex? 0 65535 "0x1F" = some 31 := by decide +kernel
example : (readDecimalOrHex 0 65535 "0x" matches .error .empty) = true := by decide +kernel
example : (readDecimalOrHex 0 65535 "65536x" matches .error .tooLarge) = true := by decide +kernel
example : (readDecimalOrHex 0 65535 "6553x6" matches .error .notDigit) = true := by decide +kernel
example : (readDecimalOrHex (-32768) 32767 "-32769" matches .error .tooSmall) = true := by
  decide +kernel

end TransitStore.Text
