/-!
# Binary floating point formats

Coordinates are stored as the bits of the 32 bit interchange format and read
from text through the 64 bit one.  A datum is a natural number, its bits.
`Format.decode` gives the number it stands for, `Format.round` the datum
nearest to a quotient, and `Format.orderKey` an integer that orders data as
their numbers are ordered.  All arithmetic is exact.
-/

namespace TransitStore.Binary

/-- A power of a base, one if the exponent is negative.  So `m · base ^ e` is
the quotient of `m * power base e` and `power base (-e)`. -/
def power (base : Nat) (exponent : Int) : Nat := Nat.pow base exponent.toNat

/-- An interchange format. -/
structure Format where
  /-- Bits of the significand, the hidden one included. -/
  precision : Nat
  /-- Bits of the exponent field. -/
  exponentBits : Nat
deriving DecidableEq

/-- The format of 32 bits. -/
def binary32 : Format := ⟨24, 8⟩

/-- The format of 64 bits. -/
def binary64 : Format := ⟨53, 11⟩

/-- What a datum stands for. -/
inductive Value where
  /-- `significand · 2 ^ exponent`, negated if `negative`. -/
  | finite (negative : Bool) (significand : Nat) (exponent : Int)
  /-- An infinity. -/
  | infinite (negative : Bool)
  /-- No number. -/
  | nan
deriving DecidableEq

namespace Format

/-- The exponent of the last place of the smallest data. -/
def minExponent (f : Format) : Int := 3 - Nat.pow 2 (f.exponentBits - 1) - f.precision

/-- The weight of the exponent field in the bits. -/
def fieldUnit (f : Format) : Nat := Nat.pow 2 (f.precision - 1)

/-- The bits of positive infinity. -/
def infinity (f : Format) : Nat := (Nat.pow 2 f.exponentBits - 1) * f.fieldUnit

/-- The sign bit. -/
def signBit (f : Format) : Nat := Nat.pow 2 f.exponentBits * f.fieldUnit

/-- The bits of the positive quiet datum that is no number and carries nothing else. -/
def quietNan (f : Format) : Nat := f.infinity + f.fieldUnit / 2

/-- Whether the sign bit is set. -/
def isNegative (f : Format) (bits : Nat) : Bool := bits / f.signBit % 2 == 1

/-- The bits without the sign. -/
def magnitude (f : Format) (bits : Nat) : Nat := bits % f.signBit

/-- Sets the sign bit of bits that have none. -/
def withSign (f : Format) (negative : Bool) (bits : Nat) : Nat :=
  if negative then f.signBit + bits else bits

/-- The number a datum stands for. -/
def decode (f : Format) (bits : Nat) : Value :=
  let negative := f.isNegative bits
  let magnitude := f.magnitude bits
  if magnitude < f.infinity then
    let field := magnitude / f.fieldUnit
    let fraction := magnitude % f.fieldUnit
    if field = 0 then .finite negative fraction f.minExponent
    else .finite negative (fraction + f.fieldUnit) (f.minExponent + (field - 1 : Nat))
  else if magnitude = f.infinity then .infinite negative
  else .nan

/-- An integer that orders data as their numbers.  Both zeros have the same one. -/
def orderKey (f : Format) (bits : Nat) : Option Int :=
  let magnitude := f.magnitude bits
  if magnitude ≤ f.infinity then
    some (if f.isNegative bits then -(magnitude : Int) else magnitude)
  else none

/-- Whether a datum is a number from `low` to `high`. -/
def within (f : Format) (low high bits : Nat) : Bool :=
  match f.orderKey low, f.orderKey high, f.orderKey bits with
  | some l, some h, some b => decide (l ≤ b ∧ b ≤ h)
  | _, _, _ => false

/-- The quotient `num / den` over `2 ^ exponent`, rounded to the nearest
integer, a half to the even one. -/
def scaled (num den : Nat) (exponent : Int) : Nat :=
  let n := num * power 2 (-exponent)
  let d := den * power 2 exponent
  let down := n / d
  let rest := 2 * (n % d)
  if rest < d ∨ (rest = d ∧ down % 2 = 0) then down else down + 1

/-- The exponent of the last place of the datum nearest to `num / den`. -/
def lastPlace (f : Format) (num den : Nat) : Int :=
  let guess : Int := (Nat.log2 num : Int) - Nat.log2 den - f.precision
  let fits (e : Int) : Bool :=
    num * power 2 (-e) < Nat.pow 2 f.precision * (den * power 2 e)
  let e := if fits guess then guess else if fits (guess + 1) then guess + 1 else guess + 2
  max e f.minExponent

/-- The bits of the datum nearest to `num / den`, a half to the even one and
past the largest number to infinity. -/
def round (f : Format) (num den : Nat) : Nat :=
  let e := f.lastPlace num den
  let significand := scaled num den e
  let bits :=
    if significand < f.fieldUnit then significand
    else (e - f.minExponent).toNat * f.fieldUnit + significand
  min bits f.infinity

/-- The datum of the second format nearest to one of the first. -/
def convert (source target : Format) (bits : Nat) : Nat :=
  match source.decode bits with
  | .finite negative significand exponent =>
    target.withSign negative
      (target.round (significand * power 2 exponent) (power 2 (-exponent)))
  | .infinite negative => target.withSign negative target.infinity
  | .nan => target.withSign (source.isNegative bits) target.quietNan

end Format

example : binary32.decode 0x42520000 = .finite false 0xd20000 (-18) := by decide +kernel
example : binary32.round 105 2 = 0x42520000 := by decide +kernel
example : binary64.round 1 10 = 0x3fb999999999999a := by decide +kernel
example : binary64.round (2 ^ 1024) 1 = binary64.infinity := by decide +kernel
example : binary64.round 1 (2 ^ 1075) = 0 := by decide +kernel
example : binary64.round 3 (2 ^ 1075) = 2 := by decide +kernel
example : binary64.convert binary32 0x3fb999999999999a = 0x3dcccccd := by decide +kernel

end TransitStore.Binary
