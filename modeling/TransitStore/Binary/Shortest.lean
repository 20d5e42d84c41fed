import TransitStore.Binary.Format

/-!
# The shortest decimal of a datum

The shortest decimal is the one with the fewest digits among those that lie
nearer to the datum's number than to its neighbours', and the nearest of
these.  `shortest` finds it, `positional` and `scientific` write it.
-/

namespace TransitStore.Binary

/-- A positive decimal: `0.d₁d₂d₃… · 10 ^ point`, with `digits` the number `d₁d₂d₃…`. -/
structure Decimal where
  /-- The digits, as a number that does not end in zero. -/
  digits : Nat
  /-- The place of the decimal point, counted from the first digit. -/
  point : Int
deriving DecidableEq

/-- Which of two equally near decimals is taken. -/
inductive Tie where
  /-- The larger one. -/
  | up
  /-- The one whose last digit is even. -/
  | even
deriving DecidableEq

/-- The decimal digits of a number. -/
def digitText (n : Nat) : String := String.ofList (Nat.toDigits 10 n)

/-- Drops the zeros at the end of a number, at most `fuel` of them, and counts them. -/
def dropZeros : (fuel n : Nat) → Nat × Nat
  | 0, n => (n, 0)
  | fuel + 1, n =>
    if n % 10 = 0 then
      let (m, k) := dropZeros fuel (n / 10)
      (m, k + 1)
    else (n, 0)

/-- The decimal `digits · 10 ^ exponent`. -/
def Decimal.of (digits : Nat) (exponent : Int) : Decimal :=
  let (m, k) := dropZeros digits digits
  ⟨m, exponent + k + (digitText m).length⟩

/-- The place of the decimal point of `num / den`: the number of its digits
before the point, or less the number of zeros behind it. -/
def pointOf (num den : Nat) : Int :=
  if den ≤ num then (digitText (num / den)).length
  else -((List.range (Nat.log2 den)).takeWhile fun k => num * Nat.pow 10 (k + 1) < den).length

/-- The numbers between the neighbours of `significand · 2 ^ exponent`, in
quarters of the last place. -/
structure Interval where
  /-- The lower end. -/
  low : Nat
  /-- The number itself. -/
  middle : Nat
  /-- The upper end. -/
  high : Nat
  /-- Whether the ends round to the number too. -/
  closed : Bool

/-- The numbers that round to a datum.  Below a power of two the places are
half as wide. -/
def Interval.of (f : Format) (significand : Nat) (exponent : Int) : Interval :=
  let below := if significand = f.fieldUnit ∧ f.minExponent < exponent then 1 else 2
  ⟨4 * significand - below, 4 * significand, 4 * significand + 2, significand % 2 == 0⟩

/-- The decimal with `digits` digits in an interval nearest to its middle.
`point` is the place of the decimal point of the middle. -/
def nearestWith (i : Interval) (exponent point : Int) (tie : Tie) (digits : Nat) :
    Option Decimal :=
  let grid : Int := point - digits
  let step := power 10 grid * power 2 (2 - exponent)
  let unit := power 10 (-grid) * power 2 (exponent - 2)
  let inside (c : Nat) : Bool :=
    if i.closed then i.low * unit ≤ c * step && c * step ≤ i.high * unit
    else i.low * unit < c * step && c * step < i.high * unit
  let down := i.middle * unit / step
  let fromDown := i.middle * unit - down * step
  let fromUp := (down + 1) * step - i.middle * unit
  match inside down && down != 0, inside (down + 1) with
  | true, true =>
    let takeDown := fromDown < fromUp || (fromDown = fromUp && tie == .even && down % 2 == 0)
    some (.of (if takeDown then down else down + 1) grid)
  | true, false => some (.of down grid)
  | false, true => some (.of (down + 1) grid)
  | false, false => none

/-- The shortest decimal of the positive number `significand · 2 ^ exponent`. -/
def shortest (f : Format) (tie : Tie) (significand : Nat) (exponent : Int) : Decimal :=
  let interval := Interval.of f significand exponent
  let num := significand * power 2 exponent
  let den := power 2 (-exponent)
  let point := pointOf num den
  let candidates := (List.range f.precision).map (· + 1)
  (candidates.findSome? (nearestWith interval exponent point tie)).getD ⟨0, 0⟩

/-- The decimal with the point written in place and no exponent. -/
def Decimal.positional (d : Decimal) : String :=
  let digits := digitText d.digits
  if d.point ≤ 0 then "0." ++ "".pushn '0' (-d.point).toNat ++ digits
  else
    let whole := d.point.toNat
    if digits.length ≤ whole then digits ++ "".pushn '0' (whole - digits.length)
    else
      String.ofList (digits.toList.take whole) ++ "." ++ String.ofList (digits.toList.drop whole)

/-- The decimal with one digit before the point and a signed exponent. -/
def Decimal.scientific (d : Decimal) : String :=
  let exponent := d.point - 1
  let mantissa :=
    match (digitText d.digits).toList with
    | [] => ""
    | [c] => c.toString
    | c :: rest => c.toString ++ "." ++ String.ofList rest
  mantissa ++ "e" ++ (if exponent < 0 then "-" else "+") ++ toString exponent.natAbs

example : (shortest binary32 .up 0xd20000 (-18)).positional = "52.5" := by decide +kernel
example : (shortest binary32 .up 1 (-149)).scientific = "1e-45" := by decide +kernel
example : (shortest binary32 .up 0xffffff 104).scientific = "3.4028235e+38" := by decide +kernel
example : (shortest binary32 .up 0x800001 (-2)).positional = "2097152.3" := by decide +kernel
example : (shortest binary32 .even 0x800001 (-2)).positional = "2097152.2" := by decide +kernel

end TransitStore.Binary
