import TransitStore.Binary.Shortest

/-!
# Coordinates in text

A coordinate's numbers are written with the fewest digits that read back to
them, in one form for messages and another for JSON.
-/

namespace TransitStore.CoordinateText

open Binary

/-- The sign of a number. -/
def sign (negative : Bool) : String := if negative then "-" else ""

/-- A number in a message.  It never has an exponent, and of two shortest
decimals that lie equally near the larger is taken. -/
def message (bits : UInt32) : String :=
  match binary32.decode bits.toNat with
  | .finite negative 0 _ => sign negative ++ "0"
  | .finite negative significand exponent =>
    sign negative ++ (shortest binary32 .up significand exponent).positional
  | .infinite negative => sign negative ++ "inf"
  | .nan => "NaN"

/-- A number in JSON.  It is written without an exponent if its point stands
from five zeros before the first digit to thirteen places behind it, and then
has at least one digit behind the point.  What is no finite number is null. -/
def json (bits : UInt32) : String :=
  match binary32.decode bits.toNat with
  | .finite negative 0 _ => sign negative ++ "0.0"
  | .finite negative significand exponent =>
    let d := shortest binary32 .even significand exponent
    sign negative ++
      if -5 ≤ d.point ∧ d.point ≤ 13 then
        let text := d.positional
        if text.contains '.' then text else text ++ ".0"
      else d.scientific
  | .infinite _ => "null"
  | .nan => "null"

end TransitStore.CoordinateText
