import Mathlib
import TransitStore.Feed.Reader
import TransitStore.Import.Lines

/-!
# Codes of route types

Many numbers of a feed stand for one kind of vehicle: all from 900 to 999 are tramways,
just like 0.  A kind has one code and one name of its own (`RouteType.code`,
`RouteType.title`).  The code is again a number that stands for the kind, and of all these
numbers it is the nearest to zero (`isCodeOf_ofCode`), so a number without a range is kept
as it is.
-/

namespace TransitStore.Feed.RouteType

/-- The code of a kind of vehicle. -/
def code : RouteType → Int
  | tramway => 0
  | subway => 1
  | rail => 2
  | bus => 3
  | ferry => 4
  | cableCar => 5
  | gondola => 6
  | funicular => 7
  | coach => 200
  | air => 1100
  | taxi => 1500
  | other number => number

/-- What a kind of vehicle is called. -/
def title : RouteType → String
  | tramway => "Tramway"
  | subway => "Subway"
  | rail => "Rail"
  | bus => "Bus"
  | ferry => "Ferry"
  | cableCar => "Cable car"
  | gondola => "Gondola"
  | funicular => "Funicular"
  | coach => "Coach"
  | air => "Air"
  | taxi => "Taxi"
  | other _ => "Other"

/-- A code is that of the kind of vehicle for which a number stands in a feed. -/
structure IsCodeOf (number code : Int) : Prop where
  /-- The code stands for the same kind. -/
  same : ofCode code = ofCode number
  /-- No number for the kind is nearer to zero. -/
  least : ∀ other, ofCode other = ofCode number → code.natAbs ≤ other.natAbs

variable {number : Int}

/-- A number is not below the hundreds that the reader finds in it. -/
theorem hundred_mul_tdiv_le (range : 0 < Int.tdiv number 100) :
    100 * Int.tdiv number 100 ≤ number := by
  have sign : Int.sign 100 = 1 := rfl
  rw [Int.tdiv_eq_ediv] at *
  split at * <;> omega

/-- Only a number that is in no range stands for another kind, and for no other number. -/
theorem eq_of_ofCode_eq_other {kept : Int} (h : ofCode number = .other kept) : kept = number := by
  revert h
  fun_cases ofCode number
  all_goals
    intro h
    cases h
  rfl

theorem ofCode_code_ofCode (number : Int) : ofCode (ofCode number).code = ofCode number := by
  cases read : ofCode number with
  | other kept =>
    have same := eq_of_ofCode_eq_other read
    rw [code, same, read, same]
  | _ => decide

/-- A number is at least as far from zero as the code of its kind. -/
theorem natAbs_code_ofCode_le (number : Int) : (ofCode number).code.natAbs ≤ number.natAbs := by
  have hundreds (range : 0 < Int.tdiv number 100) := hundred_mul_tdiv_le range
  fun_cases ofCode number
  all_goals
    simp only [code]
    omega

/-- The number in a feed has the code of the kind that is read from it. -/
theorem isCodeOf_ofCode (number : Int) : IsCodeOf number (ofCode number).code where
  same := ofCode_code_ofCode number
  least := by
    intro other same
    rw [← same]
    exact natAbs_code_ofCode_le other

end TransitStore.Feed.RouteType

namespace TransitStore.Import

@[simp] theorem Mode.code_of (type : Feed.RouteType) : (Mode.of type).code = type.code := by
  cases type <;> rfl

@[simp] theorem Mode.name_of (type : Feed.RouteType) : (Mode.of type).name = type.title := by
  cases type <;> rfl

end TransitStore.Import
