/-!
# Row numbers

Every table numbers its rows with an unsigned integer of a fixed width, and a
table never holds more rows than its width can number.
-/

namespace TransitStore

/-- The widths of row numbers. -/
inductive Width where
  /-- Eight bits. -/
  | bits8
  /-- Sixteen bits. -/
  | bits16
  /-- Thirty-two bits. -/
  | bits32
deriving DecidableEq, Repr

/-- How many numbers of a width there are. -/
def Width.count : Width → Nat
  | .bits8 => UInt8.size
  | .bits16 => UInt16.size
  | .bits32 => UInt32.size

/-- The most rows a table of this width holds.  Its last row is numbered one
less, so the row count is itself a number of the width. -/
def Width.maxRows (w : Width) : Nat := w.count - 1

/-- A number of this width, if the given one fits. -/
def Width.index? (w : Width) (n : Nat) : Option Nat :=
  if n ≤ w.maxRows then some n else none

theorem Width.index?_eq_some_iff {w : Width} {n m : Nat} :
    w.index? n = some m ↔ n ≤ w.maxRows ∧ n = m := by
  simp [Width.index?]

end TransitStore
