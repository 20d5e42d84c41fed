/-!
# Coarse times

Times of day and durations are stored as sixteen bit counts of four seconds.
Times too late for that are stored as the last count, a little over three days.
-/

namespace TransitStore

/-- A count of four second steps. -/
abbrev CoarseTime := UInt16

namespace CoarseTime

/-- Seconds in one step. -/
def resolution : Nat := 4

/-- The step a second lies in, at most the last one. -/
def ofSeconds (seconds : Nat) : CoarseTime :=
  UInt16.ofNat (min (seconds / resolution) 65535)

/-- The first second of a step. -/
def toSeconds (time : CoarseTime) : Nat := time.toNat * resolution

/-- The sum of two times, at most the last step. -/
def saturatingAdd (a b : CoarseTime) : CoarseTime :=
  UInt16.ofNat (min (a.toNat + b.toNat) 65535)

@[simp] theorem toNat_ofSeconds (seconds : Nat) :
    (ofSeconds seconds).toNat = min (seconds / resolution) 65535 := by
  rw [ofSeconds, UInt16.toNat_ofNat']
  exact Nat.mod_eq_of_lt (Nat.lt_of_le_of_lt (Nat.min_le_right _ _) (by decide))

@[simp] theorem toNat_saturatingAdd (a b : CoarseTime) :
    (saturatingAdd a b).toNat = min (a.toNat + b.toNat) 65535 := by
  rw [saturatingAdd, UInt16.toNat_ofNat']
  exact Nat.mod_eq_of_lt (Nat.lt_of_le_of_lt (Nat.min_le_right _ _) (by decide))

end CoarseTime

end TransitStore
