import Std.Data.HashMap

/-!
# Identifiers

Records of a feed refer to each other by identifiers.  Where an identifier is
repeated, the last record that has it is meant.
-/

namespace TransitStore.Import

/-- Rows by identifier. -/
abbrev Lookup := Std.HashMap String Nat

/-- The last row of each identifier.  Rows without an identifier are not found. -/
def Lookup.ofIds (ids : List (Option String)) : Lookup :=
  ids.zipIdx.foldl
    (fun found (id?, row) =>
      match id? with
      | some id => found.insert id row
      | none => found)
    ∅

end TransitStore.Import
