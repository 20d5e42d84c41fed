import TransitStore.Container.Basic

/-!
# Descriptions

A description is a one-line text of a value for people who look at a running
program: the name of a structure and its fields between braces.  Of columns and
tables it has the sizes only.
-/

namespace TransitStore.Describe

/-- A structure with its fields. -/
def structureText (name : String) (fields : List (String × String)) : String :=
  name ++ " \x7b " ++ ", ".intercalate (fields.map fun (field, value) => field ++ ": " ++ value) ++
    " \x7d"

/-- A value that may be missing. -/
def optionText : Option String → String
  | none => "None"
  | some value => "Some(" ++ value ++ ")"

/-- A column. -/
def column {α : Type} (c : Column α) : String :=
  structureText "Column" [("len", toString c.size), ("mapped", toString c.isMapped)]

/-- A string pool. -/
def pool (p : Pool) : String := structureText "StringPool" [("bytes", column p.bytes)]

/-- A table. -/
def table {ρ : Type} [Record ρ] (t : Table ρ) : String :=
  structureText (Record.structureName ρ)
    [("len", toString t.size), ("capacity", toString t.capacity),
      ("mapped", toString t.isMapped)]

/-- A stop index. -/
def stopIndex (index : StopIndex) : String :=
  structureText "JourneyPatternsAtStop"
    [("offsets", column index.offsets), ("patterns", column index.patterns)]

/-- Where a container's contents come from. -/
def backing : Backing → String
  | .owned => "Owned"
  | .mapped path size =>
    structureText "Mapped" [("path", Text.quoted path), ("size", toString size)]

/-- The numbers of a container that are in no table. -/
def metadata (m : Metadata) : String :=
  structureText "Metadata"
    [("calendar_start_time", toString m.calendarStart.toNat), ("n_days", toString m.days.toNat),
      ("timezone", optionText (m.timezone.map fun place => toString place.toNat)),
      ("utc_offset", toString m.utcOffset.toInt)]

/-- A container. -/
def container (c : Container) : String :=
  structureText "Container"
    [("backing", backing c.backing), ("metadata", metadata c.metadata), ("pool", pool c.pool),
      ("stop_areas", table c.stopAreas), ("stop_points", table c.stopPoints),
      ("transfers", table c.transfers), ("operators", table c.operators),
      ("physical_modes", table c.physicalModes), ("commercial_modes", table c.commercialModes),
      ("lines", table c.lines), ("routes", table c.routes),
      ("journey_pattern_points", table c.journeyPatternPoints),
      ("journey_patterns", table c.journeyPatterns), ("stop_times", table c.stopTimes),
      ("vehicle_journeys", table c.vehicleJourneys),
      ("vehicle_transfers", table c.vehicleTransfers), ("patterns_at_stop", stopIndex c.stopIndex)]

end TransitStore.Describe
