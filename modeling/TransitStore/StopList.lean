import TransitStore.Container.Basic
import TransitStore.CoordinateText

/-!
# Stop lists

A stop list has the identifier, name and coordinate of each stop point.  It is
written as JSON.
-/

namespace TransitStore

/-- A stop point in a stop list. -/
structure StopLocation where
  id : String
  name : String
  /-- Where the stop point lies. -/
  coord : Coordinate
deriving DecidableEq, Repr

namespace StopLocation

/-- The entry of a stop point, if its identifier is a text of the pool.  A name
that is none is empty. -/
def of? (pool : Pool) (stop : StopPoint) : Option StopLocation :=
  (pool.text? stop.id).map fun id => ⟨id, (pool.text? stop.name).getD "", stop.coord⟩

/-- One field of an entry, on a line of its own. -/
def jsonField (name value : String) : String := "      " ++ Text.jsonString name ++ ": " ++ value

/-- An entry in JSON. -/
def json (s : StopLocation) : String :=
  "    \x7b\n" ++ ",\n".intercalate [
    jsonField "id" (Text.jsonString s.id),
    jsonField "name" (Text.jsonString s.name),
    jsonField "latitude" (CoordinateText.json s.coord.latitude),
    jsonField "longitude" (CoordinateText.json s.coord.longitude)] ++ "\n    \x7d"

end StopLocation

/-- The stop list of a container. -/
def Container.stopLocations (c : Container) : List StopLocation :=
  c.stopPoints.rows.toList.filterMap (StopLocation.of? c.pool)

/-- A stop list in JSON. -/
def stopListJson (stops : List StopLocation) : String :=
  let list :=
    if stops.isEmpty then "[]"
    else "[\n" ++ ",\n".intercalate (stops.map StopLocation.json) ++ "\n  ]"
  "\x7b\n  \"stops\": " ++ list ++ "\n\x7d"

end TransitStore
