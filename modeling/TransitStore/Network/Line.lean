import TransitStore.Table.Basic

/-!
# Lines

A line is what the public knows by a code and a color.  An operator runs it with
one kind of vehicle, and each of its routes belongs to it alone.
-/

namespace TransitStore

/-! ## Operators -/

/-- A company that runs lines. -/
structure Operator where
  /-- The identifier's place in the pool. -/
  id : UInt32
  /-- The address's place in the pool. -/
  url : UInt32
  /-- The name's place in the pool. -/
  name : UInt32
deriving DecidableEq, Repr

/-- An operator with its texts. -/
structure Operator.Draft where
  id : String
  /-- The address. -/
  url : String
  name : String
deriving DecidableEq, Repr

instance : Record Operator where
  structureName := "Operators"
  label := "operators"
  width := .bits8
  slack := 4
  fields := [
    .of "ids" "OperatorIds" Operator.id,
    .of "urls" "OperatorUrls" Operator.url,
    .of "names" "OperatorNames" Operator.name]
  ofWords w := ⟨Cell.ofWord (w 0), Cell.ofWord (w 1), Cell.ofWord (w 2)⟩

instance : Draft Operator.Draft Operator where
  intern d := do
    let id ← Pool.intern d.id
    let url ← Pool.intern d.url
    let name ← Pool.intern d.name
    return { id, url, name }

/-! ## Modes

A line has a physical mode, the kind of its vehicles, and a pattern has a
commercial mode, the kind of service it is sold as. -/

/-- A kind of vehicle. -/
structure PhysicalMode where
  /-- The identifier's place in the pool. -/
  id : UInt32
  /-- The name's place in the pool. -/
  name : UInt32
deriving DecidableEq, Repr

/-- A kind of service. -/
structure CommercialMode where
  /-- The identifier's place in the pool. -/
  id : UInt32
  /-- The name's place in the pool. -/
  name : UInt32
deriving DecidableEq, Repr

/-- A kind of vehicle with its texts. -/
structure PhysicalMode.Draft where
  id : String
  name : String
deriving DecidableEq, Repr

/-- A kind of service with its texts. -/
structure CommercialMode.Draft where
  id : String
  name : String
deriving DecidableEq, Repr

instance : Record PhysicalMode where
  structureName := "PhysicalModes"
  label := "physical modes"
  width := .bits8
  slack := 4
  fields := [
    .of "ids" "PhysicalModeIds" PhysicalMode.id,
    .of "names" "PhysicalModeNames" PhysicalMode.name]
  ofWords w := ⟨Cell.ofWord (w 0), Cell.ofWord (w 1)⟩

instance : Record CommercialMode where
  structureName := "CommercialModes"
  label := "commercial modes"
  width := .bits8
  slack := 4
  fields := [
    .of "ids" "CommercialModeIds" CommercialMode.id,
    .of "names" "CommercialModeNames" CommercialMode.name]
  ofWords w := ⟨Cell.ofWord (w 0), Cell.ofWord (w 1)⟩

instance : Draft PhysicalMode.Draft PhysicalMode where
  intern d := do
    let id ← Pool.intern d.id
    let name ← Pool.intern d.name
    return { id, name }

instance : Draft CommercialMode.Draft CommercialMode where
  intern d := do
    let id ← Pool.intern d.id
    let name ← Pool.intern d.name
    return { id, name }

/-- The first commercial mode with an identifier. -/
def Table.findCommercialMode? (t : Table CommercialMode) (pool : Pool) (id : String) :
    Option Nat :=
  t.rows.findIdx? fun mode => pool.text? mode.id == some id

/-! ## Lines -/

/-- A line. -/
structure Line where
  /-- The identifier's place in the pool. -/
  id : UInt32
  /-- The place in the pool of the short name. -/
  code : UInt32
  /-- The name's place in the pool. -/
  name : UInt32
  /-- The color's place in the pool. -/
  color : UInt32
  /-- The place in the pool of the color of text on the color. -/
  textColor : UInt32
  /-- The row of the operator. -/
  operator : UInt8
  /-- The row of the physical mode. -/
  physicalMode : UInt8
deriving DecidableEq, Repr

/-- A line with its texts. -/
structure Line.Draft where
  id : String
  /-- The short name. -/
  code : String
  name : String
  color : String
  textColor : String
  /-- The row of the operator. -/
  operator : UInt8
  /-- The row of the physical mode. -/
  physicalMode : UInt8
deriving DecidableEq, Repr

instance : Record Line where
  structureName := "Lines"
  label := "lines"
  width := .bits16
  slack := 16
  fields := [
    .of "ids" "LineIds" Line.id,
    .of "codes" "LineCodes" Line.code,
    .of "names" "LineNames" Line.name,
    .of "colors" "LineColors" Line.color,
    .of "text_colors" "LineTextColors" Line.textColor,
    .of "operators" "LineOperators" Line.operator,
    .of "physical_modes" "LinePhysicalModes" Line.physicalMode]
  ofWords w := ⟨Cell.ofWord (w 0), Cell.ofWord (w 1), Cell.ofWord (w 2), Cell.ofWord (w 3),
    Cell.ofWord (w 4), Cell.ofWord (w 5), Cell.ofWord (w 6)⟩

instance : Draft Line.Draft Line where
  intern d := do
    let id ← Pool.intern d.id
    let code ← Pool.intern d.code
    let name ← Pool.intern d.name
    let color ← Pool.intern d.color
    let textColor ← Pool.intern d.textColor
    return { d with id, code, name, color, textColor }

/-! ## Routes -/

/-- A route. -/
structure Route where
  /-- The row of the line. -/
  line : UInt16
deriving DecidableEq, Repr

instance : Record Route where
  structureName := "Routes"
  label := "routes"
  width := .bits16
  slack := 16
  fields := [.of "lines" "RouteLines" Route.line]
  ofWords w := ⟨Cell.ofWord (w 0)⟩

instance : Draft Route Route := ⟨pure⟩

end TransitStore
