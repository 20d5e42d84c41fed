import TransitStore.Feed.Record
import TransitStore.Import.Lookup
import TransitStore.Network.Line

/-!
# Operators, modes and lines of a feed

Each agency becomes an operator, each kind of vehicle a physical and a commercial
mode, and each route a line with one route.
-/

namespace TransitStore.Import

/-! ## Operators -/

/-- The operator of an agency. -/
def operatorDraft (agency : Feed.Agency) : Operator.Draft :=
  ⟨agency.id.getD "", agency.url, agency.name⟩

/-- The operators by the identifiers of their agencies. -/
def operatorLookup (agencies : List Feed.Agency) : Lookup := .ofIds (agencies.map (·.id))

/-- The time zone of a feed: that of its first agency. -/
def feedTimezone (feed : Feed) : String := (feed.agencies.head?.map (·.timezone)).getD "UTC"

/-! ## Modes -/

/-- A kind of vehicle with its code. -/
structure Mode where
  code : Int
  name : String
deriving DecidableEq, Repr

/-- The mode of a kind of vehicle. -/
def Mode.of : Feed.RouteType → Mode
  | .tramway => ⟨0, "Tramway"⟩
  | .subway => ⟨1, "Subway"⟩
  | .rail => ⟨2, "Rail"⟩
  | .bus => ⟨3, "Bus"⟩
  | .ferry => ⟨4, "Ferry"⟩
  | .cableCar => ⟨5, "Cable car"⟩
  | .gondola => ⟨6, "Gondola"⟩
  | .funicular => ⟨7, "Funicular"⟩
  | .coach => ⟨200, "Coach"⟩
  | .air => ⟨1100, "Air"⟩
  | .taxi => ⟨1500, "Taxi"⟩
  | .other code => ⟨code, "Other"⟩

/-- The modes of some routes, one for each code, in order of appearance. -/
def modesOf (routes : List Feed.Route) : List Mode :=
  routes.foldl
    (fun modes route =>
      let mode := Mode.of route.type
      if modes.any (·.code == mode.code) then modes else modes ++ [mode])
    []

/-- The row of a route's mode. -/
def modeRow (modes : List Mode) (route : Feed.Route) : UInt8 :=
  UInt8.ofNat (modes.findIdx (·.code == (Mode.of route.type).code))

/-- The physical mode of a mode. -/
def Mode.physical (mode : Mode) : PhysicalMode.Draft := ⟨toString mode.code, mode.name⟩

/-- The commercial mode of a mode. -/
def Mode.commercial (mode : Mode) : CommercialMode.Draft := ⟨toString mode.code, mode.name⟩

/-! ## Lines -/

/-- One part of a color as two digits in base sixteen. -/
def colorPart (part : UInt8) : String :=
  let digits := (Nat.toDigits 16 part.toNat).map Char.toUpper
  "".pushn '0' (2 - digits.length) ++ String.ofList digits

/-- A color as six digits in base sixteen. -/
def colorText (color : Feed.Color) : String :=
  colorPart color.red ++ colorPart color.green ++ colorPart color.blue

/-- The row of a route's operator.  A route without an agency belongs to the only
one there is. -/
def operatorRow? (operators : Lookup) (agencies : Nat) (route : Feed.Route) : Option Nat :=
  match route.agencyId with
  | some id => operators[id]?
  | none => if agencies = 1 then some 0 else none

/-- The line of a route. -/
def lineDraft? (operators : Lookup) (agencies : Nat) (modes : List Mode) (route : Feed.Route) :
    Except Error Line.Draft :=
  match operatorRow? operators agencies route with
  | none => .error (.invalidReference (.agency route.id))
  | some operator =>
    .ok {
      id := route.id
      code := route.shortName.getD ""
      name := route.longName.getD ""
      color := colorText route.color
      textColor := colorText route.textColor
      operator := UInt8.ofNat operator
      physicalMode := modeRow modes route }

/-- The lines by the identifiers of their routes. -/
def lineLookup (routes : List Feed.Route) : Lookup := .ofIds (routes.map fun r => some r.id)

end TransitStore.Import
