import TransitStore.Span
import TransitStore.Table.Basic

/-!
# Journey patterns

A journey pattern is a sequence of stop points that vehicle journeys follow.  Its
points are a run of rows of the point table, its vehicle journeys a run of rows
of the vehicle journey table.
-/

namespace TransitStore

/-! ## Points -/

/-- One stop of a journey pattern. -/
structure JourneyPatternPoint where
  /-- The row of the stop point. -/
  stopPoint : UInt16
  /-- The place in the pool of what the vehicle shows here. -/
  headsign : UInt32
  /-- Flags. -/
  attributes : UInt8
deriving DecidableEq, Repr

/-- One stop of a journey pattern with its text. -/
structure JourneyPatternPoint.Draft where
  /-- The row of the stop point. -/
  stopPoint : UInt16
  /-- What the vehicle shows here. -/
  headsign : String
  /-- Flags. -/
  attributes : UInt8
deriving DecidableEq, Repr

namespace JourneyPatternPoint

/-- The flag of points where passengers get on. -/
def boarding : UInt8 := 2

/-- The flag of points where passengers get off. -/
def alighting : UInt8 := 4

/-- Whether passengers get on here. -/
def allowsBoarding (p : JourneyPatternPoint) : Bool := p.attributes &&& boarding != 0

/-- Whether passengers get off here. -/
def allowsAlighting (p : JourneyPatternPoint) : Bool := p.attributes &&& alighting != 0

end JourneyPatternPoint

instance : Record JourneyPatternPoint where
  structureName := "JourneyPatternPoints"
  label := "journey pattern points"
  width := .bits32
  slack := 256
  fields := [
    .of "stop_points" "JourneyPatternPointStopPoints" JourneyPatternPoint.stopPoint,
    .of "headsigns" "JourneyPatternPointHeadsigns" JourneyPatternPoint.headsign,
    .of "attributes" "JourneyPatternPointAttributes" JourneyPatternPoint.attributes]
  ofWords w := ⟨Cell.ofWord (w 0), Cell.ofWord (w 1), Cell.ofWord (w 2)⟩

instance : Draft JourneyPatternPoint.Draft JourneyPatternPoint where
  intern d := do
    let headsign ← Pool.intern d.headsign
    return { d with headsign }

/-! ## Patterns -/

/-- A journey pattern. -/
structure JourneyPattern where
  /-- The first row of the points. -/
  pointOffset : UInt32
  /-- The number of points. -/
  stopCount : UInt16
  /-- The first row of the vehicle journeys. -/
  vehicleJourneyOffset : UInt32
  /-- The number of vehicle journeys. -/
  vehicleJourneyCount : UInt16
  /-- The flags of all vehicle journeys together. -/
  attributes : UInt16
  /-- The row of the route. -/
  route : UInt16
  /-- The row of the commercial mode. -/
  commercialMode : UInt8
deriving DecidableEq, Repr

instance : Record JourneyPattern where
  structureName := "JourneyPatterns"
  label := "journey patterns"
  width := .bits16
  slack := 16
  fields := [
    .of "point_offsets" "JourneyPatternPointOffsets" JourneyPattern.pointOffset,
    .of "n_stops" "JourneyPatternStopCounts" JourneyPattern.stopCount,
    .of "vehicle_journey_offsets" "JourneyPatternVehicleJourneyOffsets"
      JourneyPattern.vehicleJourneyOffset,
    .of "n_vehicle_journeys" "JourneyPatternVehicleJourneyCounts"
      JourneyPattern.vehicleJourneyCount,
    .of "attributes" "JourneyPatternAttributes" JourneyPattern.attributes,
    .of "routes" "JourneyPatternRoutes" JourneyPattern.route,
    .of "commercial_modes" "JourneyPatternCommercialModes" JourneyPattern.commercialMode]
  ofWords w := ⟨Cell.ofWord (w 0), Cell.ofWord (w 1), Cell.ofWord (w 2), Cell.ofWord (w 3),
    Cell.ofWord (w 4), Cell.ofWord (w 5), Cell.ofWord (w 6)⟩

instance : Draft JourneyPattern JourneyPattern := ⟨pure⟩

namespace JourneyPattern

/-- The rows of the points, if they lie inside a table of `points` rows. -/
def points? (p : JourneyPattern) (points : Nat) : Option (Span points) :=
  Span.run? points p.pointOffset.toNat p.stopCount.toNat

/-- The rows of the vehicle journeys, if they lie inside a table of
`vehicleJourneys` rows. -/
def vehicleJourneys? (p : JourneyPattern) (vehicleJourneys : Nat) :
    Option (Span vehicleJourneys) :=
  Span.run? vehicleJourneys p.vehicleJourneyOffset.toNat p.vehicleJourneyCount.toNat

end JourneyPattern

end TransitStore
