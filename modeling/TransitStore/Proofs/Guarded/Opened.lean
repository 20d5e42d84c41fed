import Mathlib
import TransitStore.Proofs.Guarded.PatternTimes
import TransitStore.Proofs.Guarded.Quality
import TransitStore.Proofs.Guarded.References
import TransitStore.Proofs.Guarded.StopIndex
import TransitStore.Proofs.Guarded.Writer

/-!
# Reading images that were not validated

An image that is opened without a check of its references may have offsets, counts and
row numbers of any kind.  All that the loader has looked at are the places of the columns
and their lengths.  That is enough: whatever is asked of the container, no step is made
that a machine cannot make (`noFault_of_openImage`).
-/

namespace TransitStore.Guarded

open Snapshot (ColumnFits descriptorOf openImage)

/-- What is read of an image is read without a fault, for all arguments, and is what the
container has. -/
structure NoFault (image : ByteArray) (c : Container) : Prop where
  /-- Each column lies inside the image. -/
  columns : ∀ k spec, Snapshot.specs[k]? = some spec →
    ColumnFits image spec.type (descriptorOf image k)
  /-- The columns of a table are equally long. -/
  lengths : ∀ {e : Entity} {α : Type} [Cell α] [LawfulCell α] (key : Key e α),
    (key.read image).size = rowCount image e
  /-- The elements of all columns. -/
  values : ∀ {e : Entity} {α : Type} [Cell α] [LawfulCell α] (key : Key e α) (row : Nat),
    value? image key row = (e.table c).rows[row]?.map key.part
  texts : ∀ {e : Entity} (key : Key e UInt32) (row : Nat),
    text? image key row = (e.table c).rows[row]?.bind fun r => c.pool.text? (key.part r)
  poolBytes : ∀ (place : UInt32) (count : Nat),
    poolGet? image place count = c.pool.get? place.toNat count
  poolTexts : ∀ place : UInt32, poolText? image place = c.pool.text? place
  days : ∀ vehicleJourney day : UInt32, isActiveOn image vehicleJourney day =
    .ok ((c.vehicleJourneys.rows[vehicleJourney.toNat]?.map (·.isActiveOn day.toNat)).getD false)
  transfers : ∀ row : Nat, transfer? image row = c.transfers.rows[row]?
  stopTimes : ∀ row : Nat, stopTime? image row = c.stopTimes.rows[row]?
  /-- The runs of rows in tables of any length. -/
  pointsRange : ∀ (pattern : UInt16) {points : Nat}, points < wordSize →
    pointsRange? image pattern points =
      c.journeyPatterns.rows[pattern.toNat]?.bind fun p => (p.points? points).map Span.places
  vehicleJourneysRange : ∀ (pattern : UInt16) {vehicleJourneys : Nat}, vehicleJourneys < wordSize →
    vehicleJourneysRange? image pattern vehicleJourneys =
      c.journeyPatterns.rows[pattern.toNat]?.bind fun p =>
        (p.vehicleJourneys? vehicleJourneys).map Span.places
  forwardTransfersRange : ∀ (vehicleJourney : UInt32) {transfers : Nat}, transfers < wordSize →
    forwardTransfersRange? image vehicleJourney transfers =
      c.vehicleJourneys.rows[vehicleJourney.toNat]?.bind fun v =>
        (v.forwardTransfers? transfers).map Span.places
  backwardTransfersRange : ∀ (vehicleJourney : UInt32) {transfers : Nat}, transfers < wordSize →
    backwardTransfersRange? image vehicleJourney transfers =
      c.vehicleJourneys.rows[vehicleJourney.toNat]?.bind fun v =>
        (v.backwardTransfers? transfers).map Span.places
  stopTimesRange : ∀ (vehicleJourney : UInt32) (stops : Nat) {stopTimes : Nat},
    stopTimes < wordSize → stopTimesRange? image vehicleJourney stops stopTimes =
      c.vehicleJourneys.rows[vehicleJourney.toNat]?.bind fun v =>
        (v.stopTimes? stops stopTimes).map Span.places
  transfersRange : ∀ (stop : UInt16) (transfers : Nat), transfersRange image stop transfers =
    .ok ((c.stopPoints.transfers? stop.toNat transfers).map Span.places)
  /-- The queries of a container. -/
  journeyPatternsAtStop : ∀ stop : UInt16,
    journeyPatternsAtStop image stop = .ok (c.journeyPatternsAtStop stop.toNat).toArray
  patternStopPoints : ∀ pattern : UInt16,
    patternStopPoints? image pattern = (c.patternStopPoints? pattern.toNat).map List.toArray
  patternVehicleJourneys : ∀ pattern : UInt16, patternVehicleJourneys? image pattern =
    (c.patternVehicleJourneys? pattern.toNat).map Span.places
  vehicleJourneyStopTimes : ∀ (pattern : UInt16) (vehicleJourney : UInt32),
    vehicleJourneyStopTimes? image pattern vehicleJourney =
      (c.vehicleJourneyStopTimes? pattern.toNat vehicleJourney.toNat).map Span.places
  transfersFrom : ∀ stop : UInt16,
    transfersFrom image stop = .ok ((c.transfersFrom? stop.toNat).map Span.places)
  findStopPoint : ∀ id : String, (findStopPoint? image id).map UInt16.toNat = c.findStopPoint? id
  /-- The checks of a container and what is built of it. -/
  references : checkReferences image = settled (Audit.checkReferences c)
  quality : checkQuality image = .ok (Audit.qualityIssues c)
  patternTimes : patternTimes image = settled ((PatternTimes.build c).map fun times =>
    .ofSummaries c.journeyPatterns.rows.size times.summaries)
  stopIndex : stopIndex image (rowCount image .stopPoint) =
    settled ((StopIndex.build c.stopPoints.rows.size c.journeyPatterns.rows
      c.journeyPatternPoints.rows).map fun index => (index.offsets.values, index.patterns.values))
  /-- An index of so many stops that there is a word with one more. -/
  stopIndexOf : ∀ {stops : Nat}, stops + 1 < wordSize → Guarded.stopIndex image stops =
    settled ((StopIndex.build stops c.journeyPatterns.rows c.journeyPatternPoints.rows).map
      fun index => (index.offsets.values, index.patterns.values))
  stopLocations : stopLocations image = .ok c.stopLocations
  snapshot : encode image = .ok (Snapshot.encode c).data.toList

variable {path : String} {image : ByteArray} {c : Container}

/-- Nothing that is read of an opened image makes a fault, whatever the image holds. -/
theorem noFault_of_openImage (small : image.size < 2 ^ 62)
    (opened : openImage path false image = .ok c) : NoFault image c := by
  have shows := Snapshot.decode_eq_ok.1 (Snapshot.openImage_false_eq_ok.1 opened)
  have stops : rowCount image .stopPoint = c.stopPoints.rows.size := rowCount_eq shows _
  constructor
  case columns => exact shows.isSnapshot.columns
  case lengths =>
    intro e α _ _ key
    rw [key.read_eq shows, Array.size_map, rowCount_eq shows]
  case values => exact fun key row => value?_eq key shows row
  case texts => exact fun key row => text?_eq key shows row
  case poolBytes => exact poolGet?_eq shows
  case poolTexts => exact poolText?_eq shows
  case days => exact isActiveOn_eq shows
  case transfers => exact transfer?_eq shows
  case stopTimes => exact stopTime?_eq shows
  case pointsRange => exact pointsRange?_eq shows
  case vehicleJourneysRange => exact vehicleJourneysRange?_eq shows
  case forwardTransfersRange => exact forwardTransfersRange?_eq shows
  case backwardTransfersRange => exact backwardTransfersRange?_eq shows
  case stopTimesRange => exact stopTimesRange?_eq shows
  case transfersRange => exact fun stop _ => transfersRange_eq shows stop
  case journeyPatternsAtStop => exact journeyPatternsAtStop_eq shows
  case patternStopPoints => exact patternStopPoints?_eq shows
  case patternVehicleJourneys => exact patternVehicleJourneys?_eq shows
  case vehicleJourneyStopTimes => exact vehicleJourneyStopTimes?_eq shows
  case transfersFrom => exact transfersFrom_eq shows
  case findStopPoint => exact findStopPoint?_eq shows
  case references => exact checkReferences_eq shows
  case quality => exact checkQuality_eq shows
  case patternTimes => exact patternTimes_eq shows
  case stopIndex =>
    rw [stops]
    exact stopIndex_eq shows (stopPoints_succ_lt shows)
  case stopIndexOf => exact stopIndex_eq shows
  case stopLocations => exact stopLocations_eq shows
  case snapshot => exact encode_eq small shows

/-- A container with a pattern whose points, vehicle journeys, route and mode are in no
table. -/
def dangling : Container :=
  (Container.Operation.add .journeyPattern
    [(⟨7, 3, 4294967295, 2, 0, 9, 9⟩ : JourneyPattern)]).apply {}

/-- The pattern is read without a fault, and the check finds that its route is missing. -/
theorem noFault_dangling : ∃ c, openImage "dangling" false (Snapshot.encode dangling) = .ok c ∧
    NoFault (Snapshot.encode dangling) c ∧
      checkReferences (Snapshot.encode dangling) =
        settled (.error (.rowNumber "journey patterns" 0 "route" 9 0)) := by
  have fits : dangling.Fits := (Container.Reachable.edited _ .new).fits
  have opened := Snapshot.openImage_false_eq_ok.2 (Snapshot.decode_encode fits "dangling")
  have small : (Snapshot.encode dangling).size < 2 ^ 62 := by
    have bytes : ((Snapshot.columns dangling).map fun column =>
        column.byteSize + Snapshot.columnAlignment).sum = 457 := by decide +kernel
    have length := Snapshot.length_bodyFrom_le (Snapshot.columns dangling) Snapshot.headerSize
    have header : Snapshot.headerSize = 912 := rfl
    have gap : Snapshot.columnAlignment = 8 := rfl
    rw [Snapshot.size_encode]
    omega
  have noFault := noFault_of_openImage small opened
  have broken : Audit.checkReferences dangling =
      .error (.rowNumber "journey patterns" 0 "route" 9 0) := by decide
  refine ⟨_, opened, noFault, ?_⟩
  rw [noFault.references, Snapshot.checkReferences_mappedFrom, broken]

end TransitStore.Guarded
