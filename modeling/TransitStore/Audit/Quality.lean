import TransitStore.Container.Basic
import TransitStore.CoordinateText

/-!
# Quality

A container can be sound and still say unlikely things.  `qualityIssues` lists
them: boarding rules at the ends of patterns, coordinates, times that run
backwards and transfers that differ from their reverse.
-/

namespace TransitStore.Audit

/-- Something unlikely. -/
inductive QualityIssue where
  /-- Passengers get off at the first stop of a pattern. -/
  | alightingAtFirstStop (pattern : Nat)
  /-- Passengers get on at the last stop of a pattern. -/
  | boardingAtLastStop (pattern : Nat)
  /-- A stop point lies where no stop point is. -/
  | coordinateOutOfRange (stop : Nat) (coord : Coordinate)
  /-- The stop times of a vehicle journey do not start at zero. -/
  | firstArrivalNotZero (vehicleJourney : Nat)
  /-- A vehicle departs from a stop before it arrives there. -/
  | departureBeforeArrival (vehicleJourney stop : Nat)
  /-- A vehicle arrives at a stop before it leaves the one before. -/
  | negativeTravelTime (vehicleJourney stop : Nat)
  /-- A transfer has no reverse. -/
  | missingReverseTransfer (source target : Nat)
  /-- A transfer and its reverse take different times. -/
  | asymmetricTransfer (source target : Nat)
deriving DecidableEq, Repr

/-- The wording of an issue. -/
def QualityIssue.message : QualityIssue → String
  | alightingAtFirstStop pattern =>
    s!"journey pattern {pattern} allows alighting at its first stop"
  | boardingAtLastStop pattern => s!"journey pattern {pattern} allows boarding at its last stop"
  | coordinateOutOfRange stop coord =>
    s!"stop point {stop} lies outside the plausible range at lat=" ++
      CoordinateText.message coord.latitude ++ ", lon=" ++ CoordinateText.message coord.longitude
  | firstArrivalNotZero vehicleJourney =>
    s!"vehicle journey {vehicleJourney} does not start at relative time 0"
  | departureBeforeArrival vehicleJourney stop =>
    s!"vehicle journey {vehicleJourney} departs before it arrives at stop {stop}"
  | negativeTravelTime vehicleJourney stop =>
    s!"vehicle journey {vehicleJourney} arrives at stop {stop} before leaving the previous one"
  | missingReverseTransfer source target =>
    s!"transfer from {source} to {target} has no reverse transfer"
  | asymmetricTransfer source target =>
    s!"transfer from {source} to {target} takes a different time than its reverse"

/-! ## Boarding -/

/-- The issues of one pattern's first and last point. -/
def boardingIssuesOf (c : Container) (number : Nat) (p : JourneyPattern) : List QualityIssue :=
  match p.points? c.journeyPatternPoints.rows.size with
  | none => []
  | some run =>
    let first := run.slice.head?.any (·.allowsAlighting)
    let last := run.slice.getLast?.any (·.allowsBoarding)
    (if first then [.alightingAtFirstStop number] else []) ++
      if last then [.boardingAtLastStop number] else []

/-- The issues of all patterns' ends. -/
def boardingIssues (c : Container) : List QualityIssue :=
  c.journeyPatterns.rows.toList.zipIdx.flatMap fun (p, number) => boardingIssuesOf c number p

/-! ## Coordinates -/

/-- The bits of −55, a latitude past the southernmost stop point there may be. -/
def southernmost : Nat := 0xc25c0000

/-- The bits of 70, a latitude past the northernmost stop point there may be. -/
def northernmost : Nat := 0x428c0000

/-- The bits of −180, the westernmost longitude. -/
def westernmost : Nat := 0xc3340000

/-- The bits of 180, the easternmost longitude. -/
def easternmost : Nat := 0x43340000

/-- Whether there may be a stop point at a coordinate. -/
def isPlausible (coord : Coordinate) : Bool :=
  Binary.binary32.within southernmost northernmost coord.latitude.toNat &&
    Binary.binary32.within westernmost easternmost coord.longitude.toNat

/-- The issues of all stop points' coordinates. -/
def coordinateIssues (c : Container) : List QualityIssue :=
  c.stopPoints.rows.toList.zipIdx.flatMap fun (stop, number) =>
    if isPlausible stop.coord then [] else [.coordinateOutOfRange number stop.coord]

/-! ## Times -/

/-- The issues of stop times from the stop `stop` on, behind a departure from the
stop before, if there is one. -/
def timeIssuesFrom (vehicleJourney : Nat) : (stop : Nat) → Option CoarseTime → List StopTime →
    List QualityIssue
  | _, _, [] => []
  | stop, departed, t :: rest =>
    (if departed.isNone && t.arrival != 0 then [.firstArrivalNotZero vehicleJourney] else []) ++
    (if t.departure < t.arrival then [.departureBeforeArrival vehicleJourney stop] else []) ++
    (if departed.any (t.arrival < ·) then [.negativeTravelTime vehicleJourney stop] else []) ++
    timeIssuesFrom vehicleJourney (stop + 1) (some t.departure) rest

/-- The issues of one vehicle journey's times along a pattern. -/
def journeyTimeIssues (c : Container) (p : JourneyPattern) (v : Fin c.vehicleJourneys.rows.size) :
    List QualityIssue :=
  match c.vehicleJourneys.rows[v].stopTimes? p.stopCount.toNat c.stopTimes.rows.size with
  | none => []
  | some run => timeIssuesFrom v 0 none run.slice

/-- The issues of all times, pattern by pattern. -/
def timeIssues (c : Container) : List QualityIssue :=
  c.journeyPatterns.rows.toList.flatMap fun p =>
    match p.vehicleJourneys? c.vehicleJourneys.rows.size with
    | none => []
    | some run => run.rows.flatMap (journeyTimeIssues c p)

/-! ## Transfers -/

/-- The transfers from a stop point, none if their rows make no sense. -/
def transfersOf (c : Container) (stop : Nat) : List Transfer :=
  match c.transfersFrom? stop with
  | none => []
  | some run => run.slice

/-- The issue of one transfer: its first reverse is missing or takes another time. -/
def transferIssue? (c : Container) (source : Nat) (t : Transfer) : Option QualityIssue :=
  let target := t.targetStop.toNat
  match (transfersOf c target).find? (·.targetStop.toNat == source) with
  | none => some (.missingReverseTransfer source target)
  | some reverse =>
    if reverse.duration = t.duration then none else some (.asymmetricTransfer source target)

/-- The issues of all transfers. -/
def transferIssues (c : Container) : List QualityIssue :=
  (List.range c.stopPoints.size).flatMap fun stop =>
    (transfersOf c stop).filterMap (transferIssue? c stop)

/-- All issues of a container. -/
def qualityIssues (c : Container) : List QualityIssue :=
  boardingIssues c ++ coordinateIssues c ++ timeIssues c ++ transferIssues c

end TransitStore.Audit
