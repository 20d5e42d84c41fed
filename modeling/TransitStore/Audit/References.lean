import TransitStore.Container.Basic

/-!
# References

A container refers from one table to another by row numbers, by runs of rows and
by places in the string pool.  `checkReferences` finds the first of these that
leads nowhere.  The tables are looked at in a fixed order, each column from its
first row on.
-/

namespace TransitStore.Audit

/-- Passes unless something is broken. -/
def pass : Option BrokenReference → Except BrokenReference Unit
  | none => .ok ()
  | some broken => .error broken

/-- The first broken reference among the rows of a table. -/
def firstBroken {ρ : Type} (rows : Array ρ) (broken? : Nat → ρ → Option BrokenReference) :
    Except BrokenReference Unit :=
  pass (rows.zipIdx.findSome? fun (r, number) => broken? number r)

/-- Checks that a column of texts stays inside a pool of `poolSize` bytes. -/
def checkTexts {ρ : Type} (what : String) (rows : Array ρ) (poolSize : Nat) (place : ρ → UInt32) :
    Except BrokenReference Unit :=
  firstBroken rows fun number r =>
    if poolSize ≤ (place r).toNat then some (.text what number (place r).toNat poolSize) else none

/-- Checks that a column of row numbers stays inside a table of `count` rows. -/
def checkRows {ρ : Type} (what : String) (rows : Array ρ) (target : String) (count : Nat)
    (row : ρ → Nat) : Except BrokenReference Unit :=
  firstBroken rows fun number r =>
    if count ≤ row r then some (.rowNumber what number target (row r) count) else none

/-- Checks that each stop point's transfers start where its predecessor's end, or
later, and that the last ones start inside their table. -/
def checkTransfers (stops : Array StopPoint) (transfers : Nat) : Except BrokenReference Unit := do
  firstBroken stops fun number stop =>
    match stops[number + 1]? with
    | some next =>
      if next.transfersOffset < stop.transfersOffset then some (.transferOrder number) else none
    | none => none
  match stops.back? with
  | some last =>
    if transfers < last.transfersOffset.toNat then
      .error (.transferEnd last.transfersOffset.toNat transfers)
    else .ok ()
  | none => .ok ()

/-- The first broken run of a pattern: of its points, of its vehicle journeys or
of their stop times. -/
def brokenPattern? (c : Container) (number : Nat) (p : JourneyPattern) : Option BrokenReference :=
  match p.points? c.journeyPatternPoints.size with
  | none => some (.pointRun number)
  | some _ =>
    match p.vehicleJourneys? c.vehicleJourneys.rows.size with
    | none => some (.vehicleJourneyRun number)
    | some run => run.rows.findSome? fun ⟨v, inTable⟩ =>
      match c.vehicleJourneys.rows[v].stopTimes? p.stopCount.toNat c.stopTimes.size with
      | none => some (.stopTimeRun v)
      | some _ => none

/-- A broken run of a vehicle journey's transfers. -/
def brokenJourney? (transfers number : Nat) (v : VehicleJourney) : Option BrokenReference :=
  if (v.forwardTransfers? transfers).isNone || (v.backwardTransfers? transfers).isNone then
    some (.transferRun number)
  else none

/-- A transfer to a vehicle journey that its pattern does not have. -/
def brokenVehicleTransfer? (patterns : Array JourneyPattern) (number : Nat) (r : JourneyRef) :
    Option BrokenReference :=
  match patterns[r.pattern.toNat]? with
  | some p =>
    if r.offset < p.vehicleJourneyCount then none
    else some (.vehicleTransfer number r.offset.toNat r.pattern.toNat)
  | none => some (.vehicleTransfer number r.offset.toNat r.pattern.toNat)

/-- Whether some offset is greater than the one behind it. -/
def descends : List UInt32 → Bool
  | a :: b :: rest => b < a || descends (b :: rest)
  | _ => false

/-- Checks the stop index.  One that was never built passes. -/
def checkStopIndex (c : Container) : Except BrokenReference Unit := do
  let offsets := c.stopIndex.offsets.values
  let patterns := c.stopIndex.patterns.values
  if offsets.isEmpty then return
  if offsets.size ≠ c.stopPoints.size + 1 then
    throw (.indexSize offsets.size c.stopPoints.size)
  if descends offsets.toList || (offsets.back?.getD 0).toNat != patterns.size then
    throw .indexOrder
  checkRows StopIndex.label patterns "journey pattern" c.journeyPatterns.size UInt16.toNat

/-- Finds the first reference of a container that leads nowhere. -/
def checkReferences (c : Container) : Except BrokenReference Unit := do
  let pool := c.pool.size
  let stops := c.stopPoints.size
  checkTexts "timezone" c.metadata.timezone.toArray pool id

  let areas := c.stopAreas.rows
  checkTexts "stop areas" areas pool (·.id)
  checkTexts "stop areas" areas pool (·.name)
  checkTexts "stop areas" areas pool (·.timezone)

  let points := c.stopPoints.rows
  checkTexts "stop points" points pool (·.id)
  checkTexts "stop points" points pool (·.name)
  checkTexts "stop points" points pool (·.platformCode)
  checkRows "stop points" points "stop area" c.stopAreas.size (·.stopArea.toNat)
  checkTransfers points c.transfers.size
  checkRows "transfers" c.transfers.rows "stop point" stops (·.targetStop.toNat)

  let operators := c.operators.rows
  checkTexts "operators" operators pool (·.id)
  checkTexts "operators" operators pool (·.url)
  checkTexts "operators" operators pool (·.name)
  checkTexts "physical modes" c.physicalModes.rows pool (·.id)
  checkTexts "physical modes" c.physicalModes.rows pool (·.name)
  checkTexts "commercial modes" c.commercialModes.rows pool (·.id)
  checkTexts "commercial modes" c.commercialModes.rows pool (·.name)

  let lines := c.lines.rows
  checkTexts "lines" lines pool (·.id)
  checkTexts "lines" lines pool (·.code)
  checkTexts "lines" lines pool (·.name)
  checkTexts "lines" lines pool (·.color)
  checkTexts "lines" lines pool (·.textColor)
  checkRows "lines" lines "operator" c.operators.size (·.operator.toNat)
  checkRows "lines" lines "physical mode" c.physicalModes.size (·.physicalMode.toNat)
  checkRows "routes" c.routes.rows "line" c.lines.size (·.line.toNat)

  let patternPoints := c.journeyPatternPoints.rows
  checkRows "journey pattern points" patternPoints "stop point" stops (·.stopPoint.toNat)
  checkTexts "journey pattern points" patternPoints pool (·.headsign)

  let patterns := c.journeyPatterns.rows
  checkRows "journey patterns" patterns "route" c.routes.size (·.route.toNat)
  checkRows "journey patterns" patterns "commercial mode" c.commercialModes.size
    (·.commercialMode.toNat)

  checkTexts "vehicle journeys" c.vehicleJourneys.rows pool (·.id)
  firstBroken patterns (brokenPattern? c)
  firstBroken c.vehicleJourneys.rows (brokenJourney? c.vehicleTransfers.size)
  firstBroken c.vehicleTransfers.rows (brokenVehicleTransfer? patterns)
  checkStopIndex c

end TransitStore.Audit
