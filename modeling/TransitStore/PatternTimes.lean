import TransitStore.Container.Basic

/-!
# Pattern times

For each journey pattern: when its first vehicle journey begins, when its last
one is over, and on which days any of them runs.
-/

namespace TransitStore

/-- When the vehicle journeys of a pattern run. -/
structure PatternSummary where
  /-- The first time one begins. -/
  earliest : CoarseTime
  /-- The last time one departs from its last stop. -/
  latest : CoarseTime
  /-- The days on which one runs. -/
  active : UInt32
deriving DecidableEq, Repr

/-- When the vehicle journeys of all patterns run. -/
structure PatternTimes where
  /-- The patterns' summaries, by row. -/
  summaries : List PatternSummary
deriving DecidableEq, Repr

namespace PatternTimes

/-- The last time any vehicle journey is over. -/
def latest (times : PatternTimes) : CoarseTime :=
  times.summaries.foldl (fun t s => max t s.latest) 0

/-- Whether a pattern has a vehicle journey on a day of the calendar. -/
def runsOn (times : PatternTimes) (pattern day : Nat) : Bool :=
  (times.summaries[pattern]?.map fun s => hasDay s.active day).getD false

/-- The departure of a vehicle journey from the last stop of a pattern of
`stops` points, counted from its begin.  A pattern without points has none. -/
def lastDeparture? (c : Container) (v : VehicleJourney) (stops : Nat) : Option CoarseTime :=
  if stops = 0 then some 0
  else (v.stopTimes? stops c.stopTimes.rows.size).bind fun run =>
    run.slice.getLast?.map (·.departure)

/-- The summary of one vehicle journey. -/
def journeySummary? (c : Container) (v : VehicleJourney) (stops : Nat) : Option PatternSummary :=
  (lastDeparture? c v stops).map fun departure =>
    ⟨v.beginTime, CoarseTime.saturatingAdd v.beginTime departure, v.active⟩

/-- The summary of two sets of vehicle journeys together. -/
def join (a b : PatternSummary) : PatternSummary :=
  ⟨min a.earliest b.earliest, max a.latest b.latest, a.active ||| b.active⟩

/-- The summary of a pattern, if its vehicle journeys and their stop times lie
inside their tables.  Without vehicle journeys it is zero throughout. -/
def patternSummary? (c : Container) (p : JourneyPattern) : Option PatternSummary := do
  let run ← p.vehicleJourneys? c.vehicleJourneys.rows.size
  let journeys ← run.slice.mapM fun v => journeySummary? c v p.stopCount.toNat
  match journeys with
  | [] => some ⟨0, 0, 0⟩
  | first :: rest => some (rest.foldl join first)

/-- The summaries of all patterns. -/
def build (c : Container) : Except Error PatternTimes := do
  let summaries ← c.journeyPatterns.rows.toList.zipIdx.mapM fun (p, number) =>
    match patternSummary? c p with
    | some summary => .ok summary
    | none => .error (.invalidReference (.summedRun number))
  return ⟨summaries⟩

end PatternTimes

end TransitStore
