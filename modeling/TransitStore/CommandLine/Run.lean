import TransitStore.Audit.Quality
import TransitStore.CommandLine.Arguments
import TransitStore.Container.Files
import TransitStore.Import.Build
import TransitStore.PatternTimes

/-!
# Commands

`run` does what a command asks for, in any file store.  What it prints and how
it ends is its result.
-/

namespace TransitStore.CommandLine

/-- What a run prints and how it ends. -/
structure Outcome where
  /-- The exit code. -/
  code : UInt32 := 0
  /-- The text on the standard output. -/
  output : String := ""
  /-- The text on the standard error. -/
  errors : String := ""
deriving DecidableEq, Repr

/-- A failure with what lies behind it, nearest first. -/
structure Failure where
  /-- What failed. -/
  message : String
  /-- What lies behind it. -/
  causes : List String := []

/-- The failure of an operation. -/
def Failure.of (e : Error) : Failure := ⟨e.message, e.causes⟩

/-- The failure of an operation on behalf of something else. -/
def Failure.during (what : String) (e : Error) : Failure := ⟨what, e.message :: e.causes⟩

/-- The lines of a cause, all but the first set in. -/
def setIn (indent cause : String) : String := ("\n" ++ indent).intercalate (cause.splitOn "\n")

/-- The text of a failure. -/
def Failure.text (f : Failure) : String :=
  let causes :=
    match f.causes with
    | [] => ""
    | [cause] => "\n\nCaused by:\n    " ++ setIn "    " cause
    | causes =>
      "\n\nCaused by:" ++ String.join (causes.zipIdx.map fun (cause, number) =>
        let number := toString number
        "\n" ++ "".pushn ' ' (5 - number.length) ++ number ++ ": " ++ setIn "       " cause)
  "Error: " ++ f.message ++ causes ++ "\n"

/-- A failed run, with what it printed before. -/
def failed (f : Failure) (output : String) : Outcome := ⟨1, output, f.text⟩

/-- The lines that describe a container, and the failure that ends them early. -/
def inspection (c : Container) : Outcome :=
  let timezone := c.timezoneName?.getD "unknown"
  let head := [
    "calendar start: " ++ (c.calendarStart?.map Calendar.Instant.text).getD "invalid",
    s!"days: {c.metadata.days.toNat}",
    s!"timezone: {timezone} (UTC offset {c.metadata.utcOffset.toInt}s)"] ++
    c.sizes.map fun (name, size) => s!"{name}: {size}"
  let lines (ls : List String) : String := String.join (ls.map (· ++ "\n"))
  match PatternTimes.build c with
  | .error e => failed (.of e) (lines head)
  | .ok times =>
    let tail := [
      s!"latest arrival: {times.latest.toSeconds}s after midnight",
      s!"quality issues: {(Audit.qualityIssues c).length}"]
    { output := lines (head ++ tail) }

/-- The line of a pattern at a stop: its row, the code of its line and what its
vehicles show at the first point. -/
def patternLine (c : Container) (pattern : UInt16) : String :=
  let row := pattern.toNat
  let code? := do
    let p ← c.journeyPatterns.rows[row]?
    let route ← c.routes.rows[p.route.toNat]?
    let line ← c.lines.rows[route.line.toNat]?
    c.text? line.code
  let headsign? := do
    let run ← c.patternPoints? row
    let first ← c.journeyPatternPoints.rows[run.start]?
    c.text? first.headsign
  toString row ++ "\t" ++ code?.getD "?" ++ "\t" ++ headsign?.getD "" ++ "\n"

section Run

variable {m : Type → Type} [Monad m] [FileStore m]

/-- Ends a run by the result of its last step. -/
def ending (result : Except Error Unit) : Outcome :=
  match result with
  | .ok () => {}
  | .error e => failed (.of e) ""

/-- Does what a command asks for. -/
def Command.run : Command → m Outcome
  | .importFeed directory output options => do
    match ← Import.fromDirectory directory options with
    | .error e => return failed (.during ("importing GTFS feed " ++ Text.quoted directory) e) ""
    | .ok imported => return ending (← imported.container.saveSnapshot output)
  | .inspect snapshot validate => do
    match ← Container.openFile snapshot validate with
    | .error e => return failed (.during ("loading " ++ Text.quoted snapshot) e) ""
    | .ok c => return inspection c
  | .exportStops snapshot output => do
    match ← Container.openFile snapshot true with
    | .error e => return failed (.of e) ""
    | .ok c => return ending (← c.saveStopList output)
  | .patternsAtStop snapshot stopId => do
    match ← Container.openFile snapshot true with
    | .error e => return failed (.of e) ""
    | .ok c =>
      match c.findStopPoint? stopId with
      | none => return failed { message := "no stop point with id " ++ Text.quoted stopId } ""
      | some stop =>
        return { output := String.join ((c.journeyPatternsAtStop stop).map (patternLine c)) }

/-- Runs the program.  Arguments that make no sense end it with the code 2. -/
def run (args : List String) : m Outcome :=
  match Command.ofArguments? args with
  | none => return { code := 2 }
  | some command => command.run

end Run

end TransitStore.CommandLine
