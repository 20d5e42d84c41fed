import TransitStore.Import.Options
import TransitStore.Text.Integer

/-!
# Arguments

The program takes the name of a command, its positional arguments and its
options, in any order behind the name.  The value of an option follows it or
stands behind an equals sign.  Two dashes alone end the options.
-/

namespace TransitStore.CommandLine

/-- What the program is asked to do. -/
inductive Command where
  /-- Make a snapshot from a feed. -/
  | importFeed (directory output : String) (options : Import.Options)
  /-- Describe a snapshot. -/
  | inspect (snapshot : String) (validate : Bool)
  /-- Write the stop list of a snapshot. -/
  | exportStops (snapshot output : String)
  /-- List the patterns at a stop point of a snapshot. -/
  | patternsAtStop (snapshot stopId : String)

/-- An option of a command. -/
structure OptionSpec where
  /-- The name, with its dashes. -/
  name : String
  /-- Whether it has a value. -/
  hasValue : Bool
  /-- Whether the value may start with a dash. -/
  dashValue : Bool := false

/-- Arguments, taken apart. -/
structure Arguments where
  /-- The positional arguments. -/
  positional : List String := []
  /-- The options with their values.  Those without a value have an empty one. -/
  options : List (String × String) := []

/-- Adds an option, unless it is there already. -/
def Arguments.withOption (a : Arguments) (name value : String) : Option Arguments :=
  if a.options.any (·.1 == name) then none
  else some { a with options := a.options ++ [(name, value)] }

/-- Whether a text looks like an option. -/
def looksLikeOption (s : String) : Bool := s.startsWith "-" && s != "-"

/-- The name of an option and its value, if one stands behind an equals sign. -/
def splitOption (s : String) : String × Option String :=
  match s.splitOn "=" with
  | name :: rest@(_ :: _) => (name, some ("=".intercalate rest))
  | _ => (s, none)

/-- Takes arguments apart.  Unknown options, repeated ones and options without
their value are refused. -/
def Arguments.parse (specs : List OptionSpec) (a : Arguments) : List String → Option Arguments
  | [] => some a
  | arg :: rest =>
    if arg = "--" then some { a with positional := a.positional ++ rest }
    else if !looksLikeOption arg then
      parse specs { a with positional := a.positional ++ [arg] } rest
    else
      let (name, value?) := splitOption arg
      match specs.find? (·.name == name), value?, rest with
      | none, _, _ => none
      | some spec, some value, rest =>
        if spec.hasValue then (a.withOption name value).bind fun a => parse specs a rest else none
      | some spec, none, rest =>
        if !spec.hasValue then (a.withOption name "").bind fun a => parse specs a rest
        else
          match rest with
          | [] => none
          | value :: rest =>
            if looksLikeOption value && !spec.dashValue then none
            else (a.withOption name value).bind fun a => parse specs a rest

/-- Reads the value of an option.  An option that is not given has a default. -/
def Arguments.read {α : Type} (a : Arguments) (name : String) (default : α)
    (read? : String → Option α) : Option α :=
  match a.options.lookup name with
  | none => some default
  | some value => read? value

/-- Reads an integer from `low` to `high`.  It may have either sign in any case, so
`-0` is zero even where no integer may be negative. -/
def integer? (low high : Int) (s : String) : Option Int :=
  (Text.decimal? Int64.minValue.toInt Int64.maxValue.toInt s).filter fun n => low ≤ n ∧ n ≤ high

/-- The options of an import. -/
def importSpecs : List OptionSpec :=
  [⟨"--calendar-start", true, false⟩, ⟨"--days", true, false⟩, ⟨"--utc-offset", true, true⟩]

/-- The import options among arguments. -/
def importOptions? (a : Arguments) : Option Import.Options := do
  let calendarStart ← a.read "--calendar-start" none fun s =>
    (Calendar.Date.ofDashed? s).map some
  let days ← a.read "--days" 32 fun s =>
    (integer? 0 (UInt32.size - 1) s).map fun n => UInt32.ofNat n.toNat
  let utcOffset ← a.read "--utc-offset" 0 fun s =>
    (integer? Int32.minValue.toInt Int32.maxValue.toInt s).map Int32.ofInt
  return { calendarStart, days, utcOffset }

/-- A path, unless it is empty. -/
def path? (s : String) : Option String := if s.isEmpty then none else some s

/-- The command of some arguments, if they make sense. -/
def Command.ofArguments? : List String → Option Command
  | "import" :: args => do
    let a ← Arguments.parse importSpecs {} args
    let options ← importOptions? a
    match a.positional with
    | [directory, output] => return .importFeed (← path? directory) (← path? output) options
    | _ => none
  | "inspect" :: args => do
    let a ← Arguments.parse [⟨"--no-validate", false, false⟩] {} args
    match a.positional with
    | [snapshot] => return .inspect (← path? snapshot) a.options.isEmpty
    | _ => none
  | "export-stops" :: args => do
    let a ← Arguments.parse [] {} args
    match a.positional with
    | [snapshot, output] => return .exportStops (← path? snapshot) (← path? output)
    | _ => none
  | "patterns-at-stop" :: args => do
    let a ← Arguments.parse [] {} args
    match a.positional with
    | [snapshot, stopId] => return .patternsAtStop (← path? snapshot) stopId
    | _ => none
  | _ => none

end TransitStore.CommandLine
