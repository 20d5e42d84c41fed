import TransitStore.CommandLine.Run

/-!
# The program

The commands run on the file system.
-/

namespace TransitStore

/-- The fault behind an exception of the file system. -/
def FileFault.ofException : IO.Error → FileFault
  | .noFileOrDirectory .. => .missing
  | .inappropriateType _ code details =>
    if code = 20 then .notDirectory else if code = 21 then .isDirectory else .other details
  | .invalidArgument _ code details =>
    if code = 36 then .nameTooLong else .other details
  | e => .other (toString e)

/-- The result of an action of the file system. -/
def attempt {α : Type} (action : IO α) : IO (Except FileFault α) := do
  match ← action.toBaseIO with
  | .ok a => return .ok a
  | .error e => return .error (.ofException e)

instance : FileStore IO where
  pathExists path := do
    match ← attempt (IO.FS.Handle.mk path .read) with
    | .ok _ => return true
    | .error _ => return false
  readFile path := attempt (IO.FS.readBinFile path)
  writeFile path contents := attempt (IO.FS.writeBinFile path contents)

end TransitStore

/-- Runs the program on the file system. -/
def main (args : List String) : IO UInt32 := do
  let outcome ← TransitStore.CommandLine.run args
  IO.print outcome.output
  IO.eprint outcome.errors
  return outcome.code
