import TransitStore.Error

/-!
# File stores

A file store reads and writes whole files by path.  The program's commands are
written for any store, so that they run on the file system and on a directory
that is a value alike.
-/

namespace TransitStore

/-- The effects `m` that reach files. -/
class FileStore (m : Type → Type) where
  /-- Whether there is a file or directory at a path. -/
  pathExists : String → m Bool
  /-- The contents of a file. -/
  readFile : String → m (Except FileFault ByteArray)
  /-- Makes a file, or replaces its contents. -/
  writeFile : String → ByteArray → m (Except FileFault Unit)

namespace FileStore

variable {m : Type → Type} [Monad m] [FileStore m]

/-- The contents of a file to map, or the failure to map it. -/
def load (path : String) : m (Except Error ByteArray) := do
  return (← readFile path).mapError fun fault => Error.ofFile path (.ofMapping fault)

/-- Makes a file, or gives the failure to make it. -/
def save (path : String) (contents : ByteArray) : m (Except Error Unit) := do
  return (← writeFile path contents).mapError (Error.ofFile path)

end FileStore

end TransitStore
