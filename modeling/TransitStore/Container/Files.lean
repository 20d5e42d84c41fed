import TransitStore.Files.Store
import TransitStore.Snapshot.Reader
import TransitStore.Snapshot.Writer
import TransitStore.StopList

/-!
# Containers and files

Snapshots and stop lists in the files of a store.
-/

namespace TransitStore.Container

variable {m : Type → Type} [Monad m] [FileStore m]

/-- The container of a snapshot file, with its references checked if `validate`
is set. -/
def openFile (path : String) (validate : Bool) : m (Except Error Container) := do
  return (← FileStore.load path).bind (Snapshot.openImage path validate)

/-- Writes the snapshot of a container to a file. -/
def saveSnapshot (c : Container) (path : String) : m (Except Error Unit) :=
  FileStore.save path (Snapshot.encode c)

/-- Writes the stop list of a container to a file. -/
def saveStopList (c : Container) (path : String) : m (Except Error Unit) :=
  FileStore.save path (stopListJson c.stopLocations).toUTF8

/-- Puts the contents of a snapshot file in place of a container's, with the
references checked.  A file that cannot be opened leaves the container as it is. -/
def bindFile (c : Container) (path : String) : m (Except Error Unit × Container) := do
  match ← openFile path true with
  | .ok opened => return (.ok (), opened)
  | .error e => return (.error e, c)

end TransitStore.Container
