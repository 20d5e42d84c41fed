import TransitStore.Files.Path
import TransitStore.Files.Store

/-!
# Directories as values

A directory is a list of files and directories with their places.  Paths are
followed name by name, and every place on the way must be a directory.
`read_write` says that what is written to a path is read back from it.
-/

namespace TransitStore

/-- What stands at a place. -/
inductive Entry where
  /-- A file with its contents. -/
  | file (contents : ByteArray)
  | directory

/-- A directory with everything below it. -/
structure Directory where
  /-- What stands at the places below. -/
  entries : List (List String × Entry) := []

namespace Directory

/-- What stands at a place.  The directory itself and those around it are there,
and a place that something stands below is a directory. -/
def lookup? (d : Directory) (place : List String) : Option Entry :=
  match d.entries.find? (·.1 == place) with
  | some (_, entry) => some entry
  | none =>
    if Path.isAround place || d.entries.any (place.isPrefixOf ·.1) then some .directory else none

/-- The place that names lead to from another one.  Every place before it must be
a directory. -/
def walk (d : Directory) (place : List String) : List String → Except FileFault (List String)
  | [] => .ok place
  | [name] => .ok (Path.step place name)
  | name :: next :: names =>
    let there := Path.step place name
    match d.lookup? there with
    | some .directory => walk d there (next :: names)
    | some (.file _) => .error .notDirectory
    | none => .error (Path.absence there)

/-- The place that a path leads to. -/
def resolve (d : Directory) (path : String) : Except FileFault (List String) :=
  match Path.fault? path with
  | some fault => .error fault
  | none => d.walk [] (Path.names path)

/-- What stands at a path. -/
def find (d : Directory) (path : String) : Except FileFault Entry :=
  match d.resolve path with
  | .error fault => .error fault
  | .ok place =>
    match d.lookup? place with
    | some .directory => .ok .directory
    | some (.file contents) =>
      if Path.endsInSlash path then .error .notDirectory else .ok (.file contents)
    | none => .error (Path.absence place)

/-- The contents of a file. -/
def read (d : Directory) (path : String) : Except FileFault ByteArray :=
  match d.find path with
  | .ok (.file contents) => .ok contents
  | .ok .directory => .error .isDirectory
  | .error fault => .error fault

/-- Puts an entry at a place. -/
def put (d : Directory) (place : List String) (entry : Entry) : Directory :=
  ⟨(place, entry) :: d.entries.filter (·.1 != place)⟩

/-- Makes a file, or replaces its contents. -/
def write (d : Directory) (path : String) (contents : ByteArray) : Except FileFault Directory :=
  match d.resolve path with
  | .error fault => .error fault
  | .ok place =>
    match d.lookup? place with
    | some .directory => .error .isDirectory
    | _ =>
      if Path.endsInSlash path then .error .isDirectory
      else if Path.isTooLong place then .error .nameTooLong
      else .ok (d.put place (.file contents))

theorem lookup?_put (d : Directory) (place : List String) (entry : Entry) :
    (d.put place entry).lookup? place = some entry := by
  simp [put, lookup?]

/-- A directory stays one when something is put elsewhere. -/
theorem lookup?_put_of_directory {d : Directory} {entry : Entry} {here place : List String}
    (h : d.lookup? here = some .directory) (apart : here ≠ place) :
    (d.put place entry).lookup? here = some .directory := by
  have same : (d.entries.filter (·.1 != place)).find? (·.1 == here) =
      d.entries.find? (·.1 == here) := by
    rw [List.find?_filter]
    congr 1
    funext e
    by_cases eq : e.1 = here
    · simp [eq, apart]
    · simp [eq]
  have other : (place == here) = false := by simpa using fun eq => apart eq.symm
  simp only [lookup?, put, List.find?_cons, other, same] at h ⊢
  cases found : d.entries.find? (·.1 == here) with
  | some e => simpa [found] using h
  | none =>
    cases around : Path.isAround here with
    | true => simp
    | false =>
      obtain ⟨e, mem, below⟩ : ∃ e ∈ d.entries, here.isPrefixOf e.1 = true := by
        simpa [found, around] using h
      have kept : ∃ e ∈ (place, entry) :: d.entries.filter (·.1 != place),
          here.isPrefixOf e.1 = true := by
        by_cases eq : e.1 = place
        · exact ⟨(place, entry), by simp, eq ▸ below⟩
        · exact ⟨e, by simp [mem, eq], below⟩
      exact if_pos (List.any_eq_true.mpr kept)

/-- The way to a place does not change when something other than a directory is
put there. -/
theorem walk_put {d : Directory} {entry : Entry} {here place names : List String}
    (free : d.lookup? place ≠ some .directory) (h : d.walk here names = .ok place) :
    (d.put place entry).walk here names = .ok place := by
  induction names generalizing here with
  | nil => exact h
  | cons name names ih =>
    cases names with
    | nil => exact h
    | cons next names =>
      rw [walk] at h ⊢
      split at h
      · rename_i there
        have apart : Path.step here name ≠ place := fun eq => free (eq ▸ there)
        rw [lookup?_put_of_directory there apart]
        exact ih h
      · cases h
      · cases h

/-- What was written to a path is read back from it. -/
theorem read_write {d e : Directory} {path : String} {contents : ByteArray}
    (h : d.write path contents = .ok e) : e.read path = .ok contents := by
  unfold write resolve at h
  cases fault : Path.fault? path with
  | some _ => simp [fault] at h
  | none =>
    cases way : d.walk [] (Path.names path) with
    | error _ => simp [fault, way] at h
    | ok place =>
      simp only [fault, way] at h
      split at h
      · cases h
      · rename_i free
        split at h
        · cases h
        · rename_i plain
          split at h
          · cases h
          · cases h
            simp [read, find, resolve, fault, walk_put free way, lookup?_put, plain]

/-- Makes a directory at a place where nothing stands. -/
def ensure (d : Directory) (place : List String) : Directory :=
  match d.lookup? place with
  | some _ => d
  | none => d.put place .directory

/-- Makes a directory anew, with the directories on the way that are not there.
All that stood below it goes. -/
def makeDirectory (d : Directory) (path : String) : Directory :=
  let (d, place) := (Path.names path).foldl
    (fun (d, place) name => (ensure d (Path.step place name), Path.step place name)) (d, [])
  put ⟨d.entries.filter fun (p, _) => !place.isPrefixOf p⟩ place .directory

end Directory

instance : FileStore (StateM Directory) where
  pathExists path := do return (← get).find path matches .ok _
  readFile path := do return (← get).read path
  writeFile path contents := do
    match (← get).write path contents with
    | .ok d => set d; return .ok ()
    | .error fault => return .error fault

end TransitStore
