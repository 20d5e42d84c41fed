import Mathlib
import TransitStore.Container.Files
import TransitStore.Files.Directory
import TransitStore.Proofs.Snapshot.RoundTrip

/-!
# Ownership

A container is owned or mapped as a whole (`Uniform`), although the pool, each table
and both columns of the stop index have a storage of their own, and an addition only
looks at that of its table.  No operation moves a part from one kind of storage to the
other, and opening a snapshot makes all of them at once.  So a mapped container takes
no edit at all, and an owned one can always be emptied (`Attained.ownership`).
-/

namespace TransitStore

/-! ## Storage of the parts -/

theorem Storage.owned_of_reserve [Memory] {s made : Storage} {size : Nat} {demand : Demand}
    {what : String} (h : s.reserve size demand what = .ok made) : made.isMapped = false := by
  cases s with
  | mapped => cases h
  | owned capacity =>
    unfold reserve at h
    dsimp only at h
    split at h
    · cases h
      rfl
    · split at h
      · cases h
        rfl
      · cases h

namespace Pool

variable {pool : Pool}

theorem owned_of_roomFor [Memory] {count : Nat} {storage : Storage}
    (h : pool.roomFor count = .ok storage) :
    pool.isMapped = false ∧ storage.isMapped = false := by
  unfold roomFor at h
  dsimp only at h
  split at h
  · cases h
  · rename_i owned
    have owned : pool.isMapped = false := by simpa using owned
    refine ⟨owned, ?_⟩
    split at h
    · cases h
    · split at h
      · exact Storage.owned_of_reserve h
      · cases h
        exact owned

theorem keeps_isMapped_intern [Memory] (mapped : Bool) (s : String) :
    Edit.Keeps (fun pool => pool.isMapped = mapped) (intern s) := by
  intro pool same
  unfold Edit.after intern append
  cases room : pool.roomFor (s.toUTF8.data.push 0).size with
  | error e => exact same
  | ok storage =>
    obtain ⟨owned, made⟩ := owned_of_roomFor room
    exact made.trans (owned.symm.trans same)

end Pool

namespace Table

variable {ρ : Type} [Record ρ] {t : Table ρ}

theorem owned_of_reserve [Memory] {target : Nat} {storage : Storage}
    (h : t.reserve target = .ok storage) : storage.isMapped = false := by
  obtain ⟨rows, kind⟩ := t
  cases kind with
  | mapped => cases h
  | owned capacity =>
    unfold reserve at h
    dsimp only at h
    split at h
    · cases h
      rfl
    · split at h
      · cases h
        rfl
      · cases h

/-- A table that gets room is owned, and stays so. -/
theorem owned_of_roomFor [Memory] {count : Nat} {storage : Storage}
    (h : t.roomFor count = .ok storage) :
    t.isMapped = false ∧ storage.isMapped = false := by
  unfold roomFor at h
  dsimp only at h
  split at h
  · cases h
  · rename_i owned
    have owned : t.isMapped = false := by simpa using owned
    refine ⟨owned, ?_⟩
    split at h
    · cases h
    · split at h
      · exact owned_of_reserve h
      · cases h
        exact owned

omit [Record ρ] in
theorem capacity_of_mapped (mapped : t.isMapped = true) : t.capacity = 0 := by
  obtain ⟨rows, kind⟩ := t
  cases kind with
  | mapped => rfl
  | owned capacity => cases mapped

end Table

namespace Entity

theorem keeps_isMapped_intern [Memory] (e : Entity) (mapped : Bool) (d : e.NewRow) :
    Edit.Keeps (fun pool => pool.isMapped = mapped) (Draft.intern d : Edit Pool e.Row) := by
  rw [intern_eq]
  exact (Edit.Keeps.mapM fun text _ => Pool.keeps_isMapped_intern mapped text).map _

/-- A table and the pool stay where they live when rows are added. -/
theorem keeps_isMapped_addRows [Memory] (e : Entity) (mapped : Bool) (drafts : List e.NewRow) :
    Edit.Keeps (fun p : Table e.Row × Pool => p.1.isMapped = mapped ∧ p.2.isMapped = mapped)
      (Table.add drafts) := by
  rintro ⟨t, pool⟩ ⟨table, poolSame⟩
  have interned := Edit.Keeps.mapM (fun d _ => e.keeps_isMapped_intern mapped d)
    (l := drafts) pool poolSame
  unfold Edit.after Table.add
  dsimp only
  cases room : t.roomFor drafts.length with
  | error err => exact ⟨table, poolSame⟩
  | ok storage =>
    obtain ⟨owned, made⟩ := Table.owned_of_roomFor room
    have kept : storage.isMapped = mapped := made.trans (owned.symm.trans table)
    dsimp only
    cases run : (drafts.mapM Draft.intern : Edit Pool (List e.Row)) pool with
    | error err pool' =>
      rw [Edit.after_of_error run] at interned
      exact ⟨kept, interned⟩
    | ok records pool' =>
      rw [Edit.after_of_ok run] at interned
      exact ⟨kept, interned⟩

end Entity

theorem StopIndex.owned_of_build [Memory] {stops : Nat} {patterns : Array JourneyPattern}
    {points : Array JourneyPatternPoint} {index : StopIndex}
    (h : StopIndex.build stops patterns points = .ok index) :
    index.offsets.isMapped = false ∧ index.patterns.isMapped = false := by
  obtain ⟨-, rfl⟩ := eq_of_build h
  exact ⟨rfl, rfl⟩

/-! ## Uniform containers -/

namespace Container

/-- All parts of a container live where it does. -/
structure Uniform (c : Container) : Prop where
  pool : c.pool.isMapped = c.isMapped
  tables : ∀ e : Entity, (e.table c).isMapped = c.isMapped
  offsets : c.stopIndex.offsets.isMapped = c.isMapped
  patterns : c.stopIndex.patterns.isMapped = c.isMapped

theorem uniform_new : Uniform {} where
  pool := rfl
  tables e := by cases e <;> rfl
  offsets := rfl
  patterns := rfl

variable {c : Container}

@[simp] theorem isMapped_put (e : Entity) (c : Container) (t : Table e.Row) :
    (e.put c t).isMapped = c.isMapped := by
  rw [isMapped, isMapped, Entity.put_backing]

theorem Uniform.put (uniform : Uniform c) {e : Entity} {t : Table e.Row}
    (same : t.isMapped = c.isMapped) : Uniform (e.put c t) where
  pool := by simpa using uniform.pool
  tables other := by
    rw [isMapped_put]
    by_cases eq : other = e
    · subst eq
      rwa [Entity.table_put]
    · rw [Entity.table_put_of_ne eq]
      exact uniform.tables other
  offsets := by simpa using uniform.offsets
  patterns := by simpa using uniform.patterns

theorem Uniform.withTexts (uniform : Uniform c) {pool : Pool} (metadata : Metadata)
    (same : pool.isMapped = c.isMapped) : Uniform { c with metadata, pool } where
  pool := same
  tables e := by
    have table : e.table { c with metadata, pool } = e.table c := by cases e <;> rfl
    rw [table]
    exact uniform.tables e
  offsets := uniform.offsets
  patterns := uniform.patterns

theorem Uniform.withStopIndex (uniform : Uniform c) {stopIndex : StopIndex}
    (offsets : stopIndex.offsets.isMapped = c.isMapped)
    (patterns : stopIndex.patterns.isMapped = c.isMapped) : Uniform { c with stopIndex } where
  pool := uniform.pool
  tables e := by
    rw [Entity.table_withStopIndex]
    exact uniform.tables e
  offsets := offsets
  patterns := patterns

/-! ## Edits -/

theorem Uniform.add [Memory] (e : Entity) (rows : List e.NewRow) :
    Edit.Keeps Uniform (onTable (Table.add rows : Edit (Table e.Row × Pool) Nat)) := by
  intro c uniform
  obtain ⟨table, pool⟩ := e.keeps_isMapped_addRows c.isMapped rows (e.table c, c.pool)
    ⟨uniform.tables e, uniform.pool⟩
  rw [Entity.after_onTable]
  exact (uniform.withTexts c.metadata pool).put table

theorem Uniform.setCalendar (start : UInt64) (days : UInt32) :
    Edit.Keeps Uniform (setCalendar start days) :=
  (keeps_ensureOwned Uniform).bind fun _ _ uniform => uniform.withTexts _ uniform.pool

theorem Uniform.setTimezone [Memory] (name : String) (utcOffset : Int32) :
    Edit.Keeps Uniform (setTimezone name utcOffset) := by
  refine (keeps_ensureOwned Uniform).bind fun _ => Edit.Keeps.bind ?_ fun place c uniform =>
    uniform.withTexts _ uniform.pool
  intro c uniform
  rw [after_onPool]
  exact uniform.withTexts c.metadata (Pool.keeps_isMapped_intern c.isMapped name _ uniform.pool)

theorem Uniform.buildStopIndex [Memory] : Edit.Keeps Uniform buildStopIndex := by
  intro c uniform
  cases owned : c.isMapped with
  | true =>
    have same : Container.buildStopIndex.after c = c := after_of_mapped owned
    rwa [same]
  | false =>
    rw [Edit.after, buildStopIndex_of_owned owned]
    cases build : StopIndex.build c.stopPoints.size c.journeyPatterns.rows
        c.journeyPatternPoints.rows with
    | error e => exact uniform
    | ok stopIndex =>
      obtain ⟨offsets, patterns⟩ := StopIndex.owned_of_build build
      exact uniform.withStopIndex (offsets.trans owned.symm) (patterns.trans owned.symm)

theorem resetTable_of_owned {e : Entity} (owned : (e.table c).isMapped = false) :
    resetTable e.Row c = .ok () (e.put c {}) := by
  show onTable _ c = .ok () (e.put { c with pool := c.pool } {})
  refine Entity.onTable_of_ok ?_
  simp [Table.reset, owned]

theorem bind_resetTable_eq_ok (e : Entity) {d : Container} {next : Unit → Edit Container Unit}
    (uniform : Uniform c) (owned : c.isMapped = false)
    (rest : Uniform (e.put c {}) → (e.put c {}).isMapped = false → next () (e.put c {}) = .ok () d) :
    (resetTable e.Row >>= next) c = .ok () d := by
  have table : (e.table c).isMapped = false := (uniform.tables e).trans owned
  refine Edit.bind_eq_ok.2 ⟨(), e.put c {}, resetTable_of_owned table, rest ?_ ?_⟩
  · exact uniform.put owned.symm
  · rwa [isMapped_put]

/-- An owned container is emptied part by part, and no part is in the way. -/
theorem Uniform.reset_eq (uniform : Uniform c) (owned : c.isMapped = false) :
    Container.reset c = .ok () {} := by
  -- Each round puts one empty table in place; the container stays owned and uniform.
  refine Edit.bind_eq_ok.2 ⟨(), c, ensureOwned_eq_ok.2 ⟨owned, rfl⟩, ?_⟩
  refine Edit.bind_eq_ok.2 ⟨(), { c with stopIndex := {} }, rfl, ?_⟩
  have start : Uniform { c with stopIndex := {} } := uniform.withStopIndex owned.symm owned.symm
  refine bind_resetTable_eq_ok .journeyPattern start owned fun uniform owned => ?_
  refine bind_resetTable_eq_ok .commercialMode uniform owned fun uniform owned => ?_
  refine bind_resetTable_eq_ok .route uniform owned fun uniform owned => ?_
  refine bind_resetTable_eq_ok .line uniform owned fun uniform owned => ?_
  refine bind_resetTable_eq_ok .physicalMode uniform owned fun uniform owned => ?_
  refine bind_resetTable_eq_ok .operator uniform owned fun uniform owned => ?_
  refine bind_resetTable_eq_ok .vehicleJourney uniform owned fun uniform owned => ?_
  refine bind_resetTable_eq_ok .vehicleTransfer uniform owned fun uniform owned => ?_
  refine bind_resetTable_eq_ok .stopTime uniform owned fun uniform owned => ?_
  refine bind_resetTable_eq_ok .journeyPatternPoint uniform owned fun uniform owned => ?_
  refine bind_resetTable_eq_ok .transfer uniform owned fun uniform owned => ?_
  refine bind_resetTable_eq_ok .stopArea uniform owned fun uniform owned => ?_
  refine bind_resetTable_eq_ok .stopPoint uniform owned fun uniform owned => ?_
  refine Edit.bind_eq_ok.2 ⟨(), _, onPool_eq_ok.2 ⟨{}, ?_, rfl⟩, ?_⟩
  · simp only [Pool.reset, uniform.pool.trans owned]
    rfl
  · obtain ⟨backing, _⟩ := c
    cases backing with
    | owned => rfl
    | mapped path size => cases owned

theorem Uniform.reset : Edit.Keeps Uniform reset := by
  intro c uniform
  cases owned : c.isMapped with
  | true =>
    have same : Container.reset.after c = c := after_of_mapped owned
    rwa [same]
  | false =>
    rw [Edit.after_of_ok (uniform.reset_eq owned)]
    exact uniform_new

theorem Uniform.apply [Memory] (uniform : Uniform c) (op : Operation) : Uniform (op.apply c) := by
  cases op with
  | add e rows => exact (Uniform.add e rows).map _ c uniform
  | setCalendar start days => exact Uniform.setCalendar start days c uniform
  | setTimezone name utcOffset => exact Uniform.setTimezone name utcOffset c uniform
  | buildStopIndex => exact Uniform.buildStopIndex c uniform
  | reset => exact Uniform.reset c uniform

/-- Operations on an owned container leave it owned. -/
theorem Uniform.owned_apply [Memory] (uniform : Uniform c) (owned : c.isMapped = false)
    (op : Operation) :
    (op.apply c).isMapped = false := by
  cases op with
  | add e rows =>
    rw [Operation.apply, Operation.edit, Edit.after_map, Entity.after_onTable, isMapped_put]
    exact owned
  | setCalendar start days =>
    refine (keeps_ensureOwned (·.isMapped = false)).bind (fun _ => ?_) c owned
    exact fun _ owned => owned
  | setTimezone name utcOffset =>
    refine (keeps_ensureOwned (·.isMapped = false)).bind (fun _ => ?_) c owned
    refine Edit.Keeps.bind (fun d owned => ?_) fun _ _ owned => owned
    rw [after_onPool]
    exact owned
  | buildStopIndex =>
    rw [Operation.apply, Edit.after, Operation.edit, buildStopIndex_of_owned owned]
    cases StopIndex.build c.stopPoints.size c.journeyPatterns.rows
        c.journeyPatternPoints.rows with
    | error e => exact owned
    | ok stopIndex => exact owned
  | reset =>
    rw [Operation.apply, Operation.edit, Edit.after_of_ok (uniform.reset_eq owned)]
    rfl

/-! ## Mapped containers -/

/-- What an operation says it may not write to. -/
def Operation.subject : Operation → String
  | add e _ => Record.label e.Row
  | setCalendar _ _ | setTimezone _ _ | buildStopIndex | reset => label

/-- A mapped table takes no rows, not even none, and leaves the pool alone. -/
theorem add_of_mapped [Memory] {e : Entity} {rows : List e.NewRow}
    (mapped : (e.table c).isMapped = true) :
    (onTable (Table.add rows) : Edit Container Nat) c =
      .error (.denied (Record.label e.Row)) c := by
  have run : (Table.add rows : Edit (Table e.Row × Pool) Nat) (e.table c, c.pool) =
      .error (.denied (Record.label e.Row)) (e.table c, c.pool) := by
    simp [Table.add, Table.roomFor, mapped]
  rw [Entity.onTable_of_error run]
  exact congrArg _ (e.put_table c)

/-- A mapped container takes no edit, and stays as it is. -/
theorem Uniform.denied [Memory] (uniform : Uniform c) (mapped : c.isMapped = true)
    (op : Operation) :
    op.edit c = .error (.denied op.subject) c := by
  cases op with
  | add e rows =>
    have run : (onTable (Table.add rows) : Edit Container Nat) c = _ :=
      add_of_mapped ((uniform.tables e).trans mapped)
    show EStateM.map _ _ c = _
    rw [EStateM.map, run]
    rfl
  | setCalendar start days => exact ensureOwned_bind_of_mapped mapped
  | setTimezone name utcOffset => exact ensureOwned_bind_of_mapped mapped
  | buildStopIndex => exact ensureOwned_bind_of_mapped mapped
  | reset => exact ensureOwned_bind_of_mapped mapped

/-! ## Containers from files -/

theorem isMapped_of_openImage {path : String} {validate : Bool} {image : ByteArray}
    (opened : Snapshot.openImage path validate image = .ok c) : c.isMapped = true := by
  rw [isMapped, (Snapshot.decode_eq_ok.1 (Snapshot.decode_of_openImage opened)).backing]

theorem uniform_of_openImage {path : String} {validate : Bool} {image : ByteArray}
    (opened : Snapshot.openImage path validate image = .ok c) : Uniform c := by
  have shows := Snapshot.decode_eq_ok.1 (Snapshot.decode_of_openImage opened)
  have mapped := isMapped_of_openImage opened
  refine ⟨?_, ?_, ?_, ?_⟩
  · rw [mapped, Pool.isMapped, Column.isMapped, shows.pool.mapped]
    rfl
  · intro e
    rw [mapped, Table.isMapped, (shows.tables e).mapped]
    rfl
  · rw [mapped, Column.isMapped, shows.stopIndex.offsetsMapped]
    rfl
  · rw [mapped, Column.isMapped, shows.stopIndex.patternsMapped]
    rfl

variable {path : String} {validate : Bool} {files : Directory}

theorem openFile_run (path : String) (validate : Bool) (files : Directory) :
    openFile (m := StateM Directory) path validate files =
      (((files.read path).mapError fun fault => Error.ofFile path (.ofMapping fault)).bind
        (Snapshot.openImage path validate), files) := rfl

theorem openImage_of_openFile {files' : Directory}
    (h : openFile (m := StateM Directory) path validate files = (.ok c, files')) :
    ∃ image, Snapshot.openImage path validate image = .ok c := by
  rw [openFile_run] at h
  cases read : files.read path with
  | error fault =>
    rw [read] at h
    cases h
  | ok image =>
    rw [read] at h
    exact ⟨image, congrArg Prod.fst h⟩

theorem bindFile_run (c : Container) (path : String) (files : Directory) :
    bindFile (m := StateM Directory) c path files =
      match openFile (m := StateM Directory) path true files with
      | (.ok d, files') => ((.ok (), d), files')
      | (.error e, files') => ((.error e, c), files') := by
  simp only [bindFile, bind, StateT.bind, pure]
  rcases openFile (m := StateM Directory) path true files with ⟨e | d, files'⟩
  · rfl
  · rfl

/-- The containers that operations and files lead to, whatever the files hold. -/
inductive Attained : Container → Prop where
  | new : Attained {}
  /-- Operations follow each other in any order, with any memory, and may fail. -/
  | edited {c : Container} [Memory] (op : Operation) : Attained c → Attained (op.apply c)
  /-- A container may let go of its snapshot. -/
  | unmapped {c : Container} : Attained c → Attained c.unmap.2
  /-- A container may be opened from a file. -/
  | opened {path : String} {validate : Bool} {files files' : Directory} {c : Container} :
    openFile (m := StateM Directory) path validate files = (.ok c, files') → Attained c
  /-- The contents of a file may be put in place of a container's. -/
  | bound {c : Container} (path : String) (files : Directory) :
    Attained c → Attained (bindFile (m := StateM Directory) c path files).1.2

theorem Attained.uniform (attained : Attained c) : Uniform c := by
  induction attained with
  | new => exact uniform_new
  | edited op _ ih => exact ih.apply op
  | @unmapped c _ ih =>
    unfold unmap
    split
    · exact uniform_new
    · exact ih
  | opened opened =>
    obtain ⟨image, opened⟩ := openImage_of_openFile opened
    exact uniform_of_openImage opened
  | @bound c path files _ ih =>
    rw [bindFile_run]
    split
    · obtain ⟨image, opened⟩ := openImage_of_openFile ‹_›
      exact uniform_of_openImage opened
    · exact ih

/-- Whatever led to a container, all its parts live where it does.  A mapped one takes
no edit and stays as it is until it lets go of its snapshot, which leaves a new one.  An
owned one has no snapshot to let go of, and is a new one again once it is emptied. -/
theorem Attained.ownership (attained : Attained c) :
    Uniform c ∧
      (∀ e : Entity, (e.table c).isMapped = true → (e.table c).capacity = 0) ∧
      (c.isMapped = true →
        (∀ [Memory] (op : Operation), op.edit c = .error (.denied op.subject) c) ∧
          c.unmap = (true, {})) ∧
      (c.isMapped = false → Container.reset c = .ok () {} ∧ c.unmap = (false, c)) := by
  have uniform := attained.uniform
  refine ⟨uniform, fun e => Table.capacity_of_mapped, ?_, ?_⟩
  · intro mapped
    exact ⟨fun op => uniform.denied mapped op, if_pos mapped⟩
  · intro owned
    exact ⟨uniform.reset_eq owned, if_neg (ne_true_of_eq_false owned)⟩

/-- A directory with the snapshot of an empty container. -/
def emptySaved : Directory := ⟨[(["t"], .file (Snapshot.encode {}))]⟩

theorem openFile_emptySaved : openFile (m := StateM Directory) "t" true emptySaved =
    (.ok (mappedFrom {} "t" (Snapshot.encode {}).size), emptySaved) := by
  have names : Path.names "t" = ["t"] := by cbv
  have fault : Path.fault? "t" = none := by cbv
  have slash : Path.endsInSlash "t" = false := by decide
  have read : emptySaved.read "t" = .ok (Snapshot.encode {}) := by
    simp [emptySaved, Directory.read, Directory.find, Directory.resolve, names, fault, slash,
      Directory.walk, Directory.lookup?, Path.step]
  have decoded := Snapshot.decode_encode fits_new "t"
  rw [Snapshot.openFile_eq read, Snapshot.openImage_true decoded,
    Snapshot.checkReferences_mappedFrom]
  rfl

/-- A container from a file takes not even an empty batch, and lets go of the file. -/
theorem ownership_emptySaved : ∃ c,
    openFile (m := StateM Directory) "t" true emptySaved = (.ok c, emptySaved) ∧
      c.isMapped = true ∧
      (Operation.add .stopTime []).edit c = .error (.denied "stop times") c ∧
      c.unmap = (true, {}) := by
  have attained : Attained (mappedFrom {} "t" (Snapshot.encode {}).size) :=
    .opened openFile_emptySaved
  obtain ⟨-, -, mapped, -⟩ := attained.ownership
  obtain ⟨denied, unmapped⟩ := mapped rfl
  exact ⟨_, openFile_emptySaved, rfl, denied _, unmapped⟩

end Container

end TransitStore
