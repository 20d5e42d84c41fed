import Mathlib
import TransitStore.Proofs.Container.Entity
import TransitStore.Proofs.Snapshot.Image

/-!
# Reading column after column

The reader takes the columns of an image one after the other.  `ColumnsAt` says
that given columns stand in an image from a number on.  Each part of the reader
succeeds exactly if the columns of what it gives stand there, so the columns of a
whole container are read off from those of its pool, its tables and its stop index.
-/

namespace TransitStore

namespace Entity

/-- The number of the first column of a table in a snapshot. -/
def firstColumn : Entity → Nat
  | stopArea => 1
  | stopPoint => 5
  | transfer => 13
  | operator => 15
  | physicalMode => 18
  | commercialMode => 20
  | line => 22
  | route => 29
  | journeyPatternPoint => 30
  | journeyPattern => 33
  | stopTime => 40
  | vehicleJourney => 42
  | vehicleTransfer => 52

/-- The number of columns of a table. -/
def columnCount (e : Entity) : Nat := (Snapshot.tableSpecs e.Row).length

/-- The entities whose columns stand before those of a table. -/
def before (e : Entity) : List Entity := all.takeWhile (· ≠ e)

/-- The entities whose columns stand behind those of a table. -/
def behind (e : Entity) : List Entity := (all.dropWhile (· ≠ e)).tail

theorem all_eq (e : Entity) : all = e.before ++ e :: e.behind := by
  cases e <;> rfl

/-- The pool has one column, and the columns of the tables stand one behind the
other. -/
theorem firstColumn_eq (e : Entity) : e.firstColumn = 1 + (e.before.map columnCount).sum := by
  cases e <;> rfl

end Entity

/-- A container with the same contents that belongs to a snapshot file. -/
def Container.mappedFrom (c : Container) (path : String) (size : Nat) : Container where
  backing := .mapped path size
  metadata := c.metadata
  pool := ⟨⟨c.pool.bytes.values, .mapped⟩⟩
  stopAreas := ⟨c.stopAreas.rows, .mapped⟩
  stopPoints := ⟨c.stopPoints.rows, .mapped⟩
  transfers := ⟨c.transfers.rows, .mapped⟩
  operators := ⟨c.operators.rows, .mapped⟩
  physicalModes := ⟨c.physicalModes.rows, .mapped⟩
  commercialModes := ⟨c.commercialModes.rows, .mapped⟩
  lines := ⟨c.lines.rows, .mapped⟩
  routes := ⟨c.routes.rows, .mapped⟩
  journeyPatternPoints := ⟨c.journeyPatternPoints.rows, .mapped⟩
  journeyPatterns := ⟨c.journeyPatterns.rows, .mapped⟩
  stopTimes := ⟨c.stopTimes.rows, .mapped⟩
  vehicleJourneys := ⟨c.vehicleJourneys.rows, .mapped⟩
  vehicleTransfers := ⟨c.vehicleTransfers.rows, .mapped⟩
  stopIndex := ⟨⟨c.stopIndex.offsets.values, .mapped⟩, ⟨c.stopIndex.patterns.values, .mapped⟩⟩

theorem Entity.table_mappedFrom (e : Entity) (c : Container) (path : String) (size : Nat) :
    e.table (c.mappedFrom path size) = ⟨e.rows c, .mapped⟩ := by
  cases e <;> rfl

namespace Snapshot

/-! ## Columns of containers -/

/-- The column of a string pool. -/
def poolColumn (pool : Pool) : Column := ⟨poolSpec, pool.bytes.values.map UInt8.toNat⟩

/-- The columns of a stop index. -/
def indexColumns (index : StopIndex) : List Column :=
  [⟨indexOffsetsSpec, index.offsets.values.map UInt32.toNat⟩,
    ⟨indexPatternsSpec, index.patterns.values.map UInt16.toNat⟩]

/-- A container has the column of its pool, those of its tables and those of its stop
index. -/
theorem columns_eq (c : Container) :
    columns c = poolColumn c.pool ::
      (Entity.all.flatMap fun e => tableColumns (e.table c)) ++ indexColumns c.stopIndex := by
  simp only [columns, Entity.all, List.flatMap_cons, List.flatMap_nil, List.append_nil,
    List.append_assoc, List.cons_append, List.nil_append]
  rfl

@[simp] theorem length_tableColumns {ρ : Type} [Record ρ] (t : Table ρ) :
    (tableColumns t).length = (tableSpecs ρ).length := by
  simp [tableColumns, tableSpecs]

theorem columns_table (e : Entity) (c : Container) :
    ((columns c).drop e.firstColumn).take e.columnCount = tableColumns (e.table c) := by
  have split : columns c =
      (poolColumn c.pool :: e.before.flatMap fun e => tableColumns (e.table c)) ++
        (tableColumns (e.table c) ++
          ((e.behind.flatMap fun e => tableColumns (e.table c)) ++ indexColumns c.stopIndex)) := by
    rw [columns_eq, e.all_eq, List.flatMap_append, List.flatMap_cons]
    simp only [List.cons_append, List.append_assoc]
  have before : (poolColumn c.pool ::
      e.before.flatMap fun e => tableColumns (e.table c)).length = e.firstColumn := by
    rw [List.length_cons, List.length_flatMap, e.firstColumn_eq, Nat.add_comm]
    simp only [length_tableColumns]
    rfl
  have length : (tableColumns (e.table c)).length = e.columnCount := length_tableColumns _
  rw [split, List.drop_left' before, List.take_left' length]

theorem getElem?_columns {e : Entity} {c : Container} {j : Nat} {column : Column}
    (at_ : (tableColumns (e.table c))[j]? = some column) :
    (columns c)[e.firstColumn + j]? = some column := by
  have inside : j < e.columnCount := by
    have inside := (List.getElem?_eq_some_iff.1 at_).1
    rwa [length_tableColumns] at inside
  rwa [← columns_table, List.getElem?_take_of_lt inside, List.getElem?_drop] at at_

theorem columns_stopIndex (c : Container) : (columns c).drop 53 = indexColumns c.stopIndex := by
  rw [columns_eq]
  apply List.drop_left'
  rw [List.length_cons, List.length_flatMap]
  simp only [length_tableColumns]
  rfl

theorem map_toColumnSpec_columns (c : Container) :
    (columns c).map Column.toColumnSpec = specs := by
  simp only [columns, specs, List.map_append, List.map_cons, List.map_nil, tableColumns,
    tableSpecs, List.map_map]
  rfl

@[simp] theorem length_columns (c : Container) : (columns c).length = columnCount := by
  rw [columnCount, ← map_toColumnSpec_columns c, List.length_map]

@[simp] theorem columns_mappedFrom (c : Container) (path : String) (size : Nat) :
    columns (c.mappedFrom path size) = columns c := rfl

theorem zipWith_words {ρ : Type} [Record ρ] (t : Table ρ) :
    (tableSpecs ρ).zipWith Column.mk t.words = tableColumns t := by
  simp [tableSpecs, Table.words, tableColumns, List.zipWith_map]

/-! ## Reading -/

section

variable {α β : Type} {image : ByteArray} {n m : Nat}

theorem Reading.bind_eq_ok {x : Reading α} {f : α → Reading β} {b : β} :
    (x >>= f) n = .ok (b, m) ↔ ∃ a k, x n = .ok (a, k) ∧ f a k = .ok (b, m) := by
  show Except.bind (x n) (fun p => f p.1 p.2) = _ ↔ _
  cases x n with
  | error e => simp [Except.bind]
  | ok p =>
    obtain ⟨a, k⟩ := p
    simp [Except.bind]

theorem Reading.pure_eq_ok {a b : α} :
    (pure a : Reading α) n = .ok (b, m) ↔ a = b ∧ n = m := by
  show Except.ok (a, n) = Except.ok (b, m) ↔ _
  simp

theorem Reading.lift_eq_ok {x : Except Malformation α} {a : α} :
    (liftM x : Reading α) n = .ok (a, m) ↔ x = .ok a ∧ n = m := by
  show Except.bind x (fun a => Except.ok (a, n)) = _ ↔ _
  cases x with
  | error e => simp [Except.bind]
  | ok a => simp [Except.bind]

theorem nextColumn_eq_ok {spec : ColumnSpec} {words : Array Nat} :
    nextColumn image spec n = .ok (words, m) ↔
      readColumn image spec (readDescriptor image n) = .ok words ∧ m = n + 1 := by
  have run : nextColumn image spec n =
      Except.bind (readColumn image spec (readDescriptor image n)) fun w => .ok (w, n + 1) := rfl
  rw [run]
  cases readColumn image spec (readDescriptor image n) with
  | error e => simp [Except.bind]
  | ok w => simp [Except.bind, eq_comm]

/-- Columns are what the descriptors of an image show from a number on. -/
def ColumnsAt (image : ByteArray) : (number : Nat) → List Column → Prop
  | _, [] => True
  | number, column :: rest =>
    readColumn image column.toColumnSpec (readDescriptor image number) = .ok column.words ∧
      ColumnsAt image (number + 1) rest

theorem columnsAt_append {first second : List Column} :
    ColumnsAt image n (first ++ second) ↔
      ColumnsAt image n first ∧ ColumnsAt image (n + first.length) second := by
  induction first generalizing n with
  | nil => simp [ColumnsAt]
  | cons column first ih =>
    simp only [List.cons_append, ColumnsAt, ih, List.length_cons, and_assoc]
    rw [Nat.add_assoc, Nat.add_comm 1]

theorem columnsAt_iff {columns : List Column} :
    ColumnsAt image n columns ↔ ∀ k column, columns[k]? = some column →
      readColumn image column.toColumnSpec (readDescriptor image (n + k)) = .ok column.words := by
  induction columns generalizing n with
  | nil => simp [ColumnsAt]
  | cons first rest ih =>
    simp only [ColumnsAt, ih]
    constructor
    · rintro ⟨head, tail⟩ k column at_
      cases k with
      | zero =>
        cases at_
        exact head
      | succ k =>
        rw [← Nat.add_assoc, Nat.add_right_comm]
        exact tail k column at_
    · intro all
      refine ⟨all 0 first rfl, ?_⟩
      intro k column at_
      have next := all (k + 1) column at_
      rwa [← Nat.add_assoc, Nat.add_right_comm] at next

/-- Columns are read one after the other exactly if they stand in the image. -/
theorem mapM_nextColumn_eq_ok {specs : List ColumnSpec} {words : List (Array Nat)} :
    specs.mapM (nextColumn image) n = .ok (words, m) ↔
      m = n + specs.length ∧ words.length = specs.length ∧
        ColumnsAt image n (specs.zipWith Column.mk words) := by
  induction specs generalizing n m words with
  | nil =>
    rw [List.mapM_nil, Reading.pure_eq_ok]
    cases words with
    | nil => simp [ColumnsAt, eq_comm]
    | cons first words => simp
  | cons spec specs ih =>
    simp only [List.mapM_cons, Reading.bind_eq_ok, Reading.pure_eq_ok, nextColumn_eq_ok, ih]
    constructor
    · rintro ⟨first, k, ⟨read, rfl⟩, rest, k', ⟨rfl, length, at_⟩, rfl, rfl⟩
      refine ⟨?_, ?_, read, at_⟩
      · simp only [List.length_cons]
        omega
      · simp [length]
    · rintro ⟨rfl, length, at_⟩
      cases words with
      | nil => cases length
      | cons first rest =>
        obtain ⟨read, at_⟩ := at_
        refine ⟨first, n + 1, ⟨read, rfl⟩, rest, n + 1 + specs.length, ⟨rfl, ?_, at_⟩, rfl, ?_⟩
        · simpa using length
        · simp only [List.length_cons]
          omega

theorem forall₂_lt_wordCount {specs : List ColumnSpec} {words : List (Array Nat)}
    (length : words.length = specs.length)
    (at_ : ColumnsAt image n (specs.zipWith Column.mk words)) :
    List.Forall₂ (fun (spec : ColumnSpec) column =>
      ∀ word ∈ column, word < LittleEndian.wordCount spec.type.size) specs words := by
  induction specs generalizing n words with
  | nil =>
    cases List.length_eq_zero_iff.1 length
    exact .nil
  | cons spec specs ih =>
    cases words with
    | nil => cases length
    | cons first words =>
      obtain ⟨read, at_⟩ := at_
      exact .cons (lt_wordCount_of_readColumn read) (ih (by simpa using length) at_)

/-- A table of a snapshot is what an image shows from a column on. -/
structure TableAt {ρ : Type} [Record ρ] (image : ByteArray) (number : Nat) (t : Table ρ) :
    Prop where
  /-- The table belongs to a snapshot. -/
  mapped : t.storage = .mapped
  /-- It is not too long. -/
  short : t.size ≤ Table.maxRows ρ
  /-- Its columns stand in the image. -/
  columns : ColumnsAt image number (tableColumns t)

/-- A pool of a snapshot is what an image shows as a column. -/
structure PoolAt (image : ByteArray) (number : Nat) (pool : Pool) : Prop where
  /-- The pool belongs to a snapshot. -/
  mapped : pool.bytes.storage = .mapped
  /-- It is not too long. -/
  short : pool.size ≤ Pool.maxSize
  /-- Its column stands in the image. -/
  columns : ColumnsAt image number [poolColumn pool]

/-- A stop index of a snapshot is what an image shows from a column on. -/
structure StopIndexAt (image : ByteArray) (number : Nat) (index : StopIndex) : Prop where
  /-- The offsets belong to a snapshot. -/
  offsetsMapped : index.offsets.storage = .mapped
  /-- The lists belong to a snapshot. -/
  patternsMapped : index.patterns.storage = .mapped
  /-- Its columns stand in the image. -/
  columns : ColumnsAt image number (indexColumns index)

/-- The next columns are read as the table that the image shows. -/
theorem nextTable_eq_ok {ρ : Type} [Record ρ] [LawfulRecord ρ] {t : Table ρ} :
    nextTable image n = .ok (t, m) ↔ TableAt image n t ∧ m = n + (tableSpecs ρ).length := by
  simp only [nextTable, Reading.bind_eq_ok, mapM_nextColumn_eq_ok, Reading.lift_eq_ok]
  constructor
  · rintro ⟨words, k, ⟨rfl, length, at_⟩, table, rfl⟩
    have fit : Table.WordsFit ρ words :=
      List.forall₂_map_left_iff.1 (forall₂_lt_wordCount length at_)
    obtain ⟨mapped, short, rfl⟩ := (Table.ofColumns?_eq_ok fit).1 table
    rw [zipWith_words] at at_
    exact ⟨⟨mapped, short, at_⟩, rfl⟩
  · rintro ⟨⟨mapped, short, at_⟩, rfl⟩
    rw [← zipWith_words] at at_
    have length : t.words.length = (tableSpecs ρ).length := by
      simp [Table.words, tableSpecs]
    have fit : Table.WordsFit ρ t.words :=
      List.forall₂_map_left_iff.1 (forall₂_lt_wordCount length at_)
    exact ⟨t.words, _, ⟨rfl, length, at_⟩, (Table.ofColumns?_eq_ok fit).2 ⟨mapped, short, rfl⟩, rfl⟩

theorem nextPool_eq_ok {pool : Pool} :
    nextPool image n = .ok (pool, m) ↔ PoolAt image n pool ∧ m = n + 1 := by
  simp only [nextPool, Reading.bind_eq_ok, nextColumn_eq_ok, Reading.lift_eq_ok, Pool.ofMapped?]
  constructor
  · rintro ⟨words, k, ⟨read, rfl⟩, made, rfl⟩
    split at made
    · cases made
    · rename_i short
      cases made
      have same : (words.map UInt8.ofNat).map UInt8.toNat = words :=
        LawfulCell.map_toWord_ofWord (α := UInt8) (lt_wordCount_of_readColumn read)
      refine ⟨⟨rfl, Nat.not_lt.1 short, ?_, trivial⟩, rfl⟩
      simp only [poolColumn, Column.ofMapped, same]
      exact read
  · rintro ⟨⟨mapped, short, read, -⟩, rfl⟩
    have same : (pool.bytes.values.map UInt8.toNat).map UInt8.ofNat = pool.bytes.values :=
      LawfulCell.map_ofWord_toWord (α := UInt8) pool.bytes.values
    refine ⟨_, _, ⟨read, rfl⟩, ?_, rfl⟩
    simp only [poolColumn, same]
    have short : ¬Pool.maxSize < pool.bytes.values.size := Nat.not_lt.2 short
    rw [if_neg short]
    obtain ⟨⟨values, storage⟩⟩ := pool
    cases mapped
    rfl

theorem nextStopIndex_eq_ok {index : StopIndex} :
    nextStopIndex image n = .ok (index, m) ↔ StopIndexAt image n index ∧ m = n + 2 := by
  simp only [nextStopIndex, Reading.bind_eq_ok, nextColumn_eq_ok, Reading.pure_eq_ok]
  constructor
  · rintro ⟨offsets, k, ⟨readOffsets, rfl⟩, patterns, k', ⟨readPatterns, rfl⟩, rfl, rfl⟩
    have sameOffsets : (offsets.map UInt32.ofNat).map UInt32.toNat = offsets :=
      LawfulCell.map_toWord_ofWord (α := UInt32) (lt_wordCount_of_readColumn readOffsets)
    have samePatterns : (patterns.map UInt16.ofNat).map UInt16.toNat = patterns :=
      LawfulCell.map_toWord_ofWord (α := UInt16) (lt_wordCount_of_readColumn readPatterns)
    refine ⟨⟨rfl, rfl, ?_⟩, rfl⟩
    simp only [indexColumns, StopIndex.ofMapped, Column.ofMapped, sameOffsets, samePatterns]
    exact ⟨readOffsets, readPatterns, trivial⟩
  · rintro ⟨⟨offsetsMapped, patternsMapped, readOffsets, readPatterns, -⟩, rfl⟩
    have sameOffsets : (index.offsets.values.map UInt32.toNat).map UInt32.ofNat =
        index.offsets.values := LawfulCell.map_ofWord_toWord (α := UInt32) _
    have samePatterns : (index.patterns.values.map UInt16.toNat).map UInt16.ofNat =
        index.patterns.values := LawfulCell.map_ofWord_toWord (α := UInt16) _
    refine ⟨_, _, ⟨readOffsets, rfl⟩, _, _, ⟨readPatterns, rfl⟩, ?_, rfl⟩
    obtain ⟨⟨offsets, storage⟩, ⟨patterns, storage'⟩⟩ := index
    cases offsetsMapped
    cases patternsMapped
    simp only [StopIndex.ofMapped, Column.ofMapped, sameOffsets, samePatterns]

/-- A reading goes on behind a part of it that succeeds with the values it finds. -/
theorem Reading.bind_eq_ok_of {x : Reading α} {At : α → Prop} {k : Nat}
    (run : ∀ a m, x n = .ok (a, m) ↔ At a ∧ m = k) {f : α → Reading β} {b : β} :
    (x >>= f) n = .ok (b, m) ↔ ∃ a, At a ∧ f a k = .ok (b, m) := by
  rw [Reading.bind_eq_ok]
  constructor
  · rintro ⟨a, k', read, rest⟩
    obtain ⟨at_, rfl⟩ := (run a k').1 read
    exact ⟨a, at_, rest⟩
  · rintro ⟨a, at_, rest⟩
    exact ⟨a, k, (run a k).2 ⟨at_, rfl⟩, rest⟩

theorem bind_nextTable_eq_ok {ρ : Type} [Record ρ] [LawfulRecord ρ] {f : Table ρ → Reading β}
    {b : β} : (nextTable image >>= f) n = .ok (b, m) ↔
      ∃ t : Table ρ, TableAt image n t ∧ f t (n + (tableSpecs ρ).length) = .ok (b, m) :=
  Reading.bind_eq_ok_of fun _ _ => nextTable_eq_ok

theorem bind_nextPool_eq_ok {f : Pool → Reading β} {b : β} :
    (nextPool image >>= f) n = .ok (b, m) ↔
      ∃ pool, PoolAt image n pool ∧ f pool (n + 1) = .ok (b, m) :=
  Reading.bind_eq_ok_of fun _ _ => nextPool_eq_ok

theorem bind_nextStopIndex_eq_ok {f : StopIndex → Reading β} {b : β} :
    (nextStopIndex image >>= f) n = .ok (b, m) ↔
      ∃ index, StopIndexAt image n index ∧ f index (n + 2) = .ok (b, m) :=
  Reading.bind_eq_ok_of fun _ _ => nextStopIndex_eq_ok

end

end Snapshot

end TransitStore
