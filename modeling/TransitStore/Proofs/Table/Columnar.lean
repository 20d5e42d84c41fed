import Mathlib
import TransitStore.Proofs.Container.Room

/-!
# Tables column by column

The rows of a table are records.  In memory they are not kept as such: there is a column
for each field, and apart from the columns a table counts its rows and the room that it
has for rows (`Columnar`).  Room is made in one column after the other, which may end
before the last one, and a row is added to one column after the other.

The counts and the columns stay together.  A columnar table that holds the rows of a
table (`Columnar.Holds`) gives the same answer as the table to every edit, and holds the
rows of the table that is left (`Columnar.alike_add` and its neighbours).  This is so with
any memory.  Columns in front of one that gets no room have got theirs, though, and do not
ask for it again, so the table is one that finds memory for what they have
(`Columnar.memory`).
-/

namespace TransitStore

namespace Edit

/-- Two edits give the same answer and leave related states. -/
inductive Alike {σ τ α : Type} (rel : σ → τ → Prop) :
    EStateM.Result Error σ α → EStateM.Result Error τ α → Prop
  | ok {a : α} {s : σ} {t : τ} : rel s t → Alike rel (.ok a s) (.ok a t)
  | error {e : Error} {s : σ} {t : τ} : rel s t → Alike rel (.error e s) (.error e t)

theorem Alike.after {σ τ α : Type} {rel : σ → τ → Prop} {x : Edit σ α} {y : Edit τ α} {s : σ}
    {t : τ} (alike : Alike rel (x s) (y t)) : rel (x.after s) (y.after t) := by
  generalize left : x s = r at alike
  generalize right : y t = q at alike
  cases alike with
  | ok related => rwa [after_of_ok left, after_of_ok right]
  | error related => rwa [after_of_error left, after_of_error right]

end Edit

/-! ## Room in a table -/

namespace Table

variable {ρ : Type} [Record ρ] {t : Table ρ} {target : Nat}

theorem reserve_of_le [Memory] (owned : t.isMapped = false) (there : target ≤ t.capacity) :
    t.reserve target = .ok t.storage := by
  simp only [reserve, storage_of_owned owned, if_pos there]

/-- Room that is not there is made if every column gets its own. -/
theorem reserve_of_lt [Memory] (owned : t.isMapped = false) (more : t.capacity < target) :
    t.reserve target =
      if (Record.fields : List (Field ρ)).all fun f => (f.demand target).isMet then
        .ok (.owned target)
      else .error (.outOfMemory (Record.label ρ)) := by
  simp only [reserve, storage_of_owned owned, if_neg (Nat.not_le.2 more)]

/-- Ample memory makes room in a table unless it is there, or a column would have too many
bytes. -/
theorem ensureCapacity_cases (owned : t.isMapped = false) (target : Nat) :
    (target ≤ t.capacity ∧ ensureCapacity target t = .ok () t) ∨
    (t.capacity < target ∧
      (∃ f ∈ (Record.fields : List (Field ρ)), maxAllocation < target * f.type.size) ∧
        ensureCapacity target t = .error (.outOfMemory (Record.label ρ)) t) ∨
    t.capacity < target ∧
      (∀ f ∈ (Record.fields : List (Field ρ)), target * f.type.size ≤ maxAllocation) ∧
        ensureCapacity target t = .ok () { t with storage := .owned target } := by
  rcases Nat.lt_or_ge t.capacity target with more | there
  · refine .inr ?_
    have met (f : Field ρ) :
        (f.demand target).isMet = true ↔ target * f.type.size ≤ maxAllocation := by
      rw [Demand.isMet_ample, decide_eq_true_eq, Field.demand, Demand.bytes]
    have made := reserve_of_lt owned more
    split at made
    · rename_i small
      refine .inr ⟨more, fun f mem => (met f).1 (List.all_eq_true.1 small f mem), ?_⟩
      simp only [ensureCapacity, made]
    · rename_i large
      refine .inl ⟨more, ?_, by simp only [ensureCapacity, made]⟩
      simpa only [List.all_eq_true, met, not_forall, Nat.not_le, exists_prop] using large
  · refine .inl ⟨there, ?_⟩
    simp only [ensureCapacity, reserve_of_le owned there]

end Table

/-! ## Columns -/

/-- A table as it is kept: a column for each field, and counts for all of them. -/
structure Columnar (ρ : Type) where
  /-- The columns, in the order of the fields. -/
  columns : List (Column Nat)
  /-- The number of rows. -/
  size : Nat
  /-- The room for rows. -/
  capacity : Nat
  isMapped : Bool

namespace Columnar

variable {ρ δ : Type}

/-- Changes one column after the other.  The columns before one that cannot be changed are
changed. -/
def eachColumn (step : Field ρ → Column Nat → Except Error (Column Nat)) :
    List (Field ρ) → List (Column Nat) → EStateM.Result Error (List (Column Nat)) Unit
  | f :: fields, column :: columns =>
    match step f column with
    | .error e => .error e (column :: columns)
    | .ok changed =>
      match eachColumn step fields columns with
      | .ok () rest => .ok () (changed :: rest)
      | .error e rest => .error e (changed :: rest)
  | _, columns => .ok () columns

section

variable {step : Field ρ → Column Nat → Except Error (Column Nat)}
  {p q good : Field ρ → Column Nat → Prop} {fields : List (Field ρ)} {columns : List (Column Nat)}

theorem eachColumn_ok
    (all : List.Forall₂ (fun f column => ∃ changed, step f column = .ok changed ∧ q f changed)
      fields columns) :
    ∃ changed, eachColumn step fields columns = .ok () changed ∧
      List.Forall₂ q fields changed := by
  induction all with
  | nil => exact ⟨[], rfl, .nil⟩
  | cons first _ ih =>
    obtain ⟨changed, made, kept⟩ := first
    obtain ⟨rest, others, all⟩ := ih
    refine ⟨changed :: rest, ?_, .cons kept all⟩
    simp only [eachColumn, made, others]

/-- All fails where one column cannot be changed.  What holds of every column, changed or
not, holds of the columns that are left. -/
theorem eachColumn_error {e : Error} (all : List.Forall₂ p fields columns)
    (bad : ¬List.Forall₂ good fields columns)
    (goes : ∀ f column, p f column → good f column →
      ∃ changed, step f column = .ok changed ∧ p f changed)
    (stuck : ∀ f column, p f column → ¬good f column → step f column = .error e) :
    ∃ changed, eachColumn step fields columns = .error e changed ∧
      List.Forall₂ p fields changed := by
  induction all with
  | nil => exact absurd .nil bad
  | @cons f column _ _ first rest ih =>
    by_cases here : good f column
    · obtain ⟨changed, made, kept⟩ := goes f column first here
      obtain ⟨others, behind, all⟩ := ih fun good => bad (.cons here good)
      refine ⟨changed :: others, ?_, .cons kept all⟩
      simp only [eachColumn, made, behind]
    · exact ⟨_, by simp only [eachColumn, stuck f column first here], .cons first rest⟩

end

/-- A column has a field of the rows of a table, and room for as many rows as the table
counts. -/
structure Keeps (t : Table ρ) (capacity : Nat) (f : Field ρ) (column : Column Nat) : Prop where
  values : column.values.toList = t.column f
  storage : ∃ room, column.storage = .owned room ∧ capacity ≤ room ∧
    room * f.type.size ≤ maxAllocation

section

variable {t : Table ρ} {f : Field ρ} {column : Column Nat} {capacity target : Nat}

theorem Keeps.size_eq (keeps : Keeps t capacity f column) : column.size = t.size := by
  rw [Column.size, ← Array.length_toList, keeps.values, Table.column, List.length_map]
  rfl

theorem Keeps.mono (keeps : Keeps t capacity f column) (le : target ≤ capacity) :
    Keeps t target f column := by
  obtain ⟨room, owned, enough, small⟩ := keeps.storage
  exact ⟨keeps.values, room, owned, le.trans enough, small⟩

/-- A column only depends on the rows of the table. -/
theorem Keeps.congr {t' : Table ρ} (keeps : Keeps t capacity f column) (rows : t'.rows = t.rows) :
    Keeps t' capacity f column := by
  refine ⟨?_, keeps.storage⟩
  rw [keeps.values, Table.column, Table.column, rows]

end

/-! ## Edits -/

variable [Record ρ]

/-- A table without rows. -/
def new : Columnar ρ := ⟨(Record.fields : List (Field ρ)).map fun _ => {}, 0, 0, false⟩

/-- Makes room for `target` rows in every column. -/
def ensureCapacity [Memory] (target : Nat) : Edit (Columnar ρ) Unit := fun s =>
  if s.isMapped then .error (.denied (Record.label ρ)) s
  else if target ≤ s.capacity then .ok () s
  else
    match eachColumn (fun f column =>
        column.reserveTotal f.type.size target (Record.label ρ) f.columnName)
      (Record.fields : List (Field ρ)) s.columns with
    | .ok () columns => .ok () { s with columns, capacity := target }
    | .error e columns => .error e { s with columns }

/-- Makes room for `count` more rows and gives the number of the first. -/
def beginAppend [Memory] (count : Nat) : Edit (Columnar ρ) Nat := fun s =>
  let start := s.size
  let finish := start + count
  let overflow := Error.indexOverflow (Record.label ρ) (Table.maxRows ρ) finish
  let number (s : Columnar ρ) : EStateM.Result Error (Columnar ρ) Nat :=
    match (Record.width ρ).index? start with
    | some start => .ok start s
    | none => .error overflow s
  if s.isMapped then .error (.denied (Record.label ρ)) s
  else if Table.maxRows ρ < finish then .error overflow s
  else if s.capacity < finish then
    match ensureCapacity (min (finish + Record.slack ρ) (Table.maxRows ρ)) s with
    | .error e s => .error e s
    | .ok () s => number s
  else number s

/-- Adds a record to every column. -/
def pushRow (r : ρ) : Edit (Columnar ρ) Unit := fun s =>
  match eachColumn (fun f column => column.push (f.word r) (Record.label ρ)) Record.fields
    s.columns with
  | .ok () columns => .ok () { s with columns, size := s.size + 1 }
  | .error e columns => .error e { s with columns }

/-- Adds rows at the end and gives the number of the first. -/
def add [Memory] [Draft δ ρ] (drafts : List δ) : Edit (Columnar ρ × Pool) Nat := fun (s, pool) =>
  match beginAppend drafts.length s with
  | .error e s => .error e (s, pool)
  | .ok start s =>
    match (drafts.mapM Draft.intern : Edit Pool (List ρ)) pool with
    | .error e pool => .error e (s, pool)
    | .ok records pool =>
      match records.forM pushRow s with
      | .error e s => .error e (s, pool)
      | .ok () s => .ok start (s, pool)

/-- Empties the table. -/
def reset : Edit (Columnar ρ) Unit := fun s =>
  if s.isMapped then .error (.denied (Record.label ρ)) s else .ok () new

/-! ## Columns that hold rows -/

/-- A columnar table holds the rows of a table. -/
structure Holds (s : Columnar ρ) (t : Table ρ) : Prop where
  /-- Each column has a field of all rows. -/
  columns : List.Forall₂ (Keeps t s.capacity) Record.fields s.columns
  size : s.size = t.size
  storage : t.storage = .owned s.capacity
  owned : s.isMapped = false
  size_le_capacity : s.size ≤ s.capacity
  size_le_maxRows : s.size ≤ Table.maxRows ρ

section

variable {s grown : Columnar ρ} {t : Table ρ} {f : Field ρ} {column : Column Nat}
  {capacity target : Nat}

theorem Holds.isMapped_eq (holds : s.Holds t) : t.isMapped = false := by
  rw [Table.isMapped, holds.storage, Storage.isMapped]

theorem Holds.capacity_eq (holds : s.Holds t) : t.capacity = s.capacity := by
  rw [Table.capacity, holds.storage, Storage.capacity]

theorem Holds.length_eq (holds : s.Holds t) : ∀ column ∈ s.columns, column.size = s.size := by
  intro column mem
  obtain ⟨f, -, keeps⟩ := exists_of_forall₂ holds.columns mem
  rw [keeps.size_eq, holds.size]

/-- The columns that hold the rows of a table are those of the table. -/
theorem Holds.values_eq (holds : s.Holds t) :
    s.columns.map (·.values.toList) = Record.fields.map t.column := by
  rw [eq_comm, ← List.forall₂_eq_eq_eq, List.forall₂_map_left_iff, List.forall₂_map_right_iff]
  exact holds.columns.imp fun _ _ keeps => keeps.values.symm

theorem holds_new : (new : Columnar ρ).Holds {} := by
  refine ⟨?_, rfl, rfl, rfl, Nat.le_refl 0, Nat.zero_le _⟩
  rw [new, List.forall₂_map_right_iff, List.forall₂_same]
  intro f _
  exact ⟨rfl, 0, rfl, Nat.le_refl 0, by rw [Nat.zero_mul]; exact Nat.zero_le _⟩

/-! ## Room -/

/-- The memory that a table finds whose columns have got some room before: that there is, and
what they have. -/
@[reducible] def memory [Memory] (s : Columnar ρ) : Memory where
  has d := Memory.has d ||
    ((Record.fields : List (Field ρ)).zip s.columns).any fun (f, column) =>
      f.columnName == d.column && d.count ≤ column.capacity

/-- A column has room for so many rows, or gets it. -/
def HasRoom [Memory] (target : Nat) (f : Field ρ) (column : Column Nat) : Prop :=
  target ≤ column.capacity ∨ (f.demand target).isMet

theorem reserveTotal_of_hasRoom [Memory] (keeps : Keeps t capacity f column)
    (short : t.size ≤ capacity) (room : HasRoom target f column) :
    ∃ changed, column.reserveTotal f.type.size target (Record.label ρ) f.columnName =
      .ok changed ∧ Keeps t target f changed := by
  obtain ⟨most, owned, enough, fits⟩ := keeps.storage
  have size := keeps.size_eq
  by_cases there : target ≤ column.size ∨ target ≤ most
  · refine ⟨column, ?_, keeps.values, most, owned, by omega, fits⟩
    simp only [Column.reserveTotal, Storage.reserve, owned, if_pos there]
    rw [← owned]
    rfl
  · have met : (f.demand target).isMet := by
      refine room.resolve_left fun le => there (.inr ?_)
      rwa [Column.capacity, owned] at le
    have small : (f.demand target).bytes ≤ maxAllocation :=
      of_decide_eq_true (Bool.and_eq_true_iff.1 met).1
    rw [Field.demand] at met
    refine ⟨{ column with storage := .owned target }, ?_, keeps.values, target, rfl,
      Nat.le_refl _, small⟩
    simp only [Column.reserveTotal, Storage.reserve, owned, if_neg there, if_pos met]
    rfl

theorem reserveTotal_of_not_hasRoom [Memory] (keeps : Keeps t capacity f column)
    (short : t.size ≤ capacity) (none_ : ¬HasRoom target f column) :
    column.reserveTotal f.type.size target (Record.label ρ) f.columnName =
      .error (.outOfMemory (Record.label ρ)) := by
  obtain ⟨most, owned, enough, fits⟩ := keeps.storage
  have size := keeps.size_eq
  obtain ⟨less, unmet⟩ := not_or.1 none_
  rw [Column.capacity, owned, Storage.capacity] at less
  rw [Field.demand] at unmet
  have there : ¬(target ≤ column.size ∨ target ≤ most) := by omega
  simp only [Column.reserveTotal, Storage.reserve, owned, if_neg there, if_neg unmet]
  rfl

section

variable [LawfulRecord ρ]

/-- The columns of a table know each other by their names. -/
theorem eq_of_columnName_eq {columns : List (Column Nat)} {g : Field ρ} {other : Column Nat}
    (length : columns.length = (Record.fields : List (Field ρ)).length)
    (mem : (f, column) ∈ (Record.fields : List (Field ρ)).zip columns)
    (mem' : (g, other) ∈ (Record.fields : List (Field ρ)).zip columns)
    (same : f.columnName = g.columnName) : column = other := by
  have names : (((Record.fields : List (Field ρ)).zip columns).map fun p =>
      p.1.columnName).Nodup := by
    rw [← Function.comp_def, ← List.map_map, List.map_fst_zip length.ge]
    exact (List.nodup_cons.1 LawfulRecord.columnNames_nodup).2
  exact congrArg Prod.snd (List.inj_on_of_nodup_map names mem mem' same)

/-- The room of the columns is no room for texts. -/
theorem memory_texts [Memory] (s : Columnar ρ) (count : Nat) :
    s.memory.has ⟨Pool.columnName, count, 1⟩ = Memory.has ⟨Pool.columnName, count, 1⟩ := by
  have other := (List.nodup_cons.1 (LawfulRecord.columnNames_nodup (ρ := ρ))).1
  have none_ : (((Record.fields : List (Field ρ)).zip s.columns).any fun (f, column) =>
      f.columnName == Pool.columnName && count ≤ column.capacity) = false := by
    refine List.any_eq_false.2 fun ⟨f, column⟩ mem => ?_
    have ne : f.columnName ≠ Pool.columnName := fun same =>
      other (List.mem_map.2 ⟨f, (List.of_mem_zip mem).1, same⟩)
    simp [ne]
  exact (congrArg (Memory.has ⟨Pool.columnName, count, 1⟩ || ·) none_).trans (Bool.or_false _)

/-- A table finds the memory for a column where the column has room or gets it. -/
theorem isMet_memory_iff [Memory] (holds : s.Holds t)
    (mem : (f, column) ∈ (Record.fields : List (Field ρ)).zip s.columns) :
    (letI : Memory := s.memory; (f.demand target).isMet) = true ↔ HasRoom target f column := by
  obtain ⟨most, owned, -, fits⟩ := ((List.forall₂_iff_zip.1 holds.columns).2 mem).storage
  have capacity : column.capacity = most := by rw [Column.capacity, owned, Storage.capacity]
  constructor
  · intro met
    obtain ⟨small, given⟩ := Bool.and_eq_true_iff.1 met
    rcases Bool.or_eq_true_iff.1 given with has | none_
    · rcases Bool.or_eq_true_iff.1 has with has | there
      · exact .inr (Bool.and_eq_true_iff.2 ⟨small, Bool.or_eq_true_iff.2 (.inl has)⟩)
      · obtain ⟨⟨g, other⟩, mem', both⟩ := List.any_eq_true.1 there
        obtain ⟨name, enough⟩ := Bool.and_eq_true_iff.1 both
        rw [eq_of_columnName_eq holds.columns.length_eq.symm mem mem' (beq_iff_eq.1 name).symm]
        exact .inl (of_decide_eq_true enough)
    · exact .inr (Bool.and_eq_true_iff.2 ⟨small, Bool.or_eq_true_iff.2 (.inr none_)⟩)
  · rintro (enough | met)
    · have small : target * f.type.size ≤ maxAllocation :=
        (Nat.mul_le_mul_right _ (capacity ▸ enough)).trans fits
      refine Bool.and_eq_true_iff.2 ⟨decide_eq_true small, Bool.or_eq_true_iff.2 (.inl ?_)⟩
      refine Bool.or_eq_true_iff.2 (.inr (List.any_eq_true.2 ⟨_, mem, ?_⟩))
      exact Bool.and_eq_true_iff.2 ⟨beq_self_eq_true _, decide_eq_true enough⟩
    · obtain ⟨small, given⟩ := Bool.and_eq_true_iff.1 met
      refine Bool.and_eq_true_iff.2 ⟨small, Bool.or_eq_true_iff.2 ?_⟩
      exact (Bool.or_eq_true_iff.1 given).imp_left fun has => Bool.or_eq_true_iff.2 (.inl has)

theorem all_isMet_memory_iff [Memory] (holds : s.Holds t) (target : Nat) :
    (letI : Memory := s.memory;
      (Record.fields : List (Field ρ)).all fun f => (f.demand target).isMet) = true ↔
      List.Forall₂ (HasRoom target) (Record.fields : List (Field ρ)) s.columns := by
  rw [List.all_eq_true, List.forall₂_iff_zip]
  constructor
  · intro met
    refine ⟨holds.columns.length_eq, fun {f column} mem => ?_⟩
    exact (isMet_memory_iff holds mem).1 (met f (List.of_mem_zip mem).1)
  · rintro ⟨-, room⟩ f mem
    rw [← List.map_fst_zip holds.columns.length_eq.le] at mem
    obtain ⟨⟨f, column⟩, pair, rfl⟩ := List.mem_map.1 mem
    exact (isMet_memory_iff holds pair).2 (room pair)

/-- More room is made in the columns exactly if it is made in the table.  If not, some columns
may have got room that nobody counts. -/
theorem ensureCapacity_of_lt [Memory] (holds : s.Holds t) (more : s.capacity < target) :
    (∃ grown, ensureCapacity target s = .ok () grown ∧ grown.capacity = target ∧
      (letI : Memory := s.memory; t.reserve target) = .ok (.owned target) ∧
        grown.Holds { t with storage := .owned target }) ∨
    ∃ left, ensureCapacity target s = .error (.outOfMemory (Record.label ρ)) left ∧
      (letI : Memory := s.memory; t.reserve target) = .error (.outOfMemory (Record.label ρ)) ∧
        left.Holds t := by
  have short : t.size ≤ s.capacity := holds.size ▸ holds.size_le_capacity
  have reserved := letI : Memory := s.memory
    Table.reserve_of_lt (t := t) holds.isMapped_eq (holds.capacity_eq.trans_lt more)
  by_cases room : List.Forall₂ (HasRoom target) (Record.fields : List (Field ρ)) s.columns
  · rw [if_pos ((all_isMet_memory_iff holds target).2 room)] at reserved
    have each : List.Forall₂ (fun f column => ∃ changed,
        column.reserveTotal f.type.size target (Record.label ρ) f.columnName = .ok changed ∧
          Keeps t target f changed) Record.fields s.columns := by
      obtain ⟨length, keeps⟩ := List.forall₂_iff_zip.1 holds.columns
      refine List.forall₂_iff_zip.2 ⟨length, fun mem => ?_⟩
      exact reserveTotal_of_hasRoom (keeps mem) short ((List.forall₂_iff_zip.1 room).2 mem)
    obtain ⟨columns, run, all⟩ := eachColumn_ok each
    refine .inl ⟨{ s with columns, capacity := target }, ?_, rfl, reserved, ?_, holds.size, rfl,
      holds.owned, holds.size_le_capacity.trans more.le, holds.size_le_maxRows⟩
    · simp only [ensureCapacity, holds.owned, if_neg (Nat.not_le.2 more), run, Bool.false_eq_true,
        if_false]
    · exact all.imp fun f column keeps => keeps.congr rfl
  · rw [if_neg (mt (all_isMet_memory_iff holds target).1 room)] at reserved
    obtain ⟨columns, run, all⟩ := eachColumn_error holds.columns room
      (fun f column keeps room => by
        obtain ⟨changed, made, kept⟩ := reserveTotal_of_hasRoom keeps short room
        exact ⟨changed, made, kept.mono more.le⟩)
      fun f column keeps none_ => reserveTotal_of_not_hasRoom keeps short none_
    refine .inr ⟨{ s with columns }, ?_, reserved, all, holds.size, holds.storage, holds.owned,
      holds.size_le_capacity, holds.size_le_maxRows⟩
    simp only [ensureCapacity, holds.owned, if_neg (Nat.not_le.2 more), run, Bool.false_eq_true,
      if_false]

theorem alike_ensureCapacity [Memory] (holds : s.Holds t) (target : Nat) :
    Edit.Alike Holds (ensureCapacity target s)
      (letI : Memory := s.memory; Table.ensureCapacity target t) := by
  rcases Nat.lt_or_ge s.capacity target with more | there
  · rcases ensureCapacity_of_lt holds more with
      ⟨grown, run, -, reserved, held⟩ | ⟨left, run, reserved, held⟩
    · simp only [run, Table.ensureCapacity, reserved]
      exact .ok held
    · simp only [run, Table.ensureCapacity, reserved]
      exact .error held
  · have reserved := letI : Memory := s.memory
      Table.reserve_of_le (t := t) holds.isMapped_eq (there.trans_eq holds.capacity_eq.symm)
    simp only [ensureCapacity, holds.owned, if_pos there, Bool.false_eq_true, if_false,
      Table.ensureCapacity, reserved]
    exact .ok holds

/-- Room for rows is made in the columns exactly if it is made in the table, and the rows have
numbers then. -/
theorem alike_beginAppend [Memory] (holds : s.Holds t) (count : Nat) :
    (∃ storage grown, (letI : Memory := s.memory; t.roomFor count) = .ok storage ∧
      beginAppend count s = .ok t.size grown ∧ grown.Holds { t with storage } ∧
        t.size + count ≤ grown.capacity ∧ t.size + count ≤ Table.maxRows ρ) ∨
    ∃ e left, (letI : Memory := s.memory; t.roomFor count) = .error e ∧
      beginAppend count s = .error e left ∧ left.Holds t := by
  have owned := holds.isMapped_eq
  by_cases full : Table.maxRows ρ < t.size + count
  · refine .inr ⟨.indexOverflow (Record.label ρ) (Table.maxRows ρ) (t.size + count), s, ?_, ?_,
      holds⟩
    · simp only [Table.roomFor, owned, if_pos full, Bool.false_eq_true, if_false]
    · simp only [beginAppend, holds.owned, holds.size, if_pos full, Bool.false_eq_true, if_false]
  · have room := Nat.not_lt.1 full
    have number : (Record.width ρ).index? t.size = some t.size :=
      Width.index?_eq_some_iff.2 ⟨holds.size ▸ holds.size_le_maxRows, rfl⟩
    by_cases enough : s.capacity < t.size + count
    · have more : s.capacity < min (t.size + count + Record.slack ρ) (Table.maxRows ρ) := by omega
      have roomFor_ : (letI : Memory := s.memory; t.roomFor count) = letI : Memory := s.memory
          t.reserve (min (t.size + count + Record.slack ρ) (Table.maxRows ρ)) := by
        simp only [Table.roomFor, owned, holds.capacity_eq, if_neg full, if_pos enough,
          Bool.false_eq_true, if_false]
      rw [roomFor_]
      rcases ensureCapacity_of_lt holds more with
        ⟨grown, run, capacity, reserved, held⟩ | ⟨left, run, reserved, held⟩
      · refine .inl ⟨_, grown, reserved, ?_, held, by omega, room⟩
        simp only [beginAppend, holds.owned, holds.size, if_neg full, number, if_pos enough, run,
          Bool.false_eq_true, if_false]
      · refine .inr ⟨_, left, reserved, ?_, held⟩
        simp only [beginAppend, holds.owned, holds.size, if_neg full, if_pos enough, run,
          Bool.false_eq_true, if_false]
    · refine .inl ⟨t.storage, s, ?_, ?_, holds, Nat.not_lt.1 enough, room⟩
      · simp only [Table.roomFor, owned, holds.capacity_eq, if_neg full, if_neg enough,
          Bool.false_eq_true, if_false]
      · simp only [beginAppend, holds.owned, holds.size, if_neg full, number, if_neg enough,
          Bool.false_eq_true, if_false]

end

/-! ## Rows -/

theorem push_of_lt (keeps : Keeps t capacity f column) (room : t.size < capacity) (r : ρ) :
    ∃ changed, column.push (f.word r) (Record.label ρ) = .ok changed ∧
      Keeps { t with rows := t.rows.push r } capacity f changed := by
  obtain ⟨most, owned, enough, fits⟩ := keeps.storage
  have size := keeps.size_eq
  refine ⟨⟨column.values ++ #[f.word r], .owned (max most (column.values ++ #[f.word r]).size)⟩,
    ?_, ?_, most, ?_, enough, fits⟩
  · simp only [Column.push, Column.append, owned]
  · rw [Table.column, Array.toList_push, List.map_append, Array.toList_append, keeps.values]
    rfl
  · rw [Array.size_append, Nat.max_eq_left]
    show column.size + 1 ≤ most
    omega

theorem pushRow_of_lt (holds : s.Holds t) (room : t.size < s.capacity)
    (numbered : t.size < Table.maxRows ρ) (r : ρ) :
    ∃ grown, pushRow r s = .ok () grown ∧ grown.capacity = s.capacity ∧
      grown.Holds { t with rows := t.rows.push r } := by
  obtain ⟨columns, run, all⟩ :=
    eachColumn_ok (holds.columns.imp fun f column keeps => push_of_lt keeps room r)
  have size := holds.size
  have added : ({ t with rows := t.rows.push r } : Table ρ).size = t.size + 1 := Array.size_push r
  refine ⟨{ s with columns, size := s.size + 1 }, ?_, rfl, all, ?_, holds.storage, holds.owned,
    ?_, ?_⟩
  · simp only [pushRow, run]
  · rw [added, size]
  · show s.size + 1 ≤ s.capacity
    omega
  · show s.size + 1 ≤ Table.maxRows ρ
    omega

/-- Rows are added one by one. -/
theorem pushRows_of_le {records : List ρ} (holds : s.Holds t)
    (room : t.size + records.length ≤ s.capacity)
    (numbered : t.size + records.length ≤ Table.maxRows ρ) :
    ∃ grown, records.forM pushRow s = .ok () grown ∧
      grown.Holds { t with rows := t.rows ++ records } := by
  induction records generalizing s t with
  | nil =>
    have rows : t.rows ++ ([] : List ρ) = t.rows := by
      apply Array.toList_inj.1
      simp
    refine ⟨s, rfl, ?_⟩
    rwa [rows]
  | cons r records ih =>
    rw [List.length_cons] at room numbered
    obtain ⟨between, first, capacity, held⟩ := pushRow_of_lt holds (by omega) (by omega) r
    have added : ({ t with rows := t.rows.push r } : Table ρ).size = t.size + 1 :=
      Array.size_push r
    obtain ⟨grown, rest, held⟩ := ih held (by omega) (by omega)
    refine ⟨grown, ?_, ?_⟩
    · rw [List.forM]
      exact Edit.bind_eq_ok.2 ⟨(), between, first, rest⟩
    · have rows : t.rows.push r ++ records = t.rows ++ (r :: records) := by
        apply Array.toList_inj.1
        simp
      rwa [rows] at held

/-- Rows are added to the columns as to the table if their texts go to the pool alike. -/
theorem alike_add_of_intern [Memory] [LawfulRecord ρ] [Draft δ ρ] (holds : s.Holds t)
    (texts : ∀ d : δ, (letI : Memory := s.memory; Draft.intern d : Edit Pool ρ) = Draft.intern d)
    (pool : Pool) (drafts : List δ) :
    Edit.Alike (fun left right => left.1.Holds right.1 ∧ left.2 = right.2)
      (add drafts (s, pool)) (letI : Memory := s.memory; Table.add drafts (t, pool)) := by
  rcases alike_beginAppend holds drafts.length with
    ⟨storage, reserved, made, run, held, room, numbered⟩ | ⟨e, left, stuck, run, held⟩
  · have same : (letI : Memory := s.memory; drafts.mapM Draft.intern : Edit Pool (List ρ)) =
        drafts.mapM Draft.intern := congrArg drafts.mapM (funext texts)
    cases interned : (drafts.mapM Draft.intern : Edit Pool (List ρ)) pool with
    | error e filled =>
      simp only [add, Table.add, same, made, run, interned]
      exact .error ⟨held, rfl⟩
    | ok records filled =>
      rw [← Edit.length_of_mapM interned] at room numbered
      obtain ⟨grown, pushed, held⟩ := pushRows_of_le held room numbered
      simp only [add, Table.add, same, made, run, interned, pushed]
      exact .ok ⟨held, rfl⟩
  · simp only [add, Table.add, stuck, run]
    exact .error ⟨held, rfl⟩

theorem alike_reset (holds : s.Holds t) : Edit.Alike Holds (reset s) (Table.reset t) := by
  have owned := holds.isMapped_eq
  simp only [reset, Table.reset, holds.owned, owned, Bool.false_eq_true, if_false]
  exact .ok holds_new

end

/-- Rows of an entity are added to the columns as to the table. -/
theorem alike_add [Memory] {e : Entity} {s : Columnar e.Row} {t : Table e.Row} (holds : s.Holds t)
    (pool : Pool) (rows : List e.NewRow) :
    Edit.Alike (fun left right => left.1.Holds right.1 ∧ left.2 = right.2)
      (add rows (s, pool)) (letI : Memory := s.memory; Table.add rows (t, pool)) :=
  alike_add_of_intern holds (e.intern_congr s.memory_texts) pool rows

end Columnar

end TransitStore
