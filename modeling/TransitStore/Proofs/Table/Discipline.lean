import Mathlib
import TransitStore.Proofs.Table.Columnar

/-!
# The discipline of tables

The tables of all entities are edited alike: rows are added, room is made, and all rows
are taken away, and each of these may fail.  However a table was edited, it has no more
rows than it has numbers and room for, and the columns that it is kept in have one length.
So a batch of rows is added unless there are not enough numbers for it, and then nothing
is changed (`disciplined`).
-/

namespace TransitStore

/-! ## Edits -/

/-- An edit of a table.  Rows come with the pool that their texts go to, which texts of
other tables may have gone to meanwhile. -/
inductive TableEdit (e : Entity) where
  | add (rows : List e.NewRow) (pool : Pool)
  | ensureCapacity (target : Nat)
  | reset

namespace TableEdit

variable {e : Entity} {t : Table e.Row} {s : Columnar e.Row}

/-- The table behind an edit, whether it fails or not. -/
def onTable (t : Table e.Row) : TableEdit e → Table e.Row
  | add rows pool => ((Table.add rows).after (t, pool)).1
  | ensureCapacity target => (Table.ensureCapacity target).after t
  | reset => Table.reset.after t

/-- The columns behind an edit, whether it fails or not. -/
def onColumns (s : Columnar e.Row) : TableEdit e → Columnar e.Row
  | add rows pool => ((Columnar.add rows).after (s, pool)).1
  | ensureCapacity target => (Columnar.ensureCapacity target).after s
  | reset => Columnar.reset.after s

/-- The table behind edits of a new one. -/
def table (edits : List (TableEdit e)) : Table e.Row := edits.foldl onTable {}

/-- The columns behind edits of new ones. -/
def columns (edits : List (TableEdit e)) : Columnar e.Row := edits.foldl onColumns .new

theorem holds_edit (holds : s.Holds t) (edit : TableEdit e) :
    (edit.onColumns s).Holds (edit.onTable t) := by
  cases edit with
  | add rows pool => exact (Columnar.alike_add holds pool rows).after.1
  | ensureCapacity target => exact (Columnar.alike_ensureCapacity holds target).after
  | reset => exact (Columnar.alike_reset holds).after

theorem holds_foldl (holds : s.Holds t) (edits : List (TableEdit e)) :
    (edits.foldl onColumns s).Holds (edits.foldl onTable t) := by
  induction edits generalizing s t with
  | nil => exact holds
  | cons edit edits ih => exact ih (holds_edit holds edit)

theorem holds_edits (edits : List (TableEdit e)) : (columns edits).Holds (table edits) :=
  holds_foldl Columnar.holds_new edits

end TableEdit

/-! ## What edits do -/

namespace Table

variable {e : Entity} {t : Table e.Row} {pool : Pool} {rows : List e.NewRow}

/-- What becomes of rows that are added to a table. -/
structure TakesRows (t : Table e.Row) (pool : Pool) (rows : List e.NewRow) : Prop where
  /-- A batch with a row that has no number is not added, and nothing is changed. -/
  overflow : e.maxRows < t.size + rows.length →
    Table.add rows (t, pool) = .error (.indexOverflow (Record.label e.Row) e.maxRows
      (t.size + rows.length)) (t, pool)
  /-- Numbers only run out there if the pool has room for the texts. -/
  overflow_iff : pool.HasRoom (rows.flatMap e.texts) →
    ((∃ what most requested left, Table.add rows (t, pool) =
      .error (.indexOverflow what most requested) left) ↔ e.maxRows < t.size + rows.length)
  /-- Every other batch is added. -/
  ok : pool.HasRoom (rows.flatMap e.texts) → t.size + rows.length ≤ e.maxRows →
    ∃ grown filled, Table.add rows (t, pool) = .ok t.size (grown, filled) ∧
      t.GrowsBy rows grown filled

/-- What becomes of a table that room is made in. -/
structure MakesRoom (t : Table e.Row) (target : Nat) : Prop where
  ok : ∀ grown, Table.ensureCapacity target t = .ok () grown →
    grown.rows = t.rows ∧ grown.capacity = max t.capacity target
  error : ∀ err left, Table.ensureCapacity target t = .error err left → left = t
  /-- There is room, unless a column would have too many bytes. -/
  ok_iff : (∃ grown, Table.ensureCapacity target t = .ok () grown) ↔
    target ≤ t.capacity ∨
      ∀ f ∈ (Record.fields : List (Field e.Row)), target * f.type.size ≤ maxAllocation

theorem add_of_overflow (owned : t.isMapped = false) (full : e.maxRows < t.size + rows.length) :
    Table.add rows (t, pool) = .error (.indexOverflow (Record.label e.Row) e.maxRows
      (t.size + rows.length)) (t, pool) := by
  have stuck : t.roomFor rows.length =
      .error (.indexOverflow (Record.label e.Row) e.maxRows (t.size + rows.length)) := by
    rw [Entity.maxRows] at full ⊢
    simp only [roomFor, owned, if_pos full, Bool.false_eq_true, if_false]
  simp only [Table.add, stuck]

theorem takesRows (owned : t.isMapped = false) (pool : Pool) (rows : List e.NewRow) :
    TakesRows t pool rows := by
  refine ⟨add_of_overflow owned, fun room => ⟨?_, fun full => ?_⟩, exists_add_of_le owned⟩
  · rintro ⟨what, most, requested, left, fails⟩
    by_contra numbered
    obtain ⟨grown, filled, run, -⟩ := exists_add_of_le owned room (Nat.not_lt.1 numbered)
    rw [run] at fails
    cases fails
  · exact ⟨_, _, _, _, add_of_overflow owned full⟩

theorem makesRoom (owned : t.isMapped = false) (target : Nat) : MakesRoom t target := by
  rcases ensureCapacity_cases owned target with
    ⟨there, run⟩ | ⟨more, ⟨f, mem, large⟩, run⟩ | ⟨more, small, run⟩
  · refine ⟨?_, ?_, fun _ => .inl there, fun _ => ⟨t, run⟩⟩
    · intro grown ok
      rw [run] at ok
      cases ok
      exact ⟨rfl, (Nat.max_eq_left there).symm⟩
    · intro err left fails
      rw [run] at fails
      cases fails
  · refine ⟨?_, ?_, ?_, ?_⟩
    · intro grown ok
      rw [run] at ok
      cases ok
    · intro err left fails
      rw [run] at fails
      cases fails
      rfl
    · rintro ⟨grown, ok⟩
      rw [run] at ok
      cases ok
    · rintro (there | small)
      · exact absurd there (Nat.not_le.2 more)
      · exact absurd (small f mem) (Nat.not_le.2 large)
  · refine ⟨?_, ?_, fun _ => .inr small, fun _ => ⟨_, run⟩⟩
    · intro grown ok
      rw [run] at ok
      cases ok
      exact ⟨rfl, (Nat.max_eq_right more.le).symm⟩
    · intro err left fails
      rw [run] at fails
      cases fails

end Table

/-! ## The discipline -/

/-- A table and its columns are in order, and the next edit does to them what it should. -/
structure Disciplined (e : Entity) (t : Table e.Row) (s : Columnar e.Row) : Prop where
  /-- The columns have the fields of all rows. -/
  holds : s.Holds t
  /-- All columns have an element for each row. -/
  length : ∀ column ∈ s.columns, column.size = t.size
  /-- There are numbers for all rows. -/
  size_le_maxRows : t.size ≤ e.maxRows
  /-- There is room for all rows. -/
  size_le_capacity : t.size ≤ t.capacity
  takesRows : ∀ (pool : Pool) (rows : List e.NewRow), t.TakesRows pool rows
  makesRoom : ∀ target : Nat, t.MakesRoom target
  /-- Emptied, they are new ones. -/
  reset : Table.reset t = .ok () {} ∧ Columnar.reset s = .ok () .new
  /-- The columns take rows as the table does. -/
  alike_add : ∀ (pool : Pool) (rows : List e.NewRow),
    Edit.Alike (fun left right => left.1.Holds right.1 ∧ left.2 = right.2)
      (Columnar.add rows (s, pool)) (Table.add rows (t, pool))
  /-- Room is made in the columns as in the table. -/
  alike_ensureCapacity : ∀ target : Nat,
    Edit.Alike Columnar.Holds (Columnar.ensureCapacity target s) (Table.ensureCapacity target t)

/-- The table of every entity is in order however it was edited. -/
theorem disciplined (e : Entity) (edits : List (TableEdit e)) :
    Disciplined e (TableEdit.table edits) (TableEdit.columns edits) := by
  have holds := TableEdit.holds_edits edits
  have owned := holds.isMapped_eq
  refine ⟨holds, ?_, ?_, ?_, Table.takesRows owned, Table.makesRoom owned, ?_,
    Columnar.alike_add holds, Columnar.alike_ensureCapacity holds⟩
  · intro column mem
    rw [holds.length_eq column mem, holds.size]
  · exact holds.size ▸ holds.size_le_maxRows
  · rw [holds.capacity_eq, ← holds.size]
    exact holds.size_le_capacity
  · constructor
    · simp only [Table.reset, owned, Bool.false_eq_true, if_false]
    · simp only [Columnar.reset, holds.owned, Bool.false_eq_true, if_false]

/-- A table of 255 kinds of vehicles is full.  It takes a batch without rows, and none with
one. -/
theorem disciplined_full : ∃ t : Table Entity.physicalMode.Row, t.size = 255 ∧ t.capacity = 255 ∧
    (∃ left, Table.add ([] : List Entity.physicalMode.NewRow) (t, {}) = .ok 255 left) ∧
    Table.add ([(⟨"U", "Metro"⟩ : PhysicalMode.Draft)] : List Entity.physicalMode.NewRow) (t, {}) =
      .error (.indexOverflow "physical modes" 255 256) (t, {}) := by
  let rows : List Entity.physicalMode.NewRow :=
    List.replicate 255 (⟨"S", "Train"⟩ : PhysicalMode.Draft)
  have room : ({} : Pool).HasRoom (rows.flatMap Entity.physicalMode.texts) := by
    decide +kernel
  obtain ⟨grown, filled, run, grows⟩ :=
    ((disciplined .physicalMode []).takesRows {} rows).ok room (by decide +kernel)
  have table : TableEdit.table [.add rows {}] = grown := congrArg Prod.fst (Edit.after_of_ok run)
  have full : grown.size = 255 := grows.size.trans (by decide +kernel)
  have next := (disciplined .physicalMode [.add rows {}]).takesRows {}
  rw [table] at next
  obtain ⟨same, pool, none_, -⟩ := (next []).ok (by decide +kernel) (by rw [full]; decide)
  have one := (next [(⟨"U", "Metro"⟩ : PhysicalMode.Draft)]).overflow (by rw [full]; decide)
  rw [full] at none_ one
  exact ⟨grown, full, grows.capacity.trans (by decide +kernel), ⟨_, none_⟩, one⟩

end TransitStore
