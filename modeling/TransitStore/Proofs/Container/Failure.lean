import Mathlib
import TransitStore.Proofs.Table.Columnar

/-!
# Operations that fail

A batch of rows can fail before any of its texts goes to the pool, since its table
has no room, or while its texts go there, since the pool has none
(`Table.add_fails`).  The two are told apart by what the failure names
(`Error.BeforeTexts`).  No row has been added in either case, so a failure leaves a
container as it was, up to texts at the end of the pool that nothing refers to
(`Attained.unharmed_of_error`).

Memory may run out at any demand for it.  A table may then have got room for some of its
columns and not for the others, but no column has other elements than before
(`Columnar.Unharmed`).
-/

namespace TransitStore

namespace Edit

variable {σ α β : Type} {inv : σ → Prop} {kind : Error → Prop} {x : Edit σ α} {f : α → Edit σ β}

/-- From states with a property an edit fails in one kind of ways only. -/
def FailsAs (inv : σ → Prop) (kind : Error → Prop) (x : Edit σ α) : Prop :=
  ∀ s t e, inv s → x s = .error e t → kind e

theorem FailsAs.pure (a : α) : FailsAs inv kind (pure a : Edit σ α) := fun _ _ _ _ h => by cases h

theorem FailsAs.bind (hx : FailsAs inv kind x) (keeps : Keeps inv x)
    (hf : ∀ a, FailsAs inv kind (f a)) : FailsAs inv kind (x >>= f) := by
  intro s t e holds h
  rcases bind_eq_error.1 h with first | ⟨a, r, first, rest⟩
  · exact hx s t e holds first
  · have between := keeps s holds
    rw [after_of_ok first] at between
    exact hf a r t e between rest

theorem FailsAs.map (g : α → β) (hx : FailsAs inv kind x) : FailsAs inv kind (g <$> x) :=
  fun s t e holds h => hx s t e holds (map_eq_error.1 h)

theorem FailsAs.mapM {l : List α} (each : ∀ a, FailsAs inv kind (f a))
    (keeps : ∀ a, Keeps inv (f a)) : FailsAs inv kind (l.mapM f) := by
  induction l with
  | nil => exact .pure []
  | cons a l ih =>
    rw [List.mapM_cons]
    refine (each a).bind (keeps a) fun b => ?_
    exact ih.bind (.mapM fun a _ => keeps a) fun bs => .pure (b :: bs)

end Edit

/-! ## Kinds of failures -/

/-- The failures of a pool that has no room for a text. -/
inductive Error.OfTexts : Error → Prop where
  | overflow (max requested : Nat) : OfTexts (.indexOverflow Pool.label max requested)
  | memory : OfTexts (.outOfMemory Pool.label)

/-- The failures that come before any text goes to the pool: something may not be
written to, or a table has no room for more rows. -/
inductive Error.BeforeTexts : Error → Prop where
  | denied (what : String) : BeforeTexts (.denied what)
  | overflow (e : Entity) (max requested : Nat) :
    BeforeTexts (.indexOverflow (Record.label e.Row) max requested)
  | memory (e : Entity) : BeforeTexts (.outOfMemory (Record.label e.Row))

theorem Entity.label_ne (e : Entity) : Record.label e.Row ≠ Pool.label := by
  cases e <;> decide

theorem Error.OfTexts.not_beforeTexts {err : Error} (texts : err.OfTexts) : ¬err.BeforeTexts := by
  intro before
  generalize same : err = other at before
  cases before with
  | denied what => cases texts <;> cases same
  | overflow e max requested =>
    cases texts with
    | overflow => exact e.label_ne (Error.indexOverflow.inj same).1.symm
    | memory => cases same
  | memory e =>
    cases texts with
    | overflow => cases same
    | memory => exact e.label_ne (Error.outOfMemory.inj same).symm

theorem Pool.failsAs_intern [Memory] (s : String) :
    Edit.FailsAs (fun pool => pool.isMapped = false) Error.OfTexts (intern s) := by
  intro pool left e owned h
  have room := (append_eq_error h).2
  simp only [roomFor, owned, Bool.false_eq_true, if_false] at room
  split at room
  · cases room
    exact .overflow _ _
  · split at room
    · obtain ⟨⟨values, storage⟩⟩ := pool
      cases storage with
      | mapped => cases owned
      | owned capacity =>
        simp only [Storage.reserve] at room
        split at room
        · cases room
        · split at room
          · cases room
          · cases room
            exact .memory
    · cases room

theorem Entity.failsAs_intern [Memory] (e : Entity) (d : e.NewRow) :
    Edit.FailsAs (fun pool => pool.isMapped = false) Error.OfTexts
      (Draft.intern d : Edit Pool e.Row) := by
  rw [intern_eq]
  exact (Edit.FailsAs.mapM Pool.failsAs_intern (Pool.keeps_isMapped_intern false)).map _

/-! ## What a failure leaves -/

/-- Rows that are not added leave the pool too, unless the failure is one of the pool. -/
theorem Table.pool_eq_of_add_error [Memory] {e : Entity} {t left : Table e.Row}
    {pool filled : Pool} {rows : List e.NewRow} {err : Error} (owned : pool.isMapped = false)
    (h : Table.add rows (t, pool) = .error err (left, filled)) (before : err.BeforeTexts) :
    filled = pool := by
  rcases (Table.add_fails h).2 with ⟨-, same⟩ | run
  · exact same
  · have texts : err.OfTexts :=
      Edit.FailsAs.mapM e.failsAs_intern (e.keeps_isMapped_intern false) _ _ _ owned run
    exact absurd before texts.not_beforeTexts

namespace Columnar

/-- A columnar table has the elements of another one and counts as many rows.  Its columns
may have other room. -/
structure Unharmed {ρ : Type} (s left : Columnar ρ) : Prop where
  values : left.columns.map (·.values.toList) = s.columns.map (·.values.toList)
  size : left.size = s.size
  isMapped : left.isMapped = s.isMapped

variable {e : Entity} {s left : Columnar e.Row} {t : Table e.Row} {pool filled : Pool}
  {rows : List e.NewRow} {err : Error}

/-- Columns that hold the same rows have the same elements. -/
theorem Holds.unharmed {t' : Table e.Row} (holds : s.Holds t) (held : left.Holds t')
    (same : t'.rows = t.rows) : s.Unharmed left where
  values := by
    have columns : t'.column = t.column := by
      funext f
      rw [Table.column, Table.column, same]
    rw [holds.values_eq, held.values_eq, columns]
  size := by rw [holds.size, held.size, Table.size, Table.size, same]
  isMapped := by rw [holds.owned, held.owned]

theorem add_of_mapped [Memory] (mapped : s.isMapped = true) :
    add rows (s, pool) = .error (.denied (Record.label e.Row)) (s, pool) := by
  simp only [add, beginAppend, mapped, if_true]

/-- Rows are not added to columns where they are not added to the table. -/
theorem Holds.exists_of_add_error [Memory] (holds : s.Holds t)
    (h : add rows (s, pool) = .error err (left, filled)) :
    ∃ t', (letI : Memory := s.memory; Table.add rows (t, pool)) = .error err (t', filled) ∧
      left.Holds t' := by
  have alike := alike_add holds pool rows
  generalize (letI : Memory := s.memory; Table.add rows (t, pool)) = result at alike ⊢
  rw [h] at alike
  cases alike with
  | @error _ _ after held =>
    obtain ⟨t', _⟩ := after
    obtain ⟨held, rfl⟩ := held
    exact ⟨t', rfl, held⟩

end Columnar

namespace Container

variable {c c' : Container}

/-- A container has the numbers, the records and the stop index of another, belongs to the
same snapshot if to any, and has its texts, and perhaps more behind them. -/
structure Unharmed (c c' : Container) : Prop where
  /-- The numbers outside the tables are the same. -/
  metadata : c'.metadata = c.metadata
  /-- The contents live in the same place. -/
  backing : c'.backing = c.backing
  /-- The records of each table are the same. -/
  rows : ∀ e : Entity, e.rows c' = e.rows c
  /-- The stop index is the same. -/
  stopIndex : c'.stopIndex = c.stopIndex
  /-- The bytes of the pool are still there. -/
  pool : c.pool.Prefix c'.pool

theorem Unharmed.refl (c : Container) : Unharmed c c :=
  ⟨rfl, rfl, fun _ => rfl, rfl, .refl c.pool⟩

theorem unharmed_put {e : Entity} {left : Table e.Row} {filled : Pool}
    (rows : left.rows = e.rows c) (more : c.pool.Prefix filled) :
    Unharmed c (e.put { c with pool := filled } left) where
  metadata := Entity.put_metadata ..
  backing := Entity.put_backing ..
  rows := Entity.rows_put_of_rows rows filled
  stopIndex := Entity.put_stopIndex ..
  pool := by rwa [Entity.put_pool]

theorem Uniform.add_fails [Memory] (uniform : Uniform c) {e : Entity} {rows : List e.NewRow}
    {err : Error} (h : (Container.add rows : Edit Container Nat) c = .error err c') :
    Unharmed c c' ∧ (err.BeforeTexts → c'.pool.bytes.values = c.pool.bytes.values) := by
  cases mapped : c.isMapped with
  | true =>
    have denied : (Container.add rows : Edit Container Nat) c = _ :=
      add_of_mapped ((uniform.tables e).trans mapped)
    rw [h] at denied
    cases denied
    exact ⟨.refl c, fun _ => rfl⟩
  | false =>
    obtain ⟨left, filled, run, rfl⟩ := Entity.exists_of_add_error h
    obtain ⟨same, more⟩ := Entity.addRows_eq_error run
    refine ⟨unharmed_put same more, fun before => ?_⟩
    rw [Entity.put_pool]
    exact congrArg (·.bytes.values)
      (Table.pool_eq_of_add_error (uniform.pool.trans mapped) run before)

/-- An operation other than an addition leaves the container as it was where it fails. -/
theorem Uniform.eq_of_fails [Memory] (uniform : Uniform c) {op : Operation} {err : Error}
    (other : ∀ e rows, op ≠ .add e rows) (h : op.edit c = .error err c') : c' = c := by
  cases op with
  | add e rows => exact absurd rfl (other e rows)
  | setCalendar start days => exact setCalendar_eq_error h
  | setTimezone name utcOffset => exact setTimezone_eq_error h
  | buildStopIndex => exact buildStopIndex_eq_error h
  | reset =>
    cases mapped : c.isMapped with
    | true =>
      have denied := uniform.denied mapped .reset
      rw [h] at denied
      cases denied
      rfl
    | false =>
      have emptied : Operation.reset.edit c = _ := uniform.reset_eq mapped
      rw [h] at emptied
      cases emptied

theorem Uniform.unharmed [Memory] (uniform : Uniform c) {op : Operation} {err : Error}
    (h : op.edit c = .error err c') :
    Unharmed c c' ∧ (err.BeforeTexts → c'.pool.bytes.values = c.pool.bytes.values) := by
  by_cases addition : ∃ e rows, op = .add e rows
  · obtain ⟨e, rows, rfl⟩ := addition
    exact uniform.add_fails (Edit.map_eq_error.1 h)
  · have same := uniform.eq_of_fails (fun e rows same => addition ⟨e, rows, same⟩) h
    subst same
    exact ⟨.refl c', fun _ => rfl⟩

/-- The records of an entity are kept in a columnar table, one that grows or one of a
snapshot. -/
inductive KeptIn (e : Entity) (c : Container) (s : Columnar e.Row) : Prop
  | owned : s.Holds (e.table c) → KeptIn e c s
  | mapped : s.isMapped = true → (e.table c).isMapped = true → s.size = (e.table c).size →
    s.columns.map (·.values.toList) = Record.fields.map (e.table c).column → KeptIn e c s

/-- Rows that are not added leave all elements of the columns, whether none or some of these have
got room for them.  The columns keep the records of the container that is left. -/
theorem Attained.columns_unharmed [Memory] (attained : Attained c) {e : Entity}
    {s left : Columnar e.Row} {rows : List e.NewRow} {err : Error} {filled : Pool}
    (kept : KeptIn e c s) (h : Columnar.add rows (s, c.pool) = .error err (left, filled)) :
    s.Unharmed left ∧ (err.BeforeTexts → filled = c.pool) ∧
      ∃ c', Attained c' ∧ Unharmed c c' ∧ KeptIn e c' left ∧ c'.pool = filled ∧
        ∀ other, other ≠ e → other.table c' = other.table c := by
  have uniform := attained.uniform
  cases kept with
  | mapped mapped =>
    rw [Columnar.add_of_mapped mapped] at h
    cases h
    exact ⟨⟨rfl, rfl, rfl⟩, fun _ => rfl, c, attained, .refl c, .mapped mapped ‹_› ‹_› ‹_›, rfl,
      fun _ _ => rfl⟩
  | owned holds =>
    obtain ⟨t, run, held⟩ := holds.exists_of_add_error h
    let : Memory := s.memory
    have failed : (Operation.add e rows).edit c = .error err (e.put { c with pool := filled } t) :=
      Edit.map_eq_error.2 (Entity.onTable_of_error run)
    have owned : c.pool.isMapped = false :=
      uniform.pool.trans ((uniform.tables e).symm.trans holds.isMapped_eq)
    have next := attained.edited (.add e rows)
    rw [Operation.apply, Edit.after_of_error failed] at next
    refine ⟨holds.unharmed held (Entity.addRows_eq_error run).1,
      Table.pool_eq_of_add_error owned run, _, next, (uniform.unharmed failed).1, .owned ?_, ?_, ?_⟩
    · rwa [Entity.table_put]
    · rw [Entity.put_pool]
    · intro other ne
      rw [Entity.table_put_of_ne ne, Entity.table_withPool]

/-- Whatever led to a container, an operation that fails leaves its numbers, its records,
its stop index and its texts, and at most has put texts behind these.  It has not if
the failure comes before any text goes to the pool, and operations other than
additions leave the whole container as it was.  So does a file that cannot be put in
place of the container.  In the columns that a table is kept in no element is another one
either, even where some columns have got room before there was none for the next, and
they go on to keep the records. -/
theorem Attained.unharmed_of_error (attained : Attained c) :
    (∀ [Memory] (op : Operation) (err : Error) (c' : Container), op.edit c = .error err c' →
      Unharmed c c' ∧
      (err.BeforeTexts → c'.pool.bytes.values = c.pool.bytes.values) ∧
      ((∀ e rows, op ≠ .add e rows) → c' = c)) ∧
    (∀ [Memory] (e : Entity) (s left : Columnar e.Row) (rows : List e.NewRow) (err : Error)
        (filled : Pool), KeptIn e c s →
      Columnar.add rows (s, c.pool) = .error err (left, filled) →
      s.Unharmed left ∧ (err.BeforeTexts → filled = c.pool) ∧
        ∃ c', Attained c' ∧ Unharmed c c' ∧ KeptIn e c' left ∧ c'.pool = filled ∧
          ∀ other, other ≠ e → other.table c' = other.table c) ∧
    ∀ (path : String) (files files' : Directory) (err : Error) (c' : Container),
      bindFile (m := StateM Directory) c path files = ((.error err, c'), files') → c' = c := by
  have uniform := attained.uniform
  refine ⟨?operations, fun e s left rows err filled => attained.columns_unharmed, ?files⟩
  case operations =>
    intro _ op err c' h
    obtain ⟨unharmed, texts⟩ := uniform.unharmed h
    exact ⟨unharmed, texts, fun other => uniform.eq_of_fails other h⟩
  case files =>
    intro path files files' err c' h
    rw [bindFile_run] at h
    split at h
    · cases h
    · cases h
      rfl

/-- So many operators of one name. -/
def crowd (count : Nat) : List Operator.Draft := List.replicate count ⟨"B", "", "Other"⟩

/-- The columns of a table with one operator, which has room for four more. -/
def agencyColumns : Columnar Operator :=
  ⟨[⟨#[0], .owned 5⟩, ⟨#[2], .owned 5⟩, ⟨#[8], .owned 5⟩], 1, 5, false⟩

/-- The memory that has nothing to give for addresses of operators. -/
@[reducible] def withoutUrls : Memory := ⟨fun d => d.column != "OperatorUrls"⟩

theorem holds_agencyColumns : agencyColumns.Holds (Entity.operator.table Snapshot.zoned) where
  columns := by
    have room : 5 * 4 ≤ maxAllocation := by decide
    refine .cons ⟨rfl, 5, rfl, Nat.le_refl 5, room⟩ (.cons ⟨rfl, 5, rfl, Nat.le_refl 5, room⟩ ?_)
    exact .cons ⟨rfl, 5, rfl, Nat.le_refl 5, room⟩ .nil
  size := rfl
  storage := rfl
  owned := rfl
  size_le_capacity := by decide
  size_le_maxRows := by decide

/-- A container with an operator and a time zone has no numbers for 255 more operators.  For
five more there is only memory in the first of the columns.  And there is no file to put in
place of the container. -/
theorem unharmed_crowded :
    (∃ c', (Operation.add .operator (crowd 255)).edit Snapshot.zoned =
        .error (.indexOverflow "operators" 255 256) c' ∧
      Unharmed Snapshot.zoned c' ∧
      c'.pool.bytes.values = Snapshot.zoned.pool.bytes.values) ∧
    (∃ left filled, (letI : Memory := withoutUrls
        Columnar.add (crowd 5) (agencyColumns, Snapshot.zoned.pool)) =
          .error (.outOfMemory "operators") (left, filled) ∧
      agencyColumns.Unharmed left ∧ filled = Snapshot.zoned.pool ∧
      agencyColumns.columns.map (·.capacity) = [5, 5, 5] ∧
      left.columns.map (·.capacity) = [10, 5, 5]) ∧
    ∃ c', bindFile (m := StateM Directory) Snapshot.zoned "t" {} =
        ((.error (.notFound "t"), c'), {}) ∧
      c' = Snapshot.zoned := by
  have attained : Attained Snapshot.zoned := .edited _ (.edited _ .new)
  obtain ⟨operations, columns, files⟩ := attained.unharmed_of_error
  have full : Table.add (crowd 255) (Entity.operator.table Snapshot.zoned, Snapshot.zoned.pool) =
      .error (.indexOverflow "operators" 255 256)
        (Entity.operator.table Snapshot.zoned, Snapshot.zoned.pool) := by
    have length : (crowd 255).length = 255 := List.length_replicate
    simp only [Table.add, length]
    rfl
  have failed : (Operation.add .operator (crowd 255)).edit Snapshot.zoned =
      .error (.indexOverflow "operators" 255 256)
        (Entity.operator.put Snapshot.zoned (Entity.operator.table Snapshot.zoned)) :=
    Edit.map_eq_error.2 (Entity.onTable_of_error full)
  have refused : (letI : Memory := withoutUrls
      Columnar.add (crowd 5) (agencyColumns, Snapshot.zoned.pool)) =
        .error (.outOfMemory "operators") (⟨[⟨#[0], .owned 10⟩, ⟨#[2], .owned 5⟩,
          ⟨#[8], .owned 5⟩], 1, 5, false⟩, Snapshot.zoned.pool) := by
    rfl
  have missing : bindFile (m := StateM Directory) Snapshot.zoned "t" {} =
      ((.error (.notFound "t"), Snapshot.zoned), {}) := by
    cbv
  obtain ⟨unharmed, texts, -⟩ := operations _ _ _ failed
  obtain ⟨same, bytes, -⟩ := let : Memory := withoutUrls
    columns .operator _ _ _ _ _ (.owned holds_agencyColumns) refused
  exact ⟨⟨_, failed, unharmed, texts (.overflow .operator 255 256)⟩,
    ⟨_, _, refused, same, bytes (.memory .operator), rfl, rfl⟩,
    ⟨_, missing, files _ _ _ _ _ missing⟩⟩

end Container

end TransitStore
