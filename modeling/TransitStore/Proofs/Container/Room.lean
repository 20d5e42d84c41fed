import Mathlib
import TransitStore.Proofs.Container.Ownership
import TransitStore.Proofs.Room

/-!
# Room in a container

A table is full when its rows use up its row numbers, and the pool when its bytes use up
its places.  Ample memory runs out for neither before that, so rows are added to an owned
container exactly if their table has room for them and the pool for their texts
(`takes_add`).
-/

namespace TransitStore

open Limited

/-! ## Texts -/

/-- The bytes of some texts in a pool, each with the zero byte behind it. -/
def textBytes (texts : List String) : Nat := (texts.map fun s => s.utf8ByteSize + 1).sum

@[simp] theorem textBytes_nil : textBytes [] = 0 := rfl

theorem sum_map_flatMap {α β M : Type} [AddMonoid M] (f : α → List β) (g : β → M) (l : List α) :
    ((l.flatMap f).map g).sum = (l.map fun a => ((f a).map g).sum).sum := by
  rw [List.map_flatMap, List.flatMap_def, List.sum_flatten, List.map_map]
  rfl

theorem textBytes_append (texts more : List String) :
    textBytes (texts ++ more) = textBytes texts + textBytes more := by
  rw [textBytes, List.map_append, List.sum_append, textBytes, textBytes]

theorem textBytes_flatMap {α : Type} (f : α → List String) (l : List α) :
    textBytes (l.flatMap f) = (l.map fun a => textBytes (f a)).sum :=
  sum_map_flatMap f _ l

theorem textBytes_replicate (n : Nat) (s : String) :
    textBytes (List.replicate n s) = n * (s.utf8ByteSize + 1) := by
  rw [textBytes, List.map_replicate, List.sum_replicate, smul_eq_mul]

theorem textBytes_perm {texts other : List String} (perm : texts.Perm other) :
    textBytes texts = textBytes other :=
  (perm.map _).sum_eq

namespace Pool

variable {pool grown : Pool} {place : UInt32} {s : String}

theorem size_of_intern (h : intern s pool = .ok place grown) :
    grown.size = pool.size + (s.utf8ByteSize + 1) := by
  obtain ⟨-, values⟩ := append_eq_ok h
  rw [Pool.size, Column.size, values, Array.size_append, Array.size_push]
  rfl

/-- A pool has storage for all bytes that it has places for. -/
theorem exists_append {more : Array UInt8} (owned : pool.isMapped = false)
    (room : pool.size + more.size ≤ maxSize) :
    ∃ place grown, append more pool = .ok place grown := by
  have small : (pool.size + more.size + slack) * 1 ≤ maxAllocation := by
    have most : maxSize = 4294967295 := rfl
    have allocation : maxAllocation = 9223372036854775807 := rfl
    have slack_ : slack = 16 := rfl
    omega
  have storage : ∃ storage, pool.roomFor more.size = .ok storage := by
    simp only [roomFor, owned, if_neg (Nat.not_lt.2 room), Bool.false_eq_true, if_false]
    split
    · obtain ⟨⟨values, kind⟩⟩ := pool
      cases kind with
      | mapped => cases owned
      | owned capacity =>
        simp only [Storage.reserve, Demand.isMet_ample, Demand.bytes, small, decide_true, if_true]
        split
        · exact ⟨_, rfl⟩
        · exact ⟨_, rfl⟩
    · exact ⟨_, rfl⟩
  obtain ⟨storage, made⟩ := storage
  refine ⟨UInt32.ofNat pool.size, ⟨⟨pool.bytes.values ++ more, storage⟩⟩, ?_⟩
  simp only [append, made]

theorem exists_intern (owned : pool.isMapped = false)
    (room : pool.size + (s.utf8ByteSize + 1) ≤ maxSize) :
    ∃ place grown, intern s pool = .ok place grown := by
  have bytes : (s.toUTF8.data.push 0).size = s.utf8ByteSize + 1 := Array.size_push 0
  exact exists_append owned (by rwa [bytes])

instance : Limited Pool Nat where
  Ready pool := pool.isMapped = false ∧ pool.size ≤ maxSize
  extent := size
  limit := maxSize
  extent_le _ ready := ready.2

/-- A pool has places for the bytes of some texts. -/
def HasRoom (pool : Pool) (texts : List String) : Prop :=
  pool.isMapped = false ∧ pool.size + textBytes texts ≤ maxSize

instance (pool : Pool) (texts : List String) : Decidable (pool.HasRoom texts) :=
  inferInstanceAs (Decidable (_ ∧ _))

theorem takes_intern (s : String) :
    Takes True (s.utf8ByteSize + 1) (fun _ => True) (intern s) where
  of_ok pool place grown ready ok := by
    have owned := keeps_isMapped_intern false s pool ready.1
    rw [Edit.after_of_ok ok] at owned
    exact ⟨trivial, trivial, ⟨owned, (intern_eq_ok ok).2.2⟩, size_of_intern ok⟩
  exists_ok pool ready _ room := exists_intern ready.1 room

end Pool

theorem Entity.takes_internRows (e : Entity) (rows : List e.NewRow) :
    Takes True (textBytes (rows.flatMap e.texts)) (fun _ => True)
      (rows.mapM Draft.intern : Edit Pool (List e.Row)) := by
  have row (d : e.NewRow) : Takes True (textBytes (e.texts d)) (fun _ => True)
      (Draft.intern d : Edit Pool e.Row) := by
    rw [intern_eq]
    exact ((Takes.mapM fun text _ => Pool.takes_intern text).map _).congr (by simp) rfl
  rw [textBytes_flatMap]
  exact ((Takes.mapM fun d _ => row d).congr (by simp) rfl).imp fun _ _ => trivial

/-! ## Rows -/

namespace Table

theorem storage_of_owned {ρ : Type} {t : Table ρ} (owned : t.isMapped = false) :
    t.storage = .owned t.capacity := by
  obtain ⟨rows, kind⟩ := t
  cases kind with
  | mapped => cases owned
  | owned capacity => rfl

/-- So many rows as there are numbers for are never too many bytes. -/
theorem mul_size_le_maxAllocation {ρ : Type} [Record ρ] {target : Nat} (le : target ≤ maxRows ρ)
    (f : Field ρ) : target * f.type.size ≤ maxAllocation :=
  (mul_size_le le f).trans (by decide)

/-- A table gets the rows that it has numbers for.  It keeps its storage if they fit in it,
and else has room for some more behind them, if there are numbers for those. -/
theorem roomFor_of_le {ρ : Type} [Record ρ] {t : Table ρ} {count : Nat}
    (owned : t.isMapped = false) (room : t.size + count ≤ maxRows ρ) :
    t.roomFor count = .ok (.owned (if t.size + count ≤ t.capacity then t.capacity
      else min (t.size + count + Record.slack ρ) (maxRows ρ))) := by
  have storage := storage_of_owned owned
  simp only [roomFor, owned, if_neg (Nat.not_lt.2 room), Bool.false_eq_true, if_false]
  by_cases enough : t.size + count ≤ t.capacity
  · rw [if_neg (Nat.not_lt.2 enough), if_pos enough, ← storage]
  · have small : (Record.fields : List (Field ρ)).all fun f =>
        (f.demand (min (t.size + count + Record.slack ρ) (maxRows ρ))).isMet := by
      rw [List.all_eq_true]
      intro f _
      rw [Demand.isMet_ample]
      exact decide_eq_true (mul_size_le_maxAllocation (Nat.min_le_right _ _) f)
    have more : ¬min (t.size + count + Record.slack ρ) (maxRows ρ) ≤ t.capacity := by omega
    rw [if_pos (Nat.not_le.1 enough), if_neg enough]
    simp only [reserve, storage, if_neg more, if_pos small]

variable {e : Entity} {t : Table e.Row} {pool : Pool} {rows : List e.NewRow}

/-- Rows stand behind those of a table.  If they did not fit in the room there was, there is
room for some more behind them, as long as these have numbers. -/
structure GrowsBy (t : Table e.Row) (rows : List e.NewRow) (grown : Table e.Row)
    (filled : Pool) : Prop where
  appended : ∃ records : List e.Row, grown.rows = t.rows ++ records ∧
    List.Forall₂ (e.Made filled) rows records
  size : grown.size = t.size + rows.length
  capacity : grown.capacity = if t.size + rows.length ≤ t.capacity then t.capacity
    else min (t.size + rows.length + Record.slack e.Row) e.maxRows

/-- Rows are added that there are numbers for and places for their texts. -/
theorem exists_add_of_le (owned : t.isMapped = false)
    (room : pool.HasRoom (rows.flatMap e.texts)) (numbered : t.size + rows.length ≤ e.maxRows) :
    ∃ grown filled, add rows (t, pool) = .ok t.size (grown, filled) ∧
      t.GrowsBy rows grown filled := by
  obtain ⟨places, bytes⟩ := room
  have made := roomFor_of_le owned numbered
  obtain ⟨records, filled, interned⟩ := (e.takes_internRows rows).exists_ok pool
    ⟨places, (Nat.le_add_right _ _).trans bytes⟩ trivial bytes
  obtain ⟨-, all⟩ := Entity.mapM_intern_eq_ok interned
  refine ⟨⟨t.rows ++ records, .owned (if t.size + rows.length ≤ t.capacity then t.capacity
    else min (t.size + rows.length + Record.slack e.Row) e.maxRows)⟩, filled, ?_,
    ⟨records, rfl, all⟩, ?_, rfl⟩
  · simp only [add, made, interned]
    rfl
  · rw [size, ← Array.length_toList, Array.toList_appendList, List.length_append,
      Edit.length_of_mapM interned]
    rfl

end Table

/-! ## Containers -/

/-- The parts of a container that can be full. -/
inductive Part where
  | table (e : Entity)
  | pool
deriving DecidableEq

/-- The sizes of the parts of a container. -/
def Container.extent (c : Container) : Part → Nat
  | .table e => (e.table c).size
  | .pool => c.pool.size

/-- The greatest size of a part. -/
def Part.limit : Part → Nat
  | .table e => e.maxRows
  | .pool => Pool.maxSize

/-- The sizes of so many rows of an entity and of their texts. -/
def cost (e : Entity) (rows : Nat) (texts : List String) : Part → Nat
  | .table other => if other = e then rows else 0
  | .pool => textBytes texts

/-- The sizes of some texts that belong to no row. -/
def textCost (texts : List String) : Part → Nat
  | .table _ => 0
  | .pool => textBytes texts

theorem cost_congr {e : Entity} {rows rows' : Nat} {texts texts' : List String}
    (same : rows = rows') (bytes : textBytes texts = textBytes texts') :
    cost e rows texts = cost e rows' texts' := by
  funext part
  cases part with
  | table other => rw [cost, cost, same]
  | pool => exact bytes

theorem sum_cost {α : Type} (e : Entity) (rows : α → Nat) (texts : α → List String) (l : List α) :
    (l.map fun a => cost e (rows a) (texts a)).sum = cost e (l.map rows).sum (l.flatMap texts) := by
  induction l with
  | nil =>
    funext part
    cases part with
    | table other => exact (ite_self 0).symm
    | pool => rfl
  | cons a l ih =>
    rw [List.map_cons, List.sum_cons, ih, List.map_cons, List.sum_cons, List.flatMap_cons]
    funext part
    cases part with
    | table other =>
      show (if other = e then _ else 0) + (if other = e then _ else 0) = if other = e then _ else 0
      split
      · rfl
      · rfl
    | pool => exact (textBytes_append _ _).symm

theorem sum_cost_bare {α : Type} (e : Entity) (rows : α → Nat) (l : List α) :
    (l.map fun a => cost e (rows a) []).sum = cost e (l.map rows).sum [] :=
  (sum_cost e rows (fun _ => []) l).trans
    (cost_congr rfl (congrArg textBytes (List.flatMap_eq_nil_iff.2 fun _ _ => rfl)))

namespace Container

instance : Limited Container (Part → Nat) where
  Ready c := Uniform c ∧ c.isMapped = false ∧ c.extent ≤ Part.limit
  extent := extent
  limit := Part.limit
  extent_le _ ready := ready.2.2

variable {c c' : Container}

@[simp] theorem extent_new : extent {} = 0 := by
  funext part
  cases part with
  | table e => cases e <;> rfl
  | pool => rfl

theorem ready_new : Ready ({} : Container) := by
  refine ⟨uniform_new, rfl, ?_⟩
  rw [extent_new]
  exact fun part => Nat.zero_le _

/-- A new container is as large afterwards as what was taken. -/
theorem exists_ok_new_iff {α : Type} {p : Prop} {d : Part → Nat} {gives : α → Prop}
    {x : Edit Container α} (takes : Takes p d gives x) :
    (∃ a c, x {} = .ok a c) ↔ p ∧ d ≤ Part.limit := by
  rw [takes.exists_ok_iff ready_new]
  show p ∧ extent {} + d ≤ Part.limit ↔ _
  rw [extent_new, zero_add]

theorem extent_put (e : Entity) (c : Container) (pool : Pool) (t : Table e.Row) :
    (e.put { c with pool } t).extent = fun
      | .table other => if other = e then t.size else (other.table c).size
      | .pool => pool.size := by
  funext part
  cases part with
  | table other =>
    dsimp only [extent]
    split
    · subst other
      rw [Entity.table_put]
    · rename_i ne
      rw [Entity.table_put_of_ne ne, Entity.table_withPool]
  | pool => simp only [extent, Entity.put_pool]

/-- Rows are added if their table has room for them and the pool for their texts. -/
theorem takes_add (e : Entity) (rows : List e.NewRow) :
    Takes True (cost e rows.length (rows.flatMap e.texts)) (fun _ => True)
      (Container.add rows : Edit Container Nat) where
  of_ok c start c' ready ok := by
    obtain ⟨uniform, owned, short⟩ := ready
    cases run : Table.add rows (e.table c, c.pool) with
    | error err p =>
      rw [Container.add, Entity.onTable_of_error run] at ok
      cases ok
    | ok first p =>
      obtain ⟨grown, filled⟩ := p
      rw [Container.add, Entity.onTable_of_ok run] at ok
      cases ok
      have kept := Uniform.add e rows c uniform
      rw [Edit.after_of_ok (Entity.onTable_of_ok run)] at kept
      obtain ⟨-, records, made, added⟩ := Table.add_eq_ok run
      obtain ⟨-, -, poolReady, poolSize⟩ := (e.takes_internRows rows).of_ok c.pool records filled
        ⟨uniform.pool.trans owned, short .pool⟩ made
      refine ⟨trivial, trivial, ⟨kept, ?_, ?_⟩, ?_⟩
      · rwa [isMapped_put]
      · rw [extent_put]
        intro part
        cases part with
        | table other =>
          dsimp only
          split
          · subst other
            exact Table.size_add_le run
          · exact short (.table other)
        | pool => exact poolReady.2
      · refine (extent_put e c filled grown).trans ?_
        funext part
        cases part with
        | table other =>
          show (if other = e then grown.size else (other.table c).size) =
            (other.table c).size + if other = e then rows.length else 0
          split
          · subst other
            rw [Table.size, added, ← Edit.length_of_mapM made, ← Array.length_toList,
              Array.toList_appendList, List.length_append]
            rfl
          · rfl
        | pool => exact poolSize
  exists_ok c ready _ room := by
    obtain ⟨uniform, owned, short⟩ := ready
    have tableRoom : (e.table c).size + (if e = e then rows.length else 0) ≤ e.maxRows :=
      room (.table e)
    rw [if_pos rfl] at tableRoom
    obtain ⟨grown, filled, run, -⟩ := Table.exists_add_of_le ((uniform.tables e).trans owned)
      ⟨uniform.pool.trans owned, room .pool⟩ tableRoom
    exact ⟨_, _, Entity.onTable_of_ok run⟩

theorem takes_add_of {e : Entity} {rows : List e.NewRow} {count : Nat} {texts : List String}
    (length : rows.length = count) (same : rows.flatMap e.texts = texts) :
    Takes True (cost e count texts) (fun _ => True) (Container.add rows : Edit Container Nat) :=
  (takes_add e rows).congr Iff.rfl (congrArg₂ (cost e) length same)

/-- Rows without texts only take room in their table. -/
theorem takes_add_bare {e : Entity} {rows : List e.NewRow} {count : Nat}
    (length : rows.length = count) (bare : ∀ d, e.texts d = []) :
    Takes True (cost e count []) (fun _ => True) (Container.add rows : Edit Container Nat) :=
  takes_add_of length (List.flatMap_eq_nil_iff.2 fun d _ => bare d)

/-! ## Numbers -/

theorem extent_withTexts (c : Container) (metadata : Metadata) (pool : Pool) :
    extent { c with metadata, pool } = fun
      | .table e => (e.table c).size
      | .pool => pool.size := by
  funext part
  cases part with
  | table e => cases e <;> rfl
  | pool => rfl

theorem takes_setCalendar (start : UInt64) (days : UInt32) :
    Takes True (0 : Part → Nat) (fun _ => True) (setCalendar start days) where
  of_ok c _ c' ready ok := by
    obtain ⟨uniform, owned, short⟩ := ready
    obtain rfl := setCalendar_eq_ok ok
    have same := extent_withTexts c
      { c.metadata with calendarStart := start, days } c.pool
    have kept := same.trans (funext fun part => by cases part <;> rfl : _ = c.extent)
    exact ⟨trivial, trivial, ⟨uniform.withTexts _ uniform.pool, owned, kept.trans_le short⟩,
      kept.trans (add_zero _).symm⟩
  exists_ok c ready _ _ :=
    ⟨(), _, Edit.bind_eq_ok.2 ⟨(), c, ensureOwned_eq_ok.2 ⟨ready.2.1, rfl⟩, rfl⟩⟩

theorem takes_setTimezone (name : String) (utcOffset : Int32) :
    Takes True (textCost [name]) (fun _ => True) (setTimezone name utcOffset) where
  of_ok c _ c' ready ok := by
    obtain ⟨uniform, owned, short⟩ := ready
    obtain ⟨place, pool, interned, rfl⟩ := setTimezone_eq_ok ok
    obtain ⟨-, -, ⟨poolOwned, poolShort⟩, poolSize⟩ := (Pool.takes_intern name).of_ok c.pool place
      pool ⟨uniform.pool.trans owned, short .pool⟩ interned
    have same := extent_withTexts c
      { c.metadata with timezone := some place, utcOffset } pool
    refine ⟨trivial, trivial, ⟨uniform.withTexts _ (poolOwned.trans owned.symm), owned, ?_⟩, ?_⟩
    · refine same.trans_le fun part => ?_
      cases part with
      | table e => exact short (.table e)
      | pool => exact poolShort
    · refine same.trans (funext fun part => ?_)
      cases part with
      | table e => rfl
      | pool => exact poolSize
  exists_ok c ready _ room := by
    obtain ⟨uniform, owned, short⟩ := ready
    obtain ⟨place, pool, interned⟩ := (Pool.takes_intern name).exists_ok c.pool
      ⟨uniform.pool.trans owned, short .pool⟩ trivial (room .pool)
    have zone : onPool (Pool.intern name) c = .ok place { c with pool } :=
      onPool_eq_ok.2 ⟨pool, interned, rfl⟩
    exact ⟨(), _, Edit.bind_eq_ok.2 ⟨(), c, ensureOwned_eq_ok.2 ⟨owned, rfl⟩,
      Edit.bind_eq_ok.2 ⟨place, _, zone, rfl⟩⟩⟩

end Container

end TransitStore
