import Mathlib
import TransitStore.Proofs.Table.Columnar

/-!
# Rows in batches

The texts of all rows of a batch go to the pool before any of the rows is added, and room
is made for the batch as a whole.  Still it makes no difference how rows are split into
batches (`Table.add_flatten`): each text goes to the pool behind those of the row before,
each row has the number behind that of the row before, and there is always room for rows
that have numbers.  Only the room that is left depends on the batches (`batched`).
-/

namespace TransitStore

/-! ## Rows of any kind -/

namespace Table

variable {ρ δ : Type} [Record ρ] [Draft δ ρ] {t grown : Table ρ} {pool filled : Pool} {start : Nat}

/-- Rows are added that have numbers and whose texts the pool takes. -/
theorem add_of_interned {drafts : List δ} {records : List ρ} (owned : t.isMapped = false)
    (numbered : t.size + drafts.length ≤ maxRows ρ)
    (interned : (drafts.mapM Draft.intern : Edit Pool (List ρ)) pool = .ok records filled) :
    ∃ capacity,
      add drafts (t, pool) = .ok t.size (⟨t.rows ++ records, .owned capacity⟩, filled) := by
  obtain ⟨capacity, made⟩ : ∃ capacity, t.roomFor drafts.length = .ok (.owned capacity) :=
    ⟨_, roomFor_of_le owned numbered⟩
  refine ⟨capacity, ?_⟩
  simp only [add, made, interned]

/-- No other rows are added. -/
theorem interned_of_add {drafts : List δ}
    (h : add drafts (t, pool) = .ok start (grown, filled)) :
    start = t.size ∧ t.isMapped = false ∧ t.size + drafts.length ≤ maxRows ρ ∧
      ∃ (records : List ρ) (capacity : Nat), grown = ⟨t.rows ++ records, .owned capacity⟩ ∧
        (drafts.mapM Draft.intern : Edit Pool (List ρ)) pool = .ok records filled := by
  cases made : t.roomFor drafts.length with
  | error e =>
    simp only [add, made] at h
    cases h
  | ok storage =>
    obtain ⟨owned, -⟩ := owned_of_roomFor made
    have numbered := size_le_of_roomFor made
    obtain ⟨first, records, interned, -⟩ := add_eq_ok h
    obtain ⟨capacity, run⟩ := add_of_interned owned numbered interned
    rw [run] at h
    cases h
    exact ⟨first, owned, numbered, records, capacity, rfl, interned⟩

/-- Rows that were added could as well have been added in two batches.  Only the room in
the table may be other than it is. -/
theorem add_append {front rest : List δ}
    (h : add (front ++ rest) (t, pool) = .ok start (grown, filled)) :
    ∃ middle between capacity, add front (t, pool) = .ok start (middle, between) ∧
      add rest (middle, between) =
        .ok (start + front.length) ({ grown with storage := .owned capacity }, filled) := by
  obtain ⟨rfl, owned, numbered, records, _, rfl, interned⟩ := interned_of_add h
  obtain ⟨before, between, behind, first, second, rfl⟩ := Edit.mapM_append_eq_ok.1 interned
  rw [List.length_append] at numbered
  obtain ⟨room, one⟩ := add_of_interned owned (by omega) first
  have size : (⟨t.rows ++ before, .owned room⟩ : Table ρ).size = t.size + front.length := by
    rw [Table.size, ← Edit.length_of_mapM first, ← Array.length_toList, Array.toList_appendList,
      List.length_append]
    rfl
  obtain ⟨capacity, two⟩ := add_of_interned (t := ⟨t.rows ++ before, .owned room⟩) rfl
    (by omega) second
  have rows : t.rows ++ before ++ behind = t.rows ++ (before ++ behind) := by
    apply Array.toList_inj.1
    simp
  rw [size] at two
  refine ⟨_, between, capacity, one, two.trans ?_⟩
  rw [rows]

/-- The numbers of the first rows of batches. -/
def firsts (start : Nat) : List (List δ) → List Nat
  | [] => []
  | batch :: batches => start :: firsts (start + batch.length) batches

theorem firsts_singletons (start : Nat) (drafts : List δ) :
    firsts start (drafts.map fun draft => [draft]) = List.range' start drafts.length := by
  induction drafts generalizing start with
  | nil => rfl
  | cons draft drafts ih =>
    rw [List.map_cons, firsts, ih]
    rfl

/-- Rows that were added could as well have been added in any batches. -/
theorem add_flatten {batches : List (List δ)}
    (h : add batches.flatten (t, pool) = .ok start (grown, filled)) :
    ∃ capacity, batches.mapM add (t, pool) =
      .ok (firsts start batches) ({ grown with storage := .owned capacity }, filled) := by
  induction batches generalizing t pool start grown with
  | nil =>
    obtain ⟨rfl, owned, -, records, _, rfl, interned⟩ := interned_of_add h
    obtain ⟨rfl, rfl⟩ := Edit.mapM_nil_eq_ok.1 interned
    refine ⟨t.capacity, ?_⟩
    rw [Edit.mapM_nil_eq_ok, ← storage_of_owned owned]
    simp [firsts]
  | cons batch batches ih =>
    obtain ⟨middle, between, _, one, others⟩ := add_append h
    obtain ⟨capacity, run⟩ := ih others
    exact ⟨capacity, Edit.mapM_cons_eq_ok.2 ⟨_, _, _, one, run, rfl⟩⟩

end Table

/-! ## Rows in columns -/

namespace Edit

variable {σ τ α β : Type} {rel : σ → τ → Prop} {f : α → Edit σ β} {g : α → Edit τ β}

/-- Loops give the same answers if each of their rounds does. -/
theorem Alike.mapM (each : ∀ a s t, rel s t → Alike rel (f a s) (g a t)) {l : List α} {s : σ}
    {t last : τ} {bs : List β} (related : rel s t) (h : l.mapM g t = .ok bs last) :
    ∃ left, l.mapM f s = .ok bs left ∧ rel left last := by
  induction l generalizing s t bs with
  | nil =>
    obtain ⟨rfl, rfl⟩ := mapM_nil_eq_ok.1 h
    exact ⟨s, mapM_nil_eq_ok.2 ⟨rfl, rfl⟩, related⟩
  | cons a l ih =>
    obtain ⟨b, r, rest, head, tail, rfl⟩ := mapM_cons_eq_ok.1 h
    have alike := each a s t related
    rw [head] at alike
    generalize run : f a s = result at alike
    cases alike with
    | ok related =>
      obtain ⟨left, others, related⟩ := ih related tail
      exact ⟨left, mapM_cons_eq_ok.2 ⟨b, _, rest, run, others, rfl⟩, related⟩

end Edit

namespace Columnar

variable {e : Entity} {s : Columnar e.Row} {t last : Table e.Row} {pool filled : Pool}

/-- The columns take batches as the table does. -/
theorem mapM_add {batches : List (List e.NewRow)} {starts : List Nat} (holds : s.Holds t)
    (run : batches.mapM Table.add (t, pool) = .ok starts (last, filled)) :
    ∃ left, batches.mapM add (s, pool) = .ok starts (left, filled) ∧ left.Holds last := by
  have each (batch : List e.NewRow) (left : Columnar e.Row × Pool) (right : Table e.Row × Pool)
      (related : left.1.Holds right.1 ∧ left.2 = right.2) :
      Edit.Alike (fun left right => left.1.Holds right.1 ∧ left.2 = right.2)
        (add batch left) (Table.add batch right) := by
    obtain ⟨s, pool⟩ := left
    obtain ⟨t, filled⟩ := right
    obtain ⟨holds, same⟩ := related
    cases same
    exact alike_add holds pool batch
  have start : (s, pool).1.Holds (t, pool).1 ∧ (s, pool).2 = (t, pool).2 := ⟨holds, rfl⟩
  obtain ⟨⟨left, _⟩, kept, held, same⟩ := Edit.Alike.mapM each start run
  cases same
  exact ⟨left, kept, held⟩

end Columnar

/-! ## All tables -/

/-- Rows that are added to a table at once could as well be added in batches. -/
structure Batched {e : Entity} (t : Table e.Row) (pool : Pool) (front rest : List e.NewRow)
    (start : Nat) (grown : Table e.Row) (filled : Pool) : Prop where
  /-- In two, the second one is numbered behind the first.  Nothing but the room in the table
  is other than if all are added at once. -/
  two : ∃ middle between capacity, Table.add front (t, pool) = .ok start (middle, between) ∧
    Table.add rest (middle, between) =
      .ok (start + front.length) ({ grown with storage := .owned capacity }, filled)
  /-- One by one, they have their numbers one after the other. -/
  single : ∃ capacity, (front ++ rest).mapM (fun row => Table.add [row]) (t, pool) =
    .ok (List.range' start (front.length + rest.length))
      ({ grown with storage := .owned capacity }, filled)
  /-- In memory, where each column has a room of its own, there are the same columns
  whichever the batches are. -/
  columns : ∀ s : Columnar e.Row, s.Holds t →
    ∀ batches : List (List e.NewRow), batches.flatten = front ++ rest →
    ∃ left, batches.mapM Columnar.add (s, pool) = .ok (Table.firsts start batches) (left, filled) ∧
      left.columns.map (·.values.toList) = Record.fields.map grown.column

/-- It makes no difference to the rows, the columns and the pool how the rows that are added
to a table are split into batches. -/
theorem batched {e : Entity} {t grown : Table e.Row} {pool filled : Pool}
    {front rest : List e.NewRow} {start : Nat}
    (h : Table.add (front ++ rest) (t, pool) = .ok start (grown, filled)) :
    Batched t pool front rest start grown filled where
  two := Table.add_append h
  single := by
    have split : ((front ++ rest).map fun row => [row]).flatten = front ++ rest := by
      rw [← List.flatMap_def, List.flatMap_singleton']
    rw [← split] at h
    obtain ⟨capacity, run⟩ := Table.add_flatten h
    refine ⟨capacity, ?_⟩
    rwa [List.mapM_map, Table.firsts_singletons, List.length_append] at run
  columns s holds batches split := by
    rw [← split] at h
    obtain ⟨capacity, run⟩ := Table.add_flatten h
    obtain ⟨left, kept, held⟩ := Columnar.mapM_add holds run
    exact ⟨left, kept, held.values_eq⟩

/-- Two kinds of vehicles take the last numbers, at once or one after the other.  In each
case the table has to get room, and gets none that it has no numbers for. -/
theorem batched_last : ∃ (t grown : Table Entity.physicalMode.Row) (filled : Pool)
    (front rest : List Entity.physicalMode.NewRow), t.size = 253 ∧ t.capacity = 253 ∧
      Table.add (front ++ rest) (t, {}) = .ok 253 (grown, filled) ∧ grown.size = 255 ∧
        Batched t {} front rest 253 grown filled := by
  let t : Table Entity.physicalMode.Row :=
    ⟨Array.replicate 253 (⟨0, 0⟩ : PhysicalMode), .owned 253⟩
  let front : List Entity.physicalMode.NewRow := [(⟨"S", "Train"⟩ : PhysicalMode.Draft)]
  let rest : List Entity.physicalMode.NewRow := [(⟨"U", "Metro"⟩ : PhysicalMode.Draft)]
  have size : t.size = 253 := Array.size_replicate
  have numbered : t.size + (front ++ rest).length ≤ Entity.physicalMode.maxRows := by
    rw [size]
    decide
  have room : ({} : Pool).HasRoom ((front ++ rest).flatMap Entity.physicalMode.texts) := by
    decide +kernel
  obtain ⟨grown, filled, run, grows⟩ := Table.exists_add_of_le rfl room numbered
  rw [size] at run
  exact ⟨t, grown, filled, front, rest, size, rfl, run, grows.size.trans (by rw [size]; rfl),
    batched run⟩

end TransitStore
