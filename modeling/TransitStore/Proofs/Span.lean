import Mathlib
import TransitStore.Span

/-!
# Runs that tile a table

Runs that start where the one before them stops, the first at the first row and the last
up to the end of the table, have each row of it once and in order (`exists_tiles`).  So
each row lies in exactly one of them (`Span.Tiles.existsUnique`).
-/

namespace TransitStore

theorem exists_split_of_getElem? {α : Type} {l : List α} {i : Nat} {a : α} (at_ : l[i]? = some a) :
    ∃ front rest, l = front ++ a :: rest ∧ front.length = i := by
  obtain ⟨lt, rfl⟩ := List.getElem?_eq_some_iff.1 at_
  refine ⟨l.take i, l.drop (i + 1), ?_, List.length_take_of_le (Nat.le_of_lt lt)⟩
  rw [List.getElem_cons_drop, List.take_append_drop]

theorem exists_split {α : Type} {l : List α} {i : Nat} (lt : i < l.length) :
    ∃ front a rest, l = front ++ a :: rest ∧ front.length = i := by
  obtain ⟨front, rest, split⟩ := exists_split_of_getElem? (List.getElem?_eq_getElem lt)
  exact ⟨front, l[i], rest, split⟩

/-- Whatever is numbered before an element comes before it. -/
theorem exists_split_zipIdx {α : Type} {l : List α} {i : Nat} {a : α} (at_ : l[i]? = some a) :
    ∃ front rest, l.zipIdx = front ++ (a, i) :: rest ∧
      ∀ b j, (b, j) ∈ front → j < i ∧ l[j]? = some b := by
  have own : l.zipIdx[i]? = some (a, i) := by
    rw [List.getElem?_zipIdx, at_, Nat.zero_add]
    rfl
  obtain ⟨front, rest, split, length⟩ := exists_split_of_getElem? own
  refine ⟨front, rest, split, fun b j mem => ?_⟩
  obtain ⟨k, there⟩ := List.mem_iff_getElem?.1 mem
  have before := (List.getElem?_eq_some_iff.1 there).1
  have whole : l.zipIdx[k]? = some (b, j) := by
    rw [split, List.getElem?_append_left before]
    exact there
  rw [List.getElem?_zipIdx, Nat.zero_add] at whole
  obtain ⟨b', at', same⟩ := Option.map_eq_some_iff.1 whole
  cases same
  exact ⟨length ▸ before, at'⟩

namespace Span

variable {n : Nat}

theorem map_val_rows (s : Span n) : s.rows.map Fin.val = List.range' s.start s.length := by
  refine List.ext_getElem (by simp) fun i _ _ => ?_
  simp [rows]

theorem getElem?_slice {α : Type} {xs : Array α} (s : Span xs.size) (i : Nat) :
    s.slice[i]? = if i < s.length then xs[s.start + i]? else none := by
  rw [slice_eq, List.getElem?_take, List.getElem?_drop, Array.getElem?_toList]

/-- A run selects the rows that are counted from its first one on. -/
theorem getElem?_slice_of_run? {α : Type} {xs : Array α} {offset count : Nat} {s : Span xs.size}
    (made : run? xs.size offset count = some s) (i : Nat) :
    s.slice[i]? = if i < count then xs[offset + i]? else none := by
  obtain ⟨start, stop⟩ := run?_eq_some_iff.1 made
  rw [getElem?_slice, length, start, stop, Nat.add_sub_cancel_left]

theorem mem_slice_of_run? {α : Type} {xs : Array α} {offset count : Nat} {s : Span xs.size}
    (made : run? xs.size offset count = some s) {a : α} :
    a ∈ s.slice ↔ ∃ i < count, xs[offset + i]? = some a := by
  simp only [List.mem_iff_getElem?, getElem?_slice_of_run? made, Option.ite_none_right_eq_some]

/-- Runs have all rows of a table, in order and none twice. -/
def Tiles (runs : List (Span n)) : Prop := runs.flatMap rows = List.finRange n

/-- A row that is had by some runs without doubles lies in exactly one of them. -/
theorem existsUnique_of_nodup {runs : List (Span n)} (nodup : (runs.flatMap rows).Nodup)
    {i : Fin n} (mem : i ∈ runs.flatMap rows) :
    ∃! p : Nat, ∃ run : Span n, runs[p]? = some run ∧ i ∈ run.rows := by
  obtain ⟨run, there, inside⟩ := List.mem_flatMap.1 mem
  obtain ⟨p, at_⟩ := List.mem_iff_getElem?.1 there
  refine ⟨p, ⟨run, at_, inside⟩, ?_⟩
  rintro q ⟨other, at_', inside'⟩
  by_contra ne
  have apart := (List.nodup_flatMap.1 nodup).2
  obtain ⟨lt, rfl⟩ := List.getElem?_eq_some_iff.1 at_
  obtain ⟨lt', rfl⟩ := List.getElem?_eq_some_iff.1 at_'
  rcases Nat.lt_or_gt_of_ne ne with before | behind
  · exact List.pairwise_iff_getElem.1 apart q p lt' lt before inside' inside
  · exact List.pairwise_iff_getElem.1 apart p q lt lt' behind inside inside'

/-- A row of a table lies in exactly one of the runs that tile it. -/
theorem Tiles.existsUnique {runs : List (Span n)} (tiles : Tiles runs) (i : Fin n) :
    ∃! p : Nat, ∃ run : Span n, runs[p]? = some run ∧ i ∈ run.rows :=
  existsUnique_of_nodup (tiles ▸ List.nodup_finRange n) (tiles ▸ List.mem_finRange i)

/-- A run over the middle part of a table selects what is related to that part. -/
theorem exists_slice {α β : Type} {rel : α → β → Prop} {front part rest : List α} {xs : Array β}
    (same : List.Forall₂ rel (front ++ (part ++ rest)) xs.toList) :
    ∃ run, run? xs.size front.length part.length = some run ∧
      List.Forall₂ rel part run.slice := by
  have size : front.length + (part.length + rest.length) = xs.size := by
    simpa using same.length_eq
  have inside : front.length + part.length ≤ xs.size := by omega
  refine ⟨⟨front.length, front.length + part.length, Nat.le_add_right _ _, inside⟩,
    run?_eq_some_iff.2 ⟨rfl, rfl⟩, ?_⟩
  have middle := List.forall₂_take part.length (List.forall₂_drop front.length same)
  rw [List.drop_left, List.take_left] at middle
  rwa [slice_eq, length, Nat.add_sub_cancel_left]

/-- The runs between places that are in order have the rows from the first place on, up to the
last one. -/
theorem exists_runs_between {start : Nat} {places : List Nat}
    (ordered : (start :: places).Pairwise (· ≤ ·)) (inside : ∀ place ∈ start :: places, place ≤ n) :
    ∃ runs : List (Span n), runs.length = places.length ∧
      (∀ i, runs[i]? = (start :: places)[i]?.bind fun a =>
        (start :: places)[i + 1]?.bind fun b => between? n a b) ∧
      (runs.flatMap rows).map Fin.val =
        List.range' start ((start :: places).getLast (List.cons_ne_nil _ _) - start) := by
  induction places generalizing start with
  | nil =>
    refine ⟨[], rfl, fun i => ?_, by simp⟩
    cases i <;> simp
  | cons next places ih =>
    obtain ⟨first, rest⟩ := List.pairwise_cons.1 ordered
    obtain ⟨runs, length, at_, rows_⟩ := ih rest fun place mem => inside place (.tail _ mem)
    have le : start ≤ next := first next (.head _)
    have fits : next ≤ n := inside next (.tail _ (.head _))
    have last_ : next ≤ (next :: places).getLast (List.cons_ne_nil _ _) := by
      rcases List.mem_cons.1 (List.getLast_mem (List.cons_ne_nil next places)) with same | mem
      · exact same.ge
      · exact (List.pairwise_cons.1 rest).1 _ mem
    let run : Span n := ⟨start, next, le, fits⟩
    refine ⟨run :: runs, congrArg Nat.succ length, fun i => ?_, ?_⟩
    · cases i with
      | zero => exact (between?_eq_some_iff.2 ⟨rfl, rfl⟩).symm
      | succ i => exact at_ i
    · rw [List.flatMap_cons, List.map_append, map_val_rows, rows_,
        List.getLast_cons (List.cons_ne_nil _ _)]
      generalize (next :: places).getLast (List.cons_ne_nil _ _) = last at last_
      obtain ⟨count, rfl⟩ := Nat.exists_eq_add_of_le le
      obtain ⟨more, rfl⟩ := Nat.exists_eq_add_of_le last_
      have length_ : run.length = count := Nat.add_sub_cancel_left ..
      have all : start + count + more - start = count + more := by omega
      rw [length_, Nat.add_sub_cancel_left, List.range'_append_1, all]

end Span

/-- Where runs with some numbers of rows start that follow one another, and these numbers. -/
def runsFrom : (start : Nat) → (counts : List Nat) → List (Nat × Nat)
  | _, [] => []
  | start, count :: counts => (start, count) :: runsFrom (start + count) counts

theorem length_runsFrom (start : Nat) (counts : List Nat) :
    (runsFrom start counts).length = counts.length := by
  induction counts generalizing start with
  | nil => rfl
  | cons count counts ih => rw [runsFrom, List.length_cons, List.length_cons, ih]

theorem getElem?_runsFrom {start count : Nat} {front rest : List Nat} :
    (runsFrom start (front ++ count :: rest))[front.length]? = some (start + front.sum, count) := by
  induction front generalizing start with
  | nil => rfl
  | cons first front ih =>
    rw [List.cons_append, runsFrom, List.length_cons, List.getElem?_cons_succ, ih, List.sum_cons,
      Nat.add_assoc]

/-- Runs that follow one another have the rows from where the first one starts. -/
theorem exists_runs {n start : Nat} {counts : List Nat} (inside : start + counts.sum ≤ n) :
    ∃ runs : List (Span n),
      List.Forall₂ (fun pair run => Span.run? n pair.1 pair.2 = some run) (runsFrom start counts)
        runs ∧
      (runs.flatMap Span.rows).map Fin.val = List.range' start counts.sum := by
  induction counts generalizing start with
  | nil => exact ⟨[], .nil, rfl⟩
  | cons count counts ih =>
    rw [List.sum_cons, ← Nat.add_assoc] at inside
    obtain ⟨runs, made, rows⟩ := ih inside
    have fits : start + count ≤ n := Nat.le_trans (Nat.le_add_right _ _) inside
    let run : Span n := ⟨start, start + count, Nat.le_add_right _ _, fits⟩
    refine ⟨run :: runs, .cons (Span.run?_eq_some_iff.2 ⟨rfl, rfl⟩) made, ?_⟩
    have length : run.length = count := Nat.add_sub_cancel_left ..
    rw [List.flatMap_cons, List.map_append, Span.map_val_rows, length, rows, List.sum_cons]
    exact List.range'_append_1

/-- Runs that follow one another through a table tile it. -/
theorem exists_tiles {n : Nat} {counts : List Nat} (all : counts.sum = n) :
    ∃ runs : List (Span n),
      List.Forall₂ (fun pair run => Span.run? n pair.1 pair.2 = some run) (runsFrom 0 counts)
        runs ∧
      Span.Tiles runs := by
  obtain ⟨runs, made, rows⟩ := exists_runs (by omega : 0 + counts.sum ≤ n)
  refine ⟨runs, made, List.map_injective_iff.2 Fin.val_injective ?_⟩
  rw [rows, all, List.map_coe_finRange_eq_range, List.range_eq_range']

end TransitStore
