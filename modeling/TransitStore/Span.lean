/-!
# Runs of rows

Tables refer to consecutive rows of other tables.  A *span* is such a run
together with the proof that it lies inside a table of the given length, so
rows read through a span are always there.
-/

namespace TransitStore

/-- A run of rows inside a table of `n` rows: from `start`, up to and without `stop`. -/
structure Span (n : Nat) where
  /-- The first row. -/
  start : Nat
  /-- The row behind the last one. -/
  stop : Nat
  /-- A run does not end before it starts. -/
  start_le_stop : start ≤ stop
  /-- A run ends inside the table. -/
  stop_le : stop ≤ n
deriving DecidableEq

namespace Span

/-- The run from `start` up to `stop`, if it is one and lies inside `n` rows. -/
def between? (n start stop : Nat) : Option (Span n) :=
  if h : start ≤ stop ∧ stop ≤ n then some ⟨start, stop, h.1, h.2⟩ else none

/-- The run of `count` rows from `offset`, if it lies inside `n` rows. -/
def run? (n offset count : Nat) : Option (Span n) :=
  between? n offset (offset + count)

/-- The number of rows of a run. -/
def length {n : Nat} (s : Span n) : Nat := s.stop - s.start

/-- The rows of a run, in order. -/
def rows {n : Nat} (s : Span n) : List (Fin n) :=
  List.ofFn fun i : Fin s.length =>
    ⟨s.start + i, by
      have := i.isLt
      have := s.stop_le
      unfold length at *
      omega⟩

/-- The elements a run selects from an array of that length. -/
def slice {α : Type} {xs : Array α} (s : Span xs.size) : List α :=
  s.rows.map fun i => xs[i]

theorem between?_eq_some_iff {n start stop : Nat} {s : Span n} :
    between? n start stop = some s ↔ s.start = start ∧ s.stop = stop := by
  unfold between?
  constructor
  · intro h
    split at h
    · cases h; exact ⟨rfl, rfl⟩
    · cases h
  · rintro ⟨rfl, rfl⟩
    rw [dif_pos ⟨s.start_le_stop, s.stop_le⟩]

theorem isSome_between? {n start stop : Nat} :
    (between? n start stop).isSome = true ↔ start ≤ stop ∧ stop ≤ n := by
  unfold between?
  split <;> simp [*]

theorem run?_eq_some_iff {n offset count : Nat} {s : Span n} :
    run? n offset count = some s ↔ s.start = offset ∧ s.stop = offset + count :=
  between?_eq_some_iff

theorem isSome_run? {n offset count : Nat} :
    (run? n offset count).isSome = true ↔ offset + count ≤ n := by
  rw [run?, isSome_between?]
  omega

@[simp] theorem length_rows {n : Nat} (s : Span n) : s.rows.length = s.length := by
  simp [rows]

/-- A run has the rows from its start up to its stop. -/
theorem mem_rows {n : Nat} {s : Span n} {i : Fin n} :
    i ∈ s.rows ↔ s.start ≤ i ∧ i < s.stop := by
  have := s.start_le_stop
  rw [rows, List.mem_ofFn]
  constructor
  · rintro ⟨k, rfl⟩
    have := k.isLt
    simp only [length] at this ⊢
    omega
  · intro ⟨hstart, hstop⟩
    refine ⟨⟨i - s.start, ?_⟩, ?_⟩
    · unfold length
      omega
    · apply Fin.ext
      show s.start + (i - s.start) = i
      omega

@[simp] theorem length_slice {α : Type} {xs : Array α} (s : Span xs.size) :
    s.slice.length = s.length := by
  simp [slice]

/-- A run selects a piece out of the middle of an array. -/
theorem slice_eq {α : Type} {xs : Array α} (s : Span xs.size) :
    s.slice = (xs.toList.drop s.start).take s.length := by
  have := s.start_le_stop
  have := s.stop_le
  apply List.ext_getElem
  · simp only [length_slice, List.length_take, List.length_drop, Array.length_toList, length]
    omega
  · intro k hk _
    simp [slice, rows]

end Span

end TransitStore
