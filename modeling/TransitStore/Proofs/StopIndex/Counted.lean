import Mathlib
import TransitStore.Proofs.Guarded.StopIndex
import TransitStore.Proofs.StopIndex.Inverted

/-!
# Counting the entries of the stop index

The entries of the stop index are the visits of the patterns to the stops, sorted and each
once (`Counts`).  Patterns may share their points, so there can be many more visits than points.
But a visit is a pair of a number of 16 bits and the row of a pattern, so there are no more
entries than such pairs (`length_sortedVisits_le`).  A table of patterns is one row short of
having 2 ^ 32 of them, and so 32 bits are enough to count the entries.
-/

namespace TransitStore.StopIndex

open Guarded (Visit allVisits sortedVisits listOf placeOf)

variable {stops : Nat} {patterns : Array JourneyPattern} {points : Array JourneyPatternPoint}
  {index : StopIndex} {visits : List Visit}

/-- The visits that the index of some patterns is made of: sorted, and each once. -/
def entries (patterns : Array JourneyPattern) (points : Array JourneyPatternPoint) : List Visit :=
  sortedVisits (allVisits points patterns.toList)

/-- The columns of an index hold sorted visits.  The place where the list of a stop starts is the
number of the visits to the stops in front of it. -/
structure Counts (stops : Nat) (visits : List Visit) (index : StopIndex) : Prop where
  patterns : index.patterns.values.toList = visits.map (·.2)
  offsets : index.offsets.values.toList.map UInt32.toNat =
    (List.range (stops + 1)).map fun stop => visits.countP (·.1.toNat < stop)

/-! ## How many entries there are -/

theorem pairwise_entries (patterns : Array JourneyPattern) (points : Array JourneyPatternPoint) :
    (entries patterns points).Pairwise (·.1 ≤ ·.1) :=
  (Guarded.pairwise_sortedVisits _).imp fun before => by grind

theorem mem_entries {v : Visit} : v ∈ entries patterns points ↔ ∃ number p,
    patterns[number]? = some p ∧
      ∃ stop ∈ StopIndex.visits points p, (UInt16.ofNat stop, UInt16.ofNat number) = v := by
  simp only [entries, Guarded.mem_sortedVisits, Guarded.mem_allVisits, Array.getElem?_toList]

theorem length_le_of_nodup {pairs : List (Nat × Nat)} {m n : Nat} (nodup : pairs.Nodup)
    (inside : ∀ pair ∈ pairs, pair.1 < m ∧ pair.2 < n) : pairs.length ≤ m * n := by
  have subset : pairs.toFinset ⊆ Finset.range m ×ˢ Finset.range n := by
    intro pair mem
    obtain ⟨first, second⟩ := inside pair (List.mem_toFinset.1 mem)
    exact Finset.mem_product.2 ⟨Finset.mem_range.2 first, Finset.mem_range.2 second⟩
  calc pairs.length = pairs.toFinset.card := (List.toFinset_card_of_nodup nodup).symm
    _ ≤ (Finset.range m ×ˢ Finset.range n).card := Finset.card_le_card subset
    _ = m * n := by rw [Finset.card_product, Finset.card_range, Finset.card_range]

/-- However often patterns come by, no pair of a stop and a pattern counts twice. -/
theorem length_entries_le (patterns : Array JourneyPattern) (points : Array JourneyPatternPoint) :
    (entries patterns points).length ≤ UInt16.size * patterns.size := by
  let pair (v : Visit) : Nat × Nat := (v.1.toNat, v.2.toNat)
  have injective : Function.Injective pair := fun a b same =>
    Prod.ext (UInt16.toNat_inj.1 (Prod.ext_iff.1 same).1)
      (UInt16.toNat_inj.1 (Prod.ext_iff.1 same).2)
  have nodup : ((entries patterns points).map pair).Nodup := (List.nodup_dedup _).map injective
  rw [← List.length_map pair]
  refine length_le_of_nodup nodup (List.forall_mem_map.2 fun v entry => ?_)
  obtain ⟨number, p, at_, stop, -, rfl⟩ := mem_entries.1 entry
  have row : number < patterns.size := (Array.getElem?_eq_some_iff.1 at_).1
  have le : (UInt16.ofNat number).toNat ≤ number := by
    rw [UInt16.toNat_ofNat']
    exact Nat.mod_le _ _
  exact ⟨UInt16.toNat_lt _, Nat.lt_of_le_of_lt le row⟩

/-! ## Where the lists start -/

/-- In sorted visits those to a stop stand right behind those to the stops in front of it. -/
theorem filter_lt_succ (sorted : visits.Pairwise (·.1 ≤ ·.1)) (stop : Nat) :
    visits.filter (·.1.toNat < stop + 1) =
      visits.filter (·.1.toNat < stop) ++ visits.filter (·.1.toNat == stop) := by
  induction visits with
  | nil => rfl
  | cons v visits ih =>
    obtain ⟨first, rest⟩ := List.pairwise_cons.1 sorted
    have ih := ih rest
    rcases Nat.lt_or_ge v.1.toNat stop with before | behind
    · have no : ¬v.1.toNat = stop := by omega
      have yes : v.1.toNat ≤ stop := by omega
      simpa [List.filter_cons, before, yes, no] using ih
    · -- No visit from here on is to a stop in front.
      have none_ : visits.filter (·.1.toNat < stop) = [] :=
        List.filter_eq_nil_iff.2 fun w mem => by
          have : v.1.toNat ≤ w.1.toNat := first w mem
          simp only [decide_eq_true_eq]
          omega
      have no : ¬v.1.toNat < stop := by omega
      rw [none_, List.nil_append] at ih
      have here : v.1.toNat < stop + 1 ↔ v.1.toNat = stop := by omega
      rw [List.filter_cons, List.filter_cons, List.filter_cons, ih, none_]
      simp only [here, no, decide_false, Bool.false_eq_true, if_false, List.nil_append, beq_iff_eq,
        decide_eq_true_eq]

theorem flatMap_listOf (sorted : visits.Pairwise (·.1 ≤ ·.1)) (stops : Nat) :
    (List.range stops).flatMap (listOf visits) =
      (visits.filter (·.1.toNat < stops)).map (·.2) := by
  induction stops with
  | zero => simp
  | succ stop ih =>
    rw [List.range_succ, List.flatMap_append, List.flatMap_singleton, ih, filter_lt_succ sorted,
      List.map_append, listOf]

theorem placeOf_eq (sorted : visits.Pairwise (·.1 ≤ ·.1)) (stop : Nat) :
    placeOf visits stop = visits.countP (·.1.toNat < stop) := by
  rw [placeOf, flatMap_listOf sorted, List.length_map, List.countP_eq_length_filter]

/-! ## What is built -/

/-- The visits to stops that are there are all entries of the index. -/
theorem filter_entries (each : ∀ p ∈ patterns, Indexable stops points p) :
    (entries patterns points).filter (·.1.toNat < stops) = entries patterns points := by
  refine List.filter_eq_self.2 fun v entry => ?_
  obtain ⟨number, p, at_, stop, visited, rfl⟩ := mem_entries.1 entry
  have indexable := each p (Array.mem_of_getElem? at_)
  have small : (UInt16.ofNat stop).toNat = stop :=
    UInt16.toNat_ofNat_of_lt' (Guarded.lt_of_mem_visits visited)
  rw [decide_eq_true_eq, small]
  exact indexable.known stop (indexable.mem_visits.1 visited)

theorem counts_of_build (few : patterns.size ≤ UInt16.size)
    (h : build stops patterns points = .ok index) :
    Counts stops (entries patterns points) index := by
  have sorted := pairwise_entries patterns points
  have each := indexable_of_build h
  obtain ⟨small, rfl⟩ := eq_of_build h
  refine ⟨?patterns, ?offsets⟩
  case patterns =>
    have reversed : (lists stops patterns points).toList =
        (List.range stops).map fun stop => (listOf (entries patterns points) stop).reverse :=
      Guarded.toList_lists few
    have all : (List.range stops).flatMap (listOf (entries patterns points)) =
        (entries patterns points).map (·.2) := by
      rw [flatMap_listOf sorted, filter_entries each]
    rw [← all]
    simp [Column.ofArray, Array.toList_flatMap, reversed, List.flatMap_map]
  case offsets =>
    have places : (starts (lists stops patterns points)).toList =
        (List.range (stops + 1)).map (placeOf (entries patterns points)) :=
      Guarded.toList_starts_lists few
    have whole : (starts (lists stops patterns points)).toList.map (fun place =>
        (UInt32.ofNat place).toNat) = (starts (lists stops patterns points)).toList.map id :=
      List.map_congr_left fun place mem =>
        toNat_ofNat_place (small place (Array.mem_toList_iff.1 mem))
    have offsets : ((starts (lists stops patterns points)).map UInt32.ofNat).toList.map
        UInt32.toNat = (starts (lists stops patterns points)).toList := by
      rw [Array.toList_map, List.map_map]
      exact whole.trans (List.map_id _)
    simp only [Column.ofArray, offsets, places]
    exact List.map_congr_left fun stop _ => placeOf_eq sorted stop

/-- Where there is room for the places, nothing but a reference that leads nowhere keeps an index
from being built. -/
theorem exists_of_build_eq_error (few : patterns.size ≤ Table.maxRows JourneyPattern)
    (room : (stops + 1) * 4 ≤ maxAllocation) {e : Error}
    (h : build stops patterns points = .error e) : ∃ broken, e = .invalidReference broken := by
  have failed := h
  simp only [build_ample] at failed
  split at failed
  · rename_i broken _
    cases failed
    exact ⟨broken, rfl⟩
  · rename_i sound
    obtain ⟨index, built⟩ := exists_build_of_indexable few room (faults_eq_none_iff.1 sound)
    cases built.symm.trans h

/-- The places of an index never get too big for their 32 bits, however much the runs of points
overlap.  There are no more entries than pairs of a stop and a pattern, and the place where the
list of a stop starts is the number of the entries in front of it. -/
theorem build_counts (few : patterns.size ≤ Table.maxRows JourneyPattern)
    (room : (stops + 1) * 4 ≤ maxAllocation) :
    (entries patterns points).length ≤ UInt16.size * Table.maxRows JourneyPattern ∧
    UInt16.size * Table.maxRows JourneyPattern < UInt32.size ∧
    (∀ e, build stops patterns points = .error e → ∃ broken, e = .invalidReference broken) ∧
    ∀ index, build stops patterns points = .ok index →
      Counts stops (entries patterns points) index := by
  refine ⟨?_, by decide, fun e => exists_of_build_eq_error few room, fun index => ?_⟩
  · exact (length_entries_le patterns points).trans (Nat.mul_le_mul_left _ few)
  · exact counts_of_build (few.trans (by decide))

/-- Points that several patterns have. -/
def sharedPoints : Array JourneyPatternPoint := #[⟨0, 0, 0⟩, ⟨1, 0, 0⟩]

/-- Three patterns over the same two points. -/
def sharedPatterns : Array JourneyPattern := Array.replicate 3 ⟨0, 2, 0, 0, 0, 0, 0⟩

/-- There are three times as many entries as points. -/
theorem counts_shared : sharedPatterns.size ≤ Table.maxRows JourneyPattern ∧
    (2 + 1) * 4 ≤ maxAllocation ∧ ∃ index, build 2 sharedPatterns sharedPoints = .ok index ∧
      Counts 2 (entries sharedPatterns sharedPoints) index ∧ index.patterns.values.size = 6 := by
  have few : sharedPatterns.size ≤ Table.maxRows JourneyPattern := by decide
  have room : (2 + 1) * 4 ≤ maxAllocation := by decide
  refine ⟨few, room, _, rfl, ?_, rfl⟩
  exact (build_counts few room).2.2.2 _ rfl

end TransitStore.StopIndex
