import Mathlib
import TransitStore.Proofs.StopIndex

/-!
# The stop index as an inverse

The tables say of each journey pattern which stops it visits (`JourneyPattern.Visits`), and
the index says of each stop which patterns visit it (`StopIndex.Inverts`).  An index can be
built exactly if the points of each pattern are rows of their table and at stops that are
there (`Indexable`).  Its places never get too big for their 32 bits, since there are no more
stops with patterns than numbers of 16 bits (`length_lists_le`).  Otherwise the first
pattern that is not like that is named with what is wrong with it (`Blocks`).  Nothing but
the visits matters for what is built: not their order, and not how often a pattern comes by
(`lists_eq_of_visits`).
-/

namespace TransitStore

/-- A pattern visits a stop: one of the rows that it says are its points is there. -/
def JourneyPattern.Visits (p : JourneyPattern) (points : Array JourneyPatternPoint) (stop : Nat) :
    Prop :=
  ∃ i < p.stopCount.toNat, ∃ point, points[p.pointOffset.toNat + i]? = some point ∧
    point.stopPoint.toNat = stop

namespace StopIndex

/-- The points of a pattern are rows of their table, and at stops that are there. -/
structure Indexable (stops : Nat) (points : Array JourneyPatternPoint) (p : JourneyPattern) :
    Prop where
  inside : p.pointOffset.toNat + p.stopCount.toNat ≤ points.size
  known : ∀ stop, p.Visits points stop → stop < stops

/-- What keeps a pattern from being indexed: its points are not rows of their table, or else
the first of them that is not at a stop that is there. -/
inductive Blocks (stops : Nat) (points : Array JourneyPatternPoint) (number : Nat)
    (p : JourneyPattern) : BrokenReference → Prop where
  | run : points.size < p.pointOffset.toNat + p.stopCount.toNat →
      Blocks stops points number p (.indexedRun number points.size)
  | stop {i : Nat} {point : JourneyPatternPoint} :
      p.pointOffset.toNat + p.stopCount.toNat ≤ points.size → i < p.stopCount.toNat →
      points[p.pointOffset.toNat + i]? = some point → stops ≤ point.stopPoint.toNat →
      (∀ j < i, ∀ before, points[p.pointOffset.toNat + j]? = some before →
        before.stopPoint.toNat < stops) →
      Blocks stops points number p (.indexedStop number point.stopPoint.toNat stops)

/-- A stop index says by stops what the tables say by patterns. -/
structure Inverts (stops : Nat) (patterns : Array JourneyPattern)
    (points : Array JourneyPatternPoint) (index : StopIndex) : Prop where
  /-- There is an offset for each stop, and one behind. -/
  size : index.offsets.values.size = stops + 1
  start : index.offsets.values[0]? = some 0
  ordered : index.offsets.values.toList.Pairwise (· ≤ ·)
  /-- The last list ends with the column. -/
  finish : index.offsets.values[stops]?.map UInt32.toNat = some index.patterns.values.size
  ascending : ∀ stop < stops, (index.patternsFor stop).Pairwise (· < ·)
  mem_patternsFor : ∀ stop < stops, ∀ pattern, pattern ∈ index.patternsFor stop ↔
    ∃ p, patterns[pattern.toNat]? = some p ∧ p.Visits points stop
  /-- Stops that are not there have no patterns. -/
  unknown : ∀ stop, stops ≤ stop → index.patternsFor stop = []

/-- The patterns with the same numbers visit the same stops. -/
def SameVisits (patterns : Array JourneyPattern) (points : Array JourneyPatternPoint)
    (patterns' : Array JourneyPattern) (points' : Array JourneyPatternPoint) : Prop :=
  ∀ pattern stop : Nat, (∃ p : JourneyPattern, patterns[pattern]? = some p ∧ p.Visits points stop) ↔
    ∃ p : JourneyPattern, patterns'[pattern]? = some p ∧ p.Visits points' stop

variable {stops : Nat} {patterns : Array JourneyPattern} {points : Array JourneyPatternPoint}
  {number stop : Nat} {p : JourneyPattern} {index : StopIndex}

/-! ## Tables that can be indexed -/

/-- The first row that something is found for is the one it is found for. -/
theorem findSome?_zipIdx_eq_some {α β : Type} {f : α × Nat → Option β} {l : List α} {i : Nat}
    {a : α} {b : β} (at_ : l[i]? = some a) (found : f (a, i) = some b)
    (before : ∀ j < i, ∀ other, l[j]? = some other → f (other, j) = none) :
    l.zipIdx.findSome? f = some b := by
  obtain ⟨front, rest, split, inFront⟩ := exists_split_zipIdx at_
  refine List.findSome?_eq_some_iff.2 ⟨front, (a, i), rest, split, found, ?_⟩
  rintro ⟨other, j⟩ mem
  obtain ⟨lt, there⟩ := inFront other j mem
  exact before j lt other there

theorem mem_visits_of_inside (inside : p.pointOffset.toNat + p.stopCount.toNat ≤ points.size) :
    stop ∈ visits points p ↔ p.Visits points stop := by
  obtain ⟨run, made⟩ := Option.isSome_iff_exists.1 (Span.isSome_run?.2 inside)
  have found : p.points? points.size = some run := made
  simp only [visits, found, List.mem_map, Span.mem_slice_of_run? made, JourneyPattern.Visits]
  constructor
  · rintro ⟨point, ⟨i, lt, at_⟩, same⟩
    exact ⟨i, lt, point, at_, same⟩
  · rintro ⟨i, lt, point, at_, same⟩
    exact ⟨point, ⟨i, lt, at_⟩, same⟩

theorem Indexable.mem_visits (indexable : Indexable stops points p) :
    stop ∈ visits points p ↔ p.Visits points stop :=
  mem_visits_of_inside indexable.inside

/-- Whatever the fault of a pattern is, it keeps the pattern from being indexed. -/
theorem blocks_of_fault? {broken : BrokenReference}
    (h : fault? stops points number p = some broken) : Blocks stops points number p broken := by
  unfold fault? at h
  split at h
  · rename_i outside
    cases h
    refine .run (Nat.not_le.1 fun inside => ?_)
    have made : (p.points? points.size).isSome := Span.isSome_run?.2 inside
    rw [outside] at made
    cases made
  · rename_i run found
    have inside := Span.isSome_run?.1 (Option.isSome_of_mem found)
    obtain ⟨front, point, rest, slice, own, before⟩ := List.findSome?_eq_some_iff.1 h
    obtain ⟨missing, same⟩ := Option.ite_none_right_eq_some.1 own
    cases same
    have places (i : Nat) := Span.getElem?_slice_of_run? found i
    rw [slice] at places
    have own := places front.length
    rw [List.getElem?_append_right (Nat.le_refl _), Nat.sub_self, List.getElem?_cons_zero] at own
    obtain ⟨lt, at_⟩ := Option.ite_none_right_eq_some.1 own.symm
    refine .stop inside lt at_ missing ?_
    intro j earlier q at_
    have there := places j
    rw [if_pos (earlier.trans lt), at_, List.getElem?_append_left earlier] at there
    simpa using before q (List.mem_of_getElem? there)

theorem fault?_eq_none_iff : fault? stops points number p = none ↔ Indexable stops points p := by
  constructor
  · intro h
    unfold fault? at h
    split at h
    · cases h
    · rename_i run found
      have inside := Span.isSome_run?.1 (Option.isSome_of_mem found)
      refine ⟨inside, ?_⟩
      rintro stop ⟨i, lt, point, at_, rfl⟩
      have mem : point ∈ run.slice := (Span.mem_slice_of_run? found).2 ⟨i, lt, at_⟩
      simpa using List.findSome?_eq_none_iff.1 h point mem
  · intro indexable
    cases fault : fault? stops points number p with
    | none => rfl
    | some broken =>
      cases blocks_of_fault? fault with
      | run outside => exact absurd indexable.inside (Nat.not_le.2 outside)
      | stop _ lt at_ missing _ =>
        exact absurd (indexable.known _ ⟨_, lt, _, at_, rfl⟩) (Nat.not_lt.2 missing)

theorem faults_eq_none_iff : (patterns.zipIdx.findSome? fun (p, number) =>
    fault? stops points number p) = none ↔ ∀ p ∈ patterns, Indexable stops points p := by
  rw [Array.findSome?_eq_none_iff]
  constructor
  · intro none_ p mem
    obtain ⟨number, at_⟩ := Array.mem_iff_getElem?.1 mem
    exact fault?_eq_none_iff.1 (none_ (p, number) (Array.mk_mem_zipIdx_iff_getElem?.2 at_))
  · rintro each ⟨p, number⟩ mem
    have there := Array.mem_of_getElem? (Array.mk_mem_zipIdx_iff_getElem?.1 mem)
    exact fault?_eq_none_iff.2 (each p there)

theorem indexable_of_build (h : build stops patterns points = .ok index) :
    ∀ p ∈ patterns, Indexable stops points p := by
  refine faults_eq_none_iff.1 ?_
  rw [build_ample] at h
  split at h
  · cases h
  · assumption

/-- The first pattern that cannot be indexed is named. -/
theorem build_eq_error (at_ : patterns[number]? = some p) (bad : ¬Indexable stops points p)
    (first : ∀ earlier < number, ∀ q, patterns[earlier]? = some q → Indexable stops points q) :
    ∃ broken, Blocks stops points number p broken ∧
      build stops patterns points = .error (.invalidReference broken) := by
  cases fault : fault? stops points number p with
  | none => exact absurd (fault?_eq_none_iff.1 fault) bad
  | some broken =>
    refine ⟨broken, blocks_of_fault? fault, ?_⟩
    have found : (patterns.zipIdx.findSome? fun (p, number) => fault? stops points number p) =
        some broken := by
      rw [← Array.findSome?_toList, Array.toList_zipIdx]
      refine findSome?_zipIdx_eq_some ((Array.getElem?_toList ..).trans at_) fault ?_
      intro earlier before q there
      exact fault?_eq_none_iff.2 (first earlier before q ((Array.getElem?_toList ..).symm.trans there))
    simp only [build_ample, found]

/-! ## Room for the places -/

/-- A stop whose number has more than 16 bits is not visited. -/
theorem visitors_eq_nil (far : UInt16.size ≤ stop) (patterns : List JourneyPattern) :
    visitors points patterns stop = [] := by
  refine List.eq_nil_iff_forall_not_mem.2 fun number mem => ?_
  obtain ⟨p, -, visited⟩ := mem_visitors.1 mem
  unfold visits at visited
  split at visited
  · cases visited
  · obtain ⟨point, -, rfl⟩ := List.mem_map.1 visited
    exact absurd point.stopPoint.toNat_lt (Nat.not_lt.2 far)

/-- A stop has no pattern twice, so no list is longer than the table of patterns. -/
theorem length_le_of_mem_lists (few : patterns.size ≤ UInt16.size) {list : List UInt16}
    (mem : list ∈ lists stops patterns points) : list.length ≤ patterns.size := by
  obtain ⟨stop, at_⟩ := Array.mem_iff_getElem?.1 mem
  have inside : stop < stops := by
    rw [← (lists_lists stops patterns points).1]
    exact (Array.getElem?_eq_some_iff.1 at_).1
  rw [getElem?_lists few inside] at at_
  cases at_
  rw [List.length_reverse, List.length_map, visitors, List.length_map, ← Array.length_toList,
    ← List.length_zipIdx (l := patterns.toList) (i := 0)]
  exact List.length_filter_le _ _

/-- However many stops there are, the lists have no more entries than there are pairs of a
pattern and a number of 16 bits. -/
theorem length_lists_le (few : patterns.size ≤ UInt16.size) :
    ((lists stops patterns points).toList.map List.length).sum ≤ UInt16.size * patterns.size := by
  have far : ∀ list ∈ (lists stops patterns points).toList.drop UInt16.size, list = [] := by
    intro list mem
    obtain ⟨i, at_⟩ := List.mem_iff_getElem?.1 mem
    rw [List.getElem?_drop, Array.getElem?_toList] at at_
    have inside := (Array.getElem?_eq_some_iff.1 at_).1
    rw [(lists_lists stops patterns points).1] at inside
    rw [getElem?_lists few inside, visitors_eq_nil (Nat.le_add_right _ _)] at at_
    exact (Option.some.inj at_).symm
  have near := List.sum_le_card_nsmul
    (((lists stops patterns points).toList.take UInt16.size).map List.length) patterns.size ?_
  · have none_ : (((lists stops patterns points).toList.drop UInt16.size).map List.length).sum = 0 := by
      refine List.sum_eq_zero fun length mem => ?_
      obtain ⟨list, there, rfl⟩ := List.mem_map.1 mem
      rw [far list there, List.length_nil]
    rw [← List.take_append_drop UInt16.size (lists stops patterns points).toList, List.map_append,
      List.sum_append, none_, Nat.add_zero]
    refine near.trans ?_
    rw [smul_eq_mul, List.length_map]
    exact Nat.mul_le_mul_right _ (List.length_take_le _ _)
  · intro length mem
    obtain ⟨list, there, rfl⟩ := List.mem_map.1 mem
    exact length_le_of_mem_lists few (Array.mem_toList_iff.1 (List.mem_of_mem_take there))

/-- Patterns that can be indexed are indexed if there is room for the places. -/
theorem exists_build_of_indexable (few : patterns.size ≤ Table.maxRows JourneyPattern)
    (room : (stops + 1) * 4 ≤ maxAllocation) (each : ∀ p ∈ patterns, Indexable stops points p) :
    ∃ index, build stops patterns points = .ok index := by
  have few' : patterns.size ≤ UInt16.size := Nat.le_trans few (by decide)
  have places : (starts (lists stops patterns points)).find? (maxOffset < ·) = none := by
    rw [Array.find?_eq_none]
    intro place mem
    have le := (places_starts (lists stops patterns points)).le_finish place mem
    have most : UInt16.size * Table.maxRows JourneyPattern ≤ maxOffset := by decide
    have total : ((lists stops patterns points).toList.map List.length).sum ≤
        UInt16.size * Table.maxRows JourneyPattern :=
      (length_lists_le few').trans (Nat.mul_le_mul_left _ few)
    simpa using le.trans (total.trans most)
  simp only [build_ample, faults_eq_none_iff.2 each, places, if_neg (Nat.not_lt.2 room)]
  exact ⟨_, rfl⟩

/-- Tables with row numbers of 16 bits have an index if the points of each pattern are there
and at stops that are there. -/
theorem exists_build (stopsShort : stops ≤ Width.bits16.maxRows)
    (patternsShort : patterns.size ≤ Width.bits16.maxRows)
    (runs : ∀ pattern ∈ patterns, (pattern.points? points.size).isSome)
    (inside : ∀ point ∈ points, point.stopPoint.toNat < stops) :
    ∃ index, build stops patterns points = .ok index := by
  refine exists_build_of_indexable patternsShort ?_ fun p mem => ?_
  · have most : Width.bits16.maxRows = 65535 := rfl
    have allocation : maxAllocation = 9223372036854775807 := rfl
    omega
  · refine ⟨Span.isSome_run?.1 (runs p mem), ?_⟩
    rintro stop ⟨i, -, point, at_, rfl⟩
    exact inside point (Array.mem_of_getElem? at_)

/-! ## What is indexed -/

theorem inverts_of_build (few : patterns.size ≤ UInt16.size)
    (h : build stops patterns points = .ok index) : Inverts stops patterns points index := by
  have each := indexable_of_build h
  have sound := (build_eq_ok h).1
  have numbers (stop : Nat) (inside : stop < stops) := map_toNat_patternsFor h few inside
  refine ⟨sound.size, ?_, ?_, ?_, ?_, ?_, ?_⟩
  · obtain ⟨-, rfl⟩ := eq_of_build h
    have first : (starts (lists stops patterns points))[0]? = some 0 :=
      getElem?_starts (Nat.zero_le _)
    simp only [Column.ofArray, Array.getElem?_map, first]
    rfl
  · exact sound.ordered.imp UInt32.le_iff_toNat_le.2
  · have last := sound.finish
    rwa [Array.back?_eq_getElem?, sound.size, Nat.add_sub_cancel] at last
  · intro stop inside
    have ascending := pairwise_visitors points patterns.toList stop
    rw [← numbers stop inside, List.pairwise_map] at ascending
    exact ascending.imp UInt16.lt_iff_toNat_lt.2
  · intro stop inside pattern
    have mem : pattern ∈ index.patternsFor stop ↔
        pattern.toNat ∈ visitors points patterns.toList stop := by
      rw [← numbers stop inside, List.mem_map]
      simp only [UInt16.toNat_inj, exists_eq_right]
    rw [mem, mem_visitors]
    refine exists_congr fun p => ?_
    rw [Array.getElem?_toList]
    refine and_congr_right fun at_ => ?_
    exact (each p (Array.mem_of_getElem? at_)).mem_visits
  · intro stop beyond
    have none_ : index.offsets.values[stop + 1]? = none := by
      rw [Array.getElem?_eq_none_iff, sound.size]
      exact Nat.succ_le_succ beyond
    unfold patternsFor
    rw [none_]
    split
    · rename_i found
      cases found
    · rfl

/-- The lists of the stops only depend on which patterns visit which stops. -/
theorem lists_eq_of_visits {patterns' : Array JourneyPattern} {points' : Array JourneyPatternPoint}
    (few : patterns.size ≤ UInt16.size) (few' : patterns'.size ≤ UInt16.size)
    (each : ∀ p ∈ patterns, Indexable stops points p)
    (each' : ∀ p ∈ patterns', Indexable stops points' p)
    (same : SameVisits patterns points patterns' points') :
    lists stops patterns points = lists stops patterns' points' := by
  have visitors_ (stop : Nat) : visitors points patterns.toList stop =
      visitors points' patterns'.toList stop := by
    refine (pairwise_visitors _ _ stop).eq_of_mem_iff (pairwise_visitors _ _ stop) fun number => ?_
    have visited {patterns : Array JourneyPattern} {points : Array JourneyPatternPoint}
        (each : ∀ p ∈ patterns, Indexable stops points p) :
        number ∈ visitors points patterns.toList stop ↔
          ∃ p : JourneyPattern, patterns[number]? = some p ∧ p.Visits points stop := by
      rw [mem_visitors]
      refine exists_congr fun p => ?_
      rw [Array.getElem?_toList]
      exact and_congr_right fun at_ => (each p (Array.mem_of_getElem? at_)).mem_visits
    rw [visited each, visited each', same]
  have size := (lists_lists stops patterns points).1
  have size' := (lists_lists stops patterns' points').1
  refine Array.ext_getElem? fun stop => ?_
  by_cases inside : stop < stops
  · rw [getElem?_lists few inside, getElem?_lists few' inside, visitors_]
  · rw [Array.getElem?_eq_none (by omega), Array.getElem?_eq_none (by omega)]

theorem eq_of_build_of_visits {patterns' : Array JourneyPattern}
    {points' : Array JourneyPatternPoint} {index' : StopIndex}
    (few : patterns.size ≤ UInt16.size) (few' : patterns'.size ≤ UInt16.size)
    (h : build stops patterns points = .ok index) (h' : build stops patterns' points' = .ok index')
    (same : SameVisits patterns points patterns' points') : index = index' := by
  obtain ⟨-, rfl⟩ := eq_of_build h
  obtain ⟨-, rfl⟩ := eq_of_build h'
  rw [lists_eq_of_visits few few' (indexable_of_build h) (indexable_of_build h') same]

/-- The patterns of a table with row numbers of 16 bits can be indexed by stops that there is
room for exactly if each of them can, and otherwise the first one that cannot is named.  What
is built says by stops what the tables say by patterns, and any other tables with the same
visits give the same index. -/
theorem build_inverts (few : patterns.size ≤ Table.maxRows JourneyPattern)
    (room : (stops + 1) * 4 ≤ maxAllocation) :
    ((∃ index, build stops patterns points = .ok index) ↔
      ∀ p ∈ patterns, Indexable stops points p) ∧
    (∀ number p, patterns[number]? = some p → ¬Indexable stops points p →
      (∀ earlier < number, ∀ q, patterns[earlier]? = some q → Indexable stops points q) →
      ∃ broken, Blocks stops points number p broken ∧
        build stops patterns points = .error (.invalidReference broken)) ∧
    ∀ index, build stops patterns points = .ok index →
      Inverts stops patterns points index ∧
      ∀ patterns' points' index', patterns'.size ≤ Table.maxRows JourneyPattern →
        build stops patterns' points' = .ok index' →
        SameVisits patterns points patterns' points' → index' = index := by
  have short {patterns : Array JourneyPattern} (few : patterns.size ≤ Table.maxRows JourneyPattern) :
      patterns.size ≤ UInt16.size := Nat.le_trans few (by decide)
  refine ⟨⟨?_, exists_build_of_indexable few room⟩, ?_, ?_⟩
  · rintro ⟨index, built⟩
    exact indexable_of_build built
  · exact fun number p at_ bad first => build_eq_error at_ bad first
  · intro index built
    refine ⟨inverts_of_build (short few) built, ?_⟩
    intro patterns' points' index' few' built' same
    exact (eq_of_build_of_visits (short few) (short few') built built' same).symm

/-- Points at stops that are not in order, with a stop that comes twice. -/
def loopPoints : Array JourneyPatternPoint := #[⟨0, 0, 0⟩, ⟨2, 0, 0⟩, ⟨0, 0, 0⟩]

/-- A pattern that comes back to its first stop, one with a part of its points, and one
without any. -/
def loopPatterns : Array JourneyPattern :=
  #[⟨0, 3, 0, 0, 0, 0, 0⟩, ⟨1, 1, 0, 0, 0, 0, 0⟩, ⟨3, 0, 0, 0, 0, 0, 0⟩]

/-- The patterns are indexed by four stops, of which two have none. -/
theorem inverts_loop : loopPatterns.size ≤ Table.maxRows JourneyPattern ∧
    (4 + 1) * 4 ≤ maxAllocation ∧ ∃ index, build 4 loopPatterns loopPoints = .ok index ∧
      Inverts 4 loopPatterns loopPoints index := by
  have few : loopPatterns.size ≤ Table.maxRows JourneyPattern := by decide
  have room : (4 + 1) * 4 ≤ maxAllocation := by decide
  obtain ⟨index, built⟩ : ∃ index, build 4 loopPatterns loopPoints = .ok index := ⟨_, rfl⟩
  exact ⟨few, room, index, built, ((build_inverts few room).2.2 index built).1⟩

end StopIndex

end TransitStore
