import Mathlib
import TransitStore.Proofs.Span
import TransitStore.StopIndex

/-!
# What a built stop index holds

The places of a built index are in order, one for each stop point and one behind
(`StopIndex.Places`), the last of them is where the lists end, and the lists have only
patterns of the table they were built from.  `StopIndex.Sound` says this of an
index, and `build_eq_ok` that a built index is one of which it holds.  The list of a stop
has exactly the patterns that visit it, in ascending order (`patternsFor_of_build`).
-/

namespace TransitStore.StopIndex

/-- The stop index fits tables of so many stop points and patterns. -/
structure Sound (stops patterns : Nat) (index : StopIndex) : Prop where
  /-- There is an offset for each stop point, and one behind. -/
  size : index.offsets.values.size = stops + 1
  /-- No list starts before the one in front of it. -/
  ordered : index.offsets.values.toList.Pairwise fun a b => a.toNat ≤ b.toNat
  /-- The last list ends with the column. -/
  finish : index.offsets.values.back?.map UInt32.toNat = some index.patterns.values.size
  /-- The lists have only patterns of the table. -/
  rows : ∀ row ∈ index.patterns.values, row.toNat < patterns

/-! ## Places -/

/-- The places where so many lists start, and where they end. -/
structure Places (count finish : Nat) (places : Array Nat) : Prop where
  /-- There is a place for each list, and one behind. -/
  size : places.size = count + 1
  /-- The places are in order. -/
  ordered : places.toList.Pairwise (· ≤ ·)
  /-- The lists end at the last place. -/
  back : places.back? = some finish
  /-- No place is behind the last one. -/
  le_finish : ∀ place ∈ places, place ≤ finish

theorem Places.push {count finish : Nat} {places : Array Nat} (h : Places count finish places)
    (length : Nat) :
    Places (count + 1) (finish + length) (places.push (places.back?.getD 0 + length)) := by
  rw [h.back, Option.getD_some]
  refine ⟨?_, ?_, Array.back?_push, ?_⟩
  · rw [Array.size_push, h.size]
  · rw [Array.toList_push, List.pairwise_append]
    refine ⟨h.ordered, List.pairwise_singleton _ _, ?_⟩
    intro a ha b hb
    cases List.mem_singleton.1 hb
    have := h.le_finish a (Array.mem_toList_iff.1 ha)
    omega
  · intro place mem
    rcases Array.mem_push.1 mem with mem | rfl
    · have := h.le_finish place mem
      omega
    · exact Nat.le_refl _

/-- The lists start at the sums of the lengths of those in front of them. -/
theorem places_starts (lists : Array (List UInt16)) :
    Places lists.size (lists.toList.map List.length).sum (starts lists) := by
  have step (l : List (List UInt16)) (count finish : Nat) (places : Array Nat)
      (h : Places count finish places) :
      Places (count + l.length) (finish + (l.map List.length).sum)
        (l.foldl (fun places list => places.push (places.back?.getD 0 + list.length)) places) := by
    induction l generalizing count finish places with
    | nil => exact h
    | cons list l ih =>
      have next := ih _ _ _ (h.push list.length)
      rw [Nat.add_assoc, Nat.add_comm 1, Nat.add_assoc] at next
      rw [List.length_cons, List.map_cons, List.sum_cons]
      exact next
  have first : Places 0 0 #[0] := by
    refine ⟨rfl, List.pairwise_singleton _ _, rfl, ?_⟩
    intro place mem
    simp only [List.mem_toArray, List.mem_singleton] at mem
    omega
  have whole := step lists.toList 0 0 #[0] first
  rw [Nat.zero_add, Nat.zero_add, Array.length_toList] at whole
  rwa [starts, ← Array.foldl_toList]

/-! ## Lists -/

/-- There is a list for each stop, with patterns of a table of so many rows. -/
def Lists (stops count : Nat) (lists : Array (List UInt16)) : Prop :=
  lists.size = stops ∧ ∀ list ∈ lists, ∀ row ∈ list, row.toNat < count

theorem Lists.modify {stops count : Nat} {lists : Array (List UInt16)} (h : Lists stops count lists)
    (stop : Nat) {f : List UInt16 → List UInt16}
    (rows : ∀ list, (∀ row ∈ list, row.toNat < count) → ∀ row ∈ f list, row.toNat < count) :
    Lists stops count (lists.modify stop f) := by
  refine ⟨by rw [Array.size_modify, h.1], ?_⟩
  intro list mem
  obtain ⟨i, hi, rfl⟩ := Array.mem_iff_getElem.1 mem
  rw [Array.size_modify] at hi
  rw [Array.getElem_modify]
  split
  · exact rows _ (h.2 _ (Array.getElem_mem hi))
  · exact h.2 _ (Array.getElem_mem hi)

theorem Lists.enter {stops count number : Nat} (inTable : number < count)
    {lists : Array (List UInt16)} (h : Lists stops count lists) (visited : List Nat) :
    Lists stops count (enter lists number visited) := by
  have row : (UInt16.ofNat number).toNat < count :=
    Nat.lt_of_le_of_lt (Nat.mod_le _ _) inTable
  unfold StopIndex.enter
  induction visited generalizing lists with
  | nil => exact h
  | cons stop visited ih =>
    refine ih (h.modify stop ?_)
    intro list rows
    split
    · exact rows
    · intro r mem
      rcases List.mem_cons.1 mem with rfl | mem
      · exact row
      · exact rows r mem

/-- The lists of the stops have only patterns of the table. -/
theorem lists_lists (stops : Nat) (patterns : Array JourneyPattern)
    (points : Array JourneyPatternPoint) :
    Lists stops patterns.size (lists stops patterns points) := by
  have step (l : List (JourneyPattern × Nat)) (inTable : ∀ p ∈ l, p.2 < patterns.size)
      (lists : Array (List UInt16)) (h : Lists stops patterns.size lists) :
      Lists stops patterns.size (l.foldl
        (fun lists pair => enter lists pair.2 (visits points pair.1)) lists) := by
    induction l generalizing lists with
    | nil => exact h
    | cons p l ih =>
      refine ih (fun q mem => inTable q (.tail _ mem)) _ ?_
      exact h.enter (inTable p (.head _)) _
  have first : Lists stops patterns.size (Array.replicate stops []) := by
    refine ⟨Array.size_replicate, ?_⟩
    intro list mem
    cases (Array.mem_replicate.1 mem).2
    intro number mem
    cases mem
  rw [lists, ← Array.foldl_toList]
  refine step _ ?_ _ first
  intro p mem
  rw [Array.toList_zipIdx] at mem
  exact (List.snd_lt_of_mem_zipIdx mem).trans_eq (by simp)

/-! ## Building -/

section

variable {stops : Nat} {patterns : Array JourneyPattern} {points : Array JourneyPatternPoint}
  {index : StopIndex}

/-- An index is built of the lists of the stops, which stand one behind the other, whatever
memory gives the room. -/
theorem eq_of_build [Memory] (h : build stops patterns points = .ok index) :
    (∀ place ∈ starts (lists stops patterns points), place ≤ maxOffset) ∧
      index = ⟨.ofArray ((starts (lists stops patterns points)).map UInt32.ofNat),
        .ofArray ((lists stops patterns points).flatMap fun list => list.reverse.toArray)⟩ := by
  simp only [build] at h
  split at h
  · cases h
  · split at h
    · cases h
    · split at h
      · cases h
      · split at h
        · cases h
        · rename_i none_
          cases h
          exact ⟨by simpa using none_, rfl⟩

theorem toNat_ofNat_place {place : Nat} (small : place ≤ maxOffset) :
    (UInt32.ofNat place).toNat = place := by
  have lt : maxOffset < UInt32.size := by decide
  exact UInt32.toNat_ofNat_of_lt' (Nat.lt_of_le_of_lt small lt)

/-- A built index fits the tables it is built from, and its places are numbers of
32 bits. -/
theorem build_eq_ok [Memory] (h : build stops patterns points = .ok index) :
    index.Sound stops patterns.size ∧ index.patterns.values.size ≤ maxOffset := by
  obtain ⟨small, rfl⟩ := eq_of_build h
  obtain ⟨count, rows⟩ := lists_lists stops patterns points
  have places := places_starts (lists stops patterns points)
  rw [count] at places
  have length : ((lists stops patterns points).flatMap fun list => list.reverse.toArray).size =
      ((lists stops patterns points).toList.map List.length).sum := by
    simp [Array.size_flatMap, ← Array.sum_toList]
  have last : ((lists stops patterns points).toList.map List.length).sum ∈
      starts (lists stops patterns points) := Array.mem_of_back? places.back
  refine ⟨⟨?_, ?_, ?_, ?_⟩, ?_⟩
  · simpa [Column.ofArray] using places.size
  · simp only [Column.ofArray, Array.toList_map]
    rw [List.pairwise_map]
    refine places.ordered.imp_of_mem ?_
    intro a b ha hb le
    rwa [toNat_ofNat_place (small a (Array.mem_toList_iff.1 ha)),
      toNat_ofNat_place (small b (Array.mem_toList_iff.1 hb))]
  · simp only [Column.ofArray, Array.back?_map, places.back, length, Option.map_some]
    rw [toNat_ofNat_place (small _ last)]
  · intro row mem
    obtain ⟨list, inside, mem⟩ := Array.mem_flatMap.1 mem
    exact rows list inside row (by simpa using mem)
  · simp only [Column.ofArray, length]
    exact small _ last

end

/-! ## Patterns of a stop -/

section

variable {points : Array JourneyPatternPoint} {stop number : Nat}

/-- The patterns that visit a stop, in ascending order. -/
def visitors (points : Array JourneyPatternPoint) (patterns : List JourneyPattern) (stop : Nat) :
    List Nat :=
  (patterns.zipIdx.filter fun p => stop ∈ visits points p.1).map (·.2)

theorem mem_visitors {patterns : List JourneyPattern} : number ∈ visitors points patterns stop ↔
    ∃ pattern, patterns[number]? = some pattern ∧ stop ∈ visits points pattern := by
  simp [visitors, List.mk_mem_zipIdx_iff_getElem?]

theorem pairwise_visitors (points : Array JourneyPatternPoint) (patterns : List JourneyPattern)
    (stop : Nat) : (visitors points patterns stop).Pairwise (· < ·) := by
  have numbers : (patterns.zipIdx.map (·.2)).Pairwise (· < ·) := by
    rw [List.zipIdx_map_snd, ← List.range_eq_range']
    exact List.pairwise_lt_range
  exact numbers.sublist (List.filter_sublist.map _)

theorem visitors_concat (patterns : List JourneyPattern) (pattern : JourneyPattern) :
    visitors points (patterns ++ [pattern]) stop = visitors points patterns stop ++
      if stop ∈ visits points pattern then [patterns.length] else [] := by
  rw [visitors, List.zipIdx_append, List.filter_append, List.map_append, Nat.zero_add]
  by_cases visited : stop ∈ visits points pattern <;> simp [visitors, visited]

theorem lt_of_mem_visitors {patterns : List JourneyPattern}
    (mem : number ∈ visitors points patterns stop) : number < patterns.length := by
  obtain ⟨pattern, at_, -⟩ := mem_visitors.1 mem
  exact (List.getElem?_eq_some_iff.1 at_).1

/-- Puts a pattern at the head of a list, where it does not stand there yet. -/
def put (number : Nat) (list : List UInt16) : List UInt16 :=
  if list.head? = some (UInt16.ofNat number) then list else UInt16.ofNat number :: list

theorem put_put (list : List UInt16) : put number (put number list) = put number list := by
  have head : (put number list).head? = some (UInt16.ofNat number) := by
    unfold put
    split
    · assumption
    · rfl
  rw [put, if_pos head]

/-- A pattern is put once at the head of the lists of the stops it visits. -/
theorem getElem?_enter (lists : Array (List UInt16)) (visited : List Nat) :
    (enter lists number visited)[stop]? =
      lists[stop]?.map fun list => if stop ∈ visited then put number list else list := by
  show (visited.foldl (fun lists stop => lists.modify stop (put number)) lists)[stop]? = _
  induction visited generalizing lists with
  | nil => simp
  | cons first visited ih =>
    rw [List.foldl_cons, ih, Array.getElem?_modify]
    cases lists[stop]? with
    | none => simp
    | some list =>
      by_cases here : first = stop
      · by_cases later : stop ∈ visited <;> simp [here, later, put_put]
      · simp [here, Ne.symm here]

/-- The list of a stop has the patterns that visit it, the last one first. -/
theorem getElem?_lists {stops : Nat} {patterns : Array JourneyPattern}
    (few : patterns.size ≤ UInt16.size) (inside : stop < stops) :
    (lists stops patterns points)[stop]? =
      some ((visitors points patterns.toList stop).map UInt16.ofNat).reverse := by
  rw [lists, ← Array.foldl_toList, Array.toList_zipIdx]
  rw [← Array.length_toList] at few
  generalize patterns.toList = l at few ⊢
  induction l using List.reverseRecOn with
  | nil => simp [visitors, inside]
  | append_singleton l pattern ih =>
    rw [List.length_append, List.length_singleton] at few
    rw [List.zipIdx_append, List.foldl_append, visitors_concat]
    simp only [List.zipIdx_singleton, List.foldl_cons, List.foldl_nil]
    rw [getElem?_enter, ih (Nat.le_of_succ_le few), Option.map_some]
    split
    · -- The pattern is new, so it is not the one at the head.
      have other : ((visitors points l stop).map UInt16.ofNat).reverse.head? ≠
          some (UInt16.ofNat l.length) := by
        intro same
        obtain ⟨number, mem, eq⟩ := List.mem_map.1 (List.mem_reverse.1 (List.mem_of_head? same))
        have lt := lt_of_mem_visitors mem
        have eq := congrArg UInt16.toNat eq
        rw [UInt16.toNat_ofNat_of_lt' (by omega), UInt16.toNat_ofNat_of_lt' (by omega)] at eq
        omega
      rw [Nat.zero_add, put, if_neg other]
      simp
    · rw [List.append_nil]

/-- The list of a place starts behind the lists before it. -/
theorem toList_starts (lists : Array (List UInt16)) : (starts lists).toList =
    (List.range (lists.size + 1)).map fun i => ((lists.toList.take i).map List.length).sum := by
  rw [starts, ← Array.foldl_toList, ← Array.length_toList]
  induction lists.toList using List.reverseRecOn with
  | nil => rfl
  | append_singleton l list ih =>
    have last : (l.foldl (fun places list => places.push (places.back?.getD 0 + list.length))
        #[0]).back?.getD 0 = (l.map List.length).sum := by
      rw [← Array.getLast?_toList, ih, List.range_succ]
      simp [List.take_of_length_le]
    rw [List.foldl_append, List.foldl_cons, List.foldl_nil, Array.toList_push, last, ih,
      List.length_append, List.length_singleton, List.range_succ (n := l.length + 1), List.map_append]
    congr 1
    · refine List.map_congr_left fun i mem => ?_
      rw [List.take_append_of_le_length (Nat.lt_succ_iff.1 (List.mem_range.1 mem))]
    · simp [List.take_of_length_le]

theorem getElem?_starts {lists : Array (List UInt16)} {i : Nat} (inside : i ≤ lists.size) :
    (starts lists)[i]? = some ((lists.toList.take i).map List.length).sum := by
  rw [← Array.getElem?_toList, toList_starts, List.getElem?_map,
    List.getElem?_range (Nat.lt_succ_of_le inside), Option.map_some]

/-- A built index has for each stop the patterns that visit it, in ascending order. -/
theorem patternsFor_of_build {stops : Nat} {patterns : Array JourneyPattern} {index : StopIndex}
    (h : build stops patterns points = .ok index) (few : patterns.size ≤ UInt16.size)
    (inside : stop < stops) :
    index.patternsFor stop = (visitors points patterns.toList stop).map UInt16.ofNat := by
  obtain ⟨small, rfl⟩ := eq_of_build h
  have list : (lists stops patterns points)[stop]? = _ := getElem?_lists few inside
  have size := (lists_lists stops patterns points).1
  generalize lists stops patterns points = all at list small size ⊢
  generalize (visitors points patterns.toList stop).map UInt16.ofNat = own at list ⊢
  obtain ⟨front, a, rest, split, rfl⟩ := exists_split (l := all.toList) (i := stop)
    (by rwa [Array.length_toList, size])
  rw [← Array.getElem?_toList, split, List.getElem?_append_right (Nat.le_refl _), Nat.sub_self,
    List.getElem?_cons_zero, Option.some.injEq] at list
  subst list
  have place {i n : Nat} (at_ : (starts all)[i]? = some n) :
      ((starts all).map UInt32.ofNat)[i]? = some (UInt32.ofNat n) ∧ (UInt32.ofNat n).toNat = n :=
    ⟨by rw [Array.getElem?_map, at_]; rfl,
      toNat_ofNat_place (small n (Array.mem_of_getElem? at_))⟩
  obtain ⟨start, startNat⟩ := place (getElem?_starts (i := front.length) (by omega))
  obtain ⟨finish, finishNat⟩ := place (getElem?_starts (i := front.length + 1) (by omega))
  have contents : (all.flatMap fun list => list.reverse.toArray).toList =
      front.flatMap List.reverse ++ (own ++ rest.flatMap List.reverse) := by
    simp [Array.toList_flatMap, split]
  obtain ⟨run, made, same⟩ :=
    Span.exists_slice ((congrFun₂ List.forall₂_eq_eq_eq _ _).mpr contents.symm)
  rw [List.forall₂_eq_eq_eq] at same
  have sums : ((all.toList.take front.length).map List.length).sum =
      (front.flatMap List.reverse).length ∧
      ((all.toList.take (front.length + 1)).map List.length).sum =
        (front.flatMap List.reverse).length + own.length := by
    simp [split, List.length_flatMap, List.take_append, List.take_of_length_le]
  rw [sums.1] at start startNat
  rw [sums.2] at finish finishNat
  rw [Span.run?] at made
  simp only [patternsFor, Column.ofArray, start, finish, startNat, finishNat, made]
  exact same.symm

theorem map_toNat_patternsFor {stops : Nat} {patterns : Array JourneyPattern} {index : StopIndex}
    (h : build stops patterns points = .ok index) (few : patterns.size ≤ UInt16.size)
    (inside : stop < stops) :
    (index.patternsFor stop).map UInt16.toNat = visitors points patterns.toList stop := by
  rw [patternsFor_of_build h few inside, List.map_map]
  refine (List.map_congr_left fun number mem => ?_).trans (List.map_id _)
  have lt := lt_of_mem_visitors mem
  rw [Array.length_toList] at lt
  exact UInt16.toNat_ofNat_of_lt' (lt.trans_le few)

end

/-- It does not matter where the columns of an index live. -/
theorem patternsFor_ofMapped (index : StopIndex) (stop : Nat) :
    (ofMapped index.offsets.values index.patterns.values).patternsFor stop =
      index.patternsFor stop := by
  simp only [patternsFor, ofMapped, Column.ofMapped]
  cases index.offsets.values[stop]? with
  | none => rfl
  | some start =>
    cases index.offsets.values[stop + 1]? with
    | none => rfl
    | some finish =>
      dsimp only
      cases Span.between? index.patterns.values.size start.toNat finish.toNat with
      | none => rfl
      | some span => rfl

end TransitStore.StopIndex
