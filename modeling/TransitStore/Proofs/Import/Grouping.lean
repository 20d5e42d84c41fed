import Mathlib
import TransitStore.Proofs.Import.Following

/-!
# Groups of trips

Trips are put into the group of their key, each group is sorted by departure and cut
into pieces that a journey pattern can hold.  The keys appear once each, so the groups
have all trips and none twice (`perm_flatMap_group`), and so have the pieces
(`perm_piecesOf`).  The keys appear in the order of the trips (`group_eq_eraseDups`), and
sorting leaves trips that depart together as they are (`stablySorted_mergeSort`).
-/

namespace TransitStore.Import

/-! ## Groups -/

/-- Groups have the keys of some trips, each once, and the trips of each key. -/
structure Groups.Of (keyed : List (PatternKey × FollowedTrip)) (g : Groups) : Prop where
  nodup : g.keys.toList.Nodup
  keys : ∀ key, key ∈ g.keys ↔ key ∈ keyed.map (·.1)
  contains : ∀ key, g.trips.contains key = true ↔ key ∈ keyed.map (·.1)
  /-- The last trip of a key comes first. -/
  trips : ∀ key, g.trips.getD key [] = ((keyed.filter (·.1 == key)).map (·.2)).reverse

theorem Groups.of_nil : Groups.Of [] {} where
  nodup := List.nodup_nil
  keys key := by simp
  contains key := by simp
  trips key := by simp

theorem Groups.Of.add {keyed : List (PatternKey × FollowedTrip)} {g : Groups} (of : g.Of keyed)
    (key : PatternKey) (t : FollowedTrip) : (g.add key t).Of (keyed ++ [(key, t)]) := by
  have keys : (g.add key t).keys = if g.trips.contains key then g.keys else g.keys.push key := rfl
  have known (key' : PatternKey) : key' ∈ (keyed ++ [(key, t)]).map (·.1) ↔
      key' ∈ keyed.map (·.1) ∨ key' = key := by
    rw [List.map_append, List.mem_append, List.map_singleton, List.mem_singleton]
  refine ⟨?_, ?_, ?_, ?_⟩
  · rw [keys]
    split
    · exact of.nodup
    · rename_i new
      rw [Array.toList_push, ← List.concat_eq_append]
      refine of.nodup.concat ?_
      rwa [Array.mem_toList_iff, of.keys, ← of.contains]
  · intro key'
    rw [keys, known]
    split
    · rename_i old
      rw [of.keys, iff_self_or]
      rintro rfl
      exact (of.contains _).1 old
    · rw [Array.mem_push, of.keys]
  · intro key'
    rw [known, ← of.contains, Groups.add, Std.HashMap.contains_alter]
    by_cases same : key = key'
    · simp [same]
    · simp [same, Ne.symm same]
  · intro key'
    rw [Groups.add, Std.HashMap.getD_alter, List.filter_append, List.map_append,
      List.reverse_append, ← of.trips]
    by_cases same : key == key'
    · cases LawfulBEq.eq_of_beq same
      rw [if_pos same, ← Std.HashMap.getD_eq_getD_getElem?]
      simp
    · rw [if_neg same]
      simp [same]

theorem Groups.of_foldl (keyed : List (PatternKey × FollowedTrip)) :
    (keyed.foldl (fun g (key, t) => Groups.add g key t) {}).Of keyed := by
  induction keyed using List.reverseRecOn with
  | nil => exact Groups.of_nil
  | append_singleton keyed last ih =>
    rw [List.foldl_append]
    exact ih.add last.1 last.2

/-- The trips of a key in order of departure. -/
def tripsOf (keyed : List (PatternKey × FollowedTrip)) (key : PatternKey) : List FollowedTrip :=
  ((keyed.filter (·.1 == key)).map (·.2)).mergeSort fun a b => a.firstDeparture ≤ b.firstDeparture

/-- Each key that appears has a group, which has its trips. -/
theorem group_eq (keyed : List (PatternKey × FollowedTrip)) : ∃ keys : List PatternKey,
    keys.Nodup ∧ (∀ key, key ∈ keys ↔ key ∈ keyed.map (·.1)) ∧
      group keyed = keys.map fun key => (key, tripsOf keyed key) := by
  have of := Groups.of_foldl keyed
  refine ⟨_, of.nodup, fun key => by rw [Array.mem_toList_iff, of.keys], ?_⟩
  refine List.map_congr_left fun key _ => ?_
  rw [of.trips, List.reverse_reverse]
  rfl

theorem eraseDups_concat {α : Type} [DecidableEq α] (l : List α) (a : α) :
    (l ++ [a]).eraseDups = if a ∈ l then l.eraseDups else l.eraseDups ++ [a] := by
  rw [List.eraseDups_append]
  split
  · rename_i old
    simp [List.removeAll, old]
  · rename_i new
    simp [List.removeAll, new, List.eraseDups_cons]

theorem keys_foldl_add (keyed : List (PatternKey × FollowedTrip)) :
    (keyed.foldl (fun g (key, t) => Groups.add g key t) {}).keys.toList =
      (keyed.map (·.1)).eraseDups := by
  induction keyed using List.reverseRecOn with
  | nil => rfl
  | append_singleton keyed last ih =>
    obtain ⟨key, t⟩ := last
    have known := (Groups.of_foldl keyed).contains key
    rw [List.foldl_append, List.foldl_cons, List.foldl_nil, List.map_append, List.map_singleton,
      eraseDups_concat, ← ih]
    show (if _ then _ else _ : Array PatternKey).toList = _
    by_cases old : key ∈ keyed.map (·.1)
    · rw [if_pos (known.2 old), if_pos old]
    · rw [if_neg fun contains => old (known.1 contains), if_neg old, Array.toList_push]

/-- The groups stand in the order in which their keys appear for the first time. -/
theorem group_eq_eraseDups (keyed : List (PatternKey × FollowedTrip)) : group keyed =
    (keyed.map (·.1)).eraseDups.map fun key => (key, tripsOf keyed key) := by
  rw [← keys_foldl_add]
  refine List.map_congr_left fun key _ => ?_
  rw [(Groups.of_foldl keyed).trips, List.reverse_reverse]
  rfl

theorem mem_group {keyed : List (PatternKey × FollowedTrip)} {key : PatternKey}
    {trips : List FollowedTrip} (mem : (key, trips) ∈ group keyed) {t : FollowedTrip}
    (trip : t ∈ trips) : (key, t) ∈ keyed := by
  obtain ⟨keys, -, -, groups⟩ := group_eq keyed
  rw [groups] at mem
  obtain ⟨key', -, same⟩ := List.mem_map.1 mem
  cases same
  obtain ⟨⟨key', t'⟩, found, rfl⟩ := List.mem_map.1 (List.mem_mergeSort.1 trip)
  obtain ⟨there, same⟩ := List.mem_filter.1 found
  cases LawfulBEq.eq_of_beq same
  exact there

/-- A list falls into the parts with each value of a function. -/
theorem perm_flatMap_filter {α β : Type} [BEq β] [LawfulBEq β] (f : α → β) {values : List β}
    (nodup : values.Nodup) {l : List α} (cover : ∀ a ∈ l, f a ∈ values) :
    (values.flatMap fun b => l.filter (f · == b)).Perm l := by
  induction values generalizing l with
  | nil => rw [List.eq_nil_iff_forall_not_mem.2 fun a mem => nomatch cover a mem]; rfl
  | cons b values ih =>
    obtain ⟨new, nodup⟩ := List.nodup_cons.1 nodup
    -- The values are different, so the other parts are those of the list without the first.
    have rest : (values.flatMap fun b' => l.filter (f · == b')) =
        values.flatMap fun b' => (l.filter (!f · == b)).filter (f · == b') := by
      refine List.flatMap_congr fun b' mem => ?_
      rw [List.filter_filter]
      refine List.filter_congr fun a _ => ?_
      by_cases same : f a = b'
      · have other : b' ≠ b := fun eq => new (eq ▸ mem)
        simp [same, other]
      · simp [same]
    rw [List.flatMap_cons, rest]
    refine ((ih nodup ?_).append_left _).trans (List.filter_append_perm (f · == b) l)
    intro a mem
    obtain ⟨mem, other⟩ := List.mem_filter.1 mem
    refine (List.mem_cons.1 (cover a mem)).resolve_left fun same => ?_
    simp [same] at other

/-- The groups have all trips, and none twice. -/
theorem perm_flatMap_group (keyed : List (PatternKey × FollowedTrip)) :
    ((group keyed).flatMap (·.2)).Perm (keyed.map (·.2)) := by
  obtain ⟨keys, nodup, known, groups⟩ := group_eq keyed
  rw [groups, List.flatMap_map]
  have sorted : (keys.flatMap fun key => tripsOf keyed key).Perm
      (keys.flatMap fun key => (keyed.filter (·.1 == key)).map (·.2)) :=
    List.Perm.flatMap_left _ fun key _ => List.mergeSort_perm _ _
  refine sorted.trans ?_
  rw [← List.map_flatMap]
  exact (perm_flatMap_filter Prod.fst nodup fun t mem => (known _).2 (List.mem_map_of_mem mem)).map _

/-! ## Sorting -/

/-- A list is sorted by a number, and elements with one number stand as in the list that it
was made of. -/
structure StablySorted {α : Type} (f : α → Nat) (l sorted : List α) : Prop where
  ordered : sorted.Pairwise fun a b => f a ≤ f b
  stable : ∀ n, sorted.filter (f · = n) = l.filter (f · = n)

theorem stablySorted_mergeSort {α : Type} (f : α → Nat) (l : List α) :
    StablySorted f l (l.mergeSort fun a b => f a ≤ f b) := by
  have trans (a b c : α) : decide (f a ≤ f b) = true → decide (f b ≤ f c) = true →
      decide (f a ≤ f c) = true := by
    simpa using Nat.le_trans
  have total (a b : α) : (decide (f a ≤ f b) || decide (f b ≤ f a)) = true := by
    simpa using Nat.le_total (f a) (f b)
  constructor
  · simpa using List.pairwise_mergeSort trans total l
  · intro n
    have same : (l.filter (f · = n)).Pairwise fun a b => decide (f a ≤ f b) = true := by
      refine List.pairwise_of_forall_mem_list ?_
      intro a memA b memB
      simp only [List.mem_filter, decide_eq_true_eq] at memA memB
      simp [memA.2, memB.2]
    -- What has the number is in order as it stands, so sorting keeps it, and there is no more.
    have kept := (List.sublist_mergeSort trans total same List.filter_sublist).filter (f · = n)
    rw [List.filter_filter] at kept
    simp only [Bool.and_self] at kept
    exact (kept.eq_of_length ((List.mergeSort_perm l _).filter _).length_eq.symm).symm

/-! ## Pieces -/

/-- A piece of a list is not empty, and has only members of the list. -/
theorem mem_chunks {α : Type} {size : Nat} {list piece : List α} (mem : piece ∈ chunks size list) :
    piece ≠ [] ∧ piece ⊆ list := by
  fun_induction chunks size list with
  | case1 => cases mem
  | case2 a rest ih =>
    rcases List.mem_cons.1 mem with rfl | mem
    · exact ⟨List.cons_ne_nil _ _, List.cons_subset_cons a (List.take_subset _ _)⟩
    · obtain ⟨some_, subset⟩ := ih mem
      exact ⟨some_, fun b mem => List.mem_cons_of_mem a (List.mem_of_mem_drop (subset mem))⟩

theorem length_le_of_mem_chunks {α : Type} {size : Nat} {list piece : List α}
    (mem : piece ∈ chunks size list) : piece.length ≤ size + 1 := by
  fun_induction chunks size list with
  | case1 => cases mem
  | case2 a rest ih =>
    rcases List.mem_cons.1 mem with rfl | mem
    · rw [List.length_cons]
      exact Nat.succ_le_succ (List.length_take_le _ _)
    · exact ih mem

theorem flatten_chunks {α : Type} (size : Nat) (list : List α) :
    (chunks size list).flatten = list := by
  fun_induction chunks size list with
  | case1 => rfl
  | case2 a rest ih => rw [List.flatten_cons, ih, List.cons_append, List.take_append_drop]

theorem length_chunks {α : Type} (size : Nat) (list : List α) :
    (chunks size list).length = list.length ⌈/⌉ (size + 1) := by
  have up (n : Nat) : n ⌈/⌉ (size + 1) = (n + size) / (size + 1) := Nat.ceilDiv_eq_add_pred_div ..
  simp only [up]
  fun_induction chunks size list with
  | case1 => simp [Nat.div_eq_of_lt (Nat.lt_succ_self size)]
  | case2 a rest ih =>
    rw [List.length_cons, ih, List.length_drop, List.length_cons, Nat.add_right_comm,
      Nat.add_assoc rest.length, Nat.add_div_right _ (Nat.succ_pos size)]
    rcases Nat.lt_or_ge rest.length size with short | long
    · rw [Nat.sub_eq_zero_of_le short.le, Nat.zero_add, Nat.div_eq_of_lt (Nat.lt_succ_self size),
        Nat.div_eq_of_lt (short.trans (Nat.lt_succ_self size))]
    · rw [Nat.sub_add_cancel long]

/-- Each piece but the last has its full size, so a piece starts behind that many. -/
theorem exists_split_chunks {α : Type} {size i : Nat} {list : List α}
    (inside : i < list.length ⌈/⌉ (size + 1)) : ∃ before after,
      chunks size list =
        before ++ (list.drop (i * (size + 1))).take (size + 1) :: after ∧
      before.length = i ∧ before.flatten = list.take (i * (size + 1)) := by
  rw [← length_chunks] at inside
  induction i generalizing list with
  | zero =>
    cases list with
    | nil => simp [chunks] at inside
    | cons a rest => exact ⟨[], chunks size (rest.drop size), by simp [chunks], rfl, by simp⟩
  | succ i ih =>
    cases list with
    | nil => simp [chunks] at inside
    | cons a rest =>
      rw [chunks, List.length_cons] at inside
      obtain ⟨before, after, cut, length, flat⟩ := ih (Nat.lt_of_succ_lt_succ inside)
      have place : (i + 1) * (size + 1) = size + i * (size + 1) + 1 := by
        rw [Nat.succ_mul, Nat.add_comm, Nat.add_right_comm]
      refine ⟨(a :: rest.take size) :: before, after, ?_, ?_, ?_⟩
      · rw [chunks, cut, List.drop_drop, place, List.drop_succ_cons, List.cons_append]
      · rw [List.length_cons, length]
      · rw [List.flatten_cons, flat, place, List.take_succ_cons, List.cons_append, List.take_add]

/-- Trips of one journey pattern with their key. -/
abbrev Piece := PatternKey × List FollowedTrip

/-- The pieces that become the journey patterns of a feed. -/
def piecesOf (feed : Feed) : List Piece :=
  (group (keyedTrips feed)).flatMap fun (key, trips) =>
    (chunks (maxJourneys - 1) trips).map (key, ·)

/-- The journey patterns have all trips, and none twice. -/
theorem perm_piecesOf (feed : Feed) :
    ((piecesOf feed).flatMap (·.2)).Perm ((keyedTrips feed).map (·.2)) := by
  have pieces : (piecesOf feed).flatMap (·.2) = (group (keyedTrips feed)).flatMap (·.2) := by
    rw [piecesOf, List.flatMap_assoc]
    refine List.flatMap_congr fun (key, trips) _ => ?_
    rw [List.flatMap_map, List.flatMap_id', flatten_chunks]
  rw [pieces]
  exact perm_flatMap_group _

/-- A journey pattern has some trips, but no more than it can count, and only those of its
key. -/
theorem mem_piecesOf {feed : Feed} {key : PatternKey} {trips : List FollowedTrip}
    (mem : (key, trips) ∈ piecesOf feed) :
    trips ≠ [] ∧ trips.length ≤ maxJourneys ∧ ∀ t ∈ trips, (key, t) ∈ keyedTrips feed := by
  obtain ⟨⟨key', all⟩, grouped, piece⟩ := List.mem_flatMap.1 mem
  obtain ⟨trips', cut, same⟩ := List.mem_map.1 piece
  cases same
  obtain ⟨some_, subset⟩ := mem_chunks cut
  exact ⟨some_, length_le_of_mem_chunks cut, fun t trip => mem_group grouped (subset trip)⟩

end TransitStore.Import
