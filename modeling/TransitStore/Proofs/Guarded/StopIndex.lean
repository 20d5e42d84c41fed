import Mathlib
import TransitStore.Proofs.Guarded.Access
import TransitStore.Proofs.StopIndex

/-!
# The guarded build of the stop index

The stop index is built from one pair for each visit of a pattern to a stop.  The pairs
are sorted, doubles are dropped, and the lists of the stops are taken off one by one.  The
stops of a pattern are a slice of one column of the points, taken between rows that were
checked against the length of the table.  No fault is made, and the index is the one that
the container's build gives (`stopIndex_eq`).
-/

namespace TransitStore.Guarded

open Snapshot (Shows)
open TransitStore.StopIndex (fault? visits lists starts visitors label maxOffset mem_visitors
  pairwise_visitors lt_of_mem_visitors lists_lists getElem?_lists toList_starts)

/-- A visit of a pattern to a stop: the stop and the pattern. -/
abbrev Visit : Type := UInt16 × UInt16

/-- Visits are sorted by the stop, and those to one stop by the pattern. -/
def Visit.le (a b : Visit) : Bool := a.1 < b.1 || (a.1 = b.1 && a.2 ≤ b.2)

/-- Adds a visit to a stop that is in the table. -/
def addVisit (stops : Nat) (pattern : UInt16) (visits : List Visit) (stop : UInt16) :
    Checked Error (List Visit) :=
  if stops ≤ stop.toNat then
    throw (.invalidReference (.indexedStop pattern.toNat stop.toNat stops))
  else return visits ++ [(stop, pattern)]

/-- Adds the visits of a pattern. -/
def addVisits (image : ByteArray) (stops : Nat) (visits : List Visit) (number : Nat) :
    Checked Error (List Visit) := do
  let pattern ← lift (narrow16 number)
  let points := rowCount image .journeyPatternPoint
  let run ← require (pointsRange? image pattern points)
    (.invalidReference (.indexedRun pattern.toNat points))
  let visited ← lift (slice (Points.stopPoints.read image) run.start run.stop)
  visited.toList.foldlM (addVisit stops pattern) visits

/-- A length as a place where a list starts. -/
def offsetOf (length : Nat) : Except Error UInt32 :=
  if length ≤ maxOffset then .ok (UInt32.ofNat length)
  else .error (.indexOverflow label maxOffset length)

/-- The lists of some stops, and the visits to the other ones. -/
structure Lists where
  rest : List Visit
  patterns : List UInt16
  offsets : List UInt32

/-- Takes the list of a stop off the visits. -/
def takeList (lists : Lists) (stop : Nat) : Except Error Lists := do
  let offset ← offsetOf lists.patterns.length
  let (here, rest) := lists.rest.span (·.1.toNat == stop)
  return ⟨rest, lists.patterns ++ here.map (·.2), lists.offsets ++ [offset]⟩

/-- Takes the lists of all stops off sorted visits. -/
def takeLists (stops : Nat) (visits : List Visit) : Except Error Lists := do
  let lists ← (List.range stops).foldlM takeList ⟨visits, [], []⟩
  let offset ← offsetOf lists.patterns.length
  return { lists with offsets := lists.offsets ++ [offset] }

/-- The columns of the stop index of `stops` stop points, with these visits to them. -/
def indexVisits (stops : Nat) (visits : List Visit) :
    Checked Error (Array UInt32 × Array UInt16) := do
  let offsets ← lift (add stops 1)
  if maxAllocation < offsets * 4 then throw (.outOfMemory label)
  let lists ← settled (takeLists stops (visits.mergeSort Visit.le).dedup)
  return (lists.offsets.toArray, lists.patterns.toArray)

/-- The columns of the stop index of `stops` stop points. -/
def stopIndex (image : ByteArray) (stops : Nat) : Checked Error (Array UInt32 × Array UInt16) := do
  let visits ← (List.range (rowCount image .journeyPattern)).foldlM (addVisits image stops) []
  indexVisits stops visits

/-! ## Visits -/

variable {image : ByteArray} {path : String} {c : Container}

/-- The visits of a numbered pattern. -/
def visitsOf (points : Array JourneyPatternPoint) (number : Nat) (p : JourneyPattern) :
    List Visit :=
  (visits points p).map fun stop => (UInt16.ofNat stop, UInt16.ofNat number)

theorem foldlM_addVisit {stops : Nat} (pattern : UInt16) (run : List JourneyPatternPoint)
    (before : List Visit) :
    (run.map (·.stopPoint)).foldlM (addVisit stops pattern) before =
      settled (match run.findSome? fun point =>
          if stops ≤ point.stopPoint.toNat then
            some (.indexedStop pattern.toNat point.stopPoint.toNat stops)
          else none with
        | some broken => .error (.invalidReference broken)
        | none => .ok (before ++ (run.map (·.stopPoint.toNat)).map fun stop =>
            (UInt16.ofNat stop, UInt16.ofNat pattern.toNat))) := by
  induction run generalizing before with
  | nil =>
    simp
    rfl
  | cons point run ih =>
    rw [List.map_cons, List.foldlM_cons, addVisit, List.findSome?_cons]
    by_cases outside : stops ≤ point.stopPoint.toNat
    · simp only [outside, if_true]
      rfl
    · simp only [outside, if_false, pure_bind, ih]
      congr 1
      cases run.findSome? fun point =>
          if stops ≤ point.stopPoint.toNat then
            some (BrokenReference.indexedStop pattern.toNat point.stopPoint.toNat stops)
          else none with
      | some broken => rfl
      | none => simp

/-- The visits of a pattern are added unless it has a fault. -/
theorem addVisits_eq (shows : Shows path image c) {i : Nat} {p : JourneyPattern}
    (at_ : c.journeyPatterns.rows[i]? = some p) (stops : Nat) (before : List Visit) :
    addVisits image stops before i =
      settled (match fault? stops c.journeyPatternPoints.rows i p with
        | some broken => .error (.invalidReference broken)
        | none => .ok (before ++ visitsOf c.journeyPatternPoints.rows i p)) := by
  obtain ⟨inside, -⟩ := Array.getElem?_eq_some_iff.1 at_
  obtain ⟨pattern, narrowed, rfl⟩ :=
    exists_narrow16 (Nat.lt_trans inside (patterns_lt16 shows))
  have count : rowCount image .journeyPatternPoint = c.journeyPatternPoints.rows.size :=
    rowCount_eq shows _
  have short : c.journeyPatternPoints.rows.size < wordSize :=
    rows_lt_wordSize shows .journeyPatternPoint
  have stopPoints : Points.stopPoints.read image =
      c.journeyPatternPoints.rows.map (·.stopPoint) := Key.read_eq _ shows
  simp only [addVisits, narrowed, lift_ok, pure_bind, count, stopPoints,
    pointsRange?_eq shows pattern short, at_, Option.bind_some, fault?, visitsOf, visits]
  cases p.points? c.journeyPatternPoints.rows.size with
  | none => rfl
  | some run =>
    have slice_ : slice (c.journeyPatternPoints.rows.map (·.stopPoint)) run.places.start
        run.places.stop = .ok (run.slice.map (·.stopPoint)).toArray := slice_places _ run
    simp only [Option.map_some, require_some, pure_bind, slice_, lift_ok, foldlM_addVisit]

theorem foldlM_addVisits (shows : Shows path image c) (stops : Nat) {k : Nat}
    {l : List JourneyPattern}
    (there : ∀ i p, l[i]? = some p → c.journeyPatterns.rows[k + i]? = some p)
    (before : List Visit) :
    (List.range' k l.length).foldlM (addVisits image stops) before =
      settled (match (l.zipIdx k).findSome? fun (p, number) =>
          fault? stops c.journeyPatternPoints.rows number p with
        | some broken => .error (.invalidReference broken)
        | none => .ok (before ++ (l.zipIdx k).flatMap fun (p, number) =>
            visitsOf c.journeyPatternPoints.rows number p)) := by
  induction l generalizing k before with
  | nil =>
    simp
    rfl
  | cons p l ih =>
    have later := forall_getElem?_tail (P := fun i p => c.journeyPatterns.rows[i]? = some p) there
    have at_ : c.journeyPatterns.rows[k]? = some p := there 0 p rfl
    rw [List.length_cons, List.range'_succ, List.foldlM_cons, addVisits_eq shows at_,
      List.zipIdx_cons, List.findSome?_cons, List.flatMap_cons]
    dsimp only
    cases fault? stops c.journeyPatternPoints.rows k p with
    | some broken => rfl
    | none =>
      rw [← List.append_assoc]
      exact ih later _

/-- The visits of all patterns. -/
def allVisits (points : Array JourneyPatternPoint) (patterns : List JourneyPattern) : List Visit :=
  patterns.zipIdx.flatMap fun (p, number) => visitsOf points number p

/-! ## Lists -/

/-- The patterns that visit a stop, by sorted visits. -/
def listOf (visits : List Visit) (stop : Nat) : List UInt16 :=
  (visits.filter (·.1.toNat == stop)).map (·.2)

/-- The place where the list of a stop starts. -/
def placeOf (visits : List Visit) (stop : Nat) : Nat :=
  ((List.range stop).flatMap (listOf visits)).length

/-- The visits to a stop stand in front of those to later stops. -/
theorem span_filter {visits : List Visit} (sorted : visits.Pairwise (·.1 ≤ ·.1)) (stop : Nat) :
    (visits.filter (stop ≤ ·.1.toNat)).span (·.1.toNat == stop) =
      (visits.filter (·.1.toNat == stop), visits.filter (stop < ·.1.toNat)) := by
  rw [List.span_eq_takeWhile_dropWhile]
  induction visits with
  | nil => rfl
  | cons v visits ih =>
    obtain ⟨first, rest⟩ := List.pairwise_cons.1 sorted
    have ih := Prod.ext_iff.1 (ih rest)
    rcases Nat.lt_trichotomy v.1.toNat stop with before | here | behind
    · have no : ¬stop ≤ v.1.toNat := by omega
      have no' : ¬stop < v.1.toNat := by omega
      have no'' : ¬v.1.toNat = stop := by omega
      simpa [List.filter_cons, no, no', no''] using ih
    · have yes : stop ≤ v.1.toNat := by omega
      have no : ¬stop < v.1.toNat := by omega
      simpa [List.filter_cons, yes, no, here] using ih
    · -- All visits from here on are to later stops.
      have later : ∀ w ∈ visits, stop < w.1.toNat := fun w mem =>
        Nat.lt_of_lt_of_le behind (first w mem)
      have all : visits.filter (stop ≤ ·.1.toNat) = visits :=
        List.filter_eq_self.2 fun w mem => by simpa using Nat.le_of_lt (later w mem)
      have all' : visits.filter (stop < ·.1.toNat) = visits :=
        List.filter_eq_self.2 fun w mem => by simpa using later w mem
      have none_ : visits.filter (·.1.toNat == stop) = [] :=
        List.filter_eq_nil_iff.2 fun w mem => by
          have := later w mem
          simp only [beq_iff_eq]
          omega
      have yes : stop ≤ v.1.toNat := by omega
      have no : ¬v.1.toNat = stop := by omega
      simp [yes, no, behind, all, all', none_]

theorem takeList_eq {visits : List Visit} (sorted : visits.Pairwise (·.1 ≤ ·.1)) (stop : Nat)
    (offsets : List UInt32) :
    takeList ⟨visits.filter (stop ≤ ·.1.toNat), (List.range stop).flatMap (listOf visits),
        offsets⟩ stop =
      (offsetOf (placeOf visits stop)).map fun offset =>
        ⟨visits.filter (stop < ·.1.toNat), (List.range (stop + 1)).flatMap (listOf visits),
          offsets ++ [offset]⟩ := by
  have more : (List.range (stop + 1)).flatMap (listOf visits) =
      (List.range stop).flatMap (listOf visits) ++ listOf visits stop := by
    rw [List.range_succ, List.flatMap_append, List.flatMap_singleton]
  rw [takeList, span_filter sorted, more, placeOf]
  cases offsetOf ((List.range stop).flatMap (listOf visits)).length <;> rfl

theorem foldlM_takeList {visits : List Visit} (sorted : visits.Pairwise (·.1 ≤ ·.1))
    (stops : Nat) :
    (List.range stops).foldlM takeList ⟨visits, [], []⟩ =
      match ((List.range stops).map (placeOf visits)).find? (maxOffset < ·) with
      | some place => .error (.indexOverflow label maxOffset place)
      | none => .ok ⟨visits.filter (stops ≤ ·.1.toNat), (List.range stops).flatMap (listOf visits),
          (List.range stops).map fun stop => UInt32.ofNat (placeOf visits stop)⟩ := by
  induction stops with
  | zero =>
    have all : visits.filter (0 ≤ ·.1.toNat) = visits := by simp
    rw [all]
    rfl
  | succ stop ih =>
    rw [List.range_succ, List.foldlM_append, ih, List.map_append, List.find?_append]
    cases ((List.range stop).map (placeOf visits)).find? (maxOffset < ·) with
    | some place => rfl
    | none =>
      show (List.foldlM takeList _ [stop]) = _
      rw [List.foldlM_cons, takeList_eq sorted, offsetOf]
      by_cases small : placeOf visits stop ≤ maxOffset
      · have large : ¬maxOffset < placeOf visits stop := Nat.not_lt.2 small
        simp [small, large, List.range_succ]
        rfl
      · have large : maxOffset < placeOf visits stop := Nat.not_le.1 small
        simp [small, large]
        rfl

theorem takeLists_eq {visits : List Visit} (sorted : visits.Pairwise (·.1 ≤ ·.1)) (stops : Nat) :
    takeLists stops visits =
      match ((List.range (stops + 1)).map (placeOf visits)).find? (maxOffset < ·) with
      | some place => .error (.indexOverflow label maxOffset place)
      | none => .ok ⟨visits.filter (stops ≤ ·.1.toNat), (List.range stops).flatMap (listOf visits),
          (List.range (stops + 1)).map fun stop => UInt32.ofNat (placeOf visits stop)⟩ := by
  rw [takeLists, foldlM_takeList sorted, List.range_succ, List.map_append, List.find?_append]
  cases ((List.range stops).map (placeOf visits)).find? (maxOffset < ·) with
  | some place => rfl
  | none =>
    show ((offsetOf (placeOf visits stops)).map fun offset => _) = _
    rw [offsetOf]
    by_cases small : placeOf visits stops ≤ maxOffset
    · have large : ¬maxOffset < placeOf visits stops := Nat.not_lt.2 small
      simp [small, large]
      rfl
    · have large : maxOffset < placeOf visits stops := Nat.not_le.1 small
      simp [small, large]
      rfl

/-! ## Sorted visits -/

/-- The visits as they are taken off: sorted, and each once. -/
def sortedVisits (visits : List Visit) : List Visit := (visits.mergeSort Visit.le).dedup

theorem pairwise_sortedVisits (visits : List Visit) :
    (sortedVisits visits).Pairwise fun a b => a.1 < b.1 ∨ a.1 = b.1 ∧ a.2 < b.2 := by
  have total (a b : Visit) : (Visit.le a b || Visit.le b a) = true := by
    simp only [Visit.le, Bool.or_eq_true, Bool.and_eq_true, decide_eq_true_eq]
    grind
  have trans (a b d : Visit) (ab : Visit.le a b = true) (bd : Visit.le b d = true) :
      Visit.le a d = true := by
    simp only [Visit.le, Bool.or_eq_true, Bool.and_eq_true, decide_eq_true_eq] at ab bd ⊢
    grind
  have sorted := (List.pairwise_mergeSort trans total visits).sublist (List.dedup_sublist _)
  refine (sorted.and (List.nodup_dedup _)).imp fun {a b} both => ?_
  obtain ⟨le, other⟩ := both
  simp only [Visit.le, Bool.or_eq_true, Bool.and_eq_true, decide_eq_true_eq] at le
  rcases le with first | ⟨same, second⟩
  · exact .inl first
  · refine .inr ⟨same, UInt16.lt_of_le_of_ne second fun eq => other (Prod.ext same eq)⟩

theorem mem_sortedVisits {visits : List Visit} {v : Visit} :
    v ∈ sortedVisits visits ↔ v ∈ visits := by
  rw [sortedVisits, List.mem_dedup, List.mem_mergeSort]

/-- The list of a stop has its patterns in order, and each once. -/
theorem pairwise_listOf (visits : List Visit) (stop : Nat) :
    (listOf (sortedVisits visits) stop).Pairwise (· < ·) := by
  rw [listOf, List.pairwise_map, List.pairwise_filter]
  refine (pairwise_sortedVisits visits).imp fun {a b} before atStop atStop' => ?_
  rcases before with first | ⟨-, second⟩
  · simp only [beq_iff_eq] at atStop atStop'
    have : a.1.toNat < b.1.toNat := first
    omega
  · exact second

theorem mem_allVisits {points : Array JourneyPatternPoint} {patterns : List JourneyPattern}
    {v : Visit} : v ∈ allVisits points patterns ↔
      ∃ number p, patterns[number]? = some p ∧
        ∃ stop ∈ visits points p, (UInt16.ofNat stop, UInt16.ofNat number) = v := by
  simp only [allVisits, visitsOf, List.mem_flatMap, List.mem_map, Prod.exists,
    List.mk_mem_zipIdx_iff_getElem?]
  exact exists_comm

/-- The stops of a pattern are numbers of 16 bits. -/
theorem lt_of_mem_visits {points : Array JourneyPatternPoint} {p : JourneyPattern} {stop : Nat}
    (mem : stop ∈ visits points p) : stop < UInt16.size := by
  rw [visits] at mem
  split at mem
  · cases mem
  · obtain ⟨point, -, rfl⟩ := List.mem_map.1 mem
    exact point.stopPoint.toNat_lt

theorem listOf_sortedVisits {points : Array JourneyPatternPoint} {patterns : List JourneyPattern}
    (few : patterns.length ≤ UInt16.size) (stop : Nat) :
    listOf (sortedVisits (allVisits points patterns)) stop =
      (visitors points patterns stop).map UInt16.ofNat := by
  have ascending : ((visitors points patterns stop).map UInt16.ofNat).Pairwise (· < ·) := by
    rw [List.pairwise_map]
    refine (pairwise_visitors points patterns stop).imp_of_mem fun {a b} memA memB lt => ?_
    have smallA := lt_of_mem_visitors memA
    have smallB := lt_of_mem_visitors memB
    rw [UInt16.lt_iff_toNat_lt, UInt16.toNat_ofNat_of_lt' (by omega),
      UInt16.toNat_ofNat_of_lt' (by omega)]
    exact lt
  refine (pairwise_listOf _ stop).eq_of_mem_iff ascending fun pattern => ?_
  simp only [listOf, List.mem_map, List.mem_filter, mem_sortedVisits, mem_allVisits, mem_visitors]
  constructor
  · rintro ⟨-, ⟨⟨number, p, at_, stop', visited, rfl⟩, here⟩, rfl⟩
    rw [beq_iff_eq, UInt16.toNat_ofNat_of_lt' (lt_of_mem_visits visited)] at here
    exact ⟨number, ⟨p, at_, here ▸ visited⟩, rfl⟩
  · rintro ⟨number, ⟨p, at_, visited⟩, rfl⟩
    refine ⟨_, ⟨⟨number, p, at_, stop, visited, rfl⟩, ?_⟩, rfl⟩
    rw [beq_iff_eq, UInt16.toNat_ofNat_of_lt' (lt_of_mem_visits visited)]

/-! ## The index -/

section

variable {stops : Nat} {patterns : Array JourneyPattern} {points : Array JourneyPatternPoint}

/-- The lists of the container's build are those that are taken off, each in reverse. -/
theorem toList_lists (few : patterns.size ≤ UInt16.size) : (lists stops patterns points).toList =
    (List.range stops).map fun stop =>
      (listOf (sortedVisits (allVisits points patterns.toList)) stop).reverse := by
  have size : (lists stops patterns points).size = stops := (lists_lists stops patterns points).1
  refine List.ext_getElem? fun stop => ?_
  rw [Array.getElem?_toList, List.getElem?_map]
  by_cases inside : stop < stops
  · rw [getElem?_lists few inside, List.getElem?_range inside, Option.map_some,
      listOf_sortedVisits (by rwa [Array.length_toList])]
  · rw [Array.getElem?_eq_none (by omega), List.getElem?_eq_none (by simpa using inside)]
    rfl

theorem toList_starts_lists (few : patterns.size ≤ UInt16.size) :
    (starts (lists stops patterns points)).toList =
      (List.range (stops + 1)).map (placeOf (sortedVisits (allVisits points patterns.toList))) := by
  rw [toList_starts, (lists_lists stops patterns points).1, toList_lists few]
  refine List.map_congr_left fun stop mem => ?_
  have inside : min stop stops = stop := Nat.min_eq_left (Nat.lt_succ_iff.1 (List.mem_range.1 mem))
  rw [← List.map_take, List.take_range, inside, placeOf, List.length_flatMap, List.map_map]
  congr 1
  exact List.map_congr_left fun _ _ => List.length_reverse

theorem indexVisits_eq (few : patterns.size ≤ UInt16.size) (small : stops + 1 < wordSize) :
    indexVisits stops (allVisits points patterns.toList) =
      settled (if maxAllocation < (stops + 1) * 4 then .error (.outOfMemory label)
        else match (starts (lists stops patterns points)).find? (maxOffset < ·) with
        | some place => .error (.indexOverflow label maxOffset place)
        | none => .ok ((starts (lists stops patterns points)).map UInt32.ofNat,
          (lists stops patterns points).flatMap fun list => list.reverse.toArray)) := by
  rw [indexVisits, add_of_lt small, lift_ok, pure_bind]
  by_cases large : maxAllocation < (stops + 1) * 4
  · simp only [large, if_true]
    rfl
  · have sorted : (sortedVisits (allVisits points patterns.toList)).Pairwise (·.1 ≤ ·.1) :=
      (pairwise_sortedVisits _).imp fun before => by grind
    have places : (starts (lists stops patterns points)).toList = _ := toList_starts_lists few
    have taken := takeLists_eq sorted stops
    rw [← places, Array.find?_toList] at taken
    simp only [large, if_false]
    rw [← sortedVisits, taken]
    cases (starts (lists stops patterns points)).find? (maxOffset < ·) with
    | some place => rfl
    | none =>
      have offsets : (starts (lists stops patterns points)).map UInt32.ofNat =
          ((List.range (stops + 1)).map fun stop => UInt32.ofNat
            (placeOf (sortedVisits (allVisits points patterns.toList)) stop)).toArray := by
        refine Array.toList_inj.1 ?_
        rw [Array.toList_map, places, List.map_map]
        rfl
      have contents : ((lists stops patterns points).flatMap fun list => list.reverse.toArray) =
          ((List.range stops).flatMap
            (listOf (sortedVisits (allVisits points patterns.toList)))).toArray := by
        refine Array.toList_inj.1 ?_
        rw [Array.toList_flatMap, toList_lists few, List.flatMap_map]
        simp
      rw [offsets, contents]
      rfl

end

/-- No fault is made on the way to the stop index, and it is the one of the container's
tables.  The place behind the last list is counted, so there must be one more number than
stops. -/
theorem stopIndex_eq (shows : Shows path image c) {stops : Nat} (small : stops + 1 < wordSize) :
    stopIndex image stops =
      settled ((TransitStore.StopIndex.build stops c.journeyPatterns.rows
        c.journeyPatternPoints.rows).map fun index =>
          (index.offsets.values, index.patterns.values)) := by
  have patterns : rowCount image .journeyPattern = c.journeyPatterns.rows.toList.length := by
    rw [Array.length_toList]
    exact rowCount_eq shows _
  have few : c.journeyPatterns.rows.size ≤ UInt16.size := Nat.le_of_lt (patterns_lt16 shows)
  have there : ∀ i p, c.journeyPatterns.rows.toList[i]? = some p →
      c.journeyPatterns.rows[0 + i]? = some p := by
    intro i p at_
    rwa [Nat.zero_add, ← Array.getElem?_toList]
  rw [stopIndex, patterns, List.range_eq_range', foldlM_addVisits shows _ there,
    TransitStore.StopIndex.build_ample, ← Array.findSome?_toList, Array.toList_zipIdx]
  cases (c.journeyPatterns.rows.toList.zipIdx 0).findSome? fun (p, number) =>
      fault? stops c.journeyPatternPoints.rows number p with
  | some broken => rfl
  | none =>
    refine (indexVisits_eq few small).trans (congrArg settled ?_)
    by_cases large : maxAllocation < (stops + 1) * 4
    · simp only [large, if_true]
      rfl
    · simp only [large, if_false]
      cases (starts (lists stops c.journeyPatterns.rows
          c.journeyPatternPoints.rows)).find? (maxOffset < ·) <;> rfl

end TransitStore.Guarded
