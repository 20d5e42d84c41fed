import TransitStore.Network.JourneyPattern

/-!
# The stop index

The stop index lists, for each stop point, the journey patterns that visit it,
in ascending order and each once.  The lists stand one behind the other in one
column, and a second column has the place where each list starts and, at its
end, the place where the last one ends.
-/

namespace TransitStore

/-- The journey patterns at each stop point. -/
structure StopIndex where
  /-- The place where the list of each stop starts, and where the last one ends.
  An index that was never built has none. -/
  offsets : Column UInt32 := {}
  /-- The lists, one behind the other. -/
  patterns : Column UInt16 := {}

namespace StopIndex

instance : Inhabited StopIndex := ⟨{}⟩

/-- The index's name in messages. -/
def label : String := "journey patterns at stop"

/-- The greatest place a list can start at. -/
def maxOffset : Nat := UInt32.size - 1

/-- The index of a snapshot with these columns. -/
def ofMapped (offsets : Array UInt32) (patterns : Array UInt16) : StopIndex :=
  ⟨.ofMapped offsets, .ofMapped patterns⟩

/-- Whether the index was never built. -/
def isEmpty (index : StopIndex) : Bool := index.offsets.values.isEmpty

/-- Whether the index belongs to a snapshot. -/
def isMapped (index : StopIndex) : Bool := index.offsets.isMapped || index.patterns.isMapped

/-- The patterns at a stop, none if the stop is not known. -/
def patternsFor (index : StopIndex) (stop : Nat) : List UInt16 :=
  match index.offsets.values[stop]?, index.offsets.values[stop + 1]? with
  | some start, some finish =>
    match Span.between? index.patterns.values.size start.toNat finish.toNat with
    | some span => span.slice
    | none => []
  | _, _ => []

/-! ## Building -/

/-- The first thing that keeps a pattern from being indexed: points past the end
of their table, or else a stop past the end of the stops. -/
def fault? (stops : Nat) (points : Array JourneyPatternPoint) (number : Nat)
    (pattern : JourneyPattern) : Option BrokenReference :=
  match pattern.points? points.size with
  | none => some (.indexedRun number points.size)
  | some run =>
    run.slice.findSome? fun point =>
      if stops ≤ point.stopPoint.toNat then
        some (.indexedStop number point.stopPoint.toNat stops)
      else none

/-- The stops a pattern visits, in order. -/
def visits (points : Array JourneyPatternPoint) (pattern : JourneyPattern) : List Nat :=
  match pattern.points? points.size with
  | none => []
  | some run => run.slice.map (·.stopPoint.toNat)

/-- Puts a pattern at the head of the lists of the stops it visits, where it does
not stand there yet. -/
def enter (lists : Array (List UInt16)) (number : Nat) (stops : List Nat) :
    Array (List UInt16) :=
  stops.foldl (fun lists stop => lists.modify stop fun list =>
    if list.head? = some (UInt16.ofNat number) then list else UInt16.ofNat number :: list) lists

/-- The patterns at each stop, in descending order. -/
def lists (stops : Nat) (patterns : Array JourneyPattern) (points : Array JourneyPatternPoint) :
    Array (List UInt16) :=
  patterns.zipIdx.foldl (fun lists (pattern, number) => enter lists number (visits points pattern))
    (Array.replicate stops [])

/-- The places where lists that stand one behind the other start, and where the
last one ends. -/
def starts (lists : Array (List UInt16)) : Array Nat :=
  lists.foldl (fun places list => places.push (places.back?.getD 0 + list.length)) #[0]

/-- The room for the visits of the patterns.  There is one for each point, as long as
no patterns share their points. -/
def visitsDemand (points : Array JourneyPatternPoint) : Demand := ⟨label, points.size, 4⟩

/-- The room for the places where so many lists start, and where the last one ends. -/
def offsetsDemand (stops : Nat) : Demand := ⟨"PatternsAtStopOffsets", stops + 1, 4⟩

/-- The room for lists. -/
def patternsDemand (lists : Array (List UInt16)) : Demand :=
  ⟨"PatternsAtStopPatterns", lists.foldl (fun count list => count + list.length) 0, 2⟩

/-- The index of `stops` stop points. -/
def build [Memory] (stops : Nat) (patterns : Array JourneyPattern)
    (points : Array JourneyPatternPoint) : Except Error StopIndex :=
  if !(visitsDemand points).isGiven then .error (.outOfMemory label)
  else
    match patterns.zipIdx.findSome? fun (pattern, number) => fault? stops points number pattern with
    | some broken => .error (.invalidReference broken)
    | none =>
      let lists := lists stops patterns points
      if !((offsetsDemand stops).isMet && (patternsDemand lists).isGiven) then
        .error (.outOfMemory label)
      else
        let places := starts lists
        match places.find? (maxOffset < ·) with
        | some place => .error (.indexOverflow label maxOffset place)
        | none =>
          .ok ⟨.ofArray (places.map UInt32.ofNat),
            .ofArray (lists.flatMap fun list => list.reverse.toArray)⟩

/-- Ample memory has room for an index unless its places have too many bytes. -/
theorem build_ample (stops : Nat) (patterns : Array JourneyPattern)
    (points : Array JourneyPatternPoint) :
    build stops patterns points =
      match patterns.zipIdx.findSome? fun (pattern, number) =>
        fault? stops points number pattern with
      | some broken => .error (.invalidReference broken)
      | none =>
        if maxAllocation < (stops + 1) * 4 then .error (.outOfMemory label)
        else
          match (starts (lists stops patterns points)).find? (maxOffset < ·) with
          | some place => .error (.indexOverflow label maxOffset place)
          | none =>
            .ok ⟨.ofArray ((starts (lists stops patterns points)).map UInt32.ofNat),
              .ofArray ((lists stops patterns points).flatMap fun list =>
                list.reverse.toArray)⟩ := by
  have room : (!(offsetsDemand stops).isMet) = decide (maxAllocation < (stops + 1) * 4) := by
    rw [Demand.isMet_ample, ← decide_not]
    exact decide_eq_decide.2 Nat.not_le
  simp only [build, room, Demand.isGiven_ample, Bool.and_true, Bool.not_true, Bool.false_eq_true,
    if_false, decide_eq_true_eq]

end StopIndex

end TransitStore
