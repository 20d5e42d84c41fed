import Mathlib
import TransitStore.Proofs.Import.Journeys

/-!
# Trips and journey patterns

The journey patterns of an imported container are those of the keys of its trips, in the
order in which the keys appear in the feed (`Patterned`).  A key has as many patterns as
it takes to count its trips, one behind the other, and through them its trips stand in
the order of their departures.  Each pattern has points of its own that say what the key
says (`PatternOf`).
-/

namespace TransitStore.Import

open Entity Container

/-! ## Keys -/

/-- The last row with a property, if there is one. -/
def lastRow {α : Type} (l : List α) (p : α → Bool) : Nat := l.length - 1 - l.reverse.findIdx p

theorem LastRow.lastRow_eq {α : Type} {l : List α} {p : α → Bool} {row : Nat}
    (last : LastRow l (p · = true) row) : lastRow l p = row := by
  induction l using List.reverseRecOn with
  | nil => exact nomatch last.lt_length
  | append_singleton l a ih =>
    rw [lastRow, List.reverse_concat, List.findIdx_cons, List.length_append, List.length_singleton,
      Nat.add_sub_cancel]
    cases holds : p a with
    | true => exact ((lastRow_concat_of_pos (p := (p · = true)) holds).1 last).symm
    | false =>
      have fails : ¬ p a = true := by simp [holds]
      rw [lastRow_concat_of_neg (p := (p · = true)) fails] at last
      rw [← ih last, lastRow, cond_false, Nat.sub_sub, Nat.add_comm 1]

/-- A key is that of a trip: its line is the last route with the identifier, its stops are
those of the stop times, and so is who may get on and off there. -/
structure KeyOf (feed : Feed) (trip : Feed.Trip) (key : PatternKey) : Prop where
  line : LastRow feed.routes (·.id = trip.routeId) key.line.toNat
  stops : List.Forall₂ (fun time stop => LastRow (stopPoints feed) (·.id = time.stopId) stop.toNat)
    (timesOf feed trip) key.stops
  attributes : key.attributes = (timesOf feed trip).zipIdx.map fun time =>
    boardingRules time.1 (time.2 == 0) (time.2 + 1 == (timesOf feed trip).length)
  headsign : key.headsign = trip.headsign.getD ""

/-- The key of a trip. -/
def keyOf (feed : Feed) (trip : Feed.Trip) : PatternKey where
  line := UInt16.ofNat (lastRow feed.routes (·.id = trip.routeId))
  stops := (timesOf feed trip).map fun time =>
    UInt16.ofNat (lastRow (stopPoints feed) (·.id = time.stopId))
  attributes := (timesOf feed trip).zipIdx.map fun time =>
    boardingRules time.1 (time.2 == 0) (time.2 + 1 == (timesOf feed trip).length)
  headsign := trip.headsign.getD ""

/-- The trips of a feed that become vehicle journeys. -/
def keptTrips (feed : Feed) : List Feed.Trip := feed.trips.filter fun trip => Usable feed trip

/-- The second at which a trip departs from its first stop. -/
def departureAt (feed : Feed) (trip : Feed.Trip) : Nat :=
  ((timesOf feed trip).head?.map departureOf).getD 0

variable {feed : Feed} {key : PatternKey} {t : FollowedTrip}

theorem FollowedTrip.Along.firstDeparture_eq (along : t.Along feed) :
    t.firstDeparture = departureAt feed t.trip := by
  have departures := along.map_times fun _ departure => departure
  rw [FollowedTrip.firstDeparture, departureAt, ← List.head?_map, ← List.head?_map, departures]

theorem keyOf_eq (mem : (key, t) ∈ keyedTrips feed) : keyOf feed t.trip = key := by
  obtain ⟨along, line, last, rfl⟩ := along_of_mem_keyedTrips mem
  have found : lastRow feed.routes (·.id = t.trip.routeId) = line :=
    LastRow.lastRow_eq (by simpa using last)
  have stops : t.visits.map (·.stop) = (timesOf feed t.trip).map fun time =>
      UInt16.ofNat (lastRow (stopPoints feed) (·.id = time.stopId)) := by
    refine map_eq_map_of_forall₂ (forall₂_zipIdx_iff.1 (along.imp fun time v visit => ?_))
    obtain ⟨row, last, at_⟩ := visit.stop
    have found : lastRow (stopPoints feed) (·.id = time.1.stopId) = row :=
      LastRow.lastRow_eq (by simpa using last)
    rw [at_, found]
  have attributes : t.visits.map (·.attributes) = (timesOf feed t.trip).zipIdx.map fun time =>
      boardingRules time.1 (time.2 == 0) (time.2 + 1 == (timesOf feed t.trip).length) :=
    map_eq_map_of_forall₂ (along.imp fun time v visit => visit.attributes.symm)
  rw [keyOf, PatternKey.of, found, stops, attributes]

theorem keyOf_of_mem (mem : (key, t) ∈ keyedTrips feed)
    (routes : feed.routes.length < UInt16.size)
    (stops : (stopPoints feed).length < UInt16.size) : KeyOf feed t.trip key := by
  obtain ⟨along, line, last, same⟩ := along_of_mem_keyedTrips mem
  have known := keyOf_eq mem
  refine ⟨?_, ?_, ?_, ?_⟩
  · rw [same, PatternKey.of, UInt16.toNat_ofNat_of_lt' (last.lt_length.trans routes)]
    exact last
  · rw [same, PatternKey.of, List.forall₂_map_right_iff]
    refine forall₂_zipIdx_iff.1 (along.imp fun time v visit => ?_)
    obtain ⟨row, last, at_⟩ := visit.stop
    rw [at_, UInt16.toNat_ofNat_of_lt' (last.lt_length.trans stops)]
    exact last
  · rw [← known]
    rfl
  · rw [← known]
    rfl

/-- The trips get the keys that they have, in the order of the feed. -/
theorem map_keyedTrips (feed : Feed) : (keyedTrips feed).map (fun p => (p.1, p.2.trip)) =
    (keptTrips feed).map fun trip => (keyOf feed trip, trip) := by
  rw [keptTrips, ← map_trip_keyedTrips, List.map_map]
  refine List.map_congr_left fun p mem => ?_
  rw [Function.comp_apply, keyOf_eq mem]

theorem map_fst_keyedTrips (feed : Feed) :
    (keyedTrips feed).map (·.1) = (keptTrips feed).map (keyOf feed) := by
  have keys := congrArg (List.map Prod.fst) (map_keyedTrips feed)
  rwa [List.map_map, List.map_map] at keys

/-! ## Groups of trips -/

/-- The keys of a feed with their trips. -/
def tripGroups (feed : Feed) : List (PatternKey × List Feed.Trip) :=
  (group (keyedTrips feed)).map fun group => (group.1, group.2.map (·.trip))

theorem map_fst_tripGroups (feed : Feed) :
    (tripGroups feed).map (·.1) = ((keptTrips feed).map (keyOf feed)).eraseDups := by
  rw [tripGroups, group_eq_eraseDups, List.map_map, List.map_map, map_fst_keyedTrips]
  exact List.map_id _

theorem map_trip_tripsOf (feed : Feed) (key : PatternKey) :
    (tripsOf (keyedTrips feed) key).map (·.trip) =
      ((keptTrips feed).filter fun trip => keyOf feed trip = key).mergeSort
        fun a b => departureAt feed a ≤ departureAt feed b := by
  have trips : ((keyedTrips feed).filter (·.1 == key)).map (·.2.trip) =
      (keptTrips feed).filter fun trip => keyOf feed trip = key := by
    have same := congrArg (fun l => (l.filter (·.1 == key)).map Prod.snd) (map_keyedTrips feed)
    simp only [List.filter_map, List.map_map] at same
    refine same.trans ?_
    exact (List.map_id _).trans (List.filter_congr fun trip _ => beq_eq_decide _ _)
  rw [tripsOf, List.map_mergeSort (s := fun a b => departureAt feed a ≤ departureAt feed b),
    List.map_map]
  · exact congrArg (List.mergeSort · _) trips
  · intro a memA b memB
    have departs (t : FollowedTrip)
        (mem : t ∈ ((keyedTrips feed).filter (·.1 == key)).map (·.2)) :
        t.firstDeparture = departureAt feed t.trip := by
      obtain ⟨⟨key', t⟩, keyed, rfl⟩ := List.mem_map.1 mem
      exact (along_of_mem_keyedTrips (List.mem_filter.1 keyed).1).1.firstDeparture_eq
    rw [departs a memA, departs b memB]

theorem stablySorted_tripGroups {trips : List Feed.Trip} (mem : (key, trips) ∈ tripGroups feed) :
    StablySorted (departureAt feed) ((keptTrips feed).filter fun trip => keyOf feed trip = key)
      trips := by
  rw [tripGroups, group_eq_eraseDups, List.map_map] at mem
  obtain ⟨key', -, same⟩ := List.mem_map.1 mem
  cases same
  rw [map_trip_tripsOf]
  exact stablySorted_mergeSort _ _

/-! ## Shares of a key -/

/-- How many journey patterns so many trips of a key need. -/
def patternCount (trips : Nat) : Nat := trips ⌈/⌉ maxJourneys

/-- The trips of the pattern with a place among those of a key. -/
def share {α : Type} (trips : List α) (i : Nat) : List α :=
  (trips.drop (i * maxJourneys)).take maxJourneys

theorem mul_lt_of_lt_patternCount {trips i : Nat} (lt : i < patternCount trips) :
    i * maxJourneys < trips := by
  by_contra le
  refine lt.not_ge ((ceilDiv_le_iff_le_mul (by decide)).2 ?_)
  rw [Nat.mul_comm]
  exact Nat.not_lt.1 le

/-- All patterns of a key but the last are full. -/
theorem length_share {α : Type} {trips : List α} {i : Nat}
    (notLast : i + 1 < patternCount trips.length) : (share trips i).length = maxJourneys := by
  have behind := mul_lt_of_lt_patternCount notLast
  rw [share, List.length_take, List.length_drop]
  rw [Nat.succ_mul] at behind
  omega

/-- The pieces of the trips of a key. -/
def cut (group : PatternKey × List FollowedTrip) : List Piece :=
  (chunks (maxJourneys - 1) group.2).map (group.1, ·)

theorem length_flatMap_cut (groups : List (PatternKey × List FollowedTrip)) :
    (groups.flatMap cut).length = (groups.map fun group => patternCount group.2.length).sum := by
  rw [List.length_flatMap]
  refine congrArg List.sum (List.map_congr_left fun group _ => ?_)
  rw [cut, List.length_map, length_chunks]
  rfl

theorem flatMap_flatMap_cut (groups : List (PatternKey × List FollowedTrip)) :
    (groups.flatMap cut).flatMap (·.2) = groups.flatMap (·.2) := by
  rw [List.flatMap_assoc]
  refine List.flatMap_congr fun group _ => ?_
  rw [cut, List.flatMap_map, List.flatMap_id', flatten_chunks]

theorem flatMap_tripGroups (feed : Feed) :
    (tripGroups feed).flatMap (·.2) = laidTrips feed := by
  have pieces : (piecesOf feed).flatMap (·.2) = (group (keyedTrips feed)).flatMap (·.2) :=
    flatMap_flatMap_cut _
  rw [laidTrips, pieces, tripGroups, List.flatMap_map, List.map_flatMap]

theorem length_piecesOf (feed : Feed) : (piecesOf feed).length =
    ((tripGroups feed).map fun group => patternCount group.2.length).sum := by
  have length : (piecesOf feed).length = _ := length_flatMap_cut (group (keyedTrips feed))
  rw [length, tripGroups, List.map_map]
  refine congrArg List.sum (List.map_congr_left fun group _ => ?_)
  rw [Function.comp_apply, List.length_map]

/-- The pieces of a feed fall into those before a share of a key, the share, and those
behind it. -/
theorem exists_split_piecesOf {front rest : List (PatternKey × List Feed.Trip)}
    {trips : List Feed.Trip} {i : Nat} (groups : tripGroups feed = front ++ (key, trips) :: rest)
    (lt : i < patternCount trips.length) : ∃ before after shared,
      piecesOf feed = before ++ (key, shared) :: after ∧
      shared.map (·.trip) = share trips i ∧
      before.length = (front.map fun group => patternCount group.2.length).sum + i ∧
      (before.flatMap (·.2)).length = (front.flatMap (·.2)).length + i * maxJourneys := by
  obtain ⟨front, rest', split, rfl, last⟩ := List.map_eq_append_iff.1 groups
  obtain ⟨⟨key, trips⟩, rest, rfl, same, -⟩ := List.map_eq_cons_iff.1 last
  cases same
  rw [List.length_map] at lt
  obtain ⟨full, after, pieces, length, flat⟩ : ∃ full after, chunks (maxJourneys - 1) trips =
      full ++ share trips i :: after ∧ full.length = i ∧
        full.flatten = trips.take (i * maxJourneys) := exists_split_chunks lt
  refine ⟨front.flatMap cut ++ full.map (key, ·), after.map (key, ·) ++ rest.flatMap cut,
    share trips i, ?_, ?_, ?_, ?_⟩
  · have own : cut (key, trips) =
        full.map (key, ·) ++ (key, share trips i) :: after.map (key, ·) := by
      rw [cut, pieces, List.map_append, List.map_cons]
    show (group (keyedTrips feed)).flatMap cut = _
    rw [split, List.flatMap_append, List.flatMap_cons, own, List.append_assoc, List.append_assoc,
      List.cons_append]
  · rw [share, share, List.map_take, List.map_drop]
  · rw [List.length_append, length_flatMap_cut, List.length_map, length, List.map_map]
    simp only [Function.comp_def, List.length_map]
  · have short := (mul_lt_of_lt_patternCount lt).le
    rw [List.flatMap_append, List.length_append, flatMap_flatMap_cut, List.flatMap_map,
      List.flatMap_id', flat, List.length_take_of_le short, List.flatMap_map,
      ← List.map_flatMap, List.length_map]

/-! ## Patterns of a key -/

/-- A journey pattern is that of some trips with a key, whose vehicle journeys start at a
row. -/
structure PatternOf (feed : Feed) (c : Container) (key : PatternKey) (trips : List Feed.Trip)
    (first pattern : Nat) : Prop where
  ofKey : ∀ trip ∈ trips, KeyOf feed trip key
  /-- The numbers are those of the key and of the trips, and none is cut off. -/
  record : ∃ p, c.journeyPatterns.rows[pattern]? = some p ∧ p.route = key.line ∧
    p.stopCount.toNat = key.stops.length ∧ p.vehicleJourneyCount.toNat = trips.length
  /-- The points say what the key says. -/
  points : ∃ run, c.patternPoints? pattern = some run ∧
    run.slice.map (·.stopPoint) = key.stops ∧ run.slice.map (·.attributes) = key.attributes ∧
    ∀ point ∈ run.slice, c.pool.Reads point.headsign key.headsign
  /-- The vehicle journeys are those of the trips, and the flags of the pattern are theirs
  together. -/
  journeys : ∃ p run, c.journeyPatterns.rows[pattern]? = some p ∧
    c.patternVehicleJourneys? pattern = some run ∧ run.start = first ∧
    run.length = trips.length ∧
    p.attributes = (run.slice.map (·.attributes)).foldl (· ||| ·) 0 ∧
    ((∀ trip ∈ trips, baseOf feed trip = departureAt feed trip) →
      run.slice.Pairwise (·.beginTime ≤ ·.beginTime))

/-- The journey patterns of a container are those of the keys of some trips. -/
structure Patterned (feed : Feed) (c : Container) (groups : List (PatternKey × List Feed.Trip)) :
    Prop where
  /-- The keys stand in the order in which they appear in the feed, each once. -/
  keys : groups.map (·.1) = ((keptTrips feed).map (keyOf feed)).eraseDups
  /-- The trips of a key stand in the order of their departures, and in the order of the feed
  where that leaves a choice. -/
  trips : ∀ group ∈ groups, StablySorted (departureAt feed)
    ((keptTrips feed).filter fun trip => keyOf feed trip = group.1) group.2
  size : c.journeyPatterns.size = (groups.map fun group => patternCount group.2.length).sum
  /-- Each key has its patterns behind those of the keys before it, and all but the last are
  full. -/
  patterns : ∀ front key trips rest, groups = front ++ (key, trips) :: rest →
    ∀ i < patternCount trips.length,
      PatternOf feed c key (share trips i) ((front.flatMap (·.2)).length + i * maxJourneys)
        ((front.map fun group => patternCount group.2.length).sum + i) ∧
      (i + 1 < patternCount trips.length → (share trips i).length = maxJourneys)

variable {options : Options} {days : ServiceDays} {timeOffset : Int8} {modes : Array UInt8}
  {c : Container}

/-- The vehicle journeys of a pattern say what the trips of its piece are. -/
theorem Laid.exists_journeys_at {front rest : List Piece} {trips : List FollowedTrip}
    (laid : Laid days timeOffset modes (front ++ (key, trips) :: rest) c) :
    ∃ run, c.patternVehicleJourneys? front.length = some run ∧
      run.start = (front.flatMap (·.2)).length ∧
      List.Forall₂ (fun t v => v.beginTime = .ofSeconds t.firstArrival ∧
        v.attributes = t.attributes) trips run.slice := by
  have journeys := laid.journeys
  rw [List.flatMap_append, List.flatMap_cons, journeyDrafts_append, journeyDrafts_append]
    at journeys
  obtain ⟨run, made, shown⟩ := Span.exists_slice journeys
  obtain ⟨run', found, start, stop⟩ := laid.journeys_at
  rw [length_journeyDrafts, length_journeyDrafts] at made
  cases (Span.run?_eq_some_iff.2 ⟨start, stop⟩).symm.trans made
  refine ⟨run, found, start, ?_⟩
  refine (forall₂_comp (forall₂_journeyDrafts _ trips) shown).imp fun t v both => ?_
  obtain ⟨d, ⟨place, rfl⟩, shown⟩ := both
  exact ⟨shown.2.1, shown.2.2.1⟩

theorem ofSeconds_le {a b : Nat} (le : a ≤ b) :
    CoarseTime.ofSeconds a ≤ CoarseTime.ofSeconds b := by
  rw [UInt16.le_iff_toNat_le, CoarseTime.toNat_ofSeconds, CoarseTime.toNat_ofSeconds]
  exact min_le_min_right _ (Nat.div_le_div_right le)

theorem patternOf_of_laid {front rest : List Piece} {trips : List FollowedTrip}
    (laid : Laid days timeOffset modes (front ++ (key, trips) :: rest) c)
    (keyed : ∀ t ∈ trips, (key, t) ∈ keyedTrips feed) (some_ : trips ≠ [])
    (sorted : trips.Pairwise fun a b => departureAt feed a.trip ≤ departureAt feed b.trip)
    (routes : feed.routes.length < UInt16.size)
    (stops : (stopPoints feed).length < UInt16.size) :
    PatternOf feed c key (trips.map (·.trip)) (front.flatMap (·.2)).length front.length := by
  have counted := laid.counted_at
  obtain ⟨run, points, shown⟩ := laid.points_at
  obtain ⟨run', journeys, start, said⟩ := laid.exists_journeys_at
  obtain ⟨t, mem⟩ := List.exists_mem_of_ne_nil _ some_
  obtain ⟨-, line, -, same⟩ := along_of_mem_keyedTrips (keyed t mem)
  refine ⟨?_, ⟨_, laid.pattern_at, rfl, ?_, ?_⟩, ⟨run, points, ?_, ?_, ?_⟩,
    ⟨_, run', laid.pattern_at, journeys, start, ?_, ?_, ?_⟩⟩
  · intro trip there
    obtain ⟨t, mem, rfl⟩ := List.mem_map.1 there
    exact keyOf_of_mem (keyed t mem) routes stops
  · exact UInt16.toNat_ofNat_of_lt' (Nat.lt_succ_of_le counted.stops)
  · rw [List.length_map]
    exact UInt16.toNat_ofNat_of_lt' (Nat.lt_succ_of_le counted.trips)
  · rw [map_eq_map_of_forall₂ (shown.imp fun _ _ shown => shown.1.symm), same, points_of]
    exact List.map_map
  · rw [map_eq_map_of_forall₂ (shown.imp fun _ _ shown => shown.2.1.symm), same, points_of]
    exact List.map_map
  · intro point mem
    obtain ⟨d, made, shown⟩ := exists_of_forall₂ shown mem
    obtain ⟨pair, -, rfl⟩ := List.mem_map.1 made
    exact shown.2.2
  · rw [List.length_map, ← Span.length_slice, said.length_eq]
  · have attributes : run'.slice.map (·.attributes) = trips.map (·.attributes) :=
      map_eq_map_of_forall₂ (said.imp fun _ _ both => both.2.symm)
    rw [attributes, List.foldl_map]
    rfl
  · intro level
    have beginTimes : run'.slice.map (·.beginTime) =
        trips.map fun t => CoarseTime.ofSeconds t.firstArrival :=
      map_eq_map_of_forall₂ (said.imp fun _ _ both => both.1.symm)
    -- The trips begin when they depart, and they are sorted by that.
    have begins (t : FollowedTrip) (mem : t ∈ trips) :
        t.firstArrival = departureAt feed t.trip := by
      rw [(along_of_mem_keyedTrips (keyed t mem)).1.firstArrival_eq]
      exact level t.trip (List.mem_map_of_mem mem)
    have increasing : (trips.map fun t => CoarseTime.ofSeconds t.firstArrival).Pairwise
        (· ≤ ·) := by
      refine List.pairwise_map.2 (sorted.imp_of_mem fun {a b} memA memB le => ofSeconds_le ?_)
      rw [begins a memA, begins b memB]
      exact le
    exact List.pairwise_map.1 (beginTimes ▸ increasing)

theorem patterned_of_laid (laid : Laid days timeOffset modes (piecesOf feed) c)
    (routes : feed.routes.length < UInt16.size)
    (stops : (stopPoints feed).length < UInt16.size) : Patterned feed c (tripGroups feed) where
  keys := map_fst_tripGroups feed
  trips group mem := stablySorted_tripGroups mem
  size := by
    have length := congrArg List.length laid.patterns
    rw [length_patternsOf, Array.length_toList] at length
    rw [← length_piecesOf]
    exact length
  patterns front key trips rest groups i lt := by
    refine ⟨?_, length_share⟩
    obtain ⟨before, after, shared, pieces, isShare, place, first⟩ :=
      exists_split_piecesOf groups lt
    have mem : (key, shared) ∈ piecesOf feed := by simp [pieces]
    obtain ⟨some_, -, keyed⟩ := mem_piecesOf mem
    have grouped : (key, trips) ∈ tripGroups feed := by simp [groups]
    have ordered : (share trips i).Pairwise fun a b => departureAt feed a ≤ departureAt feed b :=
      (stablySorted_tripGroups grouped).ordered.sublist
        ((List.take_sublist _ _).trans (List.drop_sublist _ _))
    rw [← isShare] at ordered ⊢
    have sorted := List.pairwise_map.1 ordered
    rw [← first, ← place]
    rw [pieces] at laid
    exact patternOf_of_laid laid keyed some_ sorted routes stops

theorem laid_of_run {imported : Imported} (h : run feed options = .ok imported) :
    ∃ days timeOffset modes,
      Laid days timeOffset modes (piecesOf feed) imported.container ∧
        feed.routes.length < UInt16.size ∧ (stopPoints feed).length < UInt16.size := by
  obtain ⟨timeOffset, start, modes, l, -, -, same, account, fits⟩ := account_of_run h
  exact ⟨_, timeOffset, modes, laid_of_account same account fits, short_of_account same account fits⟩

/-- An import that succeeds groups trips by their keys: there are keys with trips such that the
vehicle journeys of the container are these trips in order, and the journey patterns are
theirs. -/
theorem exists_patterned_of_run {imported : Imported} (h : run feed options = .ok imported) :
    ∃ groups, Carries feed options imported.container (groups.flatMap (·.2)) ∧
      Patterned feed imported.container groups := by
  refine ⟨tripGroups feed, ?_, ?_⟩
  · rw [flatMap_tripGroups]
    exact (carries_of_run h).1
  · obtain ⟨days, timeOffset, modes, laid, routes, stops⟩ := laid_of_run h
    exact patterned_of_laid laid routes stops

/-- A feed with two trips along the same stops.  The one that departs later stands first. -/
def lateFirst : Feed where
  __ := oneTrip
  trips := [⟨"W", "D", "R", none, .notAvailable, .atLeastOneBike⟩,
    ⟨"V", "D", "R", none, .available, .noBikeInfo⟩]
  stopTimes := [⟨"W", "S", some 600, some 600, 0, .regular, .regular⟩,
    ⟨"W", "T", some 660, none, 1, .regular, .regular⟩,
    ⟨"V", "T", some 60, none, 1, .regular, .regular⟩,
    ⟨"V", "S", none, some 0, 0, .regular, .regular⟩]

/-- The later trip once it was followed. -/
def lateTripFollowed : FollowedTrip :=
  ⟨⟨"W", "D", "R", none, .notAvailable, .atLeastOneBike⟩,
    [⟨0, 2, 600, 600⟩, ⟨1, 4, 660, 660⟩]⟩

theorem keyedTrips_lateFirst : keyedTrips lateFirst =
    [(.of 0 lateTripFollowed, lateTripFollowed), (.of 0 oneTripFollowed, oneTripFollowed)] := by
  obtain ⟨first, last⟩ := stopLookup_oneTrip
  have late : follow? (stopTimesByTrip lateFirst.stopTimes) (stopLookup oneTrip)
      ⟨"W", "D", "R", none, .notAvailable, .atLeastOneBike⟩ = some lateTripFollowed := by
    have times : timesOf lateFirst ⟨"W", "D", "R", none, .notAvailable, .atLeastOneBike⟩ =
        [⟨"W", "S", some 600, some 600, 0, .regular, .regular⟩,
          ⟨"W", "T", some 660, none, 1, .regular, .regular⟩] := by
      simp [timesOf, lateFirst, List.mergeSort]
    simp [follow?_eq, times, visits?, visit?, first, last]
    decide
  have early : follow? (stopTimesByTrip lateFirst.stopTimes) (stopLookup oneTrip)
      ⟨"V", "D", "R", none, .available, .noBikeInfo⟩ = some oneTripFollowed := by
    have times : timesOf lateFirst ⟨"V", "D", "R", none, .available, .noBikeInfo⟩ =
        [⟨"V", "S", none, some 0, 0, .regular, .regular⟩,
         ⟨"V", "T", some 60, none, 1, .regular, .regular⟩] := by
      simp [timesOf, lateFirst, List.mergeSort]
    simp [follow?_eq, times, visits?, visit?, first, last]
    decide
  have followed : lateFirst.trips.filterMap
      (follow? (stopTimesByTrip lateFirst.stopTimes) (stopLookup lateFirst)) =
        [lateTripFollowed, oneTripFollowed] := by
    show List.filterMap (follow? _ (stopLookup oneTrip)) [_, _] = _
    simp [late, early]
  have line (t : FollowedTrip) (route : t.trip.routeId = "R") :
      (lineLookup lateFirst.routes)[t.trip.routeId]?.map (fun line => (PatternKey.of line t, t)) =
        some (.of 0 t, t) := by
    rw [route, show lateFirst.routes = oneTrip.routes from rfl, lineLookup_oneTrip]
    rfl
  rw [keyedTrips, followed, withKeys, List.filterMap_cons, line _ rfl, List.filterMap_cons,
    line _ rfl]
  rfl

theorem group_lateFirst :
    group [(.of 0 lateTripFollowed, lateTripFollowed), (.of 0 oneTripFollowed, oneTripFollowed)] =
      [(.of 0 oneTripFollowed, [oneTripFollowed, lateTripFollowed])] := by
  have same : PatternKey.of 0 lateTripFollowed = .of 0 oneTripFollowed := by decide
  have late : lateTripFollowed.firstDeparture = 600 := by decide
  have early : oneTripFollowed.firstDeparture = 0 := by decide
  rw [group_eq_eraseDups, same]
  simp [tripsOf, List.eraseDups_cons, List.mergeSort, late, early]

theorem run_lateFirst : ∃ imported, run lateFirst chosenDay = .ok imported ∧
    imported.container.vehicleJourneys.size = 2 := by
  apply exists_run_of_size
  have trips := keyedTrips_lateFirst
  rw [keyedTrips] at trips
  simp only [run, addFeed, addTrips, trips, group_lateFirst]
  decide +kernel

/-- The two trips share a pattern, where they stand in the order of their departures. -/
theorem exists_patterned_lateFirst : ∃ imported groups, run lateFirst chosenDay = .ok imported ∧
    imported.container.vehicleJourneys.size = 2 ∧
      Carries lateFirst chosenDay imported.container (groups.flatMap (·.2)) ∧
        Patterned lateFirst imported.container groups := by
  obtain ⟨imported, made, size⟩ := run_lateFirst
  obtain ⟨groups, carries, patterned⟩ := exists_patterned_of_run made
  exact ⟨imported, groups, made, size, carries, patterned⟩

end TransitStore.Import
