import Mathlib
import TransitStore.Proofs.Container.Room
import TransitStore.Proofs.Import.Patterns
import TransitStore.Proofs.Import.RouteTypes

/-!
# What a feed needs

How large a container becomes that a feed is imported into can be counted in the feed
(`needs`): the modes are the codes of the routes, a stop point without a station has an area
of its own, only walks between stop points count, and a key has its points once for each
of its journey patterns.  The rows that an import makes are as many, and have the texts that
are counted.
-/

namespace TransitStore.Import

open Entity Container

variable {feed : Feed}

/-! ## Counting -/

/-- The codes of the modes of some routes, each once. -/
def codesOf (routes : List Feed.Route) : List Int :=
  (routes.map fun route => route.type.code).eraseDups

/-- A stop belongs to a station of the feed. -/
def HasStation (feed : Feed) (stop : Feed.Stop) : Prop :=
  ∃ station ∈ stations feed, stop.parent = some station.id

instance (feed : Feed) (stop : Feed.Stop) : Decidable (HasStation feed stop) :=
  inferInstanceAs (Decidable (∃ station ∈ stations feed, stop.parent = some station.id))

/-- The stops with areas of their own: the stations, and the stop points without one. -/
def areaStops (feed : Feed) : List Feed.Stop :=
  stations feed ++ (stopPoints feed).filter fun stop => ¬HasStation feed stop

/-- A stop point has an identifier. -/
def IsStopPoint (feed : Feed) (id : String) : Prop := ∃ stop ∈ stopPoints feed, stop.id = id

instance (feed : Feed) (id : String) : Decidable (IsStopPoint feed id) :=
  inferInstanceAs (Decidable (∃ stop ∈ stopPoints feed, stop.id = id))

/-- A walk leads from a stop point to another one. -/
structure IsWalk (feed : Feed) (walk : Feed.Transfer) : Prop where
  source : IsStopPoint feed walk.source
  target : IsStopPoint feed walk.target
  leaves : walk.source ≠ walk.target

instance (feed : Feed) (walk : Feed.Transfer) : Decidable (IsWalk feed walk) :=
  decidable_of_iff
    (IsStopPoint feed walk.source ∧ IsStopPoint feed walk.target ∧ walk.source ≠ walk.target)
    ⟨fun ⟨source, target, leaves⟩ => ⟨source, target, leaves⟩,
      fun ⟨source, target, leaves⟩ => ⟨source, target, leaves⟩⟩

/-- The number of stops of a trip. -/
def stopCount (feed : Feed) (trip : Feed.Trip) : Nat :=
  feed.stopTimes.countP (·.tripId = trip.id)

/-- The keys of the trips of a feed, each once. -/
def keysOf (feed : Feed) : List PatternKey := ((keptTrips feed).map (keyOf feed)).eraseDups

/-- The number of journey patterns of a key. -/
def patternsOfKey (feed : Feed) (key : PatternKey) : Nat :=
  patternCount ((keptTrips feed).countP (keyOf feed · = key))

/-- The number of rows of each table. -/
def rowCount (feed : Feed) : Entity → Nat
  | operator => feed.agencies.length
  | physicalMode | commercialMode => (codesOf feed.routes).length
  | line | route => feed.routes.length
  | stopArea => (areaStops feed).length
  | stopPoint => (stopPoints feed).length
  | transfer => feed.transfers.countP (IsWalk feed)
  | journeyPatternPoint =>
    ((keysOf feed).map fun key => patternsOfKey feed key * key.stops.length).sum
  | journeyPattern => ((keysOf feed).map (patternsOfKey feed)).sum
  | stopTime => ((keptTrips feed).map (stopCount feed)).sum
  | vehicleJourney => (keptTrips feed).length
  | vehicleTransfer => 0

def agencyTexts (agency : Feed.Agency) : List String := [agency.id.getD "", agency.url, agency.name]

def modeTexts (mode : Mode) : List String := [toString mode.code, mode.name]

def routeTexts (route : Feed.Route) : List String :=
  [route.id, route.shortName.getD "", route.longName.getD "", colorText route.color,
    colorText route.textColor]

def areaTexts (feed : Feed) (stop : Feed.Stop) : List String :=
  [stop.id, stop.name.getD "", stop.timezone.getD (feedTimezone feed)]

def stopTexts (stop : Feed.Stop) : List String :=
  [stop.id, stop.name.getD "", stop.platformCode.getD ""]

/-- The texts of a feed.  The points of a journey pattern all have its headsign. -/
def textsOf (feed : Feed) : List String :=
  feed.agencies.flatMap agencyTexts ++
    (modesOf feed.routes).flatMap modeTexts ++ (modesOf feed.routes).flatMap modeTexts ++
    feed.routes.flatMap routeTexts ++
    (areaStops feed).flatMap (areaTexts feed) ++ (stopPoints feed).flatMap stopTexts ++
    ((keysOf feed).flatMap fun key =>
      List.replicate (patternsOfKey feed key * key.stops.length) key.headsign) ++
    (keptTrips feed).map (·.id) ++ [feedTimezone feed]

/-- The sizes of the tables and the pool of a container with a feed. -/
def needs (feed : Feed) : Part → Nat
  | .table e => rowCount feed e
  | .pool => textBytes (textsOf feed)

/-! ## Identifiers -/

theorem isSome_stopLookup (feed : Feed) (id : String) :
    (stopLookup feed)[id]?.isSome ↔ IsStopPoint feed id := by
  rw [stopLookup, Lookup.isSome_ofIds, List.mem_map]
  simp [IsStopPoint]

theorem isSome_station (feed : Feed) (stop : Feed.Stop) :
    (stop.parent.bind ((stationLookup feed)[·]?)).isSome ↔ HasStation feed stop := by
  cases parent : stop.parent with
  | none => simp [HasStation, parent]
  | some id =>
    rw [Option.bind_some, stationLookup, Lookup.isSome_ofIds, List.mem_map]
    simp [HasStation, parent, eq_comm]

/-! ## Modes -/

/-- There is a mode for each code. -/
theorem map_code_modesOf (routes : List Feed.Route) :
    (modesOf routes).map (·.code) = codesOf routes := by
  induction routes using List.reverseRecOn with
  | nil => rfl
  | append_singleton routes last ih =>
    have known : (modesOf routes).any (·.code == (Mode.of last.type).code) = true ↔
        last.type.code ∈ routes.map fun route => route.type.code := by
      rw [← List.mem_eraseDups, ← codesOf, ← ih, List.any_eq_true, List.mem_map]
      simp
    rw [modesOf_concat, codesOf, List.map_append, List.map_singleton, eraseDups_concat, ← codesOf,
      ← ih]
    by_cases old : last.type.code ∈ routes.map fun route => route.type.code
    · rw [if_pos (known.2 old), if_pos old]
    · rw [if_neg fun any => old (known.1 any), if_neg old, List.map_append, List.map_singleton,
        Mode.code_of]

/-! ## Stop areas -/

section

variable {timezone : String} {stop : Feed.Stop} {stops : List Feed.Stop} {a b : Areas}

variable (timezone a) in
/-- A stop point of a station gets the area of the last station with the identifier. -/
theorem place_of_hasStation (has : HasStation feed stop) : ∃ id row, stop.parent = some id ∧
    LastRow (stations feed) (·.id = id) row ∧
      Areas.place (stationLookup feed) timezone a stop =
        .ok ⟨a.areas, a.rows.push (UInt16.ofNat row)⟩ := by
  obtain ⟨row, found⟩ := Option.isSome_iff_exists.1 ((isSome_station feed stop).2 has)
  obtain ⟨id, named, last⟩ := Option.bind_eq_some_iff.1 found
  exact ⟨id, row, named, Lookup.getElem?_ofIds.1 last, by simp only [Areas.place, found]⟩

/-- A stop point without a station gets the next area. -/
theorem place_of_not_hasStation (none_ : ¬HasStation feed stop) :
    Areas.place (stationLookup feed) timezone a stop =
      if Table.maxRows StopArea < a.areas.size then
        .error (.indexOverflow (Record.label StopArea) (Table.maxRows StopArea) (a.areas.size + 1))
      else
        .ok ⟨a.areas.push (areaDraft timezone stop), a.rows.push (UInt16.ofNat a.areas.size)⟩ := by
  rw [← isSome_station, Option.not_isSome_iff_eq_none] at none_
  simp only [Areas.place, none_]

theorem areas_of_foldlM
    (h : stops.foldlM (Areas.place (stationLookup feed) timezone) a = .ok b) :
    b.areas.toList = a.areas.toList ++
      (stops.filter fun stop => ¬HasStation feed stop).map (areaDraft timezone) := by
  induction stops generalizing a with
  | nil =>
    cases h
    exact (List.append_nil _).symm
  | cons stop stops ih =>
    rw [List.foldlM_cons] at h
    by_cases has : HasStation feed stop
    · obtain ⟨_, row, -, -, placed⟩ := place_of_hasStation timezone a has
      rw [placed] at h
      rw [List.filter_cons_of_neg (by simpa using has)]
      exact ih (a := ⟨a.areas, a.rows.push (UInt16.ofNat row)⟩) h
    · rw [place_of_not_hasStation has] at h
      rw [List.filter_cons_of_pos (by simpa using has), List.map_cons]
      split at h
      · cases h
      · rw [ih h, Array.toList_push, List.append_assoc, List.singleton_append]

/-- Stop points are only refused an area where there is already one too many. -/
theorem exists_foldlM_place
    (room : a.areas.size + (stops.filter fun stop => ¬HasStation feed stop).length ≤
      Table.maxRows StopArea + 1) :
    ∃ b, stops.foldlM (Areas.place (stationLookup feed) timezone) a = .ok b := by
  induction stops generalizing a with
  | nil => exact ⟨a, rfl⟩
  | cons stop stops ih =>
    rw [List.foldlM_cons]
    by_cases has : HasStation feed stop
    · obtain ⟨_, row, -, -, placed⟩ := place_of_hasStation timezone a has
      rw [placed]
      rw [List.filter_cons_of_neg (by simpa using has)] at room
      exact ih room
    · rw [List.filter_cons_of_pos (by simpa using has), List.length_cons] at room
      have short : ¬Table.maxRows StopArea < a.areas.size := by omega
      rw [place_of_not_hasStation has, if_neg short]
      refine ih ?_
      rw [Array.size_push]
      omega

end

/-- The areas are those of the stops that have their own. -/
theorem toList_areasOf {timezone : String} {a : Areas} (h : areasOf feed timezone = .ok a) :
    a.areas.toList = (areaStops feed).map (areaDraft timezone) := by
  rw [areas_of_foldlM h, areaStops, List.map_append]

theorem exists_areasOf {timezone : String}
    (room : (areaStops feed).length ≤ Table.maxRows StopArea) :
    ∃ a, areasOf feed timezone = .ok a := by
  refine exists_foldlM_place (Nat.le_succ_of_le ?_)
  rwa [List.size_toArray, List.length_map, ← List.length_append]

/-! ## Walks -/

theorem length_flatten_modify {α : Type} {lists : List (List α)} {i : Nat} (a : α)
    (inside : i < lists.length) :
    (lists.modify i fun list => a :: list).flatten.length = lists.flatten.length + 1 := by
  induction lists generalizing i with
  | nil => cases inside
  | cons list lists ih =>
    cases i with
    | zero => simp
    | succ i =>
      rw [List.modify_succ_cons, List.flatten_cons, List.flatten_cons, List.length_append,
        List.length_append, ih (Nat.lt_of_succ_lt_succ inside), Nat.add_assoc]

/-- A walk counts if it leads from a stop point to another one. -/
theorem Walks.Known.length_flatten_add {w : Walks} (known : w.Known (stopPoints feed).length)
    (walk : Feed.Transfer) : (w.add (stopLookup feed) walk).transfers.toList.flatten.length =
      w.transfers.toList.flatten.length + if IsWalk feed walk then 1 else 0 := by
  have source := isSome_stopLookup feed walk.source
  have target := isSome_stopLookup feed walk.target
  unfold Walks.add
  cases from_ : (stopLookup feed)[walk.source]? with
  | none =>
    rw [from_] at source
    rw [if_neg fun is => nomatch source.2 is.source]
    rfl
  | some row =>
    cases to_ : (stopLookup feed)[walk.target]? with
    | none =>
      rw [to_] at target
      rw [if_neg fun is => nomatch target.2 is.target]
      rfl
    | some other =>
      rw [from_] at source
      rw [to_] at target
      dsimp only
      -- Two identifiers stand for one row exactly if they are the same.
      have same : row = other ↔ walk.source = walk.target := by
        constructor
        · rintro rfl
          obtain ⟨stop, at_, id⟩ := (Lookup.getElem?_ofIds.1 from_).holds
          obtain ⟨stop', at_', id'⟩ := (Lookup.getElem?_ofIds.1 to_).holds
          cases at_.symm.trans at_'
          exact id.symm.trans id'
        · intro same
          rw [same, to_] at from_
          exact (Option.some.inj from_).symm
      split
      · rename_i equal
        rw [if_neg fun is => is.leaves (same.1 equal)]
        rfl
      · rename_i differ
        rw [if_pos ⟨source.1 rfl, target.1 rfl, fun equal => differ (same.2 equal)⟩,
          Array.toList_modify, length_flatten_modify]
        rw [Array.length_toList, known.size]
        exact stopLookup_lt from_

theorem Walks.Known.length_flatten_foldl {w : Walks} (known : w.Known (stopPoints feed).length)
    (walks : List Feed.Transfer) :
    (walks.foldl (Walks.add (stopLookup feed)) w).transfers.toList.flatten.length =
      w.transfers.toList.flatten.length + walks.countP (IsWalk feed) := by
  induction walks generalizing w with
  | nil => rfl
  | cons walk walks ih =>
    rw [List.foldl_cons, ih (known.add (fun _ _ => stopLookup_lt) walk),
      known.length_flatten_add walk, List.countP_cons, Nat.add_assoc, Nat.add_comm (ite _ _ _)]
    simp only [decide_eq_true_eq]

/-- There are as many transfers as walks that count. -/
theorem length_flatten_walksOf (feed : Feed) :
    (walksOf feed (stopLookup feed) (stopPoints feed).length).lists.flatten.length =
      feed.transfers.countP (IsWalk feed) := by
  have reversed (w : Walks) : w.lists.flatten.length = w.transfers.toList.flatten.length := by
    simp [Walks.lists, List.length_flatten, Function.comp_def]
  have start := Walks.known_replicate (stopPoints feed).length
  rw [reversed, walksOf, start.length_flatten_foldl]
  simp

/-! ## Journey patterns -/

theorem length_stops_keyOf (feed : Feed) (trip : Feed.Trip) :
    (keyOf feed trip).stops.length = stopCount feed trip := by
  rw [keyOf, List.length_map, length_timesOf, stopCount]

/-- The groups of a feed are those of its keys. -/
theorem group_keyedTrips (feed : Feed) : group (keyedTrips feed) =
    (keysOf feed).map fun key => (key, tripsOf (keyedTrips feed) key) := by
  rw [group_eq_eraseDups, map_fst_keyedTrips, keysOf]

theorem patternCount_tripsOf (feed : Feed) (key : PatternKey) :
    patternCount (tripsOf (keyedTrips feed) key).length = patternsOfKey feed key := by
  have length := congrArg List.length (map_trip_tripsOf feed key)
  rw [List.length_map, List.length_mergeSort, ← List.countP_eq_length_filter] at length
  rw [length, patternsOfKey]

/-- What journey patterns have of their keys, a key has once for each of its patterns. -/
theorem sum_map_key_piecesOf (feed : Feed) (f : PatternKey → Nat) :
    ((piecesOf feed).map fun piece => f piece.1).sum =
      ((keysOf feed).map fun key => patternsOfKey feed key * f key).sum := by
  show (((group (keyedTrips feed)).flatMap cut).map fun piece => f piece.1).sum = _
  rw [sum_map_flatMap, group_keyedTrips, List.map_map]
  refine congrArg List.sum (List.map_congr_left fun key _ => ?_)
  rw [← patternCount_tripsOf, Function.comp_apply, cut, List.map_map]
  show (List.map (fun _ => f key) _).sum = _
  rw [List.map_const', List.sum_replicate, length_chunks, smul_eq_mul]
  rfl

/-- What journey patterns have of their trips, the feed has of its trips. -/
theorem sum_map_trips_piecesOf (feed : Feed) (f : Feed.Trip → Nat) :
    ((piecesOf feed).map fun piece => (piece.2.map fun t => f t.trip).sum).sum =
      ((keptTrips feed).map f).sum := by
  have perm := ((perm_laidTrips feed).map f).sum_eq
  rw [laidTrips, List.map_map, sum_map_flatMap] at perm
  exact perm

/-- What a journey pattern with its points, its vehicle journeys and their stop times takes. -/
def pieceCost (piece : Piece) : Part → Nat :=
  cost journeyPatternPoint piece.1.points.length
      (piece.1.points.flatMap journeyPatternPoint.texts) +
    (cost stopTime (piece.2.map (·.stopTimes.length)).sum [] +
      (cost vehicleJourney piece.2.length (piece.2.map (·.trip.id)) + cost journeyPattern 1 []))

/-- What the trips of a feed take. -/
def tripCost (feed : Feed) : Part → Nat :=
  cost journeyPatternPoint (rowCount feed journeyPatternPoint)
      ((keysOf feed).flatMap fun key =>
        List.replicate (patternsOfKey feed key * key.stops.length) key.headsign) +
    (cost stopTime (rowCount feed stopTime) [] +
      (cost vehicleJourney (rowCount feed vehicleJourney) ((keptTrips feed).map (·.id)) +
        cost journeyPattern (rowCount feed journeyPattern) []))

theorem texts_points (key : PatternKey) : key.points.flatMap journeyPatternPoint.texts =
    List.replicate key.points.length key.headsign := by
  show (key.points.flatMap fun point : JourneyPatternPoint.Draft => [point.headsign]) = _
  rw [← List.map_eq_flatMap, PatternKey.points, List.map_map, List.length_map, ← List.map_const']
  rfl

theorem length_points_of_mem {piece : Piece} (mem : piece ∈ piecesOf feed) :
    piece.1.points.length = piece.1.stops.length := by
  obtain ⟨key, trips⟩ := piece
  obtain ⟨some_, -, keyed⟩ := mem_piecesOf mem
  obtain ⟨t, mem⟩ := List.exists_mem_of_ne_nil _ some_
  obtain ⟨-, line, -, rfl⟩ := along_of_mem_keyedTrips (keyed t mem)
  simp [PatternKey.points, PatternKey.of]

theorem length_stopTimes_of_mem {piece : Piece} (mem : piece ∈ piecesOf feed) {t : FollowedTrip}
    (trip : t ∈ piece.2) : t.stopTimes.length = stopCount feed t.trip := by
  obtain ⟨-, -, keyed⟩ := mem_piecesOf mem
  obtain ⟨along, -⟩ := along_of_mem_keyedTrips (keyed t trip)
  rw [along.stopTimes_eq, relativeTimes, List.length_map, length_timesOf, stopCount]

/-- The journey patterns of a feed together take what its trips take. -/
theorem sum_pieceCost (feed : Feed) : ((piecesOf feed).map pieceCost).sum = tripCost feed := by
  show ((piecesOf feed).map fun piece => cost journeyPatternPoint _ _ +
    (cost stopTime _ _ + (cost vehicleJourney _ _ + cost journeyPattern _ _))).sum = _
  rw [List.sum_map_add, List.sum_map_add, List.sum_map_add, sum_cost, sum_cost_bare, sum_cost,
    sum_cost_bare, tripCost]
  refine congrArg₂ _ (cost_congr ?points ?headsigns) (congrArg₂ _ (cost_congr ?stopTimes rfl)
    (congrArg₂ _ (cost_congr ?journeys ?ids) (cost_congr ?patterns rfl)))
  case points =>
    rw [List.map_congr_left fun piece mem => length_points_of_mem mem]
    exact sum_map_key_piecesOf feed fun key => key.stops.length
  case headsigns =>
    rw [textBytes_flatMap, textBytes_flatMap]
    have piece : ∀ piece ∈ piecesOf feed,
        textBytes (piece.1.points.flatMap journeyPatternPoint.texts) =
          piece.1.stops.length * (piece.1.headsign.utf8ByteSize + 1) := by
      intro piece mem
      rw [texts_points, length_points_of_mem mem, textBytes_replicate]
    rw [List.map_congr_left piece,
      sum_map_key_piecesOf feed fun key => key.stops.length * (key.headsign.utf8ByteSize + 1)]
    simp only [textBytes_replicate, Nat.mul_assoc]
  case stopTimes =>
    have piece : ∀ piece ∈ piecesOf feed, (piece.2.map (·.stopTimes.length)).sum =
        (piece.2.map fun t => stopCount feed t.trip).sum := by
      intro piece mem
      rw [List.map_congr_left fun t trip => length_stopTimes_of_mem mem trip]
    rw [List.map_congr_left piece]
    exact sum_map_trips_piecesOf feed (stopCount feed)
  case journeys =>
    have length := (perm_laidTrips feed).length_eq
    rwa [laidTrips, List.length_map, List.length_flatMap] at length
  case ids =>
    have perm := (perm_laidTrips feed).map (·.id)
    rw [laidTrips, List.map_map, List.map_flatMap] at perm
    exact textBytes_perm perm
  case patterns =>
    rw [sum_map_key_piecesOf feed fun _ => 1]
    simp only [Nat.mul_one]
    rfl

end TransitStore.Import
