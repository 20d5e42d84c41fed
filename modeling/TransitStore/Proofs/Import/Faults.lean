import Mathlib
import TransitStore.Proofs.Import.Success

/-!
# Faults of feeds

Walks from or to unknown stop points, trips that cannot be used and names of unknown stations
or services need no room, and an import asks nothing of them.  So a feed is imported with
them exactly if it is without them (`exists_run_iff_importable`).
-/

namespace TransitStore.Import

open Entity Container

variable {feed : Feed} {options : Options} {serviceOf : Feed.Trip → String}

/-! ## Feeds without faults -/

/-- A stop that belongs to a station of the feed if to any. -/
def withStation (feed : Feed) (stop : Feed.Stop) : Feed.Stop :=
  { stop with parent := if HasStation feed stop then stop.parent else none }

/-- A trip of another service. -/
def withService (serviceOf : Feed.Trip → String) (trip : Feed.Trip) : Feed.Trip :=
  { trip with serviceId := serviceOf trip }

/-- A feed without the walks, the trips and the names of stations that do not count, where the
trips have other services. -/
def tidied (feed : Feed) (serviceOf : Feed.Trip → String) : Feed where
  __ := feed
  stops := feed.stops.map (withStation feed)
  trips := (keptTrips feed).map (withService serviceOf)
  transfers := feed.transfers.filter fun walk =>
    IsStopPoint feed walk.source ∧ IsStopPoint feed walk.target

theorem stations_tidied :
    stations (tidied feed serviceOf) = (stations feed).map (withStation feed) := by
  rw [stations, stations, tidied, List.filter_map]
  rfl

theorem stopPoints_tidied :
    stopPoints (tidied feed serviceOf) = (stopPoints feed).map (withStation feed) := by
  rw [stopPoints, stopPoints, tidied, List.filter_map]
  rfl

theorem isStopPoint_tidied {id : String} :
    IsStopPoint (tidied feed serviceOf) id ↔ IsStopPoint feed id := by
  simp only [IsStopPoint, stopPoints_tidied, List.mem_map, exists_exists_and_eq_and, withStation]

theorem hasStation_tidied {stop : Feed.Stop} :
    HasStation (tidied feed serviceOf) (withStation feed stop) ↔ HasStation feed stop := by
  have stations : HasStation (tidied feed serviceOf) (withStation feed stop) ↔
      ∃ station ∈ stations feed, (withStation feed stop).parent = some station.id := by
    simp only [HasStation, stations_tidied, List.mem_map, exists_exists_and_eq_and]
    rfl
  rw [stations, withStation]
  by_cases known : HasStation feed stop
  · rw [if_pos known]
    rfl
  · rw [if_neg known]
    refine iff_of_false ?_ known
    rintro ⟨station, -, parent⟩
    cases parent

theorem areaStops_tidied :
    areaStops (tidied feed serviceOf) = (areaStops feed).map (withStation feed) := by
  rw [areaStops, areaStops, stations_tidied, stopPoints_tidied, List.filter_map, List.map_append]
  simp only [Function.comp_def, hasStation_tidied]

theorem countP_isWalk_tidied : (tidied feed serviceOf).transfers.countP
    (IsWalk (tidied feed serviceOf)) = feed.transfers.countP (IsWalk feed) := by
  have same (walk : Feed.Transfer) : IsWalk (tidied feed serviceOf) walk ↔ IsWalk feed walk :=
    ⟨fun is => ⟨isStopPoint_tidied.1 is.source, isStopPoint_tidied.1 is.target, is.leaves⟩,
      fun is => ⟨isStopPoint_tidied.2 is.source, isStopPoint_tidied.2 is.target, is.leaves⟩⟩
  show (feed.transfers.filter fun walk =>
    IsStopPoint feed walk.source ∧ IsStopPoint feed walk.target).countP _ = _
  rw [List.countP_filter]
  refine List.countP_congr fun walk _ => ?_
  simp only [Bool.and_eq_true, decide_eq_true_eq, same]
  exact ⟨fun both => both.1, fun is => ⟨is, is.source, is.target⟩⟩

/-! ## Trips -/

theorem usable_tidied {trip : Feed.Trip} :
    Usable (tidied feed serviceOf) trip ↔ Usable feed trip :=
  ⟨fun use => ⟨use.two, fun t mem of => isStopPoint_tidied.1 (use.stops t mem of), use.times,
      use.route⟩,
    fun use => ⟨use.two, fun t mem of => isStopPoint_tidied.2 (use.stops t mem of), use.times,
      use.route⟩⟩

theorem keptTrips_tidied :
    keptTrips (tidied feed serviceOf) = (keptTrips feed).map (withService serviceOf) := by
  refine List.filter_eq_self.2 fun trip mem => decide_eq_true (usable_tidied.2 ?_)
  obtain ⟨trip, kept, rfl⟩ := List.mem_map.1 mem
  have use : Usable feed trip := by simpa using (List.mem_filter.1 kept).2
  exact ⟨use.two, use.stops, use.times, use.route⟩

theorem lastRow_map {α β : Type} (f : α → β) (l : List α) (p : β → Bool) :
    lastRow (l.map f) p = lastRow l (p ∘ f) := by
  rw [lastRow, lastRow, ← List.map_reverse, List.findIdx_map, List.length_map]

theorem keyOf_tidied (trip : Feed.Trip) :
    keyOf (tidied feed serviceOf) (withService serviceOf trip) = keyOf feed trip := by
  simp only [keyOf, stopPoints_tidied, lastRow_map]
  rfl

theorem keysOf_tidied : keysOf (tidied feed serviceOf) = keysOf feed := by
  rw [keysOf, keptTrips_tidied, List.map_map, keysOf]
  exact congrArg List.eraseDups (List.map_congr_left fun trip _ => keyOf_tidied trip)

theorem patternsOfKey_tidied : patternsOfKey (tidied feed serviceOf) = patternsOfKey feed := by
  funext key
  rw [patternsOfKey, keptTrips_tidied, List.countP_map, patternsOfKey]
  simp only [Function.comp_def, keyOf_tidied]

/-! ## Imports -/

theorem textsOf_tidied : textsOf (tidied feed serviceOf) = textsOf feed := by
  simp only [textsOf, areaStops_tidied, stopPoints_tidied, keysOf_tidied, patternsOfKey_tidied,
    keptTrips_tidied, List.flatMap_map, List.map_map]
  rfl

theorem needs_tidied : needs (tidied feed serviceOf) = needs feed := by
  funext part
  cases part with
  | pool => exact congrArg textBytes textsOf_tidied
  | table e =>
    cases e with
    | operator | physicalMode | commercialMode | line | route | vehicleTransfer => rfl
    | transfer => exact countP_isWalk_tidied
    | stopTime =>
      simp only [needs, rowCount, keptTrips_tidied, List.map_map]
      rfl
    | stopArea | stopPoint | journeyPatternPoint | journeyPattern | vehicleJourney =>
      simp only [needs, rowCount, areaStops_tidied, stopPoints_tidied, keysOf_tidied,
        patternsOfKey_tidied, keptTrips_tidied, List.length_map]

theorem spacious_tidied (room : Spacious feed) (serviceOf : Feed.Trip → String) :
    Spacious (tidied feed serviceOf) := by
  rwa [Spacious, needs_tidied]

theorem importable_tidied (room : Spacious feed) (serviceOf : Feed.Trip → String) :
    Importable (tidied feed serviceOf) options ↔ Importable feed options := by
  rw [importable_iff (spacious_tidied room serviceOf), importable_iff room, needs_tidied, keptTrips_tidied,
    List.forall_mem_map]
  rfl

/-- If the tables with row numbers of 32 bits and the pool have room for a feed, an import of it
succeeds exactly if the feed and the choices are as it asks, and then it also does without
the faults of the feed.  So walks from or to unknown stop points, trips that cannot be used
or have unknown routes or services, and unknown stations never make an import fail. -/
theorem exists_run_iff_importable (room : Spacious feed) :
    ((∃ imported, run feed options = .ok imported) ↔ Importable feed options) ∧
      ∀ serviceOf, (∃ imported, run (tidied feed serviceOf) options = .ok imported) ↔
        Importable feed options :=
  ⟨exists_run_iff room, fun serviceOf =>
    (exists_run_iff (spacious_tidied room serviceOf)).trans (importable_tidied room serviceOf)⟩

/-- A feed with a trip and with faults of all kinds. -/
def untidy : Feed where
  __ := oneTrip
  stops := oneTrip.stops ++ [⟨"U", .stopPoint, none, some "A", none, none, none, none⟩]
  trips := oneTrip.trips ++
    [⟨"W", "D", "R", none, .available, .noBikeInfo⟩, ⟨"V", "D", "Q", none, .available, .noBikeInfo⟩]
  transfers := [⟨"S", "B", none⟩, ⟨"S", "T", some 60⟩]

theorem keptTrips_untidy : keptTrips untidy = oneTrip.trips := by
  decide

theorem keysOf_untidy : keysOf untidy = [keyOf untidy oneTripFollowed.trip] := by
  rw [keysOf, keptTrips_untidy]
  rfl

theorem patternsOfKey_untidy : patternsOfKey untidy (keyOf untidy oneTripFollowed.trip) = 1 := by
  rw [patternsOfKey, keptTrips_untidy]
  simp [oneTrip, oneTripFollowed]
  decide

theorem spacious_untidy : Spacious untidy := by
  have stops : (keyOf untidy oneTripFollowed.trip).stops.length = 2 := by
    rw [length_stops_keyOf]
    decide
  have headsign : (keyOf untidy oneTripFollowed.trip).headsign = "" := rfl
  intro part limit
  cases part with
  | pool =>
    simp only [needs, textsOf, keysOf_untidy, keptTrips_untidy, List.flatMap_cons,
      List.flatMap_nil, patternsOfKey_untidy, stops, headsign]
    decide +kernel
  | table e =>
    cases e with
    | journeyPatternPoint => simp [needs, rowCount, keysOf_untidy, patternsOfKey_untidy, stops]
    | journeyPattern => cases limit
    | stopTime =>
      rw [needs, rowCount, keptTrips_untidy]
      decide
    | vehicleJourney =>
      rw [needs, rowCount, keptTrips_untidy]
      decide
    | _ => decide

theorem importable_untidy : Importable untidy chosenDay where
  offset := by decide
  agencies := by decide
  modes := by decide
  routes := by decide
  operators route mem := by
    cases List.mem_singleton.1 mem
    rfl
  stopPoints := by decide
  areas := by decide
  calendar := .inl rfl
  stops := by
    rw [keptTrips_untidy]
    decide
  patterns := by
    rw [keysOf_untidy, List.map_singleton, patternsOfKey_untidy]
    decide

/-- The faults do no harm, but without a first calendar day nothing is imported. -/
theorem exists_run_untidy : (∃ imported, run untidy chosenDay = .ok imported) ∧
    ¬∃ imported, run untidy {} = .ok imported := by
  constructor
  · exact (exists_run_iff_importable spacious_untidy).1.2 importable_untidy
  · intro made
    have able := (exists_run_iff_importable spacious_untidy).1.1 made
    rcases able.calendar with chosen | services | exceptions
    · cases chosen
    · exact services rfl
    · exact exceptions rfl

end TransitStore.Import
