import Mathlib
import TransitStore.Proofs.Import.Needs
import TransitStore.Proofs.StopIndex.Inverted

/-!
# Imports that succeed

Each stage of an import takes its part of what the feed needs, in whatever container it
starts, and little else can go wrong: a route can miss its operator, the calendar its first
day, a trip can have too many stops for its journey pattern, and the time zone can be too far
off.  Numbers that are cut off do no harm, since the table they count is full by then.  Once
all rows are there the stop index can always be built.  So a feed that there is room for is
imported exactly if nothing of that kind is wrong with it (`exists_run_iff`).
-/

namespace TransitStore.Import

open Entity Container

variable {feed : Feed} {options : Options}

/-! ## Lines -/

/-- A route belongs to an agency of the feed, or to the only one there is. -/
def HasOperator (feed : Feed) (route : Feed.Route) : Prop :=
  match route.agencyId with
  | some id => ∃ agency ∈ feed.agencies, agency.id = some id
  | none => feed.agencies.length = 1

theorem exists_lineDraft?_iff {modes : List Mode} {route : Feed.Route} :
    (∃ line, lineDraft? (operatorLookup feed.agencies) feed.agencies.length modes route = .ok line) ↔
      HasOperator feed route := by
  have found : (operatorRow? (operatorLookup feed.agencies) feed.agencies.length route).isSome ↔
      HasOperator feed route := by
    unfold operatorRow? HasOperator
    cases route.agencyId with
    | some id =>
      dsimp only
      rw [operatorLookup, Lookup.isSome_ofIds, List.mem_map]
    | none => simp
  rw [← found, lineDraft?]
  cases operatorRow? (operatorLookup feed.agencies) feed.agencies.length route with
  | none => simp
  | some row => simp

theorem texts_of_lineDraft? {operators : Lookup} {agencies : Nat} {modes : List Mode}
    {route : Feed.Route} {draft : Line.Draft}
    (h : lineDraft? operators agencies modes route = .ok draft) :
    line.texts draft = routeTexts route := by
  unfold lineDraft? at h
  split at h
  · cases h
  · cases h
    rfl

/-- What the lines of a feed take, with what they refer to. -/
def lineCost (feed : Feed) : Part → Nat :=
  cost operator feed.agencies.length (feed.agencies.flatMap agencyTexts) +
    (cost physicalMode (codesOf feed.routes).length ((modesOf feed.routes).flatMap modeTexts) +
      (cost commercialMode (codesOf feed.routes).length ((modesOf feed.routes).flatMap modeTexts) +
        (cost line feed.routes.length (feed.routes.flatMap routeTexts) +
          cost route feed.routes.length [])))

theorem flatMap_eq_of_map {α β γ : Type} {f : α → List γ} {g : β → List γ} {l : List α}
    {m : List β} (same : m.map g = l.map f) : m.flatMap g = l.flatMap f := by
  rw [List.flatMap_def, List.flatMap_def, same]

theorem takes_addLines (feed : Feed) : Takes (∀ route ∈ feed.routes, HasOperator feed route)
    (lineCost feed) (fun _ => True) (addLines feed) := by
  have modes : (modesOf feed.routes).length = (codesOf feed.routes).length := by
    rw [← map_code_modesOf, List.length_map]
  have possible : (∀ route ∈ feed.routes, HasOperator feed route) ↔
      (∃ drafts, feed.routes.mapM (lineDraft? (operatorLookup feed.agencies) feed.agencies.length
        (modesOf feed.routes)) = .ok drafts) ∧ True := by
    rw [and_true, exists_mapM_eq_ok]
    simp only [exists_lineDraft?_iff]
  refine Takes.congr ?_ possible.symm rfl
  refine (takes_add_of (e := operator) ?_ ?_).andThen fun _ _ => ?_
  · exact List.length_map _
  · exact List.flatMap_map ..
  refine (takes_add_of (e := physicalMode) ?_ ?_).andThen fun _ _ => ?_
  · exact (List.length_map _).trans modes
  · exact List.flatMap_map ..
  refine (takes_add_of (e := commercialMode) ?_ ?_).andThen fun _ _ => ?_
  · exact (List.length_map _).trans modes
  · exact List.flatMap_map ..
  refine Takes.ofExcept_bind fun drafts made => ?_
  have each := mapM_eq_ok_iff.1 made
  refine (takes_add_of (e := line) each.length_eq.symm ?_).andThen fun _ _ => ?_
  · exact flatMap_eq_of_map
      (map_eq_map_of_forall₂ (each.imp fun _ _ made => (texts_of_lineDraft? made).symm))
  refine (takes_add_bare (e := route) ?_ fun _ => rfl).andPure fun _ _ => trivial
  exact (List.length_map _).trans (List.length_range.trans each.length_eq.symm)

/-! ## Stops -/

theorem exists_stopDrafts_iff {stops : List Feed.Stop} {waits : Array CoarseTime}
    {areas : Array UInt16} {starts : List Nat} :
    (∃ drafts, stopDrafts stops waits areas starts = .ok drafts) ↔
      ∀ start ∈ starts, start ≤ Table.maxRows Transfer := by
  unfold stopDrafts
  cases found : starts.find? (Table.maxRows Transfer < ·) with
  | none =>
    rw [List.find?_eq_none] at found
    simpa using found
  | some start =>
    have large := List.find?_some found
    refine iff_of_false nofun fun all => ?_
    exact absurd (all start (List.mem_of_find?_eq_some found)) (by simpa using large)

/-- What the stop areas, the stop points and the transfers of a feed take. -/
def stopCost (feed : Feed) : Part → Nat :=
  cost stopArea (areaStops feed).length ((areaStops feed).flatMap (areaTexts feed)) +
    (cost stopPoint (stopPoints feed).length ((stopPoints feed).flatMap stopTexts) +
      cost transfer (feed.transfers.countP (IsWalk feed)) [])

theorem takes_addWalks {lists : List (List Transfer)} {count : Nat}
    (total : lists.flatten.length = count) :
    Takes True (cost transfer count []) (fun _ => True) (lists.forM fun list => do
      let _ ← Container.add list : Edit Container Unit) := by
  refine (Takes.forM (p := fun _ => True) (d := fun list => cost transfer list.length [])
    fun list _ => ?_).congr (by simp) ?_
  · exact (takes_add_bare (e := transfer) rfl fun _ => rfl).andPure fun _ _ => trivial
  · rw [sum_cost_bare, ← List.length_flatten, total]

theorem takes_addStops (feed : Feed) :
    Takes True (stopCost feed) (fun _ => True) (addStops feed (stopLookup feed)) := by
  have known := known_walksOf feed
  have total := length_flatten_walksOf feed
  -- The areas and the starts of transfers are checked on the way, but the checks only fail where
  -- the rows would not fit either.
  refine Takes.of_room (p := (∃ areas, areasOf feed (feedTimezone feed) = .ok areas) ∧
    ∀ start ∈ startsOf 0 (walksOf feed (stopLookup feed) (stopPoints feed).length).lists,
      start ≤ Table.maxRows Transfer) ?_ ?_
  · refine Takes.ofExcept_bind fun areas placed => ?_
    have length := (areasOf_eq_ok placed).size
    have rows := toList_areasOf placed
    refine (takes_add_of (e := stopArea) ?_ ?_).andThen fun _ _ => ?_
    · rw [rows]
      exact List.length_map _
    · rw [rows]
      exact List.flatMap_map ..
    refine Takes.congr (Takes.ofExcept_bind fun drafts made => ?_)
      ((iff_of_eq (and_true _)).trans exists_stopDrafts_iff) rfl
    have stops {α : Type} {f : StopPoint.Draft → α} {g : Feed.Stop → α}
        (same : ∀ stop wait area start, f (stopDraft stop wait area start) = g stop) :
        drafts.map f = (stopPoints feed).map g :=
      map_of_stopDrafts same made known.waits length (by rw [length_startsOf, known.length_lists])
    refine (takes_add_of (e := stopPoint) ?_ ?_).andThen fun _ _ => takes_addWalks total
    · have lengths := congrArg List.length
        (stops (f := fun _ => ()) (g := fun _ => ()) fun _ _ _ _ => rfl)
      rwa [List.length_map, List.length_map] at lengths
    · exact flatMap_eq_of_map (stops fun _ _ _ _ => rfl)
  · intro room
    have areas : (areaStops feed).length + (0 + 0) ≤ Table.maxRows StopArea := room (.table stopArea)
    have walks : 0 + (0 + feed.transfers.countP (IsWalk feed)) ≤ Table.maxRows Transfer :=
      room (.table transfer)
    refine ⟨exists_areasOf (by omega), fun start mem => ?_⟩
    have inside := (mem_startsOf mem).2
    omega

/-! ## Trips -/

variable {days : ServiceDays} {timeOffset : Int8}

theorem takes_addPattern (mode : UInt8) (piece : Piece) :
    Takes True (pieceCost piece) (fun _ => True)
      (addPattern days timeOffset mode piece.1 piece.2) := by
  refine (takes_add_of (e := journeyPatternPoint) rfl rfl).andThen fun points _ => ?_
  have times : Takes True (cost stopTime (piece.2.map (·.stopTimes.length)).sum [])
      (List.Forall₂ (fun t (d : VehicleJourney.Draft) => t.trip.id = d.id) piece.2)
      (piece.2.mapM fun (t : FollowedTrip) => do
        let stopTimes ← Container.add t.stopTimes
        return journeyDraft days timeOffset t stopTimes) := by
    refine (Takes.mapM (p := fun _ => True)
      (d := fun t : FollowedTrip => cost stopTime t.stopTimes.length [])
      fun t _ => ?_).congr (by simp) (sum_cost_bare ..)
    exact (takes_add_bare (e := stopTime) rfl fun _ => rfl).andPure fun _ _ => rfl
  refine times.andThen fun journeys same => ?_
  refine (takes_add_of (e := vehicleJourney) same.length_eq.symm ?_).andThen fun first _ => ?_
  · have ids := map_eq_map_of_forall₂ same
    rw [← ids, List.map_eq_flatMap]
    rfl
  · have pattern (row : JourneyPattern) : Takes True (cost journeyPattern 1 []) (fun _ => True)
        (Container.add [row] : Edit Container Nat) := takes_add_bare rfl fun _ => rfl
    exact (pattern _).andPure fun _ _ => trivial

theorem takes_addGroup (modes : Array UInt8) (group : PatternKey × List FollowedTrip) :
    Takes (group.1.stops.length ≤ 65535) ((cut group).map pieceCost).sum (fun _ => True)
      (addGroup days timeOffset modes group.1 group.2) := by
  unfold addGroup
  dsimp only
  split
  · rename_i long
    exact .never (fun _ _ _ ok => by cases ok) (Nat.not_le.2 long)
  · rename_i short
    rw [cut, List.map_map]
    refine (Takes.forM (p := fun _ => True) fun trips _ => ?_).congr ?_ rfl
    · exact takes_addPattern _ (group.1, trips)
    · simpa using Nat.not_lt.1 short

theorem stops_of_groups_iff : (∀ g ∈ group (keyedTrips feed), g.1.stops.length ≤ 65535) ↔
    ∀ trip ∈ keptTrips feed, stopCount feed trip ≤ 65535 := by
  rw [group_keyedTrips]
  simp [keysOf, length_stops_keyOf]

theorem takes_addTrips (feed : Feed) (lines : List Line.Draft) :
    Takes (∀ trip ∈ keptTrips feed, stopCount feed trip ≤ 65535) (tripCost feed) (fun _ => True)
      (addTrips feed (stopLookup feed) lines days timeOffset) := by
  have all : ((group (keyedTrips feed)).map fun g => ((cut g).map pieceCost).sum).sum =
      tripCost feed := by
    rw [← sum_map_flatMap]
    exact sum_pieceCost feed
  refine Takes.andPure ((Takes.forM fun g _ => ?_).congr stops_of_groups_iff all) fun _ _ => ?_
  · exact takes_addGroup _ g
  · trivial

/-! ## Calendars and time zones -/

theorem exists_timeOffset?_iff : (∃ offset, options.timeOffset? = .ok offset) ↔
    -128 ≤ Int.tdiv options.utcOffset.toInt 900 ∧ Int.tdiv options.utcOffset.toInt 900 ≤ 127 := by
  rw [Options.timeOffset?, Options.quarter]
  split
  · exact iff_of_true ⟨_, rfl⟩ ‹_›
  · exact iff_of_false nofun ‹_›

theorem exists_calendarStart?_iff : (∃ start, calendarStart? feed options = .ok start) ↔
    options.calendarStart.isSome ∨ feed.services ≠ [] ∨ feed.exceptions ≠ [] := by
  rw [calendarStart?]
  cases options.calendarStart with
  | some start => simp
  | none =>
    cases feed.services with
    | cons service services => simp [earliest?]
    | nil =>
      cases feed.exceptions with
      | cons exception exceptions => simp [earliest?]
      | nil => simp [earliest?]

/-! ## Feeds -/

theorem needs_eq (feed : Feed) : lineCost feed +
    (stopCost feed + (tripCost feed + (0 + textCost [feedTimezone feed]))) = needs feed := by
  funext part
  cases part with
  | table e =>
    cases e <;> simp [lineCost, stopCost, tripCost, cost, textCost, needs, rowCount]
  | pool =>
    simp [lineCost, stopCost, tripCost, cost, textCost, needs, textsOf, textBytes_append,
      Nat.add_assoc]

theorem takes_addUnindexed (feed : Feed) (options : Options) :
    Takes ((∃ offset, options.timeOffset? = .ok offset) ∧
        (∀ route ∈ feed.routes, HasOperator feed route) ∧
        (∃ start, calendarStart? feed options = .ok start) ∧
        ∀ trip ∈ keptTrips feed, stopCount feed trip ≤ 65535)
      (needs feed) (fun _ => True) (addUnindexed feed options) := by
  rw [← needs_eq]
  refine Takes.ofExcept_bind fun timeOffset _ => ?_
  refine (takes_addLines feed).bind fun lines _ => ?_
  refine (takes_addStops feed).andThen fun _ _ => ?_
  refine Takes.ofExcept_bind fun start _ => ?_
  refine Takes.congr ((takes_addTrips feed lines).bind fun _ _ => ?_)
    (iff_of_eq (and_true _)) rfl
  refine (takes_setCalendar _ _).andThen fun _ _ => ?_
  exact (takes_setTimezone _ _).andPure fun _ _ => trivial

/-- A feed whose rows were added gets a stop index. -/
theorem exists_buildStopIndex {warnings : List Warning} {c : Container}
    (h : addUnindexed feed options {} = .ok warnings c) : ∃ c', buildStopIndex c = .ok () c' := by
  obtain ⟨-, -, ⟨-, owned, short⟩, -⟩ :=
    (takes_addUnindexed feed options).of_ok {} warnings c ready_new h
  obtain ⟨inside, -, -⟩ := addUnindexed_eq_ok h
  obtain ⟨index, build⟩ : ∃ index, StopIndex.build c.stopPoints.size c.journeyPatterns.rows
      c.journeyPatternPoints.rows = .ok index := by
    refine StopIndex.exists_build (short (.table stopPoint)) (short (.table journeyPattern)) ?_ ?_
    · intro pattern mem
      exact Span.isSome_run?.2 (inside journeyPattern pattern mem).1.2.2.points
    · exact fun point mem => (inside journeyPatternPoint point mem).1
  exact ⟨{ c with stopIndex := index }, by rw [buildStopIndex_of_owned owned, build]⟩

theorem exists_run_iff_unindexed : (∃ imported, run feed options = .ok imported) ↔
    ∃ warnings c, addUnindexed feed options {} = .ok warnings c := by
  constructor
  · rintro ⟨imported, made⟩
    have added := run_eq_ok made
    rw [addFeed_eq] at added
    obtain ⟨warnings, c, unindexed, -⟩ := Edit.bind_eq_ok.1 added
    exact ⟨warnings, c, unindexed⟩
  · rintro ⟨warnings, c, unindexed⟩
    obtain ⟨c', index⟩ := exists_buildStopIndex unindexed
    have added : addFeed feed options {} = .ok warnings c' := by
      rw [addFeed_eq]
      exact Edit.bind_eq_ok.2 ⟨warnings, c, unindexed, Edit.bind_eq_ok.2 ⟨(), c', index, rfl⟩⟩
    exact ⟨⟨c', warnings⟩, by rw [run, added]⟩

/-- The tables whose rows have numbers of 32 bits, and the pool, have room for a feed. -/
def Spacious (feed : Feed) : Prop :=
  ∀ part : Part, part.limit = UInt32.size - 1 → needs feed part ≤ UInt32.size - 1

/-- What an import asks of a feed and of the choices. -/
structure Importable (feed : Feed) (options : Options) : Prop where
  /-- Vehicle journeys can hold the distance to universal time in quarters of an hour. -/
  offset : -128 ≤ Int.tdiv options.utcOffset.toInt 900 ∧
    Int.tdiv options.utcOffset.toInt 900 ≤ 127
  agencies : feed.agencies.length ≤ 255
  modes : (codesOf feed.routes).length ≤ 255
  routes : feed.routes.length ≤ 65535
  operators : ∀ route ∈ feed.routes, HasOperator feed route
  stopPoints : (stopPoints feed).length ≤ 65535
  areas : (areaStops feed).length ≤ 65535
  /-- There is a first calendar day. -/
  calendar : options.calendarStart.isSome ∨ feed.services ≠ [] ∨ feed.exceptions ≠ []
  stops : ∀ trip ∈ keptTrips feed, stopCount feed trip ≤ 65535
  patterns : ((keysOf feed).map (patternsOfKey feed)).sum ≤ 65535

theorem importable_iff (room : Spacious feed) : Importable feed options ↔
    ((∃ offset, options.timeOffset? = .ok offset) ∧
      (∀ route ∈ feed.routes, HasOperator feed route) ∧
      (∃ start, calendarStart? feed options = .ok start) ∧
      ∀ trip ∈ keptTrips feed, stopCount feed trip ≤ 65535) ∧ needs feed ≤ Part.limit := by
  rw [exists_timeOffset?_iff, exists_calendarStart?_iff]
  constructor
  · intro able
    refine ⟨⟨able.offset, able.operators, able.calendar, able.stops⟩, fun part => ?_⟩
    cases part with
    | pool => exact room .pool rfl
    | table e =>
      cases e with
      | operator => exact able.agencies
      | physicalMode => exact able.modes
      | commercialMode => exact able.modes
      | line => exact able.routes
      | route => exact able.routes
      | stopArea => exact able.areas
      | stopPoint => exact able.stopPoints
      | journeyPattern => exact able.patterns
      | transfer => exact room (.table transfer) rfl
      | journeyPatternPoint => exact room (.table journeyPatternPoint) rfl
      | stopTime => exact room (.table stopTime) rfl
      | vehicleJourney => exact room (.table vehicleJourney) rfl
      | vehicleTransfer => exact Nat.zero_le _
  · rintro ⟨⟨offset, operators, calendar, stops⟩, short⟩
    exact ⟨offset, short (.table operator), short (.table physicalMode), short (.table line),
      operators, short (.table stopPoint), short (.table stopArea), calendar, stops,
      short (.table journeyPattern)⟩

/-- A feed with room is imported exactly if it is as an import asks. -/
theorem exists_run_iff (room : Spacious feed) :
    (∃ imported, run feed options = .ok imported) ↔ Importable feed options := by
  rw [exists_run_iff_unindexed, importable_iff room, exists_ok_new_iff (takes_addUnindexed ..)]

end TransitStore.Import
