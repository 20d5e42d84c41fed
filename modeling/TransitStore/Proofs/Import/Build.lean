import Mathlib
import TransitStore.Proofs.Import.Trips
import TransitStore.Proofs.Snapshot.RoundTrip

/-!
# References of imported containers

An import adds lines, stops and trips in a row, each of which refers only to what is
there.  The calendar, the time zone and the stop index are put in last and leave the
tables as they are.  So whatever identifiers a feed repeats or misses, an import that
succeeds gives a container whose references lead somewhere
(`checkReferences_of_run`).
-/

namespace TransitStore.Import

open Entity Container

/-- All of an import but the stop index. -/
def addUnindexed (feed : Feed) (options : Options) : Edit Container (List Warning) := do
  let timeOffset ← Edit.ofExcept options.timeOffset?
  let lines ← addLines feed
  addStops feed (stopLookup feed)
  let start ← Edit.ofExcept (calendarStart? feed options)
  let days := options.keptDays
  let warnings ← addTrips feed (stopLookup feed) lines (daysOf feed start days) timeOffset
  Container.setCalendar (UInt64.ofNat start.midnight.toNat) (UInt32.ofNat days)
  Container.setTimezone (feedTimezone feed) options.utcOffset
  return warnings

theorem addFeed_eq (feed : Feed) (options : Options) : addFeed feed options = do
    let warnings ← addUnindexed feed options
    Container.buildStopIndex
    return warnings := by
  simp only [addFeed, addUnindexed, bind_assoc, pure_bind]

theorem addUnindexed_eq_ok {feed : Feed} {options : Options} {warnings : List Warning}
    {c : Container} (h : addUnindexed feed options {} = .ok warnings c) :
    c.RefersInside ∧ (∀ place, c.metadata.timezone = some place → place.toNat < c.pool.size) ∧
      Audit.TransfersResolve c.stopPoints.rows c.transfers.size := by
  obtain ⟨timeOffset, -, h₁⟩ := Edit.ofExcept_bind_eq_ok.1 h
  obtain ⟨lines, c₁, addedLines, h₂⟩ := Edit.bind_eq_ok.1 h₁
  obtain ⟨_, c₂, addedStops, h₃⟩ := Edit.bind_eq_ok.1 h₂
  obtain ⟨start, -, h₄⟩ := Edit.ofExcept_bind_eq_ok.1 h₃
  obtain ⟨_, c₃, addedTrips, h₅⟩ := Edit.bind_eq_ok.1 h₄
  obtain ⟨_, c₄, calendar, h₆⟩ := Edit.bind_eq_ok.1 h₅
  obtain ⟨_, c₅, zone, h₇⟩ := Edit.bind_eq_ok.1 h₆
  obtain ⟨-, rfl⟩ := Edit.pure_eq_ok.1 h₇
  have hasLines := addLines_eq_ok addedLines
  have noStops : c₁.stopPoints.rows = #[] :=
    congrArg Table.rows (hasLines.grows.others stopPoint (by decide))
  have noTransfers : c₁.transfers.rows = #[] :=
    congrArg Table.rows (hasLines.grows.others transfer (by decide))
  have hasStops := addStops_eq_ok hasLines.inside noStops noTransfers addedStops
  have grows := hasStops.grows
  obtain ⟨grows', inside⟩ := addTrips_eq_ok hasStops.inside hasStops.size hasLines.length
    (Nat.le_trans hasLines.routes (grows.size_le route))
    (fun line mem => Nat.lt_of_lt_of_le (hasLines.modes line mem) (grows.size_le commercialMode))
    addedTrips
  have transfers : Audit.TransfersResolve c₃.stopPoints.rows c₃.transfers.size := by
    have stops : c₃.stopPoints = c₂.stopPoints := grows'.others stopPoint (by decide)
    have walks : c₃.transfers = c₂.transfers := grows'.others transfer (by decide)
    rw [stops, walks]
    exact hasStops.transfers
  obtain rfl := setCalendar_eq_ok calendar
  obtain ⟨place, pool, intern, rfl⟩ := setTimezone_eq_ok zone
  obtain ⟨at_, longer, -⟩ := Pool.intern_eq_ok intern
  have rest : Grows [] c₃ { c₃ with
      pool, metadata := { c₃.metadata with
        calendarStart := UInt64.ofNat start.midnight.toNat
        days := UInt32.ofNat options.keptDays
        timezone := some place, utcOffset := options.utcOffset } } :=
    .of_tables (fun e => by cases e <;> rfl) (Pool.prefix_of_intern intern)
  refine ⟨inside.of_grows rest, ?_, transfers⟩
  intro place' same
  cases same
  show place.toNat < pool.size
  rw [at_]
  exact longer

/-- A container with a feed in it has good references. -/
theorem sound_addFeed {feed : Feed} {options : Options} {warnings : List Warning} {c : Container}
    (h : addFeed feed options {} = .ok warnings c) : Audit.Sound c := by
  rw [addFeed_eq] at h
  obtain ⟨_, unindexed, added, h₁⟩ := Edit.bind_eq_ok.1 h
  obtain ⟨_, _, index, h₂⟩ := Edit.bind_eq_ok.1 h₁
  obtain ⟨-, rfl⟩ := Edit.pure_eq_ok.1 h₂
  obtain ⟨inside, timezone, transfers⟩ := addUnindexed_eq_ok added
  obtain ⟨stopIndex, build, rfl⟩ := buildStopIndex_eq_ok index
  have rest : Grows [] unindexed { unindexed with stopIndex } :=
    .of_tables (fun e => by cases e <;> rfl) (.refl unindexed.pool)
  exact (inside.of_grows rest).sound timezone transfers (.inr (StopIndex.build_eq_ok build).1)

/-! ## Imports are made of operations -/

section

variable {days : ServiceDays} {timeOffset : Int8} {inv : Container → Prop}
  (each : ∀ op : Operation, Edit.Keeps inv op.edit)
include each

theorem keeps_addLines (feed : Feed) : Edit.Keeps inv (addLines feed) := by
  refine (Operation.keeps_add each operator _).bind fun _ => ?_
  refine (Operation.keeps_add each physicalMode _).bind fun _ => ?_
  refine (Operation.keeps_add each commercialMode _).bind fun _ => ?_
  refine (Edit.Keeps.ofExcept _).bind fun lines => ?_
  refine (Operation.keeps_add each line lines).bind fun _ => ?_
  exact (Operation.keeps_add each route _).bind fun _ => .pure lines

theorem keeps_addStops (feed : Feed) (stops : Lookup) : Edit.Keeps inv (addStops feed stops) := by
  refine (Edit.Keeps.ofExcept _).bind fun areas => ?_
  refine (Operation.keeps_add each stopArea _).bind fun _ => ?_
  refine (Edit.Keeps.ofExcept _).bind fun drafts => ?_
  refine (Operation.keeps_add each stopPoint drafts).bind fun _ => ?_
  exact .forM fun walks _ => (Operation.keeps_add each transfer walks).bind fun _ => .pure ()

theorem keeps_addPattern (mode : UInt8) (key : PatternKey) (trips : List FollowedTrip) :
    Edit.Keeps inv (addPattern days timeOffset mode key trips) := by
  refine (Operation.keeps_add each journeyPatternPoint _).bind fun _ => ?_
  refine Edit.Keeps.bind (.mapM fun t _ => ?_) fun journeys => ?_
  · exact (Operation.keeps_add each stopTime _).bind fun _ => .pure _
  · refine (Operation.keeps_add each vehicleJourney journeys).bind fun _ => ?_
    exact (Operation.keeps_add each journeyPattern _).bind fun _ => .pure ()

theorem keeps_addGroup (modes : Array UInt8) (key : PatternKey) (trips : List FollowedTrip) :
    Edit.Keeps inv (addGroup days timeOffset modes key trips) := by
  have patterns : ∀ mode, Edit.Keeps inv
      ((chunks (maxJourneys - 1) trips).forM (addPattern days timeOffset mode key)) := fun mode =>
    .forM fun trips _ => keeps_addPattern each mode key trips
  unfold addGroup
  dsimp only
  split
  · exact (Edit.Keeps.ofExcept (.error _)).bind fun _ => patterns _
  · exact patterns _

/-- An import only takes a container through its operations, whether it fails or not. -/
theorem keeps_addFeed (feed : Feed) (options : Options) :
    Edit.Keeps inv (addFeed feed options) := by
  refine (Edit.Keeps.ofExcept _).bind fun _ => ?_
  refine (keeps_addLines each feed).bind fun lines => ?_
  refine (keeps_addStops each feed _).bind fun _ => ?_
  refine (Edit.Keeps.ofExcept _).bind fun start => ?_
  refine Edit.Keeps.bind ?_ fun warnings => ?_
  · refine Edit.Keeps.bind (.forM fun group _ => ?_) fun _ => .pure _
    exact keeps_addGroup each _ group.1 group.2
  · refine (each (.setCalendar _ _)).bind fun _ => ?_
    refine (each (.setTimezone _ _)).bind fun _ => ?_
    exact (each .buildStopIndex).bind fun _ => .pure warnings

end

theorem reachable_addFeed (feed : Feed) (options : Options) :
    Edit.Keeps Reachable (addFeed feed options) :=
  keeps_addFeed Reachable.keeps feed options

theorem run_eq_ok {feed : Feed} {options : Options} {imported : Imported}
    (h : run feed options = .ok imported) :
    addFeed feed options {} = .ok imported.warnings imported.container := by
  unfold run at h
  split at h
  · cases h
    assumption
  · cases h

/-- What holds of a new container and goes on to hold behind every operation holds of an
imported one. -/
theorem holds_of_run {inv : Container → Prop} {feed : Feed} {options : Options}
    {imported : Imported} (each : ∀ op : Operation, Edit.Keeps inv op.edit) (start : inv {})
    (h : run feed options = .ok imported) : inv imported.container := by
  have kept := keeps_addFeed each feed options {} start
  rwa [Edit.after_of_ok (run_eq_ok h)] at kept

/-- Every imported container has good references, whatever its feed is like.  So its
snapshot is opened again with a check of its references, also from a file. -/
theorem checkReferences_of_run {feed : Feed} {options : Options} {imported : Imported}
    (h : run feed options = .ok imported) :
    Audit.checkReferences imported.container = .ok () ∧
      (∀ path, ∃ opened,
        Snapshot.openImage path true (Snapshot.encode imported.container) = .ok opened) ∧
      ∀ (path : String) (before after : Directory),
        saveSnapshot (m := StateM Directory) imported.container path before = (.ok (), after) →
        ∃ opened, openFile (m := StateM Directory) path true after = (.ok opened, after) := by
  have run := run_eq_ok h
  have good := Audit.checkReferences_eq_ok.2 (sound_addFeed run)
  have reachable : imported.container.Reachable := by
    have kept := reachable_addFeed feed options {} .new
    rwa [Edit.after_of_ok run] at kept
  have opened (path : String) : ∃ opened,
      Snapshot.openImage path true (Snapshot.encode imported.container) = .ok opened := by
    have checked := Snapshot.openImage_true (Snapshot.decode_encode reachable.fits path)
    rw [Snapshot.checkReferences_mappedFrom, good] at checked
    exact ⟨_, checked⟩
  refine ⟨good, opened, ?_⟩
  intro path before after saved
  obtain ⟨container, opened⟩ := opened path
  exact ⟨container, by rw [Snapshot.openFile_of_saveSnapshot saved, opened]⟩

/-! ## A feed with a trip -/

/-- A feed with a trip whose stop times are not in order and lack times. -/
def oneTrip : Feed where
  agencies := [⟨none, "Agency", "a.org", "UTC"⟩]
  routes := [⟨"R", none, some "1", none, .bus, ⟨255, 255, 255⟩, ⟨0, 0, 0⟩⟩]
  stops := [⟨"S", .stopPoint, none, none, none, none, none, none⟩,
    ⟨"T", .stopPoint, none, none, none, none, none, none⟩]
  trips := [⟨"V", "D", "R", none, .available, .noBikeInfo⟩]
  stopTimes := [⟨"V", "T", some 60, none, 1, .regular, .regular⟩,
                ⟨"V", "S", none, some 0, 0, .regular, .regular⟩]

/-- The trip once it was followed. -/
def oneTripFollowed : FollowedTrip :=
  ⟨⟨"V", "D", "R", none, .available, .noBikeInfo⟩, [⟨0, 2, 0, 0⟩, ⟨1, 4, 60, 60⟩]⟩

theorem stopLookup_oneTrip :
    (stopLookup oneTrip)["S"]? = some 0 ∧ (stopLookup oneTrip)["T"]? = some 1 := by
  constructor
  · show (((∅ : Lookup).insert "S" 0).insert "T" 1)["S"]? = some 0
    rw [Std.HashMap.getElem?_insert, Std.HashMap.getElem?_insert_self]
    rfl
  · show (((∅ : Lookup).insert "S" 0).insert "T" 1)["T"]? = some 1
    rw [Std.HashMap.getElem?_insert_self]

theorem lineLookup_oneTrip : (lineLookup oneTrip.routes)["R"]? = some 0 := by
  show ((∅ : Lookup).insert "R" 0)["R"]? = some 0
  rw [Std.HashMap.getElem?_insert_self]

theorem followed_oneTrip : oneTrip.trips.filterMap
    (follow? (stopTimesByTrip oneTrip.stopTimes) (stopLookup oneTrip)) = [oneTripFollowed] := by
  have times : (stopTimesByTrip oneTrip.stopTimes)["V"]? = some
      [⟨"V", "S", none, some 0, 0, .regular, .regular⟩,
       ⟨"V", "T", some 60, none, 1, .regular, .regular⟩] := by
    simp [stopTimesByTrip, oneTrip, List.mergeSort]
  obtain ⟨first, last⟩ := stopLookup_oneTrip
  have visits : visits? (stopLookup oneTrip)
      [⟨"V", "S", none, some 0, 0, .regular, .regular⟩,
       ⟨"V", "T", some 60, none, 1, .regular, .regular⟩] =
        some oneTripFollowed.visits := by
    simp [visits?, visit?, first, last]
    decide
  show List.filterMap _ [_] = _
  simp [follow?, times, visits, oneTripFollowed]

theorem withKeys_oneTrip : withKeys (lineLookup oneTrip.routes) [oneTripFollowed] =
    [(.of 0 oneTripFollowed, oneTripFollowed)] := by
  show List.filterMap _ [_] = _
  rw [List.filterMap_cons, show oneTripFollowed.trip.routeId = "R" from rfl, lineLookup_oneTrip]
  rfl

theorem group_singleton (key : PatternKey) (t : FollowedTrip) :
    group [(key, t)] = [(key, [t])] := by
  simp [group, Groups.add]

/-- One of the first days of the year 1970. -/
def dayOf (number : UInt8) : Calendar.Date where
  dayNumber := number.toNat
  firstDay_le := by
    have early : Calendar.firstDay ≤ 0 := by decide
    exact early.trans (Int.natCast_nonneg number.toNat)
  le_lastDay := by
    have late : 256 ≤ Calendar.lastDay := by decide
    have := number.toNat_lt
    omega

/-- The first calendar day is chosen, since the feed has none. -/
def chosenDay : Options where
  calendarStart := some ⟨0, by decide, by decide⟩

theorem exists_run_of_size {feed : Feed} {options : Options} {journeys : Nat}
    (size : (run feed options).toOption.map (·.container.vehicleJourneys.size) = some journeys) :
    ∃ imported, run feed options = .ok imported ∧
      imported.container.vehicleJourneys.size = journeys := by
  cases made : run feed options with
  | error e =>
    rw [made] at size
    cases size
  | ok imported =>
    rw [made] at size
    exact ⟨imported, rfl, Option.some.inj size⟩

theorem run_oneTrip : ∃ imported, run oneTrip chosenDay = .ok imported ∧
    imported.container.vehicleJourneys.size = 1 := by
  apply exists_run_of_size
  simp only [run, addFeed, addTrips, followed_oneTrip, withKeys_oneTrip, group_singleton]
  decide +kernel

/-- The feed is imported with its trip, and the references of the container are good. -/
theorem checkReferences_oneTrip : ∃ imported, run oneTrip chosenDay = .ok imported ∧
    imported.container.vehicleJourneys.size = 1 ∧
      Audit.checkReferences imported.container = .ok () := by
  obtain ⟨imported, made, size⟩ := run_oneTrip
  exact ⟨imported, made, size, (checkReferences_of_run made).1⟩

end TransitStore.Import
