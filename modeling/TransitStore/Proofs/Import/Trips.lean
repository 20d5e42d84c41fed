import Mathlib
import TransitStore.Proofs.Import.Grouping

/-!
# References of imported trips

A trip that was followed visits known stop points, and trips are only grouped with
the key that they have themselves (`mem_group`).  So a journey pattern has as many
points as each of its vehicle journeys has stop times, whatever trips it is cut off
from (`addPattern_eq_ok`).
-/

namespace TransitStore.Import

open Entity Container

/-! ## Following trips -/

/-- The stop points of a trip are rows that there are. -/
def FollowedTrip.Known (count : Nat) (t : FollowedTrip) : Prop :=
  ∀ v ∈ t.visits, v.stop.toNat < count

theorem known_of_follow? {times : Std.HashMap String (List Feed.StopTime)} {stops : Lookup}
    {count : Nat} (inside : ∀ (id : String) (row : Nat), stops[id]? = some row → row < count)
    {trip : Feed.Trip} {t : FollowedTrip} (h : follow? times stops trip = some t) :
    t.Known count := by
  obtain ⟨visits, followed, rfl⟩ := Option.map_eq_some_iff.1 h
  obtain ⟨list, -, visited⟩ := Option.bind_eq_some_iff.1 followed
  intro v mem
  obtain ⟨time, -, made⟩ := exists_of_forall₂ (visits?_eq_some visited) mem
  obtain ⟨-, row, found, rfl⟩ := visit?_eq_some.1 made
  exact Nat.lt_of_le_of_lt (toNat_ofNat16_le row) (inside _ row found)

/-! ## Trips of a pattern -/

/-- A trip of one of so many lines along so many stop points. -/
structure PatternKey.Fits (lines stops : Nat) (key : PatternKey) (t : FollowedTrip) : Prop where
  /-- The key is that of the trip and its line. -/
  line : ∃ line < lines, key = .of line t
  /-- The stop points are known. -/
  known : t.Known stops

theorem fits_withKeys {lines : Lookup} {trips : List FollowedTrip} {lineCount stopCount : Nat}
    (inside : ∀ (id : String) (row : Nat), lines[id]? = some row → row < lineCount)
    (known : ∀ t ∈ trips, t.Known stopCount) {key : PatternKey} {t : FollowedTrip}
    (mem : (key, t) ∈ withKeys lines trips) : key.Fits lineCount stopCount t := by
  obtain ⟨t', mem', keyed⟩ := List.mem_filterMap.1 mem
  obtain ⟨line, found, same⟩ := Option.map_eq_some_iff.1 keyed
  cases same
  exact ⟨⟨line, inside _ line found, rfl⟩, known t mem'⟩

namespace PatternKey.Fits

variable {lines stops : Nat} {key : PatternKey} {t : FollowedTrip} (fits : key.Fits lines stops t)

include fits

theorem line_lt : key.line.toNat < lines := by
  obtain ⟨line, lt, rfl⟩ := fits.line
  exact Nat.lt_of_le_of_lt (toNat_ofNat16_le line) lt

/-- A vehicle journey has a stop time for each stop of the pattern. -/
theorem length_stopTimes : t.stopTimes.length = key.stops.length := by
  obtain ⟨line, -, rfl⟩ := fits.line
  rw [FollowedTrip.stopTimes, PatternKey.of, List.length_map, List.length_map]

theorem length_points : key.points.length = key.stops.length := by
  obtain ⟨line, -, rfl⟩ := fits.line
  simp [PatternKey.points, PatternKey.of]

theorem stopPoint_lt {d : JourneyPatternPoint.Draft} (mem : d ∈ key.points) :
    d.stopPoint.toNat < stops := by
  obtain ⟨line, -, rfl⟩ := fits.line
  obtain ⟨⟨stop, attributes⟩, mem', rfl⟩ := List.mem_map.1 mem
  obtain ⟨v, visit, rfl⟩ := List.mem_map.1 (List.of_mem_zip mem').1
  exact fits.known v visit

end PatternKey.Fits

/-! ## Adding journey patterns -/

/-- The tables that journey patterns and their runs are put into. -/
def tripTables : List Entity := [journeyPatternPoint, stopTime, vehicleJourney, journeyPattern]

/-- The vehicle journey of a trip has its stop times among so many. -/
def Runs (days : ServiceDays) (timeOffset : Int8) (stopTimes : Nat) (t : FollowedTrip)
    (d : VehicleJourney.Draft) : Prop :=
  ∃ start, d = journeyDraft days timeOffset t start ∧ start + t.stopTimes.length ≤ stopTimes

variable {c c' : Container} {days : ServiceDays} {timeOffset : Int8}

theorem addStopTimes_eq_ok {trips : List FollowedTrip} {journeys : List VehicleJourney.Draft}
    (inside : c.RefersInside)
    (h : (trips.mapM fun (t : FollowedTrip) => do
      let stopTimes ← Container.add t.stopTimes
      return journeyDraft days timeOffset t stopTimes) c = .ok journeys c') :
    Extends tripTables c c' ∧
      List.Forall₂ (Runs days timeOffset c'.stopTimes.size) trips journeys := by
  induction trips generalizing c journeys with
  | nil =>
    obtain ⟨rfl, rfl⟩ := Edit.mapM_nil_eq_ok.1 h
    exact ⟨.refl inside, .nil⟩
  | cons t trips ih =>
    obtain ⟨d, middle, rest, first, last, rfl⟩ := Edit.mapM_cons_eq_ok.1 h
    obtain ⟨start, middle, add, same⟩ := Edit.bind_eq_ok.1 first
    obtain ⟨rfl, rfl⟩ := Edit.pure_eq_ok.1 same
    have added := add_eq_ok (e := stopTime) add
    have step : Extends tripTables c middle :=
      .of_added inside added (by decide) fun _ _ _ => trivial
    obtain ⟨steps, runs⟩ := ih step.inside last
    refine ⟨step.trans steps, .cons ⟨start, rfl, ?_⟩ runs⟩
    have size : middle.stopTimes.size = c.stopTimes.size + t.stopTimes.length := added.size
    have at_ : start = c.stopTimes.size := added.start
    rw [at_, ← size]
    exact steps.grows.size_le stopTime

/-- The runs of a pattern are rows of their tables if it has vehicle journeys that were
just added, and their stop times are there. -/
theorem patternResolves_of_added {journeys : List VehicleJourney.Draft} {first : Nat}
    (added : vehicleJourney.Added journeys c first c') {p : JourneyPattern}
    (points : p.pointOffset.toNat + p.stopCount.toNat ≤ c'.journeyPatternPoints.size)
    (offset : p.vehicleJourneyOffset = UInt32.ofNat first)
    (count : p.vehicleJourneyCount.toNat ≤ journeys.length)
    (times : ∀ d ∈ journeys,
      d.stopTimesOffset.toNat + p.stopCount.toNat ≤ c'.stopTimes.size) :
    Audit.PatternResolves c' p := by
  have size : c'.vehicleJourneys.size = c.vehicleJourneys.size + journeys.length := added.size
  have start : first = c.vehicleJourneys.size := added.start
  have short : c'.vehicleJourneys.size ≤ 4294967295 := added.short
  have exact_ : p.vehicleJourneyOffset.toNat = first := by
    rw [offset]
    exact UInt32.toNat_ofNat_of_lt' (by
      show first < 4294967296
      omega)
  refine ⟨points, by omega, ?_⟩
  intro i lt v at_
  have inside : i < journeys.length := Nat.lt_of_lt_of_le lt count
  obtain ⟨w, behind⟩ := added.getElem? (List.getElem?_eq_getElem inside)
  rw [exact_] at at_
  cases at_.symm.trans behind
  exact times _ (List.getElem_mem inside)

/-- The references of a pattern lead somewhere if its trips run along its stops. -/
theorem addPattern_eq_ok {mode : UInt8} {key : PatternKey} {trips : List FollowedTrip}
    {lines stops : Nat} (inside : c.RefersInside) (routes : lines ≤ c.routes.size)
    (points : stops ≤ c.stopPoints.size) (modes : mode.toNat < c.commercialModes.size)
    (some_ : trips ≠ []) (fits : ∀ t ∈ trips, key.Fits lines stops t)
    (h : addPattern days timeOffset mode key trips c = .ok () c') : Extends tripTables c c' := by
  obtain ⟨firstPoint, c₁, add₁, h₁⟩ := Edit.bind_eq_ok.1 h
  obtain ⟨journeys, c₂, add₂, h₂⟩ := Edit.bind_eq_ok.1 h₁
  obtain ⟨first, c₃, add₃, h₃⟩ := Edit.bind_eq_ok.1 h₂
  obtain ⟨_, c₄, add₄, h₄⟩ := Edit.bind_eq_ok.1 h₃
  obtain ⟨-, rfl⟩ := Edit.pure_eq_ok.1 h₄
  have added₁ := add_eq_ok (e := journeyPatternPoint) add₁
  have added₃ := add_eq_ok (e := vehicleJourney) add₃
  have added₄ := add_eq_ok (e := journeyPattern) add₄
  obtain ⟨t, mem⟩ := List.exists_mem_of_ne_nil _ some_
  have along := fits t mem
  have step₁ : Extends tripTables c c₁ := .of_added inside added₁ (by decide)
    fun d mem _ => Nat.lt_of_lt_of_le (along.stopPoint_lt mem) points
  obtain ⟨step₂, runs⟩ := addStopTimes_eq_ok step₁.inside add₂
  have step₃ : Extends tripTables c₂ c₃ := .of_added step₂.inside added₃ (by decide)
    fun d mem _ => by
      obtain ⟨t, -, start, rfl, -⟩ := exists_of_forall₂ runs mem
      simp [Refers, record, journeyDraft, VehicleJourney.forwardTransfers?,
        VehicleJourney.backwardTransfers?, Span.isSome_run?]
  have steps : Extends tripTables c c₃ := (step₁.trans step₂).trans step₃
  refine steps.trans (.of_added steps.inside added₄ (by decide) fun d mem _ => ?_)
  cases List.mem_singleton.1 mem
  refine ⟨?_, ?_, patternResolves_of_added added₃ ?_ rfl ?_ ?_⟩
  · exact Nat.lt_of_lt_of_le along.line_lt (Nat.le_trans routes (steps.grows.size_le route))
  · exact Nat.lt_of_lt_of_le modes (steps.grows.size_le commercialMode)
  · have size : c₁.journeyPatternPoints.size =
        c.journeyPatternPoints.size + key.points.length := added₁.size
    have start : firstPoint = c.journeyPatternPoints.size := added₁.start
    rw [along.length_points, ← start] at size
    have le := (step₂.trans step₃).grows.size_le journeyPatternPoint
    exact Nat.le_trans (Nat.add_le_add (toNat_ofNat32_le firstPoint)
      (toNat_ofNat16_le key.stops.length)) (Nat.le_trans (Nat.le_of_eq size.symm) le)
  · exact Nat.le_trans (toNat_ofNat16_le trips.length) (Nat.le_of_eq runs.length_eq)
  · intro d mem
    obtain ⟨t, mem', start, rfl, inside⟩ := exists_of_forall₂ runs mem
    rw [(fits t mem').length_stopTimes] at inside
    have le := step₃.grows.size_le stopTime
    exact Nat.le_trans (Nat.add_le_add (toNat_ofNat32_le start)
      (toNat_ofNat16_le key.stops.length)) (Nat.le_trans inside le)

theorem addGroup_eq_ok {modes : Array UInt8} {key : PatternKey} {trips : List FollowedTrip}
    {lines stops : Nat} (inside : c.RefersInside) (routes : lines ≤ c.routes.size)
    (points : stops ≤ c.stopPoints.size)
    (modesLt : ∀ i < lines, (modes[i]?.getD 0).toNat < c.commercialModes.size)
    (fits : ∀ t ∈ trips, key.Fits lines stops t)
    (h : addGroup days timeOffset modes key trips c = .ok () c') : Extends tripTables c c' := by
  unfold addGroup at h
  dsimp only at h
  split at h
  · cases h
  · refine Edit.of_forM h (.refl inside) ?_
    intro piece mem s s' steps run
    have le := steps.grows.size_le
    obtain ⟨some_, subset⟩ := mem_chunks mem
    have fits' : ∀ t ∈ piece, key.Fits lines stops t := fun t mem => fits t (subset mem)
    obtain ⟨t, mem'⟩ := List.exists_mem_of_ne_nil _ some_
    have mode := modesLt key.line.toNat (fits' t mem').line_lt
    exact steps.trans (addPattern_eq_ok steps.inside (Nat.le_trans routes (le route))
      (Nat.le_trans points (le stopPoint)) (Nat.lt_of_lt_of_le mode (le commercialMode)) some_
      fits' run)

/-- The journey patterns of a feed refer to the stops and lines that are there. -/
theorem addTrips_eq_ok {feed : Feed} {lines : List Line.Draft} {warnings : List Warning}
    (inside : c.RefersInside) (points : (stopPoints feed).length ≤ c.stopPoints.size)
    (length : lines.length = feed.routes.length) (routes : lines.length ≤ c.routes.size)
    (modes : ∀ line ∈ lines, line.physicalMode.toNat < c.commercialModes.size)
    (h : addTrips feed (stopLookup feed) lines days timeOffset c = .ok warnings c') :
    Extends tripTables c c' := by
  obtain ⟨_, last, run, same⟩ := Edit.bind_eq_ok.1 h
  obtain ⟨-, rfl⟩ := Edit.pure_eq_ok.1 same
  refine Edit.of_forM run (.refl inside) ?_
  rintro ⟨key, trips⟩ mem s s' steps group
  have le := steps.grows.size_le
  have fits : ∀ t ∈ trips, key.Fits lines.length (stopPoints feed).length t := by
    intro t trip
    refine fits_withKeys ?_ ?_ (mem_group mem trip)
    · intro id row found
      have lt := Lookup.lt_of_getElem? found
      rwa [List.length_map, ← length] at lt
    · intro t mem
      obtain ⟨trip, -, followed⟩ := List.mem_filterMap.1 mem
      exact known_of_follow? (fun _ _ => stopLookup_lt) followed
  have modesLt : ∀ i < lines.length,
      (((lines.map Line.Draft.physicalMode).toArray)[i]?.getD 0).toNat <
        s.commercialModes.size := by
    intro i lt
    have mode := modes _ (List.getElem_mem lt)
    rw [List.getElem?_toArray, List.getElem?_map, List.getElem?_eq_getElem lt, Option.map_some,
      Option.getD_some]
    exact Nat.lt_of_lt_of_le mode (le commercialMode)
  exact steps.trans (addGroup_eq_ok steps.inside (Nat.le_trans routes (le route))
    (Nat.le_trans points (le stopPoint)) modesLt fits group)

end TransitStore.Import
