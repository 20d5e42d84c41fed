import Mathlib
import TransitStore.Proofs.Import.Journeys
import TransitStore.Proofs.Import.Needs
import TransitStore.Proofs.Rounding

/-!
# Stop areas of an imported feed

The stations of a feed are its first stop areas.  Then the stop points are gone through: one
that names a station has the area of the last station with the identifier, and any other one
gets a new area behind those that are there.  So the row of such an area is counted along the
way (`Areas.Of`), and no other stop point has it (`InArea.alone`).
-/

namespace TransitStore.Import

open Entity Container
open Binary (binary32 binary64)

variable {feed : Feed} {options : Options} {c : Container} {stop : Feed.Stop}

/-! ## What the tables say -/

/-- The time zone of the area of a stop: its own, or else that of the first agency. -/
def zoneOf (feed : Feed) (stop : Feed.Stop) : String :=
  match stop.timezone, feed.agencies with
  | some zone, _ => zone
  | none, agency :: _ => agency.timezone
  | none, [] => "UTC"

/-- A number of 32 bits is the one nearest to degrees in 64 bits, or zero if there are none. -/
def DegreesOf (degrees : Option UInt64) (bits : UInt32) : Prop :=
  match degrees with
  | some wide => binary64.Converts binary32 wide.toNat bits.toNat
  | none => bits = 0

/-- A place on the globe is that of a stop. -/
structure LiesAt (stop : Feed.Stop) (coord : Coordinate) : Prop where
  latitude : DegreesOf stop.latitude coord.latitude
  longitude : DegreesOf stop.longitude coord.longitude

/-- A record says of a stop area what a stop is. -/
structure AreaOf (feed : Feed) (pool : Pool) (stop : Feed.Stop) (area : StopArea) : Prop where
  id : pool.Reads area.id stop.id
  name : pool.Reads area.name (stop.name.getD "")
  coord : LiesAt stop area.coord
  timezone : pool.Reads area.timezone (zoneOf feed stop)

/-- A record says of a stop point what a stop is. -/
structure StopPointOf (pool : Pool) (stop : Feed.Stop) (point : StopPoint) : Prop where
  id : pool.Reads point.id stop.id
  name : pool.Reads point.name (stop.name.getD "")
  platformCode : pool.Reads point.platformCode (stop.platformCode.getD "")
  coord : LiesAt stop point.coord

/-- A row is the area of a stop point that comes behind others. -/
inductive InArea (feed : Feed) (before : List Feed.Stop) (stop : Feed.Stop) : Nat → Prop where
  /-- The stop point belongs to the last station with the identifier it names. -/
  | station {id : String} {row : Nat} (named : stop.parent = some id)
    (last : LastRow (stations feed) (·.id = id) row) : InArea feed before stop row
  /-- The stop point has an area of its own, behind the stations and those of others. -/
  | own {row : Nat} (single : ¬HasStation feed stop)
    (at_ : row = (stations feed).length + before.countP fun stop => ¬HasStation feed stop) :
    InArea feed before stop row

/-- The stop point in a row is the only one of an area, which says of it what the stop point
does. -/
structure HasOwnArea (c : Container) (row : Nat) (point : StopPoint) : Prop where
  area : ∃ area, c.stopAreas.rows[point.stopArea.toNat]? = some area ∧
    c.pool.text? area.id = c.pool.text? point.id ∧
      c.pool.text? area.name = c.pool.text? point.name ∧ area.coord = point.coord
  alone : ∀ (other : Nat) (p : StopPoint), c.stopPoints.rows[other]? = some p →
    p.stopArea = point.stopArea → other = row

/-- The stop areas and stop points of a container are those of a feed. -/
structure CarriesAreas (feed : Feed) (c : Container) : Prop where
  /-- The areas are the stations, and then the stop points without one. -/
  areas : List.Forall₂ (AreaOf feed c.pool) (areaStops feed) c.stopAreas.rows.toList
  points : List.Forall₂ (StopPointOf c.pool) (stopPoints feed) c.stopPoints.rows.toList
  /-- Each stop point is in the area of its station or in a new one. -/
  inArea : ∀ (row : Nat) (stop : Feed.Stop) (point : StopPoint),
    (stopPoints feed)[row]? = some stop → c.stopPoints.rows[row]? = some point →
      InArea feed ((stopPoints feed).take row) stop point.stopArea.toNat
  own : ∀ (row : Nat) (stop : Feed.Stop) (point : StopPoint),
    (stopPoints feed)[row]? = some stop → c.stopPoints.rows[row]? = some point →
      ¬HasStation feed stop → HasOwnArea c row point

/-! ## Coordinates -/

theorem toNat_narrow (wide : UInt64) :
    (narrow (some wide)).toNat = binary64.convert binary32 wide.toNat := by
  have bits : 2 * binary32.signBit = UInt32.size := by decide
  have lt := binary64.convert_lt (by decide : 2 ≤ binary32.precision) wide.toNat
  rw [bits] at lt
  exact UInt32.toNat_ofNat_of_lt' lt

theorem degreesOf_narrow (degrees : Option UInt64) : DegreesOf degrees (narrow degrees) := by
  cases degrees with
  | none => rfl
  | some wide =>
    rw [DegreesOf, toNat_narrow]
    exact binary64.converts_convert (by decide) wide.toNat

theorem liesAt_coordOf (stop : Feed.Stop) : LiesAt stop (coordOf stop) :=
  ⟨degreesOf_narrow stop.latitude, degreesOf_narrow stop.longitude⟩

/-- Degrees that are a number are nearest to one number of 32 bits. -/
theorem DegreesOf.unique {degrees : Option UInt64} {a b : UInt32}
    (finite : ∀ wide ∈ degrees, binary64.magnitude wide.toNat < binary64.infinity)
    (first : DegreesOf degrees a) (second : DegreesOf degrees b) : a = b := by
  cases degrees with
  | none => exact first.trans second.symm
  | some wide =>
    have bits : 2 * binary32.signBit = UInt32.size := by decide
    apply UInt32.toNat.inj
    exact Binary.Format.Converts.unique (finite wide rfl) first second (bits ▸ a.toNat_lt)
      (bits ▸ b.toNat_lt)

theorem LiesAt.unique {a b : Coordinate}
    (finite : ∀ wide, stop.latitude = some wide ∨ stop.longitude = some wide →
      binary64.magnitude wide.toNat < binary64.infinity)
    (first : LiesAt stop a) (second : LiesAt stop b) : a = b := by
  have latitude : a.latitude = b.latitude :=
    first.latitude.unique (fun wide given => finite wide (.inl given)) second.latitude
  have longitude : a.longitude = b.longitude :=
    first.longitude.unique (fun wide given => finite wide (.inr given)) second.longitude
  cases a
  cases b
  cases latitude
  cases longitude
  rfl

/-! ## Rows of areas -/

theorem hasStation_of_lastRow {id : String} {row : Nat} (named : stop.parent = some id)
    (last : LastRow (stations feed) (·.id = id) row) : HasStation feed stop := by
  obtain ⟨station, at_, rfl⟩ := last.holds
  exact ⟨station, List.mem_of_getElem? at_, named⟩

theorem countP_take_lt {α : Type} {l : List α} {p : α → Bool} {a : α} {i j : Nat}
    (at_ : l[i]? = some a) (holds : p a = true) (lt : i < j) :
    (l.take i).countP p < (l.take j).countP p := by
  obtain ⟨front, rest, rfl, rfl⟩ := exists_split_of_getElem? at_
  obtain ⟨more, rfl⟩ := Nat.exists_eq_add_of_lt lt
  have longer : (front ++ a :: rest).take (front.length + more + 1) =
      front ++ a :: rest.take more := by
    rw [Nat.add_assoc, List.take_length_add_append, List.take_succ_cons]
  rw [longer, List.take_left, List.countP_append, List.countP_cons_of_pos holds]
  omega

/-- No other stop point is in an area that belongs to a stop point alone. -/
theorem InArea.alone {stops : List Feed.Stop} {row other area : Nat} {stop' : Feed.Stop}
    (at_ : stops[row]? = some stop) (at' : stops[other]? = some stop')
    (single : ¬HasStation feed stop) (own : InArea feed (stops.take row) stop area)
    (own' : InArea feed (stops.take other) stop' area) : other = row := by
  cases own with
  | station named last => exact absurd (hasStation_of_lastRow named last) single
  | own _ counted =>
    cases own' with
    | station _ last =>
      have inside := last.lt_length
      omega
    | own single' counted' =>
      rcases Nat.lt_trichotomy other row with before | same | behind
      · have fewer := countP_take_lt (p := fun stop => ¬HasStation feed stop) at'
          (by simpa using single') before
        omega
      · exact same
      · have fewer := countP_take_lt (p := fun stop => ¬HasStation feed stop) at_
          (by simpa using single) behind
        omega

/-- The row that is counted for a stop point without a station is its own. -/
theorem InArea.getElem?_areaStops {row area : Nat} (at_ : (stopPoints feed)[row]? = some stop)
    (single : ¬HasStation feed stop) (own : InArea feed ((stopPoints feed).take row) stop area) :
    (areaStops feed)[area]? = some stop := by
  cases own with
  | station named last => exact absurd (hasStation_of_lastRow named last) single
  | own _ counted =>
    obtain ⟨front, rest, split, rfl⟩ := exists_split_of_getElem? at_
    rw [counted, areaStops, split, List.take_left, List.countP_eq_length_filter,
      List.getElem?_append_right (Nat.le_add_right _ _), Nat.add_sub_cancel_left,
      List.filter_append, List.getElem?_append_right (Nat.le_refl _), Nat.sub_self,
      List.filter_cons_of_pos (by simpa using single), List.getElem?_cons_zero]

/-! ## Going through the stop points -/

/-- Some stop points were gone through: the areas are counted, and each stop point is in one. -/
structure Areas.Of (feed : Feed) (stops : List Feed.Stop) (a : Areas) : Prop where
  count : a.areas.size =
    (stations feed).length + stops.countP fun stop => ¬HasStation feed stop
  size : a.rows.size = stops.length
  inArea : ∀ (row : Nat) (stop : Feed.Stop) (area : UInt16), stops[row]? = some stop →
    a.rows[row]? = some area → InArea feed (stops.take row) stop area.toNat

variable {timezone : String} {stops : List Feed.Stop} {a b : Areas}

theorem Areas.Of.push {areas : Array StopArea.Draft} {area : UInt16} (of : a.Of feed stops)
    (count : areas.size =
      (stations feed).length + (stops ++ [stop]).countP fun stop => ¬HasStation feed stop)
    (last : InArea feed stops stop area.toNat) :
    Areas.Of feed (stops ++ [stop]) ⟨areas, a.rows.push area⟩ := by
  refine ⟨count, by simp [of.size], fun row stop' area' at_ found => ?_⟩
  rcases Nat.lt_trichotomy row stops.length with before | rfl | behind
  · have inside : row < a.rows.size := of.size ▸ before
    rw [List.getElem?_append_left before] at at_
    rw [Array.getElem?_push_lt inside, ← Array.getElem?_eq_getElem inside] at found
    rw [List.take_append_of_le_length before.le]
    exact of.inArea row stop' area' at_ found
  · rw [List.getElem?_concat_length] at at_
    rw [← of.size, Array.getElem?_push_size] at found
    cases at_
    cases found
    rwa [List.take_left]
  · have outside := (List.getElem?_eq_some_iff.1 at_).1
    rw [List.length_append, List.length_singleton] at outside
    omega

theorem Areas.Of.place (short : (stations feed).length ≤ UInt16.size) (of : a.Of feed stops)
    (h : Areas.place (stationLookup feed) timezone a stop = .ok b) :
    b.Of feed (stops ++ [stop]) := by
  by_cases has : HasStation feed stop
  · obtain ⟨id, row, named, last, placed⟩ := place_of_hasStation timezone a has
    cases placed.symm.trans h
    refine of.push ?_ ?_
    · rw [of.count]
      simp [has]
    · rw [UInt16.toNat_ofNat_of_lt' (last.lt_length.trans_le short)]
      exact .station named last
  · rw [place_of_not_hasStation has] at h
    split at h
    · cases h
    · rename_i room
      cases h
      have small : a.areas.size < UInt16.size := Nat.lt_succ_of_le (Nat.not_lt.1 room)
      refine of.push ?_ ?_
      · rw [Array.size_push, of.count]
        simp [has, Nat.add_assoc]
      · rw [UInt16.toNat_ofNat_of_lt' small]
        exact .own has of.count

/-- The areas of a feed, once all stop points were gone through. -/
theorem of_areasOf (short : (stations feed).length ≤ UInt16.size)
    (h : areasOf feed timezone = .ok a) : a.Of feed (stopPoints feed) := by
  unfold areasOf at h
  generalize stopPoints feed = stops at h ⊢
  induction stops using List.reverseRecOn generalizing a with
  | nil =>
    cases h
    exact ⟨by simp, rfl, nofun⟩
  | append_singleton stops stop ih =>
    rw [List.foldlM_append] at h
    cases before : stops.foldlM (Areas.place (stationLookup feed) timezone)
        ⟨((stations feed).map (areaDraft timezone)).toArray, #[]⟩ with
    | error e =>
      rw [before] at h
      cases h
    | ok b =>
      rw [before] at h
      have placed : Areas.place (stationLookup feed) timezone b stop = .ok a := by
        rw [← bind_pure (Areas.place (stationLookup feed) timezone b stop)]
        exact h
      exact (ih before).place short placed

/-! ## Imported containers -/

theorem zoneOf_eq (feed : Feed) (stop : Feed.Stop) :
    zoneOf feed stop = stop.timezone.getD (feedTimezone feed) := by
  rw [zoneOf, feedTimezone]
  cases stop.timezone with
  | some zone => rfl
  | none => cases feed.agencies <;> rfl

section

variable {l : Ledger} {areas : Areas} (same : Matches c l) (rows : StopRows feed areas l.stopPoints)

include same rows

/-- A stop point is that of a stop, in the area that was given to it. -/
theorem exists_stopPointOf {row : Nat} {point : StopPoint}
    (at_ : c.stopPoints.rows[row]? = some point) : ∃ stop, (stopPoints feed)[row]? = some stop ∧
      areas.rows[row]? = some point.stopArea ∧ StopPointOf c.pool stop point ∧
        point.coord = coordOf stop := by
  obtain ⟨_, drafted, shown⟩ := exists_left_of_forall₂ (same.shows stopPoint)
    ((Array.getElem?_toList ..).trans at_)
  obtain ⟨stop, _, area, _, stopAt, -, areaAt, -, rfl⟩ := getElem?_of_stopDrafts rows.2 drafted
  obtain ⟨coord, -, -, own, -, id, name, platformCode⟩ := shown
  have own : point.stopArea = area := own
  have coord : point.coord = coordOf stop := coord
  exact ⟨stop, stopAt, own ▸ areaAt, ⟨id, name, platformCode, coord ▸ liesAt_coordOf stop⟩, coord⟩

theorem size_stopPoints : c.stopPoints.rows.size = (stopPoints feed).length := by
  have ids := congrArg List.length rows.ids
  rw [List.length_map, List.length_map] at ids
  exact (same.size stopPoint).trans ids

theorem stopPoints_of_rows :
    List.Forall₂ (StopPointOf c.pool) (stopPoints feed) c.stopPoints.rows.toList := by
  refine List.forall₂_iff_get.2 ⟨(size_stopPoints same rows).symm, fun i first second => ?_⟩
  have at_ := Array.getElem?_eq_getElem second
  obtain ⟨stop, stopAt, -, point, -⟩ := exists_stopPointOf same rows at_
  rw [List.getElem?_eq_getElem first] at stopAt
  cases stopAt
  exact point

omit rows in
theorem areas_of_told (placed : areasOf feed (feedTimezone feed) = .ok areas)
    (told : l.stopAreas = areas.areas.toList) :
    List.Forall₂ (fun stop area => AreaOf feed c.pool stop area ∧ area.coord = coordOf stop)
      (areaStops feed) c.stopAreas.rows.toList := by
  have shown : List.Forall₂ (fun (d : StopArea.Draft) (r : StopArea) => r.coord = d.coord ∧
      c.pool.Reads r.id d.id ∧ c.pool.Reads r.name d.name ∧ c.pool.Reads r.timezone d.timezone)
        l.stopAreas c.stopAreas.rows.toList :=
    same.shows stopArea
  rw [told, toList_areasOf placed, List.forall₂_map_left_iff] at shown
  refine shown.imp fun stop area ⟨coord, id, name, timezone⟩ => ⟨⟨id, name, ?_, ?_⟩, coord⟩
  · rw [coord]
    exact liesAt_coordOf stop
  · rw [zoneOf_eq]
    exact timezone

end

/-- The area of a stop point without a station says what the stop point does. -/
theorem exists_own_area {row : Nat} {point : StopPoint}
    (areas : List.Forall₂ (fun stop area => AreaOf feed c.pool stop area ∧
      area.coord = coordOf stop) (areaStops feed) c.stopAreas.rows.toList)
    (stopAt : (stopPoints feed)[row]? = some stop) (single : ¬HasStation feed stop)
    (inArea : InArea feed ((stopPoints feed).take row) stop point.stopArea.toNat)
    (pointOf : StopPointOf c.pool stop point) (coord : point.coord = coordOf stop) :
    ∃ area, c.stopAreas.rows[point.stopArea.toNat]? = some area ∧
      c.pool.text? area.id = c.pool.text? point.id ∧
        c.pool.text? area.name = c.pool.text? point.name ∧ area.coord = point.coord := by
  obtain ⟨area, at_, own, coord'⟩ :=
    exists_right_of_forall₂ areas (inArea.getElem?_areaStops stopAt single)
  rw [Array.getElem?_toList] at at_
  exact ⟨area, at_, own.id.trans pointOf.id.symm, own.name.trans pointOf.name.symm,
    coord'.trans coord.symm⟩

/-- The container of an import that succeeds has an area for each station and for each stop point
without one, and each stop point is in its area. -/
theorem carriesAreas_of_run {imported : Imported} (h : run feed options = .ok imported) :
    CarriesAreas feed imported.container := by
  obtain ⟨timeOffset, start, modes, l, -, -, same, account, fits⟩ := account_of_run h
  obtain ⟨areas, rows, told⟩ := account.stops
  have areas_ := areas_of_told same rows.1 told
  have short : (stations feed).length ≤ UInt16.size := by
    have counted : (areaStops feed).length ≤ stopArea.maxRows :=
      areas_.length_eq.trans_le (fits.tables stopArea)
    rw [areaStops, List.length_append] at counted
    exact Nat.le_trans (Nat.le_add_right _ _) (Nat.le_succ_of_le counted)
  have of := of_areasOf short rows.1
  have inArea : ∀ (row : Nat) (stop : Feed.Stop) (point : StopPoint),
      (stopPoints feed)[row]? = some stop → imported.container.stopPoints.rows[row]? = some point →
        InArea feed ((stopPoints feed).take row) stop point.stopArea.toNat := by
    intro row stop point stopAt at_
    obtain ⟨_, -, area, -⟩ := exists_stopPointOf same rows at_
    exact of.inArea row stop _ stopAt area
  refine ⟨areas_.imp fun _ _ => And.left, stopPoints_of_rows same rows, inArea, ?_⟩
  intro row stop point stopAt at_ single
  have own := inArea row stop point stopAt at_
  obtain ⟨_, stopAt', -, pointOf, coord⟩ := exists_stopPointOf same rows at_
  cases stopAt.symm.trans stopAt'
  refine ⟨exists_own_area areas_ stopAt single own pointOf coord, fun other p at' shared => ?_⟩
  obtain ⟨stop', stopAt', -, -⟩ := exists_stopPointOf same rows at'
  exact own.alone stopAt stopAt' single (shared ▸ inArea other stop' p stopAt' at')

/-- A feed with two stations of one identifier, an entrance, a stop point of the stations and one
of a station that is not there. -/
def twoStations : Feed where
  __ := oneTrip
  stops := [⟨"S", .stopPoint, none, some "P", some 0x404a400000000000, some 0x3fb999999999999a,
      none, none⟩,
    ⟨"P", .station, some "Old", none, none, none, none, none⟩,
    ⟨"E", .other, none, some "P", none, none, none, none⟩,
    ⟨"T", .stopPoint, some "Lane", some "X", some 0xc04a400000000000, none, some "CET", none⟩,
    ⟨"P", .station, some "New", none, none, some 0x3fb999999999999a, none, none⟩]

theorem areasOf_twoStations : areasOf twoStations (feedTimezone twoStations) =
    .ok ⟨#[⟨"P", "Old", ⟨0, 0⟩, "UTC"⟩, ⟨"P", "New", ⟨0, 0x3dcccccd⟩, "UTC"⟩,
      ⟨"T", "Lane", ⟨0xc2520000, 0⟩, "CET"⟩], #[1, 2]⟩ := by
  have found : (stationLookup twoStations)["P"]? = some 1 := by
    show (((∅ : Lookup).insert "P" 0).insert "P" 1)["P"]? = some 1
    rw [Std.HashMap.getElem?_insert_self]
  have missing : (stationLookup twoStations)["X"]? = none := by
    rw [← Option.not_isSome_iff_eq_none, stationLookup, Lookup.isSome_ofIds]
    decide
  have points : stopPoints twoStations =
      [⟨"S", .stopPoint, none, some "P", some 0x404a400000000000, some 0x3fb999999999999a, none,
          none⟩,
        ⟨"T", .stopPoint, some "Lane", some "X", some 0xc04a400000000000, none, some "CET",
          none⟩] := rfl
  rw [areasOf, points]
  simp only [List.foldlM_cons, List.foldlM_nil, Areas.place, Option.bind_some, found, missing]
  rfl

theorem run_twoStations : ∃ imported, run twoStations chosenDay = .ok imported ∧
    imported.container.vehicleJourneys.size = 1 := by
  have followed : twoStations.trips.filterMap
      (follow? (stopTimesByTrip twoStations.stopTimes) (stopLookup twoStations)) =
        [oneTripFollowed] :=
    followed_oneTrip
  have keyed : withKeys (lineLookup twoStations.routes) [oneTripFollowed] =
      [(.of 0 oneTripFollowed, oneTripFollowed)] := withKeys_oneTrip
  apply exists_run_of_size
  simp only [run, addFeed, addStops, areasOf_twoStations, addTrips, followed, keyed,
    group_singleton]
  decide +kernel

/-- The stop point of the stations is in the area of the last one, and lies where its degrees are
rounded to. -/
theorem carriesAreas_twoStations : ∃ imported, run twoStations chosenDay = .ok imported ∧
    CarriesAreas twoStations imported.container ∧
    ∃ point, imported.container.stopPoints.rows[0]? = some point ∧ point.stopArea.toNat = 1 ∧
      point.coord = ⟨0x42520000, 0x3dcccccd⟩ := by
  obtain ⟨imported, made, -⟩ := run_twoStations
  have carries := carriesAreas_of_run made
  have size : 2 = imported.container.stopPoints.rows.size := carries.points.length_eq
  have inside : 0 < imported.container.stopPoints.rows.size := size ▸ Nat.two_pos
  have at_ := Array.getElem?_eq_getElem inside
  refine ⟨imported, made, carries, _, at_, ?area, ?coord⟩
  case area =>
    have last : LastRow (stations twoStations) (·.id = "P") 1 := by decide
    cases carries.inArea 0 _ _ rfl at_ with
    | station named last' =>
      cases named
      exact last'.unique last
    | own single _ => exact absurd (hasStation_of_lastRow rfl last) single
  case coord =>
    obtain ⟨stop, stopAt, own⟩ := exists_left_of_forall₂ carries.points
      ((Array.getElem?_toList ..).trans at_)
    have rounded : coordOf stop = ⟨0x42520000, 0x3dcccccd⟩ := by
      cases stopAt
      decide +kernel
    have finite : ∀ wide, stop.latitude = some wide ∨ stop.longitude = some wide →
        binary64.magnitude wide.toNat < binary64.infinity := by
      cases stopAt
      rintro wide (given | given) <;> cases given <;> decide
    exact (own.coord.unique finite (liesAt_coordOf stop)).trans rounded

end TransitStore.Import
