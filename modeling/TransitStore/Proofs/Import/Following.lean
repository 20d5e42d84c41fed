import Mathlib
import TransitStore.Proofs.Import.Stops

/-!
# Usable trips

A feed says what a trip is by rows that are scattered over it.  Collecting them through
hash maps and sorting them gives each trip the rows that name it, in the order of its
stops (`follow?_eq`), and each identifier the last row that has it
(`Lookup.getElem?_ofIds`).  A trip gets a key exactly if it is usable, and none is lost,
doubled or moved on the way (`map_trip_keyedTrips`).
-/

namespace TransitStore.Import

/-! ## Identifiers -/

/-- A row of a list is the last one with a property. -/
structure LastRow {α : Type} (l : List α) (p : α → Prop) (row : Nat) : Prop where
  holds : ∃ a, l[row]? = some a ∧ p a
  last : ∀ later a, row < later → l[later]? = some a → ¬ p a

section

variable {α : Type} {l : List α} {p : α → Prop} {row : Nat}

theorem LastRow.lt_length (last : LastRow l p row) : row < l.length := by
  obtain ⟨a, at_, -⟩ := last.holds
  exact (List.getElem?_eq_some_iff.1 at_).1

theorem LastRow.unique {other : Nat} (last : LastRow l p row) (last' : LastRow l p other) :
    row = other := by
  obtain ⟨a, at_, holds⟩ := last.holds
  obtain ⟨b, at_', holds'⟩ := last'.holds
  rcases Nat.lt_trichotomy row other with lt | eq | gt
  · exact absurd holds' (last.last _ b lt at_')
  · exact eq
  · exact absurd holds (last'.last _ a gt at_)

theorem lastRow_iff :
    LastRow l p row ↔ (∃ a ∈ l[row]?, p a) ∧ ∀ a ∈ l.drop (row + 1), ¬p a := by
  have behind : (∀ a ∈ l.drop (row + 1), ¬p a) ↔
      ∀ later a, row < later → l[later]? = some a → ¬p a := by
    simp only [List.mem_iff_getElem?, List.getElem?_drop]
    constructor
    · intro all later a lt at_
      refine all a ⟨later - (row + 1), ?_⟩
      rwa [Nat.add_sub_cancel' lt]
    · rintro all a ⟨i, at_⟩
      exact all _ a (by omega) at_
  rw [behind]
  exact ⟨fun last => ⟨last.holds, last.last⟩, fun ⟨holds, last⟩ => ⟨holds, last⟩⟩

instance (l : List α) (p : α → Prop) [DecidablePred p] (row : Nat) :
    Decidable (LastRow l p row) :=
  decidable_of_iff _ lastRow_iff.symm

theorem lastRow_concat_of_pos {a : α} (holds : p a) :
    LastRow (l ++ [a]) p row ↔ row = l.length := by
  constructor
  · intro last
    have lt := last.lt_length
    rw [List.length_append, List.length_singleton] at lt
    by_contra other
    exact last.last l.length a (by omega) List.getElem?_concat_length holds
  · rintro rfl
    refine ⟨⟨a, List.getElem?_concat_length, holds⟩, ?_⟩
    intro later b behind at_
    have lt := (List.getElem?_eq_some_iff.1 at_).1
    rw [List.length_append, List.length_singleton] at lt
    omega

theorem lastRow_concat_of_neg {a : α} (fails : ¬ p a) :
    LastRow (l ++ [a]) p row ↔ LastRow l p row := by
  have at_iff (i : Nat) (b : α) (holds : p b) : (l ++ [a])[i]? = some b ↔ l[i]? = some b := by
    rw [List.getElem?_append]
    split
    · rfl
    · rename_i outside
      rw [List.getElem?_eq_none (Nat.not_lt.1 outside), List.getElem?_singleton]
      refine iff_of_false ?_ nofun
      intro same
      split at same
      · cases same
        exact fails holds
      · cases same
  constructor
  · rintro ⟨⟨b, at_, holds⟩, last⟩
    refine ⟨⟨b, (at_iff row b holds).1 at_, holds⟩, ?_⟩
    intro later b behind at_ holds
    exact last later b behind ((at_iff later b holds).2 at_) holds
  · rintro ⟨⟨b, at_, holds⟩, last⟩
    refine ⟨⟨b, (at_iff row b holds).2 at_, holds⟩, ?_⟩
    intro later b behind at_ holds
    exact last later b behind ((at_iff later b holds).1 at_) holds

variable [DecidablePred p]

variable (p) in
/-- What the last row with a property holds, if there is one. -/
def last? (l : List α) : Option α := l.reverse.find? fun a => p a

theorem last?_concat {a : α} : last? p (l ++ [a]) = if p a then some a else last? p l := by
  rw [last?, List.reverse_concat, List.find?_cons]
  by_cases holds : p a <;> simp [holds, last?]

theorem last?_eq_none : last? p l = none ↔ ∀ a ∈ l, ¬ p a := by
  simp [last?]

theorem last?_eq_some {a : α} :
    last? p l = some a ↔ ∃ row, LastRow l p row ∧ l[row]? = some a := by
  induction l using List.reverseRecOn with
  | nil => exact iff_of_false nofun fun ⟨_, last, _⟩ => nomatch last.lt_length
  | append_singleton l b ih =>
    rw [last?_concat]
    split
    · rename_i holds
      simp only [lastRow_concat_of_pos holds, exists_eq_left, List.getElem?_concat_length]
    · rename_i fails
      rw [ih]
      refine exists_congr fun row => ?_
      rw [lastRow_concat_of_neg fails]
      refine and_congr_right fun last => ?_
      rw [List.getElem?_append_left last.lt_length]

end

theorem Lookup.ofIds_concat (ids : List (Option String)) (id? : Option String) :
    Lookup.ofIds (ids ++ [id?]) =
      match id? with
      | some id => (Lookup.ofIds ids).insert id ids.length
      | none => Lookup.ofIds ids := by
  unfold Lookup.ofIds
  rw [List.zipIdx_append, List.foldl_append, Nat.zero_add]
  rfl

/-- An identifier stands for the last row that has it, also where some rows have none. -/
theorem Lookup.getElem?_ofIds_map {α : Type} {f : α → Option String} {l : List α} {id : String}
    {row : Nat} :
    (Lookup.ofIds (l.map f))[id]? = some row ↔ LastRow l (fun a => f a = some id) row := by
  induction l using List.reverseRecOn with
  | nil =>
    refine iff_of_false ?_ fun last => nomatch last.lt_length
    simp [Lookup.ofIds]
  | append_singleton l a ih =>
    rw [List.map_append, List.map_singleton, Lookup.ofIds_concat]
    by_cases same : f a = some id
    · rw [lastRow_concat_of_pos (p := fun a => f a = some id) same, same]
      simp only [Std.HashMap.getElem?_insert_self, List.length_map, Option.some.injEq, eq_comm]
    · rw [lastRow_concat_of_neg (p := fun a => f a = some id) same, ← ih]
      cases own : f a with
      | none => rfl
      | some other =>
        have ne : other ≠ id := fun eq => same (own.trans (congrArg some eq))
        simp only [Std.HashMap.getElem?_insert, beq_iff_eq, if_neg ne]

/-- An identifier stands for the last row that has it. -/
theorem Lookup.getElem?_ofIds {α : Type} {f : α → String} {l : List α} {id : String} {row : Nat} :
    (Lookup.ofIds (l.map fun a => some (f a)))[id]? = some row ↔
      LastRow l (fun a => f a = id) row := by
  rw [Lookup.getElem?_ofIds_map]
  simp only [Option.some.injEq]

/-- An identifier is found if some row has it. -/
theorem Lookup.isSome_ofIds {ids : List (Option String)} {id : String} :
    (Lookup.ofIds ids)[id]?.isSome ↔ some id ∈ ids := by
  induction ids using List.reverseRecOn with
  | nil => simp [Lookup.ofIds]
  | append_singleton ids last ih =>
    rw [Lookup.ofIds_concat, List.mem_append, List.mem_singleton, ← ih]
    cases last with
    | none => simp
    | some other =>
      dsimp only
      rw [Std.HashMap.getElem?_insert]
      by_cases same : other = id
      · simp [same]
      · simp [same, Ne.symm same]

/-! ## Stop times -/

/-- The stop times of a trip in the order of its stops, and in the order of the feed where
that leaves a choice. -/
def timesOf (feed : Feed) (trip : Feed.Trip) : List Feed.StopTime :=
  (feed.stopTimes.filter (·.tripId == trip.id)).mergeSort fun a b => a.sequence ≤ b.sequence

/-- Rows that are collected by the identifiers in them are the rows with each identifier. -/
theorem getD_foldl_alter {α β : Type} [BEq β] [LawfulBEq β] [Hashable β] (f : α → β) (l : List α)
    (b : β) :
    (l.foldl (fun found a => found.alter (f a) fun list? => some (a :: list?.getD []))
      (∅ : Std.HashMap β (List α))).getD b [] = (l.filter (f · == b)).reverse := by
  induction l using List.reverseRecOn with
  | nil => simp
  | append_singleton l a ih =>
    rw [List.foldl_append, List.foldl_cons, List.foldl_nil, Std.HashMap.getD_alter,
      List.filter_append, List.reverse_append]
    by_cases same : f a == b
    · cases LawfulBEq.eq_of_beq same
      rw [if_pos same, ← Std.HashMap.getD_eq_getD_getElem?, ih]
      simp
    · rw [if_neg same, ih]
      simp [same]

theorem getD_stopTimesByTrip (feed : Feed) (trip : Feed.Trip) :
    (stopTimesByTrip feed.stopTimes).getD trip.id [] = timesOf feed trip := by
  have rows := getD_foldl_alter Feed.StopTime.tripId feed.stopTimes trip.id
  rw [Std.HashMap.getD_eq_getD_getElem?] at rows
  rw [stopTimesByTrip, timesOf, Std.HashMap.getD_eq_getD_getElem?, Std.HashMap.getElem?_map]
  rw [← List.reverse_reverse (List.filter _ _), ← rows]
  cases (feed.stopTimes.foldl (fun found t =>
      found.alter t.tripId fun list? => some (t :: list?.getD []))
      (∅ : Std.HashMap String (List Feed.StopTime)))[trip.id]? with
  | none => exact List.mergeSort_nil.symm
  | some list => rfl

/-! ## Following trips -/

/-- The second at which a vehicle arrives.  A missing arrival is like the departure. -/
def arrivalOf (t : Feed.StopTime) : Nat := ((t.arrival <|> t.departure).map UInt32.toNat).getD 0

/-- The second at which a vehicle departs.  A missing departure is like the arrival. -/
def departureOf (t : Feed.StopTime) : Nat := ((t.departure <|> t.arrival).map UInt32.toNat).getD 0

variable {stops : Lookup}

/-- A visit is made of a stop time with a known stop and a time. -/
theorem visit?_eq_some {t : Feed.StopTime} {isFirst isLast : Bool} {v : Visit} :
    visit? stops t isFirst isLast = some v ↔ (t.arrival.isSome ∨ t.departure.isSome) ∧
      ∃ row, stops[t.stopId]? = some row ∧
        v = ⟨UInt16.ofNat row, boardingRules t isFirst isLast, arrivalOf t, departureOf t⟩ := by
  unfold visit? arrivalOf departureOf
  cases found : stops[t.stopId]? with
  | none => simp
  | some row =>
    cases t.arrival with
    | none =>
      cases t.departure with
      | none => simp
      | some departure => simp [eq_comm]
    | some arrival =>
      cases t.departure with
      | none => simp [eq_comm]
      | some departure => simp [eq_comm]

theorem visits?_eq_some {times : List Feed.StopTime} {visits : List Visit}
    (h : visits? stops times = some visits) :
    List.Forall₂ (fun (time : Feed.StopTime × Nat) v =>
      visit? stops time.1 (time.2 == 0) (time.2 + 1 == times.length) = some v)
      times.zipIdx visits := by
  unfold visits? at h
  split at h
  · cases h
  · exact mapM_eq_some_iff.1 h

theorem isSome_visits? {times : List Feed.StopTime} : (visits? stops times).isSome ↔
    2 ≤ times.length ∧
      ∀ t ∈ times, (t.arrival.isSome ∨ t.departure.isSome) ∧ stops[t.stopId]?.isSome := by
  have each (t : Feed.StopTime) (isFirst isLast : Bool) : (visit? stops t isFirst isLast).isSome ↔
      (t.arrival.isSome ∨ t.departure.isSome) ∧ stops[t.stopId]?.isSome := by
    simp only [Option.isSome_iff_exists, visit?_eq_some]
    constructor
    · rintro ⟨v, time, row, found, -⟩
      exact ⟨time, row, found⟩
    · rintro ⟨time, row, found⟩
      exact ⟨_, time, row, found, rfl⟩
  unfold visits?
  split
  · rename_i short
    exact iff_of_false nofun fun long => absurd long.1 (Nat.not_le.2 short)
  · rename_i long
    rw [isSome_mapM, and_iff_right (Nat.not_lt.1 long)]
    constructor
    · intro all t mem
      obtain ⟨i, at_⟩ := List.mem_iff_getElem?.1 mem
      exact (each t _ _).1 (all (t, i) (List.mk_mem_zipIdx_iff_getElem?.2 at_))
    · rintro all ⟨t, i⟩ mem
      exact (each t _ _).2 (all t (List.mem_of_getElem? (List.mk_mem_zipIdx_iff_getElem?.1 mem)))

theorem follow?_eq (feed : Feed) (stops : Lookup) (trip : Feed.Trip) :
    follow? (stopTimesByTrip feed.stopTimes) stops trip =
      (visits? stops (timesOf feed trip)).map fun visits => ⟨trip, visits⟩ := by
  rw [follow?, ← getD_stopTimesByTrip, Std.HashMap.getD_eq_getD_getElem?]
  cases (stopTimesByTrip feed.stopTimes)[trip.id]? with
  | none => rfl
  | some times => rfl

/-- A visit is what a trip does at one of `count` stop times, whose place is given. -/
structure VisitOf (feed : Feed) (count : Nat) (time : Feed.StopTime × Nat) (v : Visit) :
    Prop where
  /-- It is at the last stop point with the identifier. -/
  stop : ∃ row, LastRow (stopPoints feed) (·.id = time.1.stopId) row ∧ v.stop = UInt16.ofNat row
  attributes : v.attributes = boardingRules time.1 (time.2 == 0) (time.2 + 1 == count)
  arrival : v.arrival = arrivalOf time.1
  departure : v.departure = departureOf time.1

/-- The visits of a trip go along its stop times. -/
def FollowedTrip.Along (feed : Feed) (t : FollowedTrip) : Prop :=
  List.Forall₂ (VisitOf feed (timesOf feed t.trip).length) (timesOf feed t.trip).zipIdx t.visits

theorem along_of_follow? {feed : Feed} {trip : Feed.Trip} {t : FollowedTrip}
    (h : follow? (stopTimesByTrip feed.stopTimes) (stopLookup feed) trip = some t) :
    t.trip = trip ∧ t.Along feed := by
  rw [follow?_eq] at h
  obtain ⟨visits, visited, rfl⟩ := Option.map_eq_some_iff.1 h
  refine ⟨rfl, (visits?_eq_some visited).imp fun time v made => ?_⟩
  obtain ⟨-, row, found, rfl⟩ := visit?_eq_some.1 made
  exact ⟨⟨row, Lookup.getElem?_ofIds.1 found, rfl⟩, rfl, rfl, rfl⟩

theorem map_eq_map_of_forall₂ {α β γ : Type} {f : α → γ} {g : β → γ} {l : List α} {m : List β}
    (same : List.Forall₂ (fun a b => f a = g b) l m) : m.map g = l.map f := by
  induction same with
  | nil => rfl
  | cons head _ ih => rw [List.map_cons, List.map_cons, head, ih]

/-- What visits say of their times is said by the stop times. -/
theorem FollowedTrip.Along.map_times {α : Type} {feed : Feed} {t : FollowedTrip}
    (along : t.Along feed) (f : Nat → Nat → α) : t.visits.map (fun v => f v.arrival v.departure) =
      (timesOf feed t.trip).map fun time => f (arrivalOf time) (departureOf time) := by
  refine map_eq_map_of_forall₂ (forall₂_zipIdx_iff.1 (along.imp fun time v visit => ?_))
  rw [visit.arrival, visit.departure]

/-! ## Usable trips -/

/-- A trip of a known route that visits two or more stops, all of them known and with a
time. -/
structure Usable (feed : Feed) (trip : Feed.Trip) : Prop where
  /-- Two or more stop times name it. -/
  two : 2 ≤ feed.stopTimes.countP (·.tripId = trip.id)
  /-- Each of them is at a stop point. -/
  stops : ∀ t ∈ feed.stopTimes, t.tripId = trip.id → ∃ stop ∈ stopPoints feed, stop.id = t.stopId
  /-- Each of them has a time. -/
  times : ∀ t ∈ feed.stopTimes, t.tripId = trip.id → t.arrival.isSome ∨ t.departure.isSome
  /-- Its route is there. -/
  route : ∃ route ∈ feed.routes, route.id = trip.routeId

instance (feed : Feed) (trip : Feed.Trip) : Decidable (Usable feed trip) :=
  decidable_of_iff
    (2 ≤ feed.stopTimes.countP (·.tripId = trip.id) ∧
      (∀ t ∈ feed.stopTimes, t.tripId = trip.id → ∃ stop ∈ stopPoints feed, stop.id = t.stopId) ∧
      (∀ t ∈ feed.stopTimes, t.tripId = trip.id → t.arrival.isSome ∨ t.departure.isSome) ∧
      ∃ route ∈ feed.routes, route.id = trip.routeId)
    ⟨fun ⟨two, stops, times, route⟩ => ⟨two, stops, times, route⟩,
      fun ⟨two, stops, times, route⟩ => ⟨two, stops, times, route⟩⟩

theorem length_timesOf (feed : Feed) (trip : Feed.Trip) :
    (timesOf feed trip).length = feed.stopTimes.countP (·.tripId = trip.id) := by
  rw [timesOf, List.length_mergeSort, List.countP_eq_length_filter]
  rfl

theorem usable_iff {feed : Feed} {trip : Feed.Trip} : Usable feed trip ↔
    (follow? (stopTimesByTrip feed.stopTimes) (stopLookup feed) trip).isSome ∧
      (lineLookup feed.routes)[trip.routeId]?.isSome := by
  have mem (t : Feed.StopTime) :
      t ∈ timesOf feed trip ↔ t ∈ feed.stopTimes ∧ t.tripId = trip.id := by
    rw [timesOf, List.mem_mergeSort, List.mem_filter, beq_iff_eq]
  rw [follow?_eq, Option.isSome_map, isSome_visits?, length_timesOf]
  simp only [mem, stopLookup, lineLookup, Lookup.isSome_ofIds, List.mem_map, Option.some.injEq]
  constructor
  · rintro ⟨two, stops, times, route⟩
    exact ⟨⟨two, fun t of => ⟨times t of.1 of.2, stops t of.1 of.2⟩⟩, route⟩
  · rintro ⟨⟨two, each⟩, route⟩
    exact ⟨two, fun t mem of => (each t ⟨mem, of⟩).2, fun t mem of => (each t ⟨mem, of⟩).1, route⟩

/-- The trips of a feed that can be followed and whose routes are known, with their keys. -/
def keyedTrips (feed : Feed) : List (PatternKey × FollowedTrip) :=
  withKeys (lineLookup feed.routes)
    (feed.trips.filterMap (follow? (stopTimesByTrip feed.stopTimes) (stopLookup feed)))

/-- A trip gets a key exactly if it is usable, and the order stays. -/
theorem map_trip_keyedTrips (feed : Feed) :
    (keyedTrips feed).map (·.2.trip) = feed.trips.filter fun trip => Usable feed trip := by
  rw [keyedTrips, withKeys, List.filterMap_filterMap, List.map_filterMap,
    ← List.filterMap_eq_filter]
  congr 1
  funext trip
  simp only [Option.guard, decide_eq_true_eq, usable_iff]
  cases followed : follow? (stopTimesByTrip feed.stopTimes) (stopLookup feed) trip with
  | none => rfl
  | some t =>
    obtain ⟨rfl, -⟩ := along_of_follow? followed
    cases found : (lineLookup feed.routes)[t.trip.routeId]? with
    | none => simp [found]
    | some line => simp [found]

/-- A trip goes along its stop times, and its key is that of the last route with its
identifier. -/
theorem along_of_mem_keyedTrips {feed : Feed} {key : PatternKey} {t : FollowedTrip}
    (mem : (key, t) ∈ keyedTrips feed) : t.Along feed ∧
      ∃ line, LastRow feed.routes (·.id = t.trip.routeId) line ∧ key = .of line t := by
  obtain ⟨t', mem', keyed⟩ := List.mem_filterMap.1 mem
  obtain ⟨line, found, same⟩ := Option.map_eq_some_iff.1 keyed
  cases same
  obtain ⟨trip, -, followed⟩ := List.mem_filterMap.1 mem'
  exact ⟨(along_of_follow? followed).2, line, Lookup.getElem?_ofIds.1 found, rfl⟩

end TransitStore.Import
