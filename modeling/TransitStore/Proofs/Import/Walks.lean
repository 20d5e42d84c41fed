import Mathlib
import TransitStore.Proofs.Import.Journeys

/-!
# Walks of an imported feed

The walks of a feed are put into one list for each stop point, and the lists stand one
behind the other in the table of transfers, where the end of a list is where the list of the
next stop point starts.  What an imported container answers about the transfers from a stop
point are the walks that leave it, in the order of the feed (`CarriesWalks`).  Each walk of
the feed adds to one list, changes one time to wait or does nothing (`Walks.Adds`), and so
each list has the walks that leave its stop point (`Walks.Of.add`).
-/

namespace TransitStore.Import

open Entity Container

variable {feed : Feed} {walk : Feed.Transfer} {source target stop : Nat}

/-! ## Where walks lead -/

/-- A walk leads from the stop point in one row to that in another.  An identifier stands for
the last stop point that has it. -/
structure Leads (feed : Feed) (walk : Feed.Transfer) (source target : Nat) : Prop where
  source : LastRow (stopPoints feed) (·.id = walk.source) source
  target : LastRow (stopPoints feed) (·.id = walk.target) target

instance (feed : Feed) (walk : Feed.Transfer) (source target : Nat) :
    Decidable (Leads feed walk source target) :=
  decidable_of_iff (LastRow (stopPoints feed) (·.id = walk.source) source ∧
      LastRow (stopPoints feed) (·.id = walk.target) target)
    ⟨fun ⟨source, target⟩ => ⟨source, target⟩, fun leads => ⟨leads.source, leads.target⟩⟩

/-- A walk leads from a stop point to another one. -/
def Leaves (feed : Feed) (stop : Nat) (walk : Feed.Transfer) : Prop :=
  ∃ target < (stopPoints feed).length, target ≠ stop ∧ Leads feed walk stop target

instance (feed : Feed) (stop : Nat) : DecidablePred (Leaves feed stop) := fun walk =>
  inferInstanceAs (Decidable (∃ target < (stopPoints feed).length,
    target ≠ stop ∧ Leads feed walk stop target))

/-- How long a walk takes, in steps of four seconds that end with the last one there is. -/
def stepsOf (walk : Feed.Transfer) : Nat := min ((walk.minTime.map UInt32.toNat).getD 0 / 4) 65535

/-- A transfer has the target of a walk and its duration. -/
structure ShowsWalk (feed : Feed) (walk : Feed.Transfer) (t : Transfer) : Prop where
  target : LastRow (stopPoints feed) (·.id = walk.target) t.targetStop.toNat
  duration : t.duration.toNat = stepsOf walk

/-- The transfers of a container are the walks of a feed. -/
structure CarriesWalks (feed : Feed) (c : Container) : Prop where
  size : c.stopPoints.rows.size = (stopPoints feed).length
  /-- The stop points are those of the feed, in its order. -/
  stops : ∀ (row : Nat) (stop : Feed.Stop), (stopPoints feed)[row]? = some stop →
    ∃ r, c.stopPoints.rows[row]? = some r ∧ c.pool.Reads r.id stop.id
  /-- Each transfer is one of a single stop point, and they stand in the order of these. -/
  tiles : ∃ runs : List (Span c.transfers.rows.size), runs.length = c.stopPoints.rows.size ∧
    (∀ stop, c.transfersFrom? stop = runs[stop]?) ∧ Span.Tiles runs
  /-- The transfers from a stop point are the walks that leave it, in the order of the feed. -/
  walks : ∀ stop run, c.transfersFrom? stop = some run →
    List.Forall₂ (ShowsWalk feed) (feed.transfers.filter (Leaves feed stop)) run.slice
  /-- One waits at a stop point for as long as the last walk takes that leads back to it. -/
  waits : ∀ (stop : Nat) (r : StopPoint), c.stopPoints.rows[stop]? = some r → r.waitTime.toNat =
    ((last? (Leads feed · stop stop) feed.transfers).map stepsOf).getD 0

theorem Leads.unique {source' target' : Nat} (leads : Leads feed walk source target)
    (other : Leads feed walk source' target') : source = source' ∧ target = target' :=
  ⟨leads.source.unique other.source, leads.target.unique other.target⟩

theorem Leads.leaves_iff (leads : Leads feed walk source target) :
    Leaves feed stop walk ↔ stop = source ∧ target ≠ stop := by
  constructor
  · rintro ⟨target', -, ne, leads'⟩
    obtain ⟨rfl, rfl⟩ := leads.unique leads'
    exact ⟨rfl, ne⟩
  · rintro ⟨rfl, ne⟩
    exact ⟨target, leads.target.lt_length, ne, leads⟩

/-! ## One walk after the other -/

/-- What a walk does to the lists: nothing if its stop points are not known, and otherwise it
changes the time to wait at its only stop point or comes in front of the list of the first. -/
inductive Walks.Adds (feed : Feed) (walk : Feed.Transfer) (w : Walks) : Walks → Prop where
  | unknown : (∀ source target, ¬Leads feed walk source target) → Adds feed walk w w
  | wait {stop : Nat} : Leads feed walk stop stop →
      Adds feed walk w { w with waits := w.waits.modify stop fun _ => UInt16.ofNat (stepsOf walk) }
  | walk {source target : Nat} : Leads feed walk source target → target ≠ source →
      Adds feed walk w { w with
        transfers := w.transfers.modify source fun list =>
          ⟨UInt16.ofNat target, UInt16.ofNat (stepsOf walk)⟩ :: list }

theorem adds_add (w : Walks) : Walks.Adds feed walk w (w.add (stopLookup feed) walk) := by
  have found (id : String) (row : Nat) :
      (stopLookup feed)[id]? = some row ↔ LastRow (stopPoints feed) (·.id = id) row :=
    Lookup.getElem?_ofIds
  rw [Walks.add]
  split
  · rename_i source target first last
    have leads : Leads feed walk source target := ⟨(found _ _).1 first, (found _ _).1 last⟩
    dsimp only
    split
    · rename_i same
      cases same
      exact .wait leads
    · rename_i other
      exact .walk leads (Ne.symm other)
  · rename_i unknown
    refine .unknown fun source target leads => ?_
    exact unknown source target ((found _ _).2 leads.source) ((found _ _).2 leads.target)

/-- The lists have the walks that leave the stop points, the last one first, and the times to
wait are those of the last walks that lead back. -/
structure Walks.Of (feed : Feed) (walks : List Feed.Transfer) (w : Walks) : Prop where
  lists : ∀ (stop : Nat) (list : List Transfer), w.transfers[stop]? = some list →
    List.Forall₂ (ShowsWalk feed) (walks.filter (Leaves feed stop)) list.reverse
  waits : ∀ (stop : Nat) (wait : CoarseTime), w.waits[stop]? = some wait →
    wait.toNat = ((last? (Leads feed · stop stop) walks).map stepsOf).getD 0

theorem toNat_stepsOf (walk : Feed.Transfer) : (UInt16.ofNat (stepsOf walk)).toNat = stepsOf walk :=
  UInt16.toNat_ofNat_of_lt' (Nat.lt_succ_of_le (Nat.min_le_right _ _))

variable {walks : List Feed.Transfer} {w w' : Walks}

theorem filter_leaves_concat_of_neg (stays : ¬Leaves feed stop walk) :
    (walks ++ [walk]).filter (Leaves feed stop) = walks.filter (Leaves feed stop) := by
  rw [List.filter_append, List.filter_cons_of_neg (by simpa using stays), List.filter_nil,
    List.append_nil]

theorem filter_leaves_concat_of_pos (leaves : Leaves feed stop walk) :
    (walks ++ [walk]).filter (Leaves feed stop) = walks.filter (Leaves feed stop) ++ [walk] := by
  rw [List.filter_append, List.filter_cons_of_pos (by simpa using leaves), List.filter_nil]

theorem Walks.Of.add (few : (stopPoints feed).length ≤ UInt16.size) (of : w.Of feed walks)
    (adds : Walks.Adds feed walk w w') : w'.Of feed (walks ++ [walk]) := by
  cases adds with
  | unknown unknown =>
    refine ⟨fun stop list at_ => ?_, fun stop wait at_ => ?_⟩
    · rw [filter_leaves_concat_of_neg]
      · exact of.lists stop list at_
      · rintro ⟨target, -, -, leads⟩
        exact unknown stop target leads
    · rw [last?_concat, if_neg (unknown stop stop)]
      exact of.waits stop wait at_
  | @wait own leads =>
    refine ⟨fun stop list at_ => ?_, fun stop wait at_ => ?_⟩
    · rw [filter_leaves_concat_of_neg]
      · exact of.lists stop list at_
      · rw [leads.leaves_iff]
        rintro ⟨rfl, ne⟩
        exact ne rfl
    · rw [Array.getElem?_modify] at at_
      rw [last?_concat]
      split at at_
      · subst stop
        obtain ⟨_, -, rfl⟩ := Option.map_eq_some_iff.1 at_
        rw [if_pos leads]
        exact toNat_stepsOf walk
      · rename_i other
        rw [if_neg fun back => other (leads.unique back).1]
        exact of.waits stop wait at_
  | @walk source target leads ne =>
    refine ⟨fun stop list at_ => ?_, fun stop wait at_ => ?_⟩
    · rw [Array.getElem?_modify] at at_
      split at at_
      · subst stop
        obtain ⟨list, before, rfl⟩ := Option.map_eq_some_iff.1 at_
        have leaves : Leaves feed source walk := leads.leaves_iff.2 ⟨rfl, ne⟩
        have short := leads.target.lt_length.trans_le few
        rw [filter_leaves_concat_of_pos leaves, List.reverse_cons]
        refine List.rel_append (of.lists source list before) (.cons ⟨?_, toNat_stepsOf walk⟩ .nil)
        rw [UInt16.toNat_ofNat_of_lt' short]
        exact leads.target
      · rename_i other
        rw [filter_leaves_concat_of_neg]
        · exact of.lists stop list at_
        · rw [leads.leaves_iff]
          rintro ⟨rfl, -⟩
          exact other rfl
    · rw [last?_concat, if_neg]
      · exact of.waits stop wait at_
      · intro back
        obtain ⟨rfl, rfl⟩ := leads.unique back
        exact ne rfl

/-- The lists of all walks. -/
theorem of_feedWalks (few : (stopPoints feed).length ≤ UInt16.size) :
    (feedWalks feed).Of feed feed.transfers := by
  unfold feedWalks walksOf
  induction feed.transfers using List.reverseRecOn with
  | nil =>
    refine ⟨fun stop list at_ => ?_, fun stop wait at_ => ?_⟩
    · cases (Array.mem_replicate.1 (Array.mem_of_getElem? at_)).2
      exact .nil
    · cases (Array.mem_replicate.1 (Array.mem_of_getElem? at_)).2
      rfl
  | append_singleton walks walk ih =>
    rw [List.foldl_append]
    exact ih.add few (adds_add _)

/-! ## One list behind the other -/

/-- Lists start where runs with their lengths do that follow one another. -/
theorem startsOf_eq {α : Type} (start : Nat) (lists : List (List α)) :
    startsOf start lists = (runsFrom start (lists.map List.length)).map Prod.fst := by
  induction lists generalizing start with
  | nil => rfl
  | cons list lists ih => rw [startsOf, ih, List.map_cons, runsFrom, List.map_cons]

theorem getElem?_startsOf {α : Type} {front rest : List (List α)} {list : List α} :
    (startsOf 0 (front ++ list :: rest))[front.length]? = some front.flatten.length := by
  have place : front.length = (front.map List.length).length := (List.length_map _).symm
  rw [startsOf_eq, List.getElem?_map, List.map_append, List.map_cons, place, getElem?_runsFrom,
    Option.map_some, Nat.zero_add, List.length_flatten]

/-- A list ends where the next one starts, or with the table if there is none. -/
theorem transfersFrom?_eq {c : Container} {front rest : List (List Transfer)}
    {list : List Transfer}
    (starts : c.stopPoints.rows.toList.map (·.transfersOffset.toNat) =
      startsOf 0 (front ++ list :: rest))
    (all : c.transfers.rows.toList = (front ++ list :: rest).flatten) :
    c.transfersFrom? front.length =
      Span.run? c.transfers.rows.size front.flatten.length list.length := by
  have offset (i : Nat) : c.stopPoints.rows[i]?.map (·.transfersOffset.toNat) =
      (startsOf 0 (front ++ list :: rest))[i]? := by
    rw [← starts, List.getElem?_map, Array.getElem?_toList]
  have total : c.transfers.rows.size =
      front.flatten.length + (list.length + rest.flatten.length) := by
    rw [← Array.length_toList, all, List.flatten_append, List.length_append, List.flatten_cons,
      List.length_append]
  have finish : (c.stopPoints.rows[front.length + 1]?.map (·.transfersOffset.toNat)).getD
      c.transfers.rows.size = front.flatten.length + list.length := by
    rw [offset]
    cases rest with
    | nil =>
      rw [List.getElem?_eq_none (by simp [length_startsOf]), total]
      rfl
    | cons next rest =>
      have place : (front ++ [list]).length = front.length + 1 := List.length_append
      rw [← place, ← List.singleton_append, ← List.append_assoc, getElem?_startsOf]
      simp
  have first := offset front.length
  rw [getElem?_startsOf] at first
  obtain ⟨point, at_, same⟩ := Option.map_eq_some_iff.1 first
  rw [Container.transfersFrom?, Table.transfers?, at_, Option.bind_some, same]
  dsimp only
  rw [finish]
  rfl

section

variable {c : Container} {lists : List (List Transfer)}
  (starts : c.stopPoints.rows.toList.map (·.transfersOffset.toNat) = startsOf 0 lists)
  (all : c.transfers.rows.toList = lists.flatten)

include starts all

/-- The transfers from the stop points are all transfers, in order. -/
theorem tiles_transfers : ∃ runs : List (Span c.transfers.rows.size),
    runs.length = c.stopPoints.rows.size ∧ (∀ stop, c.transfersFrom? stop = runs[stop]?) ∧
      Span.Tiles runs := by
  have total : (lists.map List.length).sum = c.transfers.rows.size := by
    rw [← List.length_flatten, ← all, Array.length_toList]
  obtain ⟨runs, made, tiles⟩ := exists_tiles total
  have length : lists.length = c.stopPoints.rows.size := by
    rw [← length_startsOf 0 lists, ← starts, List.length_map, Array.length_toList]
  have length' : runs.length = lists.length := by
    rw [← made.length_eq, length_runsFrom, List.length_map]
  refine ⟨runs, length'.trans length, fun stop => ?_, tiles⟩
  by_cases inside : stop < lists.length
  · obtain ⟨front, list, rest, rfl, rfl⟩ := exists_split inside
    have place : front.length = (front.map List.length).length := (List.length_map _).symm
    rw [List.map_append, List.map_cons] at made
    obtain ⟨run, at_, found⟩ := exists_right_of_forall₂ made getElem?_runsFrom
    rw [Nat.zero_add, ← List.length_flatten] at found
    rw [← place] at at_
    rw [transfersFrom?_eq starts all, found, at_]
  · have none_ : c.stopPoints.rows[stop]? = none := Array.getElem?_eq_none (by omega)
    rw [Container.transfersFrom?, Table.transfers?, none_, List.getElem?_eq_none (by omega)]
    rfl

/-- The transfers from a stop point are its list. -/
theorem slice_transfersFrom? {stop : Nat} {run : Span c.transfers.rows.size}
    (found : c.transfersFrom? stop = some run) : lists[stop]? = some run.slice := by
  have inside : stop < lists.length := by
    obtain ⟨point, at_, -⟩ := Option.bind_eq_some_iff.1 found
    have lt := (Array.getElem?_eq_some_iff.1 at_).1
    rwa [← length_startsOf 0 lists, ← starts, List.length_map, Array.length_toList]
  obtain ⟨front, list, rest, rfl, rfl⟩ := exists_split inside
  have same : List.Forall₂ Eq (front.flatten ++ (list ++ rest.flatten)) c.transfers.rows.toList := by
    rw [List.forall₂_eq_eq_eq, all, List.flatten_append, List.flatten_cons]
  obtain ⟨run', made, same⟩ := Span.exists_slice same
  rw [transfersFrom?_eq starts all, made] at found
  cases found
  rw [List.forall₂_eq_eq_eq] at same
  rw [← same, List.getElem?_append_right (Nat.le_refl _), Nat.sub_self, List.getElem?_cons_zero]

end

/-! ## Imported walks -/

section

variable {c : Container} {l : Ledger} {areas : Areas} (same : Matches c l)
  (rows : StopRows feed areas l.stopPoints)

include same rows

/-- The lists of the stop points start where their rows say. -/
theorem map_transfersOffset : c.stopPoints.rows.toList.map (·.transfersOffset.toNat) =
    startsOf 0 (feedWalks feed).lists := by
  obtain ⟨placed, made⟩ := rows
  have known := known_walksOf feed
  have length : (startsOf 0 (feedWalks feed).lists).length = (stopPoints feed).length := by
    rw [length_startsOf, known.length_lists]
  rw [← (stopDrafts_eq_ok made known.waits (areasOf_eq_ok placed).size length).1]
  exact map_eq_map_of_forall₂ ((same.rows stopPoint).imp fun d r told =>
    congrArg UInt32.toNat told.shows.2.2.2.2.1.symm)

/-- The time to wait at a stop point is in its row. -/
theorem getElem?_waits {stop : Nat} {r : StopPoint} (at_ : c.stopPoints.rows[stop]? = some r) :
    (feedWalks feed).waits[stop]? = some r.waitTime := by
  obtain ⟨_, drafted, shown⟩ := exists_left_of_forall₂ (same.shows stopPoint)
    ((Array.getElem?_toList ..).trans at_)
  obtain ⟨_, wait, _, _, -, waits, -, -, rfl⟩ := getElem?_of_stopDrafts rows.2 drafted
  have shown : r.waitTime = wait := shown.2.1
  rw [shown]
  exact waits

end

/-- The transfers of an imported container are the walks of the feed: those from a stop point
are the walks that leave it, in the order of the feed, and they stand one stop point behind the
other.  A walk from or to an unknown stop point leaves nothing behind. -/
theorem carriesWalks_of_run {options : Options} {imported : Imported}
    (h : run feed options = .ok imported) : CarriesWalks feed imported.container := by
  obtain ⟨timeOffset, start, modes, l, offset, began, same, account, fits⟩ := account_of_run h
  have of := of_feedWalks (short_of_account same account fits).2.le
  obtain ⟨areas, told, -⟩ := account.stops
  have starts := map_transfersOffset same told
  have all : imported.container.transfers.rows.toList = (feedWalks feed).lists.flatten := by
    rw [← account.transfers]
    exact (eq_of_forall₂ ((same.rows transfer).imp fun _ _ made => made.shows)).symm
  refine ⟨?size, ?stops, tiles_transfers starts all, ?walks, ?waits⟩
  case size =>
    have length := congrArg List.length starts
    rwa [length_startsOf, (known_walksOf feed).length_lists, List.length_map,
      Array.length_toList] at length
  case stops => exact (carries_of_run h).1.stopRows
  case walks =>
    intro stop run found
    have at_ := slice_transfersFrom? starts all found
    rw [Walks.lists, List.getElem?_map, Option.map_eq_some_iff] at at_
    obtain ⟨list, there, slice⟩ := at_
    rw [← slice]
    exact of.lists stop list ((Array.getElem?_toList ..).symm.trans there)
  case waits => exact fun stop r at_ => of.waits stop _ (getElem?_waits same told at_)

/-- A feed in which one waits at a stop, walks from there to another one, and also to one that
is not there. -/
def walking : Feed where
  __ := oneTrip
  transfers := [⟨"S", "T", some 60⟩, ⟨"S", "S", some 9⟩, ⟨"T", "X", none⟩, ⟨"S", "T", none⟩,
    ⟨"S", "S", some 300000⟩]

theorem feedWalks_walking : feedWalks walking = ⟨#[[⟨1, 0⟩, ⟨1, 15⟩], []], #[65535, 0]⟩ := by
  obtain ⟨first, last⟩ : (stopLookup walking)["S"]? = some 0 ∧ (stopLookup walking)["T"]? = some 1 :=
    stopLookup_oneTrip
  have missing : (stopLookup walking)["X"]? = none := by
    rw [← Option.not_isSome_iff_eq_none, stopLookup, Lookup.isSome_ofIds]
    decide
  have transfers : walking.transfers = [⟨"S", "T", some 60⟩, ⟨"S", "S", some 9⟩, ⟨"T", "X", none⟩,
    ⟨"S", "T", none⟩, ⟨"S", "S", some 300000⟩] := rfl
  rw [feedWalks, walksOf, transfers]
  simp only [List.foldl_cons, List.foldl_nil, Walks.add, first, last, missing]
  rfl

theorem run_walking : ∃ imported, run walking chosenDay = .ok imported ∧
    imported.container.vehicleJourneys.size = 1 := by
  have followed : walking.trips.filterMap
      (follow? (stopTimesByTrip walking.stopTimes) (stopLookup walking)) = [oneTripFollowed] :=
    followed_oneTrip
  have keyed : withKeys (lineLookup walking.routes) [oneTripFollowed] =
      [(.of 0 oneTripFollowed, oneTripFollowed)] := withKeys_oneTrip
  apply exists_run_of_size
  simp only [run, addFeed, addStops, addTrips, feedWalks_walking, followed, keyed, group_singleton]
  decide +kernel

/-- The two walks that leave the first stop point are there, and no other. -/
theorem carriesWalks_walking : ∃ imported, run walking chosenDay = .ok imported ∧
    CarriesWalks walking imported.container ∧
    ∃ first, imported.container.transfersFrom? 0 = some first ∧
      List.Forall₂ (ShowsWalk walking) [⟨"S", "T", some 60⟩, ⟨"S", "T", none⟩] first.slice := by
  obtain ⟨imported, made, -⟩ := run_walking
  have carries := carriesWalks_of_run made
  have leaving : walking.transfers.filter (Leaves walking 0) =
      [⟨"S", "T", some 60⟩, ⟨"S", "T", none⟩] := by decide
  have two : (stopPoints walking).length = 2 := rfl
  obtain ⟨runs, length, at_, -⟩ := carries.tiles
  have inside : 0 < runs.length := by rw [length, carries.size, two]; decide
  have found := (at_ 0).trans (List.getElem?_eq_getElem inside)
  exact ⟨imported, made, carries, _, found, leaving ▸ carries.walks 0 _ found⟩

end TransitStore.Import
