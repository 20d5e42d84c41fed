import Mathlib
import TransitStore.Proofs.Import.Lines

/-!
# References of imported stops

Each stop point gets an area that there is, and a walk leads to a stop point that
there is.  The walks from a stop point stand where its row says they start, and the
starts only go up (`pairwise_startsOf`).  So the transfers of each stop point are rows
of the table.
-/

namespace TransitStore.Import

open Entity Container

/-! ## Stop areas -/

/-- So many stop points have areas, behind the areas of the stations. -/
structure Areas.Placed (feed : Feed) (count : Nat) (a : Areas) : Prop where
  /-- Each of the stop points has an area. -/
  size : a.rows.size = count
  /-- The stations have areas. -/
  stations : (stations feed).length ≤ a.areas.size
  /-- The areas are there. -/
  inside : ∀ row ∈ a.rows, row.toNat < a.areas.size

variable {feed : Feed}

theorem Areas.Placed.push {count : Nat} {a : Areas} (placed : a.Placed feed count) {row : Nat}
    {areas : Array StopArea.Draft} (le : a.areas.size ≤ areas.size) (lt : row < areas.size) :
    Areas.Placed feed (count + 1) ⟨areas, a.rows.push (UInt16.ofNat row)⟩ where
  size := by rw [Array.size_push, placed.size]
  stations := Nat.le_trans placed.stations le
  inside row' mem := by
    rcases Array.mem_push.1 mem with old | rfl
    · exact Nat.lt_of_lt_of_le (placed.inside row' old) le
    · exact Nat.lt_of_le_of_lt (toNat_ofNat16_le row) lt

theorem Areas.Placed.place {timezone : String} {count : Nat} {a a' : Areas} {stop : Feed.Stop}
    (placed : a.Placed feed count)
    (h : Areas.place (stationLookup feed) timezone a stop = .ok a') :
    a'.Placed feed (count + 1) := by
  unfold Areas.place at h
  split at h
  · rename_i station found
    cases h
    obtain ⟨id, -, found⟩ := Option.bind_eq_some_iff.1 found
    have lt := Lookup.lt_of_getElem? found
    rw [List.length_map] at lt
    exact placed.push (Nat.le_refl _) (Nat.lt_of_lt_of_le lt placed.stations)
  · dsimp only at h
    split at h
    · cases h
    · cases h
      exact placed.push (by simp) (by simp)

theorem Areas.Placed.foldlM {timezone : String} {stops : List Feed.Stop} {count : Nat}
    {a a' : Areas} (placed : a.Placed feed count)
    (h : stops.foldlM (Areas.place (stationLookup feed) timezone) a = .ok a') :
    a'.Placed feed (count + stops.length) := by
  induction stops generalizing count a with
  | nil =>
    cases h
    exact placed
  | cons stop stops ih =>
    rw [List.foldlM_cons] at h
    cases first : Areas.place (stationLookup feed) timezone a stop with
    | error e =>
      rw [first] at h
      cases h
    | ok b =>
      rw [first] at h
      have placed' := ih (placed.place first) h
      rwa [Nat.add_assoc, Nat.add_comm 1] at placed'

theorem areasOf_eq_ok {timezone : String} {a : Areas} (h : areasOf feed timezone = .ok a) :
    a.Placed feed (stopPoints feed).length := by
  have start : Areas.Placed feed 0 ⟨((stations feed).map (areaDraft timezone)).toArray, #[]⟩ :=
    ⟨rfl, by simp, nofun⟩
  have placed := start.foldlM h
  rwa [Nat.zero_add] at placed

/-! ## Transfers -/

/-- There are walks for so many stop points, and they lead to some of them. -/
structure Walks.Known (count : Nat) (w : Walks) : Prop where
  /-- Each stop point has a list of walks. -/
  size : w.transfers.size = count
  /-- Each stop point has a time to change vehicles. -/
  waits : w.waits.size = count
  /-- The walks lead to stop points. -/
  targets : ∀ list ∈ w.transfers, ∀ t ∈ list, t.targetStop.toNat < count

theorem Walks.Known.add {stops : Lookup} {count : Nat} {w : Walks} (known : w.Known count)
    (inside : ∀ (id : String) (row : Nat), stops[id]? = some row → row < count)
    (walk : Feed.Transfer) : (w.add stops walk).Known count := by
  unfold Walks.add
  split
  · rename_i source target _ found
    dsimp only
    split
    · exact ⟨known.size, by rw [Array.size_modify, known.waits], known.targets⟩
    · refine ⟨by rw [Array.size_modify, known.size], known.waits, ?_⟩
      intro list mem t walks
      obtain ⟨i, lt, rfl⟩ := Array.mem_iff_getElem.1 mem
      rw [Array.getElem_modify] at walks
      rw [Array.size_modify] at lt
      split at walks
      · rcases List.mem_cons.1 walks with rfl | old
        · exact Nat.lt_of_le_of_lt (toNat_ofNat16_le target) (inside _ _ found)
        · exact known.targets _ (Array.getElem_mem lt) t old
      · exact known.targets _ (Array.getElem_mem lt) t walks
  · exact known

theorem stopLookup_lt {id : String} {row : Nat} (found : (stopLookup feed)[id]? = some row) :
    row < (stopPoints feed).length := by
  have lt := Lookup.lt_of_getElem? found
  rwa [List.length_map] at lt

theorem Walks.known_replicate (count : Nat) :
    Walks.Known count ⟨.replicate count [], .replicate count 0⟩ := by
  refine ⟨Array.size_replicate, Array.size_replicate, ?_⟩
  intro list mem t walks
  cases (Array.mem_replicate.1 mem).2
  cases walks

theorem known_walksOf (feed : Feed) :
    (walksOf feed (stopLookup feed) (stopPoints feed).length).Known (stopPoints feed).length := by
  unfold walksOf
  refine List.foldlRecOn (motive := Walks.Known (stopPoints feed).length) _ _ (Walks.known_replicate _) ?_
  intro w known walk _
  exact known.add (fun _ _ => stopLookup_lt) walk

theorem Walks.Known.length_lists {count : Nat} {w : Walks} (known : w.Known count) :
    w.lists.length = count := by
  rw [Walks.lists, List.length_map, Array.length_toList, known.size]

theorem Walks.Known.targets_lists {count : Nat} {w : Walks} (known : w.Known count) :
    ∀ list ∈ w.lists, ∀ t ∈ list, t.targetStop.toNat < count := by
  intro list mem t walks
  obtain ⟨list, mem', rfl⟩ := List.mem_map.1 mem
  exact known.targets list (Array.mem_toList_iff.1 mem') t (List.mem_reverse.1 walks)

/-! ## Where transfers start -/

section

variable {α : Type}

theorem length_startsOf (start : Nat) (lists : List (List α)) :
    (startsOf start lists).length = lists.length := by
  induction lists generalizing start with
  | nil => rfl
  | cons list lists ih => rw [startsOf, List.length_cons, List.length_cons, ih]

/-- A list starts among the rows of all of them, or right behind. -/
theorem mem_startsOf {start row : Nat} {lists : List (List α)} (mem : row ∈ startsOf start lists) :
    start ≤ row ∧ row ≤ start + lists.flatten.length := by
  induction lists generalizing start with
  | nil => cases mem
  | cons list lists ih =>
    rw [List.flatten_cons, List.length_append]
    rcases List.mem_cons.1 mem with rfl | mem
    · omega
    · have later := ih mem
      omega

theorem pairwise_startsOf (start : Nat) (lists : List (List α)) :
    (startsOf start lists).Pairwise (· ≤ ·) := by
  induction lists generalizing start with
  | nil => exact .nil
  | cons list lists ih =>
    refine .cons ?_ (ih _)
    intro row mem
    exact Nat.le_trans (Nat.le_add_right _ _) (mem_startsOf mem).1

end

/-- Transfers that start in order at rows of the table, or right behind, are runs of it. -/
theorem transfersResolve_of_starts {stops : Array StopPoint} {starts : List Nat} {transfers : Nat}
    (same : stops.toList.map (·.transfersOffset.toNat) = starts)
    (ordered : starts.Pairwise (· ≤ ·)) (inside : ∀ start ∈ starts, start ≤ transfers) :
    Audit.TransfersResolve stops transfers := by
  have at_ {s : Nat} {p : StopPoint} (found : stops[s]? = some p) :
      starts[s]? = some p.transfersOffset.toNat := by
    rw [← same, List.getElem?_map, Array.getElem?_toList, found, Option.map_some]
  intro s p found
  have first := at_ found
  rw [Audit.transfersEnd]
  cases behind : stops[s + 1]? with
  | none => exact ⟨inside _ (List.mem_of_getElem? first), Nat.le_refl _⟩
  | some next =>
    have second := at_ behind
    obtain ⟨lt, first⟩ := List.getElem?_eq_some_iff.1 first
    obtain ⟨lt', second'⟩ := List.getElem?_eq_some_iff.1 second
    have le := List.pairwise_iff_getElem.1 ordered s (s + 1) lt lt' (Nat.lt_succ_self s)
    rw [first, second'] at le
    exact ⟨le, inside _ (List.mem_of_getElem? second)⟩

/-! ## Stop points -/

/-- What stop points say of the stops alone is said in the order of the feed. -/
theorem map_of_stopDrafts {α : Type} {f : StopPoint.Draft → α} {g : Feed.Stop → α}
    (same : ∀ stop wait area start, f (stopDraft stop wait area start) = g stop)
    {stops : List Feed.Stop} {waits : Array CoarseTime} {areas : Array UInt16} {starts : List Nat}
    {drafts : List StopPoint.Draft} (h : stopDrafts stops waits areas starts = .ok drafts)
    (waitsSize : waits.size = stops.length) (areasSize : areas.size = stops.length)
    (startsLength : starts.length = stops.length) : drafts.map f = stops.map g := by
  unfold stopDrafts at h
  split at h
  · cases h
  · cases h
    refine List.ext_getElem (by simp [waitsSize, areasSize, startsLength]) fun i _ _ => ?_
    simp [same]

/-- The stop points are in the order of the feed, with the areas and the starts given. -/
theorem stopDrafts_eq_ok {stops : List Feed.Stop} {waits : Array CoarseTime}
    {areas : Array UInt16} {starts : List Nat} {drafts : List StopPoint.Draft}
    (h : stopDrafts stops waits areas starts = .ok drafts) (waitsSize : waits.size = stops.length)
    (areasSize : areas.size = stops.length) (startsLength : starts.length = stops.length) :
    drafts.map (·.transfersOffset.toNat) = starts ∧ ∀ d ∈ drafts, d.stopArea ∈ areas := by
  unfold stopDrafts at h
  split at h
  · cases h
  · rename_i short
    cases h
    rw [List.find?_eq_none] at short
    refine ⟨?_, ?_⟩
    · refine List.ext_getElem (by simp [waitsSize, areasSize, startsLength]) ?_
      intro i _ inside
      have le : starts[i] ≤ Table.maxRows Transfer := by
        simpa using short _ (List.getElem_mem inside)
      simp only [List.getElem_map, List.getElem_zip, stopDraft]
      exact UInt32.toNat_ofNat_of_lt' (Nat.lt_of_le_of_lt le (by decide))
    · intro d mem
      obtain ⟨⟨stop, ⟨wait, area⟩, start⟩, mem', rfl⟩ := List.mem_map.1 mem
      have given := List.of_mem_zip (List.of_mem_zip (List.of_mem_zip mem').2).1
      exact Array.mem_toList_iff.1 given.2

/-- A stop point is that of a stop, with what is given for its row. -/
theorem getElem?_of_stopDrafts {stops : List Feed.Stop} {waits : Array CoarseTime}
    {areas : Array UInt16} {starts : List Nat} {drafts : List StopPoint.Draft}
    (h : stopDrafts stops waits areas starts = .ok drafts) {row : Nat} {d : StopPoint.Draft}
    (at_ : drafts[row]? = some d) :
    ∃ stop wait area start, stops[row]? = some stop ∧ waits[row]? = some wait ∧
      areas[row]? = some area ∧ starts[row]? = some start ∧ d = stopDraft stop wait area start := by
  unfold stopDrafts at h
  split at h
  · cases h
  · cases h
    rw [List.getElem?_map, Option.map_eq_some_iff] at at_
    obtain ⟨⟨stop, ⟨wait, area⟩, start⟩, there, rfl⟩ := at_
    obtain ⟨stopAt, there⟩ := List.getElem?_zip_eq_some.1 there
    obtain ⟨there, startAt⟩ := List.getElem?_zip_eq_some.1 there
    obtain ⟨waitAt, areaAt⟩ := List.getElem?_zip_eq_some.1 there
    rw [Array.getElem?_toList] at waitAt areaAt
    exact ⟨stop, wait, area, start, stopAt, waitAt, areaAt, startAt, rfl⟩

/-! ## Adding stops -/

/-- The tables that stops and their transfers are put into. -/
def stopTables : List Entity := [stopArea, stopPoint, transfer]

variable {c c' : Container}

/-- Walks to stop points are put one list behind the other. -/
theorem addWalks_eq_ok {lists : List (List Transfer)} (inside : c.RefersInside)
    (targets : ∀ list ∈ lists, ∀ t ∈ list, t.targetStop.toNat < c.stopPoints.size)
    (h : (lists.forM fun list => do let _ ← Container.add list) c = .ok () c') :
    Extends [transfer] c c' ∧
      c'.transfers.size = c.transfers.size + lists.flatten.length := by
  induction lists generalizing c with
  | nil =>
    obtain ⟨-, rfl⟩ := Edit.pure_eq_ok.1 h
    exact ⟨.refl inside, rfl⟩
  | cons list lists ih =>
    rw [List.forM] at h
    obtain ⟨_, middle, first, rest⟩ := Edit.bind_eq_ok.1 h
    obtain ⟨_, middle, add, same⟩ := Edit.bind_eq_ok.1 first
    obtain ⟨-, rfl⟩ := Edit.pure_eq_ok.1 same
    have added := add_eq_ok (e := transfer) add
    have step : Extends [transfer] c middle :=
      .of_added inside added (by decide) fun t mem _ => targets list (.head _) t mem
    have stops : c.stopPoints.size ≤ middle.stopPoints.size := step.grows.size_le stopPoint
    obtain ⟨steps, size⟩ := ih step.inside (by
      intro list' mem t walk
      exact Nat.lt_of_lt_of_le (targets list' (.tail _ mem) t walk) stops) rest
    refine ⟨step.trans steps, ?_⟩
    have size' : middle.transfers.size = c.transfers.size + list.length := added.size
    rw [size, size', List.flatten_cons, List.length_append, Nat.add_assoc]

/-- Stop points that are added say where their walks stand, one list behind the other. -/
theorem transfersResolve_of_added {drafts : List StopPoint.Draft} {start : Nat}
    {lists : List (List Transfer)} (added : stopPoint.Added drafts c start c')
    (empty : c.stopPoints.rows = #[])
    (starts : drafts.map (·.transfersOffset.toNat) = startsOf 0 lists) :
    Audit.TransfersResolve c'.stopPoints.rows lists.flatten.length := by
  have column := added.map_rows (fun r : StopPoint => r.transfersOffset.toNat)
    (fun d : StopPoint.Draft => d.transfersOffset.toNat) fun _ _ => rfl
  rw [show (stopPoint.rows c).toList = [] from congrArg Array.toList empty] at column
  refine transfersResolve_of_starts (column.trans starts) (pairwise_startsOf _ _) ?_
  intro start mem
  have le := (mem_startsOf mem).2
  rwa [Nat.zero_add] at le

/-- Stops were put into a container without any. -/
structure HasStops (feed : Feed) (c c' : Container) : Prop extends Extends stopTables c c' where
  /-- The stop points are there. -/
  size : (stopPoints feed).length ≤ c'.stopPoints.size
  /-- The transfers of each stop point are rows of the table. -/
  transfers : Audit.TransfersResolve c'.stopPoints.rows c'.transfers.size

theorem addStops_eq_ok (inside : c.RefersInside) (noStops : c.stopPoints.rows = #[])
    (noTransfers : c.transfers.rows = #[])
    (h : addStops feed (stopLookup feed) c = .ok () c') : HasStops feed c c' := by
  obtain ⟨areas, placed, h₁⟩ := Edit.ofExcept_bind_eq_ok.1 h
  obtain ⟨_, c₁, add₁, h₂⟩ := Edit.bind_eq_ok.1 h₁
  obtain ⟨drafts, made, h₃⟩ := Edit.ofExcept_bind_eq_ok.1 h₂
  obtain ⟨_, c₂, add₂, walk⟩ := Edit.bind_eq_ok.1 h₃
  have placed := areasOf_eq_ok placed
  have known := known_walksOf feed
  generalize walksOf feed (stopLookup feed) (stopPoints feed).length = walks at *
  have startsLength : (startsOf 0 walks.lists).length = (stopPoints feed).length := by
    rw [length_startsOf, known.length_lists]
  obtain ⟨starts, ofAreas⟩ := stopDrafts_eq_ok made known.waits placed.size startsLength
  have length : drafts.length = (stopPoints feed).length := by
    rw [← startsLength, ← starts, List.length_map]
  have added₁ := add_eq_ok (e := stopArea) add₁
  have added₂ := add_eq_ok (e := stopPoint) add₂
  have step₁ : Extends stopTables c c₁ :=
    .of_added inside added₁ (by decide) fun _ _ _ => trivial
  have areasSize : areas.areas.toList.length ≤ c₁.stopAreas.size :=
    added₁.length_le (.refl stopTables c₁)
  rw [Array.length_toList] at areasSize
  have step₂ : Extends stopTables c₁ c₂ := .of_added step₁.inside added₂ (by decide)
    fun d mem _ => Nat.lt_of_lt_of_le (placed.inside _ (ofAreas d mem)) areasSize
  have points : (stopPoints feed).length ≤ c₂.stopPoints.size := by
    rw [← length]
    exact added₂.length_le (.refl stopTables c₂)
  obtain ⟨step₃, size⟩ := addWalks_eq_ok step₂.inside (by
    intro list mem t walk
    exact Nat.lt_of_lt_of_le (known.targets_lists list mem t walk) points) walk
  have stops : c'.stopPoints = c₂.stopPoints := step₃.grows.others stopPoint (by decide)
  have before : c₁.stopPoints.rows = #[] := by
    rw [← noStops]
    exact congrArg Table.rows (added₁.others stopPoint nofun)
  have total : c'.transfers.size = walks.lists.flatten.length := by
    have first : c₁.transfers = c.transfers := added₁.others transfer nofun
    have second : c₂.transfers = c₁.transfers := added₂.others transfer nofun
    rw [size, second, first, Table.size, noTransfers]
    exact Nat.zero_add _
  refine ⟨(step₁.trans step₂).trans (step₃.of_subset (by decide)), ?_, ?_⟩
  · rw [stops]
    exact points
  · rw [stops, total]
    exact transfersResolve_of_added added₂ before starts

end TransitStore.Import
