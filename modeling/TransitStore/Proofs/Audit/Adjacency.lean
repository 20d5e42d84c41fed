import Mathlib
import TransitStore.Proofs.Audit.Derived
import TransitStore.Proofs.Audit.References
import TransitStore.Proofs.Span

/-!
# Rows that belong to stops

The transfers and the lists of the stop index stand one stop behind the other.  The check of
references compares the places where they start with each other and with the end of the table,
but not with its front.  So in a container that passes, the rows from the first of these places
on belong to one stop each (`Assigns`).  Rows in front of it belong to none, and pass as well
(`ownerless_late`).
-/

namespace TransitStore

/-- The runs of so many stops have the rows of a table from the first one on, in order and none
twice. -/
structure Assigns {n : Nat} (stops first : Nat) (run? : Nat → Option (Span n)) : Prop where
  tiles : ∃ runs : List (Span n), runs.length = stops ∧ (∀ stop, run? stop = runs[stop]?) ∧
    runs.flatMap Span.rows = (List.finRange n).drop first
  owner : ∀ row : Fin n, first ≤ row → ∃! stop, ∃ run, run? stop = some run ∧ row ∈ run.rows
  /-- The rows in front belong to no stop. -/
  ownerless : ∀ row : Fin n, row < first → ¬∃ stop run, run? stop = some run ∧ row ∈ run.rows

theorem mem_drop_finRange {n first : Nat} {row : Fin n} :
    row ∈ (List.finRange n).drop first ↔ first ≤ row := by
  simp only [List.mem_iff_getElem?, List.getElem?_drop, List.getElem?_eq_some_iff,
    List.length_finRange, List.getElem_finRange]
  constructor
  · rintro ⟨i, -, rfl⟩
    exact Nat.le_add_right _ _
  · intro le
    have at_ : first + (row - first) = row := by omega
    exact ⟨row - first, by omega, Fin.ext at_⟩

/-- Stops whose runs lie between places that are in order have the rows from the first place
on. -/
theorem Assigns.of_places {n stops first : Nat} {places : List Nat} {run? : Nat → Option (Span n)}
    (length : places.length = stops + 1) (start : places[0]? = some first)
    (ordered : places.Pairwise (· ≤ ·)) (finish : places.getLast? = some n)
    (between : ∀ stop, run? stop = places[stop]?.bind fun a =>
      places[stop + 1]?.bind fun b => Span.between? n a b) : Assigns stops first run? := by
  obtain _ | ⟨_, places⟩ := places
  · cases start
  cases start
  cases Nat.succ.inj length
  rw [List.getLast?_eq_some_getLast (List.cons_ne_nil _ _), Option.some.injEq] at finish
  have inside : ∀ place ∈ first :: places, place ≤ n := fun place mem => by
    rw [← finish]
    exact ordered.rel_getLast mem
  obtain ⟨runs, length, at_, rows⟩ := Span.exists_runs_between ordered inside
  have all : runs.flatMap Span.rows = (List.finRange n).drop first := by
    refine List.map_injective_iff.2 Fin.val_injective ?_
    rw [rows, finish, List.map_drop, List.map_coe_finRange_eq_range, List.range_eq_range',
      List.drop_range', Nat.zero_add, Nat.mul_one]
  have found (stop : Nat) : run? stop = runs[stop]? := (between stop).trans (at_ stop).symm
  have nodup : (runs.flatMap Span.rows).Nodup := by
    rw [all]
    exact (List.nodup_finRange n).sublist (List.drop_sublist _ _)
  refine ⟨⟨runs, length, found, all⟩, fun row behind => ?_, ?_⟩
  · simp only [found]
    exact Span.existsUnique_of_nodup nodup (all ▸ mem_drop_finRange.2 behind)
  · rintro row front ⟨stop, run, own, mem⟩
    rw [found] at own
    have there : row ∈ runs.flatMap Span.rows :=
      List.mem_flatMap.2 ⟨run, List.mem_of_getElem? own, mem⟩
    rw [all, mem_drop_finRange] at there
    omega

/-- The slices of the stops, one behind the other, are the table from the first row on. -/
theorem Assigns.flatMap_slice {α : Type} {xs : Array α} {stops first : Nat}
    {run? : Nat → Option (Span xs.size)} (assigns : Assigns stops first run?) :
    (List.range stops).flatMap (fun stop => ((run? stop).map Span.slice).getD []) =
      xs.toList.drop first := by
  obtain ⟨runs, rfl, found, rows⟩ := assigns.tiles
  have own : (List.range runs.length).map (fun stop => ((run? stop).map Span.slice).getD []) =
      runs.map Span.slice := by
    refine List.ext_getElem (by simp) fun stop _ inside => ?_
    rw [List.length_map] at inside
    simp [found, inside]
  have all : xs.toList = (List.finRange xs.size).map (xs[·]) := by
    refine List.ext_getElem (by simp) fun i _ _ => ?_
    simp
  calc (List.range runs.length).flatMap (fun stop => ((run? stop).map Span.slice).getD [])
      = (runs.map Span.slice).flatten := by rw [← own, List.flatMap_def]
    _ = (runs.flatMap Span.rows).map (xs[·]) := by rw [← List.flatMap_def, List.map_flatMap]; rfl
    _ = xs.toList.drop first := by rw [rows, List.map_drop, ← all]

/-! ## Lists of the stop index -/

namespace StopIndex

variable {index : StopIndex}

/-- The positions of the list of a stop in the column of all lists, if they are there. -/
def run? (index : StopIndex) (stop : Nat) : Option (Span index.patterns.values.size) :=
  index.offsets.values[stop]?.bind fun start =>
    index.offsets.values[stop + 1]?.bind fun finish =>
      Span.between? _ start.toNat finish.toNat

theorem patternsFor_eq (index : StopIndex) (stop : Nat) :
    index.patternsFor stop = ((index.run? stop).map Span.slice).getD [] := by
  unfold patternsFor run?
  cases index.offsets.values[stop]? with
  | none => rfl
  | some start =>
    cases index.offsets.values[stop + 1]? with
    | none => rfl
    | some finish =>
      simp only [Option.bind_some]
      cases Span.between? index.patterns.values.size start.toNat finish.toNat with
      | none => rfl
      | some run => rfl

/-- In an index that fits, the lists have what stands from the first offset on. -/
theorem Sound.exists_assigns {stops patterns : Nat} (sound : index.Sound stops patterns) :
    ∃ first, index.offsets.values[0]? = some first ∧ Assigns stops first.toNat index.run? := by
  obtain ⟨size, ordered, finish, -⟩ := sound
  have some_ : 0 < index.offsets.values.size := by omega
  have place (i : Nat) : (index.offsets.values.toList.map UInt32.toNat)[i]? =
      index.offsets.values[i]?.map UInt32.toNat := by
    rw [List.getElem?_map, Array.getElem?_toList]
  have at_ := Array.getElem?_eq_getElem some_
  have length : (index.offsets.values.toList.map UInt32.toNat).length = stops + 1 := by
    rw [List.length_map, Array.length_toList, size]
  refine ⟨_, at_, .of_places length ?_ (List.pairwise_map.2 ordered) ?_ fun stop => ?_⟩
  · rw [place, at_, Option.map_some]
  · rw [List.getLast?_map, Array.getLast?_toList, finish]
  · simp only [place, Option.bind_map]
    rfl

end StopIndex

namespace Audit

variable {c : Container}

/-! ## Transfers -/

/-- The places where the transfers of the stop points start, and where the last ones end. -/
def transferPlaces (stops : Array StopPoint) (transfers : Nat) : List Nat :=
  stops.toList.map (·.transfersOffset.toNat) ++ [transfers]

theorem pairwise_transferPlaces {stops : Array StopPoint} {transfers : Nat}
    (resolve : TransfersResolve stops transfers) :
    (transferPlaces stops transfers).Pairwise (· ≤ ·) := by
  obtain ⟨neighbors, finish⟩ := transfersResolve_iff.1 resolve
  rw [← List.isChain_iff_pairwise, transferPlaces, List.isChain_append]
  refine ⟨List.isChain_iff_getElem.2 fun s inside => ?_, List.isChain_singleton _, ?_⟩
  · rw [List.length_map, Array.length_toList] at inside
    simp only [List.getElem_map, Array.getElem_toList]
    exact neighbors s _ _ (Array.getElem?_eq_getElem (Nat.lt_of_succ_lt inside))
      (Array.getElem?_eq_getElem inside)
  · simp only [List.getLast?_map, Array.getLast?_toList, Option.mem_def, Option.map_eq_some_iff,
      List.head?_cons, Option.some.injEq]
    rintro _ ⟨last, back, rfl⟩ _ rfl
    exact finish last back

theorem length_transferPlaces (stops : Array StopPoint) (transfers : Nat) :
    (transferPlaces stops transfers).length = stops.size + 1 := by
  rw [transferPlaces, List.length_append, List.length_map, Array.length_toList,
    List.length_singleton]

theorem getElem?_transferPlaces {stops : Array StopPoint} {transfers stop : Nat}
    (inside : stop ≤ stops.size) : (transferPlaces stops transfers)[stop]? =
      some ((stops[stop]?.map (·.transfersOffset.toNat)).getD transfers) := by
  rw [transferPlaces]
  rcases Nat.lt_or_eq_of_le inside with lt | rfl
  · rw [List.getElem?_append_left (by simpa using lt)]
    simp [lt]
  · rw [List.getElem?_append_right (by simp)]
    simp

theorem transfersFrom?_eq (c : Container) (stop : Nat) : c.transfersFrom? stop =
    (transferPlaces c.stopPoints.rows c.transfers.rows.size)[stop]?.bind fun a =>
      (transferPlaces c.stopPoints.rows c.transfers.rows.size)[stop + 1]?.bind fun b =>
        Span.between? _ a b := by
  rw [Container.transfersFrom?, Table.transfers?]
  generalize c.stopPoints.rows = stops
  generalize c.transfers.rows.size = transfers
  cases at_ : stops[stop]? with
  | none =>
    have past : (transferPlaces stops transfers)[stop + 1]? = none := by
      rw [List.getElem?_eq_none_iff, length_transferPlaces]
      exact Nat.succ_le_succ (Array.getElem?_eq_none_iff.1 at_)
    rw [past]
    cases (transferPlaces stops transfers)[stop]? <;> rfl
  | some p =>
    have lt : stop < stops.size := (Array.getElem?_eq_some_iff.1 at_).1
    rw [getElem?_transferPlaces (Nat.le_of_lt lt), getElem?_transferPlaces lt, at_]
    rfl

/-- Where the transfers are rows of their table, the stop points have those from the first
offset on. -/
theorem TransfersResolve.assigns {p : StopPoint} (first : c.stopPoints.rows[0]? = some p)
    (resolve : TransfersResolve c.stopPoints.rows c.transfers.rows.size) :
    Assigns c.stopPoints.size p.transfersOffset.toNat c.transfersFrom? := by
  refine .of_places (length_transferPlaces _ _) ?_ (pairwise_transferPlaces resolve)
    List.getLast?_concat (transfersFrom?_eq c)
  rw [getElem?_transferPlaces (Nat.zero_le _), first]
  rfl

/-! ## What a check that passes leaves open -/

/-- In a container with good references the stop points have the transfers from the first offset
on, each at one stop point.  So it is with the lists of a stop index.  Nothing keeps either
table from starting in front of that offset. -/
theorem assigns_of_checkReferences (some_ : 0 < c.stopPoints.size)
    (good : checkReferences c = .ok ()) :
    (∃ p, c.stopPoints.rows[0]? = some p ∧
      Assigns c.stopPoints.size p.transfersOffset.toNat c.transfersFrom?) ∧
    (c.stopIndex.isEmpty = false → ∃ first, c.stopIndex.offsets.values[0]? = some first ∧
      Assigns c.stopPoints.size first.toNat c.stopIndex.run? ∧
      (List.range c.stopPoints.size).flatMap c.stopIndex.patternsFor =
        c.stopIndex.patterns.values.toList.drop first.toNat) := by
  have sound := checkReferences_eq_ok.1 good
  have first := Array.getElem?_eq_getElem some_
  refine ⟨⟨_, first, sound.transfers.assigns first⟩, fun built => ?_⟩
  rcases sound.stopIndex with empty | fits
  · cases built.symm.trans empty
  · obtain ⟨offset, at_, assigns⟩ := fits.exists_assigns
    refine ⟨offset, at_, assigns, ?_⟩
    rw [← assigns.flatMap_slice]
    exact congrArg (List.flatMap · _) (funext (StopIndex.patternsFor_eq _))

/-- A stop point that has the second of two transfers, and the second of two entries of the stop
index. -/
def late : Container :=
  let c := Container.made [
    .add .stopArea [(⟨"A", "Area", ⟨0, 0⟩, "UTC"⟩ : StopArea.Draft)],
    .add .stopPoint [(⟨"S", "Stop", "", ⟨0, 0⟩, 0, 0, 0, 1⟩ : StopPoint.Draft)],
    .add .transfer [(⟨0, 0⟩ : Transfer), ⟨0, 1⟩],
    .add .operator [(⟨"O", "", "Operator"⟩ : Operator.Draft)],
    .add .physicalMode [(⟨"P", "Bus"⟩ : PhysicalMode.Draft)],
    .add .commercialMode [(⟨"C", "Bus"⟩ : CommercialMode.Draft)],
    .add .line [(⟨"L", "1", "Line", "", "", 0, 0⟩ : Line.Draft)],
    .add .route [(⟨0⟩ : Route)],
    .add .journeyPattern [(⟨0, 0, 0, 0, 0, 0, 0⟩ : JourneyPattern)]]
  { c with stopIndex := ⟨.ofArray #[1, 2], .ofArray #[0, 0]⟩ }

theorem size_late : 0 < late.stopPoints.size := by decide +kernel

theorem checkReferences_late : checkReferences late = .ok () := by decide +kernel

/-- The stop point has what stands from the second row on. -/
theorem assigns_late : 0 < late.stopPoints.size ∧ checkReferences late = .ok () ∧
    late.stopIndex.isEmpty = false ∧ (∃ first, late.stopIndex.offsets.values[0]? = some first ∧
      Assigns late.stopPoints.size first.toNat late.stopIndex.run? ∧
      (List.range late.stopPoints.size).flatMap late.stopIndex.patternsFor =
        late.stopIndex.patterns.values.toList.drop first.toNat) ∧
    ∃ p, late.stopPoints.rows[0]? = some p ∧
      Assigns late.stopPoints.size p.transfersOffset.toNat late.transfersFrom? := by
  obtain ⟨transfers, index⟩ := assigns_of_checkReferences size_late checkReferences_late
  exact ⟨size_late, checkReferences_late, rfl, index rfl, transfers⟩

/-- The references are good, but the first transfer and the first entry of the index belong to
no stop. -/
theorem ownerless_late : 0 < late.stopPoints.size ∧ checkReferences late = .ok () ∧
    late.stopIndex.isEmpty = false ∧
    (¬∀ row : Fin late.transfers.rows.size,
      ∃! stop, ∃ run, late.transfersFrom? stop = some run ∧ row ∈ run.rows) ∧
    ¬∀ position : Fin late.stopIndex.patterns.values.size,
      ∃! stop, ∃ run, late.stopIndex.run? stop = some run ∧ position ∈ run.rows := by
  have sound := checkReferences_eq_ok.1 checkReferences_late
  have offsets : late.stopPoints.rows[0]?.map (·.transfersOffset) = some 1 := by decide +kernel
  obtain ⟨p, first, one⟩ := Option.map_eq_some_iff.1 offsets
  have transfers := sound.transfers.assigns first
  obtain ⟨offset, at_, index⟩ := (sound.stopIndex.resolve_left (by decide)).exists_assigns
  cases at_
  refine ⟨size_late, checkReferences_late, rfl, fun all => ?_, fun all => ?_⟩
  · obtain ⟨stop, own, -⟩ := all ⟨0, by decide +kernel⟩
    exact transfers.ownerless _ (by rw [one]; decide) ⟨stop, own⟩
  · obtain ⟨stop, own, -⟩ := all ⟨0, by decide⟩
    exact index.ownerless _ (by decide) ⟨stop, own⟩

end Audit

end TransitStore
