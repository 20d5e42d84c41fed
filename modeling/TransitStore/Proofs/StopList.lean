import Mathlib
import TransitStore.Proofs.Audit.Derived
import TransitStore.Proofs.Container.Legible
import TransitStore.StopList

/-!
# Complete stop lists

A stop list passes over a stop point whose identifier cannot be read, and leaves a name
empty that cannot be read.  So it is complete exactly if texts stand at the places of all
identifiers and names (`listsAll_iff`).  They do in every container that took its texts by
operations, but the check of references does not ask for them: a snapshot with other bytes
in its pool passes, and its stop list lacks the stop points that lost their texts
(`skips_garbled`).
-/

namespace TransitStore

/-! ## Entries -/

namespace StopLocation

/-- An entry has what is read of a stop point. -/
structure Shows (pool : Pool) (p : StopPoint) (s : StopLocation) : Prop where
  id : pool.text? p.id = some s.id
  name : pool.text? p.name = some s.name
  coord : s.coord = p.coord

/-- An entry has the text that stands for the identifier of a stop point, and the one for its
name, if there is any. -/
structure Outlines (pool : Pool) (p : StopPoint) (s : StopLocation) : Prop where
  id : pool.Stands p.id s.id
  name : ∀ text, pool.Stands p.name text → s.name = text
  nameless : (¬∃ text, pool.Stands p.name text) → s.name = ""
  coord : s.coord = p.coord

variable {pool : Pool} {p : StopPoint} {s : StopLocation}

theorem isSome_of? : (of? pool p).isSome ↔ ∃ text, pool.Stands p.id text := by
  simp only [of?, Option.isSome_map, Option.isSome_iff_exists, Pool.text?_eq_some_iff]

theorem outlines_of_of? (made : of? pool p = some s) : Outlines pool p s := by
  obtain ⟨id, read, rfl⟩ := Option.map_eq_some_iff.1 made
  refine ⟨Pool.text?_eq_some_iff.1 read, ?_, ?_, rfl⟩
  · intro text stands
    rw [stands.text?_eq, Option.getD_some]
  · intro nameless
    cases name : pool.text? p.name with
    | none => rfl
    | some text => exact absurd ⟨text, Pool.text?_eq_some_iff.1 name⟩ nameless

end StopLocation

/-! ## Lists -/

namespace Container

/-- The stop list has an entry for each stop point, in their order. -/
structure ListsAll (c : Container) : Prop where
  length : c.stopLocations.length = c.stopPoints.size
  entry : ∀ (i : Nat) (p : StopPoint), c.stopPoints.rows[i]? = some p →
    ∃ s, c.stopLocations[i]? = some s ∧ s.Shows c.pool p

/-- What a stop list has of its stop points, whatever stands in the pool. -/
structure ListsLegible (c : Container) : Prop where
  /-- A text is read at a place exactly if it stands there, with a zero byte behind it. -/
  read_iff : ∀ place text, c.pool.text? place = some text ↔ c.pool.Stands place text
  /-- The stop points whose identifier can be read have the entries, in their order. -/
  entries : List.Forall₂ (StopLocation.Outlines c.pool)
    (c.stopPoints.rows.toList.filter fun p => (c.pool.text? p.id).isSome) c.stopLocations
  /-- None is left out exactly if texts stand for all identifiers. -/
  length_iff : c.stopLocations.length = c.stopPoints.size ↔
    ∀ p ∈ c.stopPoints.rows, ∃ text, c.pool.Stands p.id text
  /-- The list is complete exactly if texts stand for all identifiers and names. -/
  listsAll_iff : c.ListsAll ↔ ∀ p ∈ c.stopPoints.rows,
    (∃ text, c.pool.Stands p.id text) ∧ ∃ text, c.pool.Stands p.name text

theorem forall₂_outlines (c : Container) : List.Forall₂ (StopLocation.Outlines c.pool)
    (c.stopPoints.rows.toList.filter fun p => (c.pool.text? p.id).isSome) c.stopLocations := by
  rw [stopLocations]
  induction c.stopPoints.rows.toList with
  | nil => exact .nil
  | cons p rows ih =>
    cases made : StopLocation.of? c.pool p with
    | none =>
      have unread : (c.pool.text? p.id).isSome = false := by simpa [StopLocation.of?] using made
      simp only [List.filter_cons, unread, List.filterMap_cons_none made]
      exact ih
    | some s =>
      have outlines := StopLocation.outlines_of_of? made
      have read : (c.pool.text? p.id).isSome := by rw [outlines.id.text?_eq, Option.isSome_some]
      simp only [List.filter_cons, read, if_true, List.filterMap_cons_some made]
      exact .cons outlines ih

theorem length_stopLocations_iff (c : Container) :
    c.stopLocations.length = c.stopPoints.size ↔
      ∀ p ∈ c.stopPoints.rows, ∃ text, c.pool.Stands p.id text := by
  rw [stopLocations, Table.size, ← Array.length_toList, List.filterMap_length_eq_length]
  simp only [Array.mem_toList_iff, StopLocation.isSome_of?]

theorem listsAll_iff (c : Container) : c.ListsAll ↔ ∀ p ∈ c.stopPoints.rows,
    (∃ text, c.pool.Stands p.id text) ∧ ∃ text, c.pool.Stands p.name text := by
  constructor
  · intro all p mem
    obtain ⟨i, at_⟩ := Array.mem_iff_getElem?.1 mem
    obtain ⟨s, -, shows⟩ := all.entry i p at_
    exact ⟨⟨s.id, Pool.text?_eq_some_iff.1 shows.id⟩, ⟨s.name, Pool.text?_eq_some_iff.1 shows.name⟩⟩
  · intro legible
    have length := (length_stopLocations_iff c).2 fun p mem => (legible p mem).1
    have whole : (c.stopPoints.rows.toList.filter fun p => (c.pool.text? p.id).isSome) =
        c.stopPoints.rows.toList := by
      refine List.filter_eq_self.2 fun p mem => ?_
      obtain ⟨⟨text, stands⟩, -⟩ := legible p (Array.mem_toList_iff.1 mem)
      rw [stands.text?_eq, Option.isSome_some]
    have entries := forall₂_outlines c
    rw [whole] at entries
    refine ⟨length, fun i p at_ => ?_⟩
    rw [← Array.getElem?_toList] at at_
    obtain ⟨s, own, outlines⟩ := exists_right_of_forall₂ entries at_
    obtain ⟨-, name, stands⟩ := legible p (Array.mem_toList_iff.1 (List.mem_of_getElem? at_))
    refine ⟨s, own, outlines.id.text?_eq, ?_, outlines.coord⟩
    rw [outlines.name name stands]
    exact stands.text?_eq

/-- A container whose texts all came by operations has a complete stop list, also when it was
opened from its snapshot.  The stop list of any container, whatever file it was opened from,
passes over the stop points whose identifier cannot be read and over no other. -/
theorem lists_stopPoints (c : Container) : (Grown c → ListsAll c) ∧ ListsLegible c := by
  refine ⟨?grown, ?read, forall₂_outlines c, length_stopLocations_iff c, listsAll_iff c⟩
  case grown =>
    intro grown
    rw [listsAll_iff]
    intro p mem
    have stands := grown.legible.2 .stopPoint p mem
    exact ⟨stands p.id (.head _), stands p.name (.tail _ (.head _))⟩
  case read => exact fun place text => Pool.text?_eq_some_iff

/-- A stop area with two stop points. -/
def twoStops : Container := made [
  .add .stopArea [(⟨"A", "Area", ⟨0, 0⟩, "UTC"⟩ : StopArea.Draft)],
  .add .stopPoint [(⟨"S", "Stop", "", ⟨0, 0⟩, 0, 0, 0, 0⟩ : StopPoint.Draft),
    ⟨"T", "Stop", "", ⟨0, 0⟩, 0, 0, 0, 0⟩]]

theorem checkReferences_twoStops : Audit.checkReferences twoStops = .ok () := by decide +kernel

theorem grown_twoStops : Grown twoStops := .owned (attained_made _) (by decide +kernel)

/-- Both stop points are listed when the container was saved and opened again. -/
theorem lists_twoStops : ∃ d,
    Snapshot.openImage "stops" true (Snapshot.encode twoStops) = .ok d ∧ Grown d ∧ ListsAll d ∧
      d.stopLocations = [⟨"S", "Stop", ⟨0, 0⟩⟩, ⟨"T", "Stop", ⟨0, 0⟩⟩] := by
  have opened := Snapshot.openImage_true (Snapshot.decode_encode grown_twoStops.legible.1 "stops")
  rw [Snapshot.checkReferences_mappedFrom, checkReferences_twoStops] at opened
  have grown := grown_twoStops.reopened opened
  refine ⟨_, opened, grown, (lists_stopPoints _).1 grown, ?_⟩
  show twoStops.stopLocations = _
  decide +kernel

/-- The two stop points with other bytes in the pool: one that begins no character for the
identifier of the first, and no zero byte behind the name of the second. -/
def garbled : Container :=
  let bytes := twoStops.pool.bytes.values
  { twoStops with
    pool := ⟨.ofArray (((bytes.setIfInBounds 11 255).setIfInBounds 25 33).setIfInBounds 26 33)⟩ }

theorem fits_garbled : Fits garbled := by
  have fits := grown_twoStops.legible.1
  refine ⟨by decide +kernel, fun e => ?_, fits.timezone, fits.offsets, fits.patterns⟩
  have same : e.table garbled = e.table twoStops := by cases e <;> rfl
  rw [same]
  exact fits.tables e

theorem checkReferences_garbled : Audit.checkReferences garbled = .ok () := by decide +kernel

/-- The snapshot is opened with a check of its references, but the first stop point is not
listed, and the second one has lost its name. -/
theorem skips_garbled : ∃ d,
    Snapshot.openImage "stops" true (Snapshot.encode garbled) = .ok d ∧
      d.stopPoints.size = 2 ∧ d.stopLocations = [⟨"T", "", ⟨0, 0⟩⟩] ∧ ¬ListsAll d := by
  have opened := Snapshot.openImage_true (Snapshot.decode_encode fits_garbled "stops")
  rw [Snapshot.checkReferences_mappedFrom, checkReferences_garbled] at opened
  have size : garbled.stopPoints.size = 2 := by decide +kernel
  have listed : garbled.stopLocations = [⟨"T", "", ⟨0, 0⟩⟩] := by decide +kernel
  refine ⟨_, opened, size, listed, ?_⟩
  intro all
  have length : garbled.stopLocations.length = garbled.stopPoints.size := all.length
  rw [listed, size] at length
  cases length

end Container

end TransitStore
