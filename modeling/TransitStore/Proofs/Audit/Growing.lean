import Mathlib
import TransitStore.Proofs.Audit.References

/-!
# References of growing containers

A reference that leads to a row leads to the same row when rows are added anywhere,
since those that were there keep their numbers.  So the references of all records
stay good when rows are added whose own references are good
(`Extends.of_added`).
-/

namespace TransitStore

namespace Container

/-- A container has got rows, in tables of some entities only. -/
structure Grows (entities : List Entity) (c c' : Container) : Prop where
  /-- The records that were there keep their numbers. -/
  rows : ∀ e : Entity, (e.rows c).toList <+: (e.rows c').toList
  /-- The other tables stay. -/
  others : ∀ e ∉ entities, e.table c' = e.table c
  /-- The texts of the pool stay. -/
  pool : c.pool.Prefix c'.pool

variable {entities : List Entity} {c c' c'' : Container}

theorem Grows.refl (entities : List Entity) (c : Container) : Grows entities c c :=
  ⟨fun _ => List.prefix_refl _, fun _ _ => rfl, .refl c.pool⟩

theorem Grows.trans (first : Grows entities c c') (second : Grows entities c' c'') :
    Grows entities c c'' where
  rows e := (first.rows e).trans (second.rows e)
  others e other := (second.others e other).trans (first.others e other)
  pool := first.pool.trans second.pool

theorem Grows.of_tables (tables : ∀ e : Entity, e.table c' = e.table c)
    (pool : c.pool.Prefix c'.pool) : Grows [] c c' where
  rows e := by
    rw [Entity.rows, Entity.rows, tables e]
  others e _ := tables e
  pool := pool

theorem Grows.of_subset {few many : List Entity} (grows : Grows few c c') (subset : few ⊆ many) :
    Grows many c c' :=
  { grows with others := fun e other => grows.others e fun mem => other (subset mem) }

theorem Grows.size_le (grows : Grows entities c c') (e : Entity) :
    (e.table c).size ≤ (e.table c').size :=
  (grows.rows e).length_le

theorem Grows.getElem? (grows : Grows entities c c') {e : Entity} {i : Nat} {r : e.Row}
    (at_ : (e.rows c)[i]? = some r) : (e.rows c')[i]? = some r := by
  rw [← Array.getElem?_toList] at at_ ⊢
  obtain ⟨rest, same⟩ := grows.rows e
  have inside := (List.getElem?_eq_some_iff.1 at_).1
  rw [← same, List.getElem?_append_left inside]
  exact at_

end Container

open Container

theorem Entity.Added.grows {e : Entity} {drafts : List e.NewRow} {c c' : Container} {start : Nat}
    (added : e.Added drafts c start c') {entities : List Entity} (mem : e ∈ entities) :
    Grows entities c c' where
  rows other := by
    by_cases same : other = e
    · subst same
      obtain ⟨records, rows, -⟩ := added.rows
      exact ⟨records, rows.symm⟩
    · rw [Entity.rows, Entity.rows, added.others other same]
  others other not_ := added.others other fun same => not_ (same ▸ mem)
  pool := added.pool

theorem Entity.Added.size {e : Entity} {drafts : List e.NewRow} {c c' : Container} {start : Nat}
    (added : e.Added drafts c start c') :
    (e.table c').size = (e.table c).size + drafts.length := by
  obtain ⟨records, rows, made⟩ := added.rows
  have length := congrArg List.length rows
  rw [List.length_append, ← made.length_eq] at length
  exact length

theorem Entity.Added.length_le {e : Entity} {drafts : List e.NewRow} {c c' c'' : Container}
    {start : Nat} {entities : List Entity} (added : e.Added drafts c start c')
    (grows : Grows entities c' c'') : drafts.length ≤ (e.table c'').size := by
  have le := grows.size_le e
  rw [added.size] at le
  exact Nat.le_trans (Nat.le_add_left _ _) le

theorem Entity.Added.getElem? {e : Entity} {drafts : List e.NewRow} {c c' : Container}
    {start : Nat} (added : e.Added drafts c start c') {i : Nat} {d : e.NewRow}
    (at_ : drafts[i]? = some d) : ∃ w, (e.rows c')[start + i]? = some (e.record d w) := by
  obtain ⟨records, rows, made⟩ := added.rows
  have inside : i < records.length := by
    rw [← made.length_eq]
    exact (List.getElem?_eq_some_iff.1 at_).1
  obtain ⟨-, rfl⟩ := List.getElem?_eq_some_iff.1 at_
  obtain ⟨w, same, -⟩ := made.get (made.length_eq ▸ inside) inside
  refine ⟨w, ?_⟩
  have start_ : start = (e.rows c).toList.length := added.start
  rw [← Array.getElem?_toList, rows, start_, List.getElem?_append_right (Nat.le_add_right _ _),
    Nat.add_sub_cancel_left, List.getElem?_eq_getElem inside]
  exact congrArg some same

/-- What new rows say about themselves is said by their records, in order. -/
theorem Entity.Added.map_rows {α : Type} {e : Entity} {drafts : List e.NewRow} {c c' : Container}
    {start : Nat} (added : e.Added drafts c start c') (g : e.Row → α) (f : e.NewRow → α)
    (same : ∀ d w, g (e.record d w) = f d) :
    (e.rows c').toList.map g = (e.rows c).toList.map g ++ drafts.map f := by
  obtain ⟨records, rows, made⟩ := added.rows
  rw [rows, List.map_append, List.append_cancel_left_eq]
  clear rows added
  induction made with
  | nil => rfl
  | cons head _ ih =>
    obtain ⟨w, rfl, -⟩ := head
    exact congrArg₂ List.cons (same _ w) ih

/-- A record was there, or it is made from a new row. -/
theorem Entity.Added.mem {e : Entity} {drafts : List e.NewRow} {c c' : Container} {start : Nat}
    (added : e.Added drafts c start c') {r : e.Row} (mem : r ∈ e.rows c') :
    r ∈ e.rows c ∨ ∃ d ∈ drafts, e.Made c'.pool d r := by
  obtain ⟨records, rows, made⟩ := added.rows
  rw [← Array.mem_toList_iff, rows, List.mem_append, Array.mem_toList_iff] at mem
  rcases mem with mem | mem
  · exact .inl mem
  · exact .inr (exists_of_forall₂ made mem)

/-! ## References of records -/

/-- The row numbers in a record lead to rows of a container. -/
def Entity.Refers (c : Container) : (e : Entity) → e.Row → Prop
  | stopPoint, (p : StopPoint) => p.stopArea.toNat < c.stopAreas.size
  | transfer, (t : Transfer) => t.targetStop.toNat < c.stopPoints.size
  | line, (l : Line) =>
    l.operator.toNat < c.operators.size ∧ l.physicalMode.toNat < c.physicalModes.size
  | route, (r : Route) => r.line.toNat < c.lines.size
  | journeyPatternPoint, (p : JourneyPatternPoint) => p.stopPoint.toNat < c.stopPoints.size
  | journeyPattern, (p : JourneyPattern) =>
    p.route.toNat < c.routes.size ∧ p.commercialMode.toNat < c.commercialModes.size ∧
      Audit.PatternResolves c p
  | vehicleJourney, (v : VehicleJourney) =>
    (v.forwardTransfers? c.vehicleTransfers.size).isSome ∧
      (v.backwardTransfers? c.vehicleTransfers.size).isSome
  | vehicleTransfer, (r : JourneyRef) => ∃ p,
    c.journeyPatterns.rows[r.pattern.toNat]? = some p ∧ r.offset.toNat < p.vehicleJourneyCount.toNat
  | stopArea, _ | operator, _ | physicalMode, _ | commercialMode, _ | stopTime, _ => True

section

variable {entities : List Entity} {c c' c'' : Container}

theorem Audit.PatternResolves.mono {p : JourneyPattern} (grows : Grows entities c c')
    (resolves : PatternResolves c p) : PatternResolves c' p where
  points := Nat.le_trans resolves.points (grows.size_le .journeyPatternPoint)
  vehicleJourneys := Nat.le_trans resolves.vehicleJourneys (grows.size_le .vehicleJourney)
  stopTimes i lt v at_ := by
    have inside : p.vehicleJourneyOffset.toNat + i < c.vehicleJourneys.rows.size :=
      Nat.lt_of_lt_of_le (Nat.add_lt_add_left lt _) resolves.vehicleJourneys
    have before := Array.getElem?_eq_getElem inside
    have after : c'.vehicleJourneys.rows[p.vehicleJourneyOffset.toNat + i]? = _ :=
      grows.getElem? (e := .vehicleJourney) before
    cases at_.symm.trans after
    exact Nat.le_trans (resolves.stopTimes i lt _ before) (grows.size_le .stopTime)

/-- The rows that a record leads to stay. -/
theorem Entity.Refers.mono (grows : Grows entities c c') {e : Entity} {r : e.Row}
    (refers : e.Refers c r) : e.Refers c' r := by
  have le := grows.size_le
  cases e with
  | stopPoint => exact Nat.lt_of_lt_of_le refers (le .stopArea)
  | transfer => exact Nat.lt_of_lt_of_le refers (le .stopPoint)
  | line =>
    exact ⟨Nat.lt_of_lt_of_le refers.1 (le .operator),
      Nat.lt_of_lt_of_le refers.2 (le .physicalMode)⟩
  | route => exact Nat.lt_of_lt_of_le refers (le .line)
  | journeyPatternPoint => exact Nat.lt_of_lt_of_le refers (le .stopPoint)
  | journeyPattern =>
    exact ⟨Nat.lt_of_lt_of_le refers.1 (le .route),
      Nat.lt_of_lt_of_le refers.2.1 (le .commercialMode), refers.2.2.mono grows⟩
  | vehicleJourney =>
    obtain ⟨forward, backward⟩ := refers
    simp only [VehicleJourney.forwardTransfers?, VehicleJourney.backwardTransfers?,
      Span.isSome_run?] at forward backward
    simp only [Entity.Refers, VehicleJourney.forwardTransfers?,
      VehicleJourney.backwardTransfers?, Span.isSome_run?]
    exact ⟨Nat.le_trans forward (le .vehicleTransfer), Nat.le_trans backward (le .vehicleTransfer)⟩
  | vehicleTransfer =>
    obtain ⟨p, at_, inside⟩ := refers
    exact ⟨p, grows.getElem? (e := .journeyPattern) at_, inside⟩
  | stopArea | operator | physicalMode | commercialMode | stopTime => trivial

/-- The row numbers and the places of texts in all records lead somewhere. -/
def Container.RefersInside (c : Container) : Prop :=
  ∀ e : Entity, ∀ r ∈ e.rows c, e.Refers c r ∧ ∀ place ∈ e.places r, place.toNat < c.pool.size

theorem Container.RefersInside.of_grows (inside : c.RefersInside) (grows : Grows [] c c') :
    c'.RefersInside := by
  intro e r mem
  rw [Entity.rows, grows.others e List.not_mem_nil] at mem
  obtain ⟨refers, places⟩ := inside e r mem
  exact ⟨refers.mono grows, fun place mem => Nat.lt_of_lt_of_le (places place mem) grows.pool.size_le⟩

theorem Container.refersInside_new : RefersInside {} := by
  intro e r mem
  rw [Entity.rows_new] at mem
  exact absurd mem (Array.not_mem_empty r)

/-- A container has got rows in tables of some entities, and all references lead
somewhere. -/
structure Container.Extends (entities : List Entity) (c c' : Container) : Prop where
  /-- Only rows of these tables are new. -/
  grows : Grows entities c c'
  /-- The references lead somewhere. -/
  inside : c'.RefersInside

theorem Container.Extends.refl (inside : c.RefersInside) : Extends entities c c :=
  ⟨.refl entities c, inside⟩

theorem Container.Extends.trans (first : Extends entities c c') (second : Extends entities c' c'') :
    Extends entities c c'' :=
  ⟨first.grows.trans second.grows, second.inside⟩

theorem Container.Extends.of_subset {few many : List Entity} (step : Extends few c c')
    (subset : few ⊆ many) : Extends many c c' :=
  ⟨step.grows.of_subset subset, step.inside⟩

/-- Rows are added whose row numbers lead to rows that were there. -/
theorem Container.Extends.of_added (inside : c.RefersInside) {e : Entity}
    {drafts : List e.NewRow} {start : Nat} (added : e.Added drafts c start c')
    (among : e ∈ entities) (new : ∀ d ∈ drafts, ∀ w, e.Refers c (e.record d w)) :
    Extends entities c c' := by
  have grows : Grows entities c c' := added.grows among
  refine ⟨grows, ?_⟩
  have old (other : Entity) (r : other.Row) (mem : r ∈ other.rows c) :
      other.Refers c' r ∧ ∀ place ∈ other.places r, place.toNat < c'.pool.size := by
    obtain ⟨refers, places⟩ := inside other r mem
    exact ⟨refers.mono grows, fun place mem => Nat.lt_of_lt_of_le (places place mem) grows.pool.size_le⟩
  intro other r mem
  by_cases same : other = e
  · subst same
    rcases added.mem mem with mem | ⟨d, draft, made⟩
    · exact old _ r mem
    · refine ⟨?_, made.places_lt⟩
      obtain ⟨w, rfl, -⟩ := made
      exact (new d draft w).mono grows
  · rw [Entity.rows, added.others other same] at mem
    exact old other r mem

/-- The references of a container are sound if those of its records lead somewhere. -/
theorem Container.RefersInside.sound (inside : c.RefersInside)
    (timezone : ∀ place, c.metadata.timezone = some place → place.toNat < c.pool.size)
    (transfers : Audit.TransfersResolve c.stopPoints.rows c.transfers.size)
    (stopIndex : c.stopIndex.isEmpty ∨
      c.stopIndex.Sound c.stopPoints.size c.journeyPatterns.size) : Audit.Sound c where
  timezone := timezone
  texts e r mem := (inside e r mem).2
  stopArea p mem := (inside .stopPoint p mem).1
  targetStop t mem := (inside .transfer t mem).1
  operator l mem := (inside .line l mem).1.1
  physicalMode l mem := (inside .line l mem).1.2
  line r mem := (inside .route r mem).1
  stopPoint p mem := (inside .journeyPatternPoint p mem).1
  route p mem := (inside .journeyPattern p mem).1.1
  commercialMode p mem := (inside .journeyPattern p mem).1.2.1
  forward v mem := (inside .vehicleJourney v mem).1.1
  backward v mem := (inside .vehicleJourney v mem).1.2
  vehicleTransfer r mem := (inside .vehicleTransfer r mem).1
  stopIndex := stopIndex
  transfers := transfers
  patterns p mem := (inside .journeyPattern p mem).1.2.2

end

end TransitStore
