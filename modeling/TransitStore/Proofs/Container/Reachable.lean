import Mathlib
import TransitStore.Proofs.Container.Growth
import TransitStore.Proofs.Snapshot.Acceptance
import TransitStore.Proofs.StopIndex

/-!
# Reachable containers

A container is built up by operations, each of which may fail and leave a part of its
work, or opened from a snapshot.  Whatever the order of the operations, its tables
and its pool stay as small as their numbers reach, and no time zone has the place
that stands for none (`Reachable.fits`).
-/

namespace TransitStore

namespace Container

/-! ## Operations -/

/-- The operations on a container. -/
inductive Operation where
  | add (e : Entity) (rows : List e.NewRow)
  | setCalendar (start : UInt64) (days : UInt32)
  | setTimezone (name : String) (utcOffset : Int32)
  | buildStopIndex
  | reset

/-- What an operation does, with the memory there is. -/
def Operation.edit [Memory] : Operation → Edit Container Unit
  | add e rows => (fun _ => ()) <$> onTable (Table.add rows : Edit (Table e.Row × Pool) Nat)
  | setCalendar start days => Container.setCalendar start days
  | setTimezone name utcOffset => Container.setTimezone name utcOffset
  | buildStopIndex => Container.buildStopIndex
  | reset => Container.reset

/-- The container behind an operation, whether it fails or not. -/
def Operation.apply [Memory] (op : Operation) (c : Container) : Container := op.edit.after c

/-- The greatest size of files to map. -/
def maxFileSize : Nat := 2 ^ 62

/-- The containers that operations lead to. -/
inductive Reachable : Container → Prop where
  /-- A new container is empty. -/
  | new : Reachable {}
  /-- Operations follow each other in any order, with any memory. -/
  | edited {c : Container} [Memory] (op : Operation) : Reachable c → Reachable (op.apply c)
  /-- A container may let go of its snapshot. -/
  | unmapped {c : Container} : Reachable c → Reachable c.unmap.2
  /-- A container may be opened from a snapshot. -/
  | opened {path : String} {validate : Bool} {image : ByteArray} {c : Container} :
    image.size < maxFileSize → Snapshot.openImage path validate image = .ok c → Reachable c

/-- Rows are added by an operation, so what operations keep goes on to hold. -/
theorem Operation.keeps_add {inv : Container → Prop}
    (each : ∀ op : Operation, Edit.Keeps inv op.edit)
    (e : Entity) (rows : List e.NewRow) :
    Edit.Keeps inv (onTable (Table.add rows : Edit (Table e.Row × Pool) Nat)) := by
  intro c holds
  have kept := each (.add e rows) c holds
  rwa [Operation.edit, Edit.after_map] at kept

/-- An operation leads from a reachable container to one, whether it fails or not. -/
theorem Reachable.keeps (op : Operation) : Edit.Keeps Reachable op.edit :=
  fun _ reachable => .edited op reachable

/-! ## Sizes -/

/-- The numbers of a container reach as far as its contents. -/
structure Fits (c : Container) : Prop where
  /-- The pool is not too long. -/
  pool : c.pool.size ≤ Pool.maxSize
  /-- No table is too long. -/
  tables : ∀ e : Entity, (e.table c).size ≤ e.maxRows
  /-- No time zone has the place that stands for none. -/
  timezone : ∀ place, c.metadata.timezone = some place → place.toNat < Snapshot.noTimezone
  /-- The offsets of the stop index are no longer than a file. -/
  offsets : c.stopIndex.offsets.values.size * 4 < maxFileSize
  /-- The lists of the stop index are no longer than a file. -/
  patterns : c.stopIndex.patterns.values.size * 2 < maxFileSize

theorem fits_new : Fits {} where
  pool := Nat.zero_le _
  tables e := by cases e <;> exact Nat.zero_le _
  timezone := nofun
  offsets := by decide
  patterns := by decide

variable {c : Container}

theorem Fits.add [Memory] (e : Entity) (rows : List e.NewRow) :
    Edit.Keeps Fits (onTable (Table.add rows : Edit (Table e.Row × Pool) Nat)) := by
  intro c fits
  obtain ⟨short, pool⟩ := e.keeps_addRows rows (e.table c, c.pool) ⟨fits.tables e, fits.pool⟩
  rw [Entity.after_onTable]
  refine ⟨?_, ?_, ?_, ?_, ?_⟩
  · simpa only [Entity.put_pool] using pool
  · intro other
    by_cases same : other = e
    · subst same
      rwa [Entity.table_put]
    · rw [Entity.table_put_of_ne same, Entity.table_withPool]
      exact fits.tables other
  · simpa only [Entity.put_metadata] using fits.timezone
  · simpa only [Entity.put_stopIndex] using fits.offsets
  · simpa only [Entity.put_stopIndex] using fits.patterns

theorem Fits.withTexts (fits : Fits c) {pool : Pool} {metadata : Metadata}
    (short : pool.size ≤ Pool.maxSize)
    (timezone : ∀ place, metadata.timezone = some place → place.toNat < Snapshot.noTimezone) :
    Fits { c with metadata, pool } where
  pool := short
  tables e := by
    have same : e.table { c with metadata, pool } = e.table c := by cases e <;> rfl
    rw [same]
    exact fits.tables e
  timezone := timezone
  offsets := fits.offsets
  patterns := fits.patterns

theorem Fits.setCalendar (start : UInt64) (days : UInt32) :
    Edit.Keeps Fits (setCalendar start days) :=
  (keeps_ensureOwned Fits).bind fun _ _ fits => fits.withTexts fits.pool fits.timezone

/-- The name of a time zone gets a place that does not stand for none. -/
theorem Fits.setTimezone [Memory] (name : String) (utcOffset : Int32) :
    Edit.Keeps Fits (setTimezone name utcOffset) := by
  refine (keeps_ensureOwned Fits).bind fun _ c fits => ?_
  rw [Edit.after_bind]
  cases run : onPool (Pool.intern name) c with
  | error e left =>
    have same := after_onPool (Pool.intern name) c
    rw [Edit.after_of_error run] at same
    subst same
    exact fits.withTexts (Pool.keeps_intern name _ fits.pool) fits.timezone
  | ok place grown =>
    obtain ⟨pool, intern, rfl⟩ := onPool_eq_ok.1 run
    obtain ⟨at_, grows, short⟩ := Pool.intern_eq_ok intern
    refine fits.withTexts short ?_
    intro place' same
    cases same
    show place.toNat < Pool.maxSize
    omega

theorem Fits.buildStopIndex [Memory] : Edit.Keeps Fits buildStopIndex := by
  intro c fits
  cases owned : c.isMapped with
  | true =>
    have same : Container.buildStopIndex.after c = c := after_of_mapped owned
    rwa [same]
  | false =>
    rw [Edit.after, buildStopIndex_of_owned owned]
    cases build : StopIndex.build c.stopPoints.size c.journeyPatterns.rows
        c.journeyPatternPoints.rows with
    | error e => exact fits
    | ok stopIndex =>
      obtain ⟨sound, short⟩ := StopIndex.build_eq_ok build
      have stops : c.stopPoints.size ≤ 65535 := fits.tables .stopPoint
      have last : StopIndex.maxOffset = 4294967295 := rfl
      have whole : maxFileSize = 4611686018427387904 := rfl
      have size := sound.size
      refine ⟨fits.pool, ?_, fits.timezone, ?_, ?_⟩
      · intro e
        rw [Entity.table_withStopIndex]
        exact fits.tables e
      · show stopIndex.offsets.values.size * 4 < maxFileSize
        omega
      · show stopIndex.patterns.values.size * 2 < maxFileSize
        omega

theorem Fits.resetTable (e : Entity) : Edit.Keeps Fits (resetTable e.Row) := by
  intro c fits
  rw [after_resetTable]
  refine ⟨?_, ?_, ?_, ?_, ?_⟩
  · simpa only [Entity.put_pool] using fits.pool
  · intro other
    by_cases same : other = e
    · subst same
      rw [Entity.table_put, Edit.after, Table.reset]
      cases (other.table c).isMapped with
      | true => exact fits.tables other
      | false => exact Nat.zero_le _
    · rw [Entity.table_put_of_ne same]
      exact fits.tables other
  · simpa only [Entity.put_metadata] using fits.timezone
  · simpa only [Entity.put_stopIndex] using fits.offsets
  · simpa only [Entity.put_stopIndex] using fits.patterns

theorem Fits.reset : Edit.Keeps Fits reset := by
  refine keeps_reset ?_ Fits.resetTable ?_ ?_
  · intro c fits
    refine ⟨fits.pool, ?_, fits.timezone, fits_new.offsets, fits_new.patterns⟩
    intro e
    rw [Entity.table_withStopIndex]
    exact fits.tables e
  · intro c fits
    rw [after_onPool]
    refine fits.withTexts ?_ fits.timezone
    rw [Edit.after, Pool.reset]
    cases c.pool.isMapped with
    | true => exact fits.pool
    | false => exact Nat.zero_le _
  · intro c fits
    refine fits.withTexts fits.pool ?_
    intro metadata none_
    cases none_

theorem Fits.apply [Memory] (fits : Fits c) (op : Operation) : Fits (op.apply c) := by
  cases op with
  | add e rows => exact (Fits.add e rows).map _ c fits
  | setCalendar start days => exact Fits.setCalendar start days c fits
  | setTimezone name utcOffset => exact Fits.setTimezone name utcOffset c fits
  | buildStopIndex => exact Fits.buildStopIndex c fits
  | reset => exact Fits.reset c fits

/-- What an image shows is no longer than the image. -/
theorem Fits.of_shows {path : String} {image : ByteArray} (small : image.size < maxFileSize)
    (shows : Snapshot.Shows path image c) : Fits c where
  pool := shows.pool.short
  tables e := (shows.tables e).short
  timezone place same := by
    have read := shows.decodes.timezone
    rw [same] at read
    split at read
    · cases read
    · rename_i other
      have word : place.toNat = Snapshot.wordOf image 16 4 := Option.some.inj read
      have bound := place.toNat_lt
      have none_ : Snapshot.noTimezone = 4294967295 := rfl
      omega
  offsets := by
    have column := congrArg (·[0]?) (Snapshot.columns_stopIndex c)
    rw [List.getElem?_drop] at column
    obtain ⟨fits, words⟩ := shows.column column
    have size := congrArg Array.size words
    have inside := fits.inside
    simp only [Array.size_map, Snapshot.size_elements] at size
    simp only [Snapshot.Descriptor.finish, Snapshot.indexOffsetsSpec, CellType.size] at inside
    omega
  patterns := by
    have column := congrArg (·[1]?) (Snapshot.columns_stopIndex c)
    rw [List.getElem?_drop] at column
    obtain ⟨fits, words⟩ := shows.column column
    have size := congrArg Array.size words
    have inside := fits.inside
    simp only [Array.size_map, Snapshot.size_elements] at size
    simp only [Snapshot.Descriptor.finish, Snapshot.indexPatternsSpec, CellType.size] at inside
    omega

end Container

theorem Snapshot.decode_of_openImage {path : String} {validate : Bool} {image : ByteArray}
    {c : Container} (h : openImage path validate image = .ok c) : decode path image = .ok c := by
  unfold openImage at h
  cases run : decode path image with
  | error reason => simp [run] at h
  | ok d =>
    simp only [run] at h
    split at h
    · split at h
      · cases h
      · cases h
        rfl
    · cases h
      rfl

/-- Every reachable container is as small as its numbers reach. -/
theorem Container.Reachable.fits {c : Container} (h : Reachable c) : Fits c := by
  induction h with
  | new => exact fits_new
  | edited op _ ih => exact ih.apply op
  | @unmapped c _ ih =>
    unfold unmap
    split
    · exact fits_new
    · exact ih
  | opened small opened =>
    exact .of_shows small (Snapshot.decode_eq_ok.1 (Snapshot.decode_of_openImage opened))

end TransitStore
