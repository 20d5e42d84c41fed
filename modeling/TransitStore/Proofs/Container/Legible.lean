import Mathlib
import TransitStore.Proofs.Container.Ledger
import TransitStore.Proofs.Import.Build

/-!
# Containers with all their texts

The check of references compares the place of a text with the end of the pool, and does not
look at the bytes that stand there.  That a text does stand there comes from the way it got
its place: operations only give places that they put a text at, and nothing ever overwrites
it.  So all records of an owned container have their texts, and those of an imported one.
Snapshots keep both the bytes and the places (`Grown.legible`).
-/

namespace TransitStore.Container

variable {c : Container}

/-- A text stands at each place that a record has for one. -/
def Legible (c : Container) : Prop :=
  ∀ e : Entity, ∀ r ∈ e.rows c, ∀ place ∈ e.places r, ∃ text, c.pool.Stands place text

/-- The records that are made from the rows of a ledger have their texts. -/
theorem Matches.legible {l : Ledger} (same : Matches c l) : Legible c := by
  intro e r mem
  obtain ⟨d, -, made⟩ := exists_of_forall₂ (same.rows e) (Array.mem_toList_iff.2 mem)
  exact made.exists_stands

/-! ## Snapshots -/

theorem Legible.mappedFrom (legible : Legible c) (path : String) (size : Nat) :
    Legible (c.mappedFrom path size) := by
  intro e r mem
  rw [Entity.rows, Entity.table_mappedFrom] at mem
  exact legible e r mem

theorem Fits.mappedFrom (fits : Fits c) (path : String) (size : Nat) :
    Fits (c.mappedFrom path size) where
  pool := fits.pool
  tables e := by
    rw [Entity.table_mappedFrom]
    exact fits.tables e
  timezone := fits.timezone
  offsets := fits.offsets
  patterns := fits.patterns

/-! ## Where texts come from -/

/-- The containers whose texts all came by operations. -/
inductive Grown : Container → Prop where
  /-- An owned container has its texts from operations, whatever files it let go of before. -/
  | owned {c : Container} : Attained c → c.isMapped = false → Grown c
  /-- An import gives a container. -/
  | imported {feed : Feed} {options : Import.Options} {imported : Import.Imported} :
    Import.run feed options = .ok imported → Grown imported.container
  /-- A container may be opened from the snapshot of another. -/
  | reopened {c d : Container} {path : String} {validate : Bool} :
    Grown c → Snapshot.openImage path validate (Snapshot.encode c) = .ok d → Grown d

/-- An import is made of operations on a new container. -/
theorem attained_of_run {feed : Feed} {options : Import.Options} {imported : Import.Imported}
    (h : Import.run feed options = .ok imported) :
    Attained imported.container ∧ imported.container.isMapped = false := by
  have each (op : Operation) : Edit.Keeps (fun c => Attained c ∧ c.isMapped = false) op.edit := by
    rintro c ⟨attained, owned⟩
    exact ⟨.edited op attained, attained.uniform.owned_apply owned op⟩
  exact Import.holds_of_run each ⟨.new, rfl⟩ h

theorem Attained.legible (attained : Attained c) (owned : c.isMapped = false) :
    Fits c ∧ Legible c := by
  obtain ⟨reachable, l, follows⟩ := attained.exists_ledger owned
  exact ⟨reachable.fits, follows.same.legible⟩

/-- A container whose texts came by operations has them all.  It is small enough to be
written and read again, which is what carries this through its snapshots. -/
theorem Grown.legible (grown : Grown c) : Fits c ∧ Legible c := by
  induction grown with
  | owned attained owned => exact attained.legible owned
  | imported made =>
    obtain ⟨attained, owned⟩ := attained_of_run made
    exact attained.legible owned
  | @reopened c d path validate _ opened ih =>
    obtain ⟨fits, legible⟩ := ih
    have decoded := Snapshot.decode_of_openImage opened
    rw [Snapshot.decode_encode fits path] at decoded
    cases decoded
    exact ⟨fits.mappedFrom path _, legible.mappedFrom path _⟩

end TransitStore.Container
