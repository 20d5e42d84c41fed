import Mathlib
import TransitStore.Proofs.Audit.References
import TransitStore.Proofs.Container.Failure
import TransitStore.Proofs.PatternTimes
import TransitStore.Proofs.StopIndex.Inverted

/-!
# What is derived from checked tables

Pattern times and the stop index are made from the tables, and each of them looks at
the runs of rows again in a way of its own.  Tables whose references are good pass
these looks too (`exists_patternTimes`, `exists_stopIndex`), and a stop index that is
built passes the check of references (`sound_withStopIndex`).
-/

namespace TransitStore

/-! ## Sizes of tables -/

namespace Container

variable {c c' : Container}

/-- No table is longer than its row numbers reach. -/
def Numbered (c : Container) : Prop := ∀ e : Entity, (e.table c).size ≤ e.maxRows

theorem numbered_new : Numbered {} := fun e => by cases e <;> exact Nat.zero_le _

theorem Numbered.of_rows (numbered : Numbered c) (same : ∀ e : Entity, e.rows c' = e.rows c) :
    Numbered c' := by
  intro e
  have size : (e.table c').size = (e.table c).size := congrArg Array.size (same e)
  rw [size]
  exact numbered e

theorem numbered_of_openImage {path : String} {validate : Bool} {image : ByteArray}
    (opened : Snapshot.openImage path validate image = .ok c) : Numbered c :=
  fun e => ((Snapshot.decode_eq_ok.1 (Snapshot.decode_of_openImage opened)).tables e).short

theorem Numbered.apply [Memory] (numbered : Numbered c) (uniform : Uniform c) (op : Operation) :
    Numbered (op.apply c) := by
  cases run : op.edit c with
  | error err c' =>
    rw [Operation.apply, Edit.after_of_error run]
    exact numbered.of_rows (uniform.unharmed run).1.rows
  | ok a c' =>
    rw [Operation.apply, Edit.after_of_ok run]
    cases op with
    | add e rows =>
      obtain ⟨start, added, -⟩ := Edit.map_eq_ok.1 run
      have added := Entity.add_eq_ok added
      intro other
      by_cases same : other = e
      · subst same
        exact added.short
      · rw [added.others other same]
        exact numbered other
    | setCalendar start days =>
      rw [setCalendar_eq_ok run]
      exact numbered.of_rows fun e => by cases e <;> rfl
    | setTimezone name utcOffset =>
      obtain ⟨place, pool, -, rfl⟩ := setTimezone_eq_ok run
      exact numbered.of_rows fun e => by cases e <;> rfl
    | buildStopIndex =>
      obtain ⟨stopIndex, -, rfl⟩ := buildStopIndex_eq_ok run
      exact numbered.of_rows fun e => by rw [Entity.rows, Entity.table_withStopIndex]; rfl
    | reset =>
      obtain ⟨_, owned, first, -⟩ := Edit.bind_eq_ok.1 run
      obtain ⟨isOwned, rfl⟩ := ensureOwned_eq_ok.1 first
      have emptied : Operation.reset.edit owned = _ := uniform.reset_eq isOwned
      rw [run] at emptied
      cases emptied
      exact numbered_new

/-- Whatever led to a container, no table is longer than its row numbers reach. -/
theorem Attained.numbered (attained : Attained c) : Numbered c := by
  induction attained with
  | new => exact numbered_new
  | edited op attained ih => exact ih.apply attained.uniform op
  | @unmapped c _ ih =>
    unfold unmap
    split
    · exact numbered_new
    · exact ih
  | opened opened =>
    obtain ⟨image, opened⟩ := openImage_of_openFile opened
    exact numbered_of_openImage opened
  | @bound c path files _ ih =>
    rw [bindFile_run]
    split
    · obtain ⟨image, opened⟩ := openImage_of_openFile ‹_›
      exact numbered_of_openImage opened
    · exact ih

end Container

namespace Audit

variable {c : Container}

/-! ## Pattern times -/

/-- The times of a pattern whose runs are rows of their tables can be summed up. -/
theorem timed_of_resolves {p : JourneyPattern} (resolves : PatternResolves c p) :
    PatternTimes.Timed c p := by
  refine ⟨resolves.vehicleJourneys, ?_⟩
  rintro - v ⟨i, lt, at_⟩
  exact resolves.stopTimes i lt v at_

/-- Checked tables have pattern times. -/
theorem Sound.exists_patternTimes (sound : Sound c) :
    ∃ times, PatternTimes.build c = .ok times :=
  PatternTimes.exists_build_iff.2 fun p mem => timed_of_resolves (sound.patterns p mem)

/-! ## The stop index -/

/-- Checked tables have a stop index. -/
theorem Sound.exists_stopIndex (sound : Sound c) (numbered : c.Numbered) :
    ∃ stopIndex, StopIndex.build c.stopPoints.size c.journeyPatterns.rows
      c.journeyPatternPoints.rows = .ok stopIndex :=
  StopIndex.exists_build (numbered .stopPoint) (numbered .journeyPattern)
    (fun p mem => (patternResolves_iff.1 (sound.patterns p mem)).1) sound.stopPoint

/-- Tables with a stop index that was built from them pass the check of the index. -/
theorem checkStopIndex_of_build [Memory] {stopIndex : StopIndex}
    (built : StopIndex.build c.stopPoints.size c.journeyPatterns.rows
      c.journeyPatternPoints.rows = .ok stopIndex) :
    checkStopIndex { c with stopIndex } = .ok () :=
  checkStopIndex_eq_ok.2 (.inr (StopIndex.build_eq_ok built).1)

/-- Checked tables are still so with a stop index that was built from them. -/
theorem Sound.withStopIndex [Memory] (sound : Sound c) {stopIndex : StopIndex}
    (built : StopIndex.build c.stopPoints.size c.journeyPatterns.rows
      c.journeyPatternPoints.rows = .ok stopIndex) : Sound { c with stopIndex } where
  timezone := sound.timezone
  texts e := by
    rw [Entity.rows, Entity.table_withStopIndex]
    exact sound.texts e
  stopArea := sound.stopArea
  targetStop := sound.targetStop
  operator := sound.operator
  physicalMode := sound.physicalMode
  line := sound.line
  stopPoint := sound.stopPoint
  route := sound.route
  commercialMode := sound.commercialMode
  forward := sound.forward
  backward := sound.backward
  vehicleTransfer := sound.vehicleTransfer
  stopIndex := .inr (StopIndex.build_eq_ok built).1
  transfers := sound.transfers
  patterns p mem := by
    obtain ⟨points, vehicleJourneys, stopTimes⟩ := sound.patterns p mem
    exact ⟨points, vehicleJourneys, stopTimes⟩

end Audit

namespace Container

variable {c : Container}

/-- Whatever led to a container, if its references are good then pattern times and a stop
index can be made from its tables.  A stop index that is built passes its check, so an
owned container with good references gets one and has good references still.  Where
none can be built, the one that was there stays. -/
theorem Attained.derives (attained : Attained c) :
    (Audit.checkReferences c = .ok () →
      (∃ times, PatternTimes.build c = .ok times) ∧
      ∃ stopIndex, StopIndex.build c.stopPoints.size c.journeyPatterns.rows
        c.journeyPatternPoints.rows = .ok stopIndex) ∧
    (∀ [Memory] (c' : Container), buildStopIndex c = .ok () c' →
      c'.stopIndex.isEmpty = false ∧ Audit.checkStopIndex c' = .ok ()) ∧
    (c.isMapped = false → Audit.checkReferences c = .ok () →
      ∃ c', buildStopIndex c = .ok () c' ∧ Audit.checkReferences c' = .ok ()) ∧
    ∀ [Memory] (err : Error) (c' : Container), buildStopIndex c = .error err c' →
      c'.stopIndex = c.stopIndex := by
  refine ⟨?derived, ?accepted, ?kept, ?failed⟩
  case derived =>
    intro good
    have sound := Audit.checkReferences_eq_ok.1 good
    exact ⟨sound.exists_patternTimes, sound.exists_stopIndex attained.numbered⟩
  case accepted =>
    intro _ c' run
    obtain ⟨stopIndex, built, rfl⟩ := buildStopIndex_eq_ok run
    refine ⟨?_, Audit.checkStopIndex_of_build built⟩
    have size := (StopIndex.build_eq_ok built).1.size
    have some_ : 0 < stopIndex.offsets.values.size := by omega
    exact Array.isEmpty_eq_false_iff_exists_mem.2 ⟨_, Array.getElem_mem some_⟩
  case kept =>
    intro owned good
    have sound := Audit.checkReferences_eq_ok.1 good
    obtain ⟨stopIndex, built⟩ := sound.exists_stopIndex attained.numbered
    refine ⟨{ c with stopIndex }, ?_, Audit.checkReferences_eq_ok.2 (sound.withStopIndex built)⟩
    rw [buildStopIndex_of_owned owned, built]
  case failed =>
    intro _ err c' run
    rw [buildStopIndex_eq_error run]

/-- Tables in which a pattern with a stop and one without any share a vehicle journey. -/
def sharing : List Operation := [
  .add .stopArea [(⟨"A", "Area", ⟨0, 0⟩, "UTC"⟩ : StopArea.Draft)],
  .add .stopPoint [(⟨"S", "Stop", "", ⟨0, 0⟩, 0, 0, 0, 0⟩ : StopPoint.Draft)],
  .add .operator [(⟨"O", "", "Operator"⟩ : Operator.Draft)],
  .add .physicalMode [(⟨"P", "Bus"⟩ : PhysicalMode.Draft)],
  .add .commercialMode [(⟨"C", "Bus"⟩ : CommercialMode.Draft)],
  .add .line [(⟨"L", "1", "Line", "", "", 0, 0⟩ : Line.Draft)],
  .add .route [(⟨0⟩ : Route)],
  .add .journeyPatternPoint [(⟨0, "Stop", 0⟩ : JourneyPatternPoint.Draft)],
  .add .stopTime [(⟨0, 1⟩ : StopTime)],
  .add .vehicleJourney [(⟨"V", 0, 0, 0, 1, 0, 0, 0, 0, 0⟩ : VehicleJourney.Draft)],
  .add .journeyPattern [(⟨0, 1, 0, 1, 0, 0, 0⟩ : JourneyPattern), ⟨1, 0, 0, 1, 0, 0, 0⟩]]

/-- The container that operations make of a new one. -/
def made (ops : List Operation) : Container := ops.foldl (fun c op => op.apply c) {}

theorem attained_made (ops : List Operation) : Attained (made ops) := by
  induction ops using List.reverseRecOn with
  | nil => exact .new
  | append_singleton ops op ih =>
    rw [made, List.foldl_append]
    exact .edited op ih

/-- The references of these tables are good, and stay so when the stop index is built. -/
theorem derives_sharing : Audit.checkReferences (made sharing) = .ok () ∧
    (∃ times, PatternTimes.build (made sharing) = .ok times) ∧
      ∃ c, buildStopIndex (made sharing) = .ok () c ∧ Audit.checkReferences c = .ok () := by
  have good : Audit.checkReferences (made sharing) = .ok () := by decide +kernel
  have owned : (made sharing).isMapped = false := by decide +kernel
  obtain ⟨derived, -, kept, -⟩ := (attained_made sharing).derives
  exact ⟨good, (derived good).1, kept owned good⟩

end Container

end TransitStore
