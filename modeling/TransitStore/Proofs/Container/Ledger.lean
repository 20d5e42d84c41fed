import Mathlib
import TransitStore.Proofs.Container.Ownership

/-!
# What a container was told

A ledger is a plain account of the operations that a container took: the rows of each
table in the order they came, with their texts in full, and the last calendar and time
zone.  It has no pool, no room and no places.  Whatever operations a new container goes
through, failing or not, it shows what stands in its ledger (`refines_history`): row by
row the numbers as they were given, and the texts up to their first zero character.
-/

namespace TransitStore

/-! ## Related rows -/

theorem rel_mono {α β : Type} {r s : α → β → Prop} (imp : ∀ a b, r a b → s a b) {a : Option α}
    {b : Option β} (h : Option.Rel r a b) : Option.Rel s a b := by
  cases h with
  | none => exact .none
  | some h => exact .some (imp _ _ h)

theorem findIdx?_eq_of_forall₂ {α β : Type} {l : List α} {records : Array β} {p : α → Bool}
    {q : β → Bool} (same : List.Forall₂ (fun a b => p a = q b) l records.toList) :
    records.findIdx? q = l.findIdx? p := by
  rw [← records.toArray_toList, List.findIdx?_toArray]
  generalize records.toList = rows at same ⊢
  induction same with
  | nil => rfl
  | cons head _ ih => rw [List.findIdx?_cons, List.findIdx?_cons, head, ih]

/-! ## Rows and their records -/

/-- A text is read at a place, up to its first zero character. -/
def Pool.Reads (pool : Pool) (place : UInt32) (s : String) : Prop :=
  pool.text? place = some (Text.untilZero s)

namespace Entity

/-- A record shows a row: its numbers are those of the row, and the texts of the row are
read at its places. -/
def Shows (pool : Pool) : (e : Entity) → e.NewRow → e.Row → Prop
  | stopArea, (d : StopArea.Draft), (r : StopArea) =>
    r.coord = d.coord ∧ pool.Reads r.id d.id ∧ pool.Reads r.name d.name ∧
      pool.Reads r.timezone d.timezone
  | stopPoint, (d : StopPoint.Draft), (r : StopPoint) =>
    r.coord = d.coord ∧ r.waitTime = d.waitTime ∧ r.attributes = d.attributes ∧
      r.stopArea = d.stopArea ∧ r.transfersOffset = d.transfersOffset ∧
      pool.Reads r.id d.id ∧ pool.Reads r.name d.name ∧ pool.Reads r.platformCode d.platformCode
  | transfer, (d : Transfer), (r : Transfer) => r = d
  | operator, (d : Operator.Draft), (r : Operator) =>
    pool.Reads r.id d.id ∧ pool.Reads r.url d.url ∧ pool.Reads r.name d.name
  | physicalMode, (d : PhysicalMode.Draft), (r : PhysicalMode) =>
    pool.Reads r.id d.id ∧ pool.Reads r.name d.name
  | commercialMode, (d : CommercialMode.Draft), (r : CommercialMode) =>
    pool.Reads r.id d.id ∧ pool.Reads r.name d.name
  | line, (d : Line.Draft), (r : Line) =>
    r.operator = d.operator ∧ r.physicalMode = d.physicalMode ∧ pool.Reads r.id d.id ∧
      pool.Reads r.code d.code ∧ pool.Reads r.name d.name ∧ pool.Reads r.color d.color ∧
      pool.Reads r.textColor d.textColor
  | route, (d : Route), (r : Route) => r = d
  | journeyPatternPoint, (d : JourneyPatternPoint.Draft), (r : JourneyPatternPoint) =>
    r.stopPoint = d.stopPoint ∧ r.attributes = d.attributes ∧ pool.Reads r.headsign d.headsign
  | journeyPattern, (d : JourneyPattern), (r : JourneyPattern) => r = d
  | stopTime, (d : StopTime), (r : StopTime) => r = d
  | vehicleJourney, (d : VehicleJourney.Draft), (r : VehicleJourney) =>
    r.stopTimesOffset = d.stopTimesOffset ∧ r.beginTime = d.beginTime ∧
      r.attributes = d.attributes ∧ r.active = d.active ∧ r.timeOffset = d.timeOffset ∧
      r.forwardTransfersOffset = d.forwardTransfersOffset ∧
      r.forwardTransfersCount = d.forwardTransfersCount ∧
      r.backwardTransfersOffset = d.backwardTransfersOffset ∧
      r.backwardTransfersCount = d.backwardTransfersCount ∧ pool.Reads r.id d.id
  | vehicleTransfer, (d : JourneyRef), (r : JourneyRef) => r = d

variable {e : Entity} {pool : Pool} {d : e.NewRow} {r : e.Row}

theorem Made.reads (made : e.Made pool d r) : ∃ w, r = e.record d w ∧
    ∀ i s, (e.texts d)[i]? = some s → pool.Reads (w i) s := by
  obtain ⟨w, rfl, stand⟩ := made
  exact ⟨w, rfl, fun i s at_ => (stand i s at_).text?_eq⟩

theorem Made.shows (made : e.Made pool d r) : e.Shows pool d r := by
  obtain ⟨w, rfl, reads⟩ := made.reads
  cases e with
  | stopArea => exact ⟨rfl, reads 0 _ rfl, reads 1 _ rfl, reads 2 _ rfl⟩
  | stopPoint =>
    exact ⟨rfl, rfl, rfl, rfl, rfl, reads 0 _ rfl, reads 1 _ rfl, reads 2 _ rfl⟩
  | operator => exact ⟨reads 0 _ rfl, reads 1 _ rfl, reads 2 _ rfl⟩
  | physicalMode => exact ⟨reads 0 _ rfl, reads 1 _ rfl⟩
  | commercialMode => exact ⟨reads 0 _ rfl, reads 1 _ rfl⟩
  | line =>
    exact ⟨rfl, rfl, reads 0 _ rfl, reads 1 _ rfl, reads 2 _ rfl, reads 3 _ rfl, reads 4 _ rfl⟩
  | journeyPatternPoint => exact ⟨rfl, rfl, reads 0 _ rfl⟩
  | vehicleJourney => exact ⟨rfl, rfl, rfl, rfl, rfl, rfl, rfl, rfl, rfl, reads 0 _ rfl⟩
  | transfer | route | journeyPattern | stopTime | vehicleTransfer => rfl

end Entity

/-! ## Ledgers -/

/-- What a container was told: the rows of each table in the order they came, and the
numbers that stand for it as a whole. -/
structure Ledger where
  rows : (e : Entity) → List e.NewRow := fun _ => []
  calendarStart : UInt64 := 0
  days : UInt32 := 0
  timezone : Option String := none
  utcOffset : Int32 := 0

/-- The account of an operation that was taken. -/
def Ledger.enter (l : Ledger) : Container.Operation → Ledger
  | .add e rows => { l with rows := Function.update l.rows e (l.rows e ++ rows) }
  | .setCalendar start days => { l with calendarStart := start, days }
  | .setTimezone name utcOffset => { l with timezone := some name, utcOffset }
  | .buildStopIndex => l
  | .reset => {}

theorem Ledger.rows_enter_add (l : Ledger) (e : Entity) (rows : List e.NewRow) :
    (l.enter (.add e rows)).rows e = l.rows e ++ rows :=
  Function.update_self ..

theorem Ledger.rows_enter_add_of_ne (l : Ledger) {e other : Entity} (ne : other ≠ e)
    (rows : List e.NewRow) : (l.enter (.add e rows)).rows other = l.rows other :=
  Function.update_of_ne ne ..

namespace Container

/-- Whether a container takes an operation. -/
def Operation.isTaken [Memory] (op : Operation) (c : Container) : Bool :=
  match op.edit c with
  | .ok _ _ => true
  | .error _ _ => false

/-- A container and its ledger behind an operation. -/
def Operation.record [Memory] (op : Operation) (at_ : Container × Ledger) : Container × Ledger :=
  (op.apply at_.1, if op.isTaken at_.1 then at_.2.enter op else at_.2)

/-- A container that was new before some operations, and its ledger. -/
def history (ops : List Operation) : Container × Ledger :=
  ops.foldl (fun at_ op => op.record at_) ({}, {})

/-- A container shows what stands in a ledger. -/
structure Refines (c : Container) (l : Ledger) : Prop where
  /-- Each table has as many rows as it was given. -/
  size : ∀ e : Entity, (e.table c).size = (l.rows e).length
  /-- Each row is shown by the record with its number, and behind them there is none. -/
  rows : ∀ (e : Entity) (i : Nat), Option.Rel (e.Shows c.pool) (l.rows e)[i]? (e.rows c)[i]?
  calendarStart : c.metadata.calendarStart = l.calendarStart
  days : c.metadata.days = l.days
  utcOffset : c.metadata.utcOffset = l.utcOffset
  timezone : c.timezoneName? = l.timezone.map Text.untilZero
  /-- A stop point is found as the first with an identifier. -/
  stopPoint : ∀ id, c.findStopPoint? id =
    (l.rows .stopPoint).findIdx? fun d : StopPoint.Draft => Text.untilZero d.id == id
  /-- A commercial mode is found as the first with an identifier. -/
  commercialMode : ∀ id, c.commercialModes.findCommercialMode? c.pool id =
    (l.rows .commercialMode).findIdx? fun d : CommercialMode.Draft => Text.untilZero d.id == id

/-! ## Operations and ledgers -/

/-- The records of a container are made from the rows of a ledger, and its numbers are
those of the ledger. -/
structure Matches (c : Container) (l : Ledger) : Prop where
  rows : ∀ e : Entity, List.Forall₂ (e.Made c.pool) (l.rows e) (e.rows c).toList
  calendarStart : c.metadata.calendarStart = l.calendarStart
  days : c.metadata.days = l.days
  utcOffset : c.metadata.utcOffset = l.utcOffset
  timezone : Option.Rel (fun name place => c.pool.Stands place (Text.untilZero name))
    l.timezone c.metadata.timezone

variable {c c' : Container} {l : Ledger}

theorem matches_new : Matches {} {} where
  rows e := by
    rw [Entity.rows_new]
    exact .nil
  calendarStart := rfl
  days := rfl
  utcOffset := rfl
  timezone := .none

/-- Texts that come to the pool are in no one's way. -/
theorem Matches.mono (same : Matches c l) (rows : ∀ e : Entity, e.rows c' = e.rows c)
    (pool : c.pool.Prefix c'.pool) (metadata : c'.metadata = c.metadata) : Matches c' l where
  rows e := by
    rw [rows e]
    exact (same.rows e).imp fun _ _ made => made.mono pool
  calendarStart := by rw [metadata, same.calendarStart]
  days := by rw [metadata, same.days]
  utcOffset := by rw [metadata, same.utcOffset]
  timezone := by
    rw [metadata]
    exact rel_mono (fun _ _ stands => stands.mono pool) same.timezone

theorem Matches.add {e : Entity} {rows : List e.NewRow} {start : Nat} (same : Matches c l)
    (added : e.Added rows c start c') : Matches c' (l.enter (.add e rows)) := by
  have kept := fun other : Entity => (same.rows other).imp fun _ _ made => made.mono added.pool
  refine ⟨?_, ?_, ?_, ?_, ?_⟩
  · intro other
    by_cases eq : other = e
    · subst eq
      obtain ⟨records, behind, made⟩ := added.rows
      rw [l.rows_enter_add, behind]
      exact List.rel_append (kept other) made
    · rw [l.rows_enter_add_of_ne eq, Entity.rows, added.others other eq]
      exact kept other
  · rw [added.metadata]
    exact same.calendarStart
  · rw [added.metadata]
    exact same.days
  · rw [added.metadata]
    exact same.utcOffset
  · rw [added.metadata]
    exact rel_mono (fun _ _ stands => stands.mono added.pool) same.timezone

theorem Matches.size (same : Matches c l) (e : Entity) : (e.table c).size = (l.rows e).length :=
  (same.rows e).length_eq.symm

/-- The records show the rows that were told. -/
theorem Matches.shows (same : Matches c l) (e : Entity) :
    List.Forall₂ (e.Shows c.pool) (l.rows e) (e.rows c).toList :=
  (same.rows e).imp fun _ _ made => made.shows

/-- A batch of rows gets the number of its first, and the rows are entered. -/
theorem Matches.of_add [Memory] {e : Entity} {rows : List e.NewRow} {start : Nat}
    (same : Matches c l) (h : (Container.add rows : Edit Container Nat) c = .ok start c') :
    start = (l.rows e).length ∧ Matches c' (l.enter (.add e rows)) := by
  have added := Entity.add_eq_ok h
  exact ⟨added.start.trans (same.size e), same.add added⟩

/-- An addition that fails leaves texts in the pool at most. -/
theorem Matches.add_error [Memory] {e : Entity} {rows : List e.NewRow} {err : Error}
    (same : Matches c l) (h : (Container.add rows : Edit Container Nat) c = .error err c') :
    Matches c' l := by
  obtain ⟨pool, records, metadata⟩ := Entity.add_eq_error h
  exact same.mono records pool metadata

theorem Matches.setTimezone [Memory] {name : String} {utcOffset : Int32} (same : Matches c l)
    (h : Container.setTimezone name utcOffset c = .ok () c') :
    Matches c' (l.enter (.setTimezone name utcOffset)) := by
  obtain ⟨place, pool, interned, rfl⟩ := setTimezone_eq_ok h
  have more := Pool.prefix_of_intern interned
  refine ⟨?_, same.calendarStart, same.days, rfl, .some (Pool.stands_of_intern interned)⟩
  intro e
  have rows : e.rows { c with pool, metadata :=
      { c.metadata with timezone := some place, utcOffset } } = e.rows c := by
    cases e <;> rfl
  rw [rows]
  exact (same.rows e).imp fun _ _ made => made.mono more

theorem Matches.setCalendar {start : UInt64} {days : UInt32} (same : Matches c l)
    (h : Container.setCalendar start days c = .ok () c') :
    Matches c' (l.enter (.setCalendar start days)) := by
  obtain rfl := setCalendar_eq_ok h
  refine ⟨?_, rfl, rfl, same.utcOffset, same.timezone⟩
  intro e
  have rows : e.rows { c with metadata := { c.metadata with calendarStart := start, days } } =
      e.rows c := by
    cases e <;> rfl
  rw [rows]
  exact same.rows e

theorem Matches.buildStopIndex [Memory] (same : Matches c l)
    (h : Container.buildStopIndex c = .ok () c') : Matches c' l := by
  obtain ⟨stopIndex, -, rfl⟩ := buildStopIndex_eq_ok h
  refine same.mono (fun e => ?_) (.refl c.pool) rfl
  rw [Entity.rows, Entity.table_withStopIndex, Entity.rows]

/-- An operation that fails on an owned container leaves it, but for texts in the pool. -/
theorem Matches.of_error [Memory] {op : Operation} {err : Error} (same : Matches c l)
    (uniform : Uniform c) (owned : c.isMapped = false) (h : op.edit c = .error err c') :
    Matches c' l := by
  cases op with
  | add e rows => exact same.add_error (Edit.map_eq_error.1 h)
  | setCalendar start days => rwa [setCalendar_eq_error h]
  | setTimezone name utcOffset => rwa [setTimezone_eq_error h]
  | buildStopIndex => rwa [buildStopIndex_eq_error h]
  | reset =>
    rw [Operation.edit, uniform.reset_eq owned] at h
    cases h

/-- An operation that succeeds does to an owned container what it does to the ledger. -/
theorem Matches.of_ok [Memory] {op : Operation} (same : Matches c l) (uniform : Uniform c)
    (owned : c.isMapped = false) (h : op.edit c = .ok () c') : Matches c' (l.enter op) := by
  cases op with
  | add e rows =>
    obtain ⟨start, added, -⟩ := Edit.map_eq_ok.1 h
    exact (same.of_add added).2
  | setCalendar start days => exact same.setCalendar h
  | setTimezone name utcOffset => exact same.setTimezone h
  | buildStopIndex => exact same.buildStopIndex h
  | reset =>
    rw [Operation.edit, uniform.reset_eq owned] at h
    cases h
    exact matches_new

/-! ## Runs of operations -/

/-- A container goes along with its ledger. -/
structure Follows (at_ : Container × Ledger) : Prop where
  uniform : Uniform at_.1
  owned : at_.1.isMapped = false
  same : Matches at_.1 at_.2

theorem Operation.record_of_ok [Memory] {op : Operation} (h : op.edit c = .ok () c') :
    op.record (c, l) = (c', l.enter op) := by
  rw [record, isTaken, apply, Edit.after_of_ok h, h]
  rfl

theorem Operation.record_of_error [Memory] {op : Operation} {err : Error}
    (h : op.edit c = .error err c') : op.record (c, l) = (c', l) := by
  rw [record, isTaken, apply, Edit.after_of_error h, h]
  rfl

/-- An operation leaves a container that goes along with its ledger. -/
theorem Follows.record [Memory] {at_ : Container × Ledger} (follows : Follows at_)
    (op : Operation) : Follows (op.record at_) := by
  obtain ⟨c, l⟩ := at_
  obtain ⟨uniform, owned, same⟩ := follows
  refine ⟨uniform.apply op, uniform.owned_apply owned op, ?_⟩
  cases run : op.edit c with
  | ok _ c' =>
    rw [Operation.record_of_ok run]
    exact same.of_ok uniform owned run
  | error err c' =>
    rw [Operation.record_of_error run]
    exact same.of_error uniform owned run

theorem follows_history (ops : List Operation) : Follows (history ops) := by
  induction ops using List.reverseRecOn with
  | nil => exact ⟨uniform_new, rfl, matches_new⟩
  | append_singleton ops op ih =>
    rw [history, List.foldl_append]
    exact ih.record op

/-- Whatever operations and files led to an owned container, only operations made it what it
is: a file makes a mapped container, and one that lets go of its file is new. -/
theorem Attained.exists_ledger (attained : Attained c) (owned : c.isMapped = false) :
    Reachable c ∧ ∃ l, Follows (c, l) := by
  have new : Reachable {} ∧ ∃ l, Follows ({}, l) := ⟨.new, {}, uniform_new, rfl, matches_new⟩
  induction attained with
  | new => exact new
  | @edited c memory op before ih =>
    cases mapped : c.isMapped with
    | true =>
      have same : op.apply c = c := Edit.after_of_error (before.uniform.denied mapped op)
      rw [same, mapped] at owned
      cases owned
    | false =>
      obtain ⟨reachable, l, follows⟩ := ih mapped
      exact ⟨.edited op reachable, _, follows.record op⟩
  | @unmapped c _ ih =>
    unfold unmap at owned ⊢
    split
    · exact new
    next other => exact ih (by simpa using other)
  | opened opened =>
    obtain ⟨image, opened⟩ := openImage_of_openFile opened
    cases owned.symm.trans (isMapped_of_openImage opened)
  | @bound c path files _ ih =>
    rw [bindFile_run] at owned ⊢
    split at owned
    next opened =>
      obtain ⟨image, opened⟩ := openImage_of_openFile opened
      cases owned.symm.trans (isMapped_of_openImage opened)
    next => exact ih owned

/-! ## What a container shows -/

theorem Matches.refines (same : Matches c l) : Refines c l where
  size := same.size
  rows e i := by
    rw [← Array.getElem?_toList]
    exact rel_getElem?_of_forall₂ (same.shows e) i
  calendarStart := same.calendarStart
  days := same.days
  utcOffset := same.utcOffset
  timezone := by
    rw [timezoneName?]
    generalize zone : l.timezone = name, place_ : c.metadata.timezone = place
    have rel := same.timezone
    rw [zone, place_] at rel
    cases rel with
    | none => rfl
    | some stands => exact stands.text?_eq
  stopPoint id := by
    rw [findStopPoint?, Table.findStopPoint?]
    refine findIdx?_eq_of_forall₂ ((same.rows .stopPoint).imp fun d r made => ?_)
    obtain ⟨-, -, -, -, -, reads, -⟩ := made.shows
    rw [reads]
    rfl
  commercialMode id := by
    rw [Table.findCommercialMode?]
    refine findIdx?_eq_of_forall₂ ((same.rows .commercialMode).imp fun d r made => ?_)
    obtain ⟨reads, -⟩ := made.shows
    rw [reads]
    rfl

/-- Whatever operations a new container goes through, it shows what was told to it since it
was last emptied, and a batch of rows gets the number of its first. -/
theorem refines_history (ops : List Operation) :
    Refines (history ops).1 (history ops).2 ∧
      ∀ (e : Entity) (rows : List e.NewRow) (start : Nat) (c : Container),
        (Container.add rows : Edit Container Nat) (history ops).1 = .ok start c →
          start = ((history ops).2.rows e).length := by
  have same := (follows_history ops).same
  exact ⟨same.refines, fun e rows start c added => (same.of_add added).1⟩

end Container

end TransitStore
