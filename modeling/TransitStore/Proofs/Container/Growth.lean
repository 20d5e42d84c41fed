import Mathlib
import TransitStore.Proofs.Container.Entity
import TransitStore.Proofs.Pool

/-!
# Growing containers

Rows that are added to a table stand behind those that are there, and each is made
from its new row by the places that its texts get in the pool (`Entity.Made`).
Whether an addition succeeds or not, the pool and the table stay as small as their
numbers reach (`keeps_addRows`).
-/

namespace TransitStore

/-! ## New rows -/

namespace Entity

/-- The texts of a new row, in the order they go to the pool. -/
def texts : (e : Entity) → e.NewRow → List String
  | stopArea, (d : StopArea.Draft) => [d.id, d.name, d.timezone]
  | stopPoint, (d : StopPoint.Draft) => [d.id, d.name, d.platformCode]
  | operator, (d : Operator.Draft) => [d.id, d.url, d.name]
  | physicalMode, (d : PhysicalMode.Draft) => [d.id, d.name]
  | commercialMode, (d : CommercialMode.Draft) => [d.id, d.name]
  | line, (d : Line.Draft) => [d.id, d.code, d.name, d.color, d.textColor]
  | journeyPatternPoint, (d : JourneyPatternPoint.Draft) => [d.headsign]
  | vehicleJourney, (d : VehicleJourney.Draft) => [d.id]
  | transfer, _ | route, _ | journeyPattern, _ | stopTime, _ | vehicleTransfer, _ => []

/-- The record of a new row whose texts have the given places. -/
def record : (e : Entity) → e.NewRow → (Nat → UInt32) → e.Row
  | stopArea, (d : StopArea.Draft), w => StopArea.mk (w 0) d.coord (w 1) (w 2)
  | stopPoint, (d : StopPoint.Draft), w =>
    { d with id := w 0, name := w 1, platformCode := w 2 : StopPoint }
  | transfer, d, _ => d
  | operator, _, w => Operator.mk (w 0) (w 1) (w 2)
  | physicalMode, _, w => PhysicalMode.mk (w 0) (w 1)
  | commercialMode, _, w => CommercialMode.mk (w 0) (w 1)
  | line, (d : Line.Draft), w =>
    { d with id := w 0, code := w 1, name := w 2, color := w 3, textColor := w 4 : Line }
  | route, d, _ => d
  | journeyPatternPoint, (d : JourneyPatternPoint.Draft), w =>
    { d with headsign := w 0 : JourneyPatternPoint }
  | journeyPattern, d, _ => d
  | stopTime, d, _ => d
  | vehicleJourney, (d : VehicleJourney.Draft), w => { d with id := w 0 : VehicleJourney }
  | vehicleTransfer, d, _ => d

/-- The places of texts in a record. -/
def places : (e : Entity) → e.Row → List UInt32
  | stopArea, (r : StopArea) => [r.id, r.name, r.timezone]
  | stopPoint, (r : StopPoint) => [r.id, r.name, r.platformCode]
  | operator, (r : Operator) => [r.id, r.url, r.name]
  | physicalMode, (r : PhysicalMode) => [r.id, r.name]
  | commercialMode, (r : CommercialMode) => [r.id, r.name]
  | line, (r : Line) => [r.id, r.code, r.name, r.color, r.textColor]
  | journeyPatternPoint, (r : JourneyPatternPoint) => [r.headsign]
  | vehicleJourney, (r : VehicleJourney) => [r.id]
  | transfer, _ | route, _ | journeyPattern, _ | stopTime, _ | vehicleTransfer, _ => []

/-- A new row is made a record once its texts are in the pool. -/
theorem intern_eq [Memory] (e : Entity) (d : e.NewRow) :
    (Draft.intern d : Edit Pool e.Row) =
      (fun places => e.record d fun i => places.getD i 0) <$> (e.texts d).mapM Pool.intern := by
  cases e <;>
    simp only [texts, List.mapM_cons, List.mapM_nil, map_bind, map_pure, pure_bind, bind_assoc] <;>
    rfl

/-- New rows are made records alike if the column of the pool gets the same room. -/
theorem intern_congr {memory other : Memory}
    (same : ∀ count, memory.has ⟨Pool.columnName, count, 1⟩ = other.has ⟨Pool.columnName, count, 1⟩)
    (e : Entity) (d : e.NewRow) :
    (@Draft.intern _ _ _ memory d : Edit Pool e.Row) = @Draft.intern _ _ _ other d := by
  have texts : @Pool.intern memory = @Pool.intern other := funext (Pool.intern_congr same)
  refine (@intern_eq memory e d).trans ?_
  rw [texts]
  exact (@intern_eq other e d).symm

theorem places_record (e : Entity) (d : e.NewRow) (w : Nat → UInt32) :
    e.places (e.record d w) = (List.range (e.texts d).length).map w := by
  cases e <;> rfl

/-- A record is made from a new row whose texts stand in a pool. -/
def Made (e : Entity) (pool : Pool) (d : e.NewRow) (r : e.Row) : Prop :=
  ∃ w : Nat → UInt32, r = e.record d w ∧
    ∀ i s, (e.texts d)[i]? = some s → pool.Stands (w i) (Text.untilZero s)

variable {e : Entity} {d : e.NewRow} {r : e.Row} {pool grown : Pool}

theorem Made.mono (more : pool.Prefix grown) (made : e.Made pool d r) : e.Made grown d r := by
  obtain ⟨w, rfl, stand⟩ := made
  exact ⟨w, rfl, fun i s at_ => (stand i s at_).mono more⟩

/-- The texts of a row stand at the places of its record. -/
theorem Made.exists_stands (made : e.Made pool d r) :
    ∀ place ∈ e.places r, ∃ text, pool.Stands place text := by
  obtain ⟨w, rfl, stand⟩ := made
  intro place mem
  rw [places_record] at mem
  obtain ⟨i, inside, rfl⟩ := List.mem_map.1 mem
  exact ⟨_, stand i _ (List.getElem?_eq_getElem (List.mem_range.1 inside))⟩

theorem Made.places_lt (made : e.Made pool d r) :
    ∀ place ∈ e.places r, place.toNat < pool.size := by
  intro place mem
  obtain ⟨text, stands⟩ := made.exists_stands place mem
  exact stands.lt_size

theorem keeps_internRow [Memory] (e : Entity) (d : e.NewRow) :
    Edit.Keeps (fun pool => pool.size ≤ Pool.maxSize) (Draft.intern d : Edit Pool e.Row) := by
  rw [intern_eq]
  exact (Edit.Keeps.mapM fun text _ => Pool.keeps_intern text).map _

theorem keeps_prefix_internRow [Memory] (e : Entity) (pool : Pool) (d : e.NewRow) :
    Edit.Keeps pool.Prefix (Draft.intern d : Edit Pool e.Row) := by
  rw [intern_eq]
  exact (Edit.Keeps.mapM fun text _ => Pool.keeps_prefix_intern pool text).map _

theorem intern_eq_ok [Memory] (h : (Draft.intern d : Edit Pool e.Row) pool = .ok r grown) :
    pool.Prefix grown ∧ e.Made grown d r := by
  rw [intern_eq] at h
  obtain ⟨places, run, rfl⟩ := Edit.map_eq_ok.1 h
  obtain ⟨more, stand⟩ := Pool.mapM_intern_eq_ok run
  refine ⟨more, _, rfl, ?_⟩
  intro i s at_
  obtain ⟨inside, rfl⟩ := List.getElem?_eq_some_iff.1 at_
  have inside' : i < places.length := by rwa [← stand.length_eq]
  rw [List.getD_eq_getElem _ _ inside']
  exact stand.get inside inside'

theorem mapM_intern_eq_ok [Memory] {drafts : List e.NewRow} {records : List e.Row}
    (h : (drafts.mapM Draft.intern : Edit Pool (List e.Row)) pool = .ok records grown) :
    pool.Prefix grown ∧ List.Forall₂ (e.Made grown) drafts records := by
  induction drafts generalizing pool records with
  | nil =>
    obtain ⟨rfl, rfl⟩ := Edit.mapM_nil_eq_ok.1 h
    exact ⟨.refl pool, .nil⟩
  | cons d drafts ih =>
    obtain ⟨r, middle, rest, first, last, rfl⟩ := Edit.mapM_cons_eq_ok.1 h
    obtain ⟨more, made⟩ := intern_eq_ok first
    obtain ⟨more', all⟩ := ih last
    exact ⟨more.trans more', .cons (made.mono more') all⟩

end Entity

/-! ## Additions -/

namespace Table

variable {ρ : Type} [Record ρ] {t : Table ρ}

theorem size_le_of_roomFor [Memory] {count : Nat} {storage : Storage}
    (h : t.roomFor count = .ok storage) : t.size + count ≤ maxRows ρ := by
  simp only [roomFor] at h
  split at h
  · cases h
  · split at h
    · cases h
    · rename_i short
      exact Nat.not_lt.1 short

theorem size_add_le [Memory] {δ : Type} [Draft δ ρ] {drafts : List δ} {grown : Table ρ}
    {pool filled : Pool} {start : Nat}
    (h : add drafts (t, pool) = .ok start (grown, filled)) : grown.size ≤ maxRows ρ := by
  obtain ⟨-, records, run, rows⟩ := add_eq_ok h
  have room : t.size + drafts.length ≤ maxRows ρ := by
    cases hroom : t.roomFor drafts.length with
    | error e =>
      simp only [add, hroom] at h
      cases h
    | ok storage => exact size_le_of_roomFor hroom
  rw [← Edit.length_of_mapM run] at room
  rwa [size, rows, ← Array.length_toList, Array.toList_appendList, List.length_append]

/-- An addition fails where the table has no room for the rows, before any text goes to
the pool, or where a text does not go there. -/
theorem add_fails [Memory] {δ : Type} [Draft δ ρ] {drafts : List δ} {left : Table ρ}
    {pool filled : Pool} {e : Error} (h : add drafts (t, pool) = .error e (left, filled)) :
    left.rows = t.rows ∧
      ((t.roomFor drafts.length = .error e ∧ filled = pool) ∨
        (drafts.mapM Draft.intern : Edit Pool (List ρ)) pool = .error e filled) := by
  unfold add at h
  cases hroom : t.roomFor drafts.length with
  | error e =>
    simp only [hroom] at h
    cases h
    exact ⟨rfl, .inl ⟨rfl, rfl⟩⟩
  | ok storage =>
    cases run : (drafts.mapM Draft.intern : Edit Pool (List ρ)) pool with
    | error e' pool' =>
      simp only [hroom, run] at h
      cases h
      exact ⟨rfl, .inr rfl⟩
    | ok records pool' => simp [hroom, run] at h

theorem add_eq_error [Memory] {δ : Type} [Draft δ ρ] {drafts : List δ} {left : Table ρ}
    {pool filled : Pool} {e : Error} (h : add drafts (t, pool) = .error e (left, filled)) :
    left.rows = t.rows ∧
      (filled = pool ∨ filled = (drafts.mapM Draft.intern : Edit Pool (List ρ)).after pool) := by
  obtain ⟨rows, room | run⟩ := add_fails h
  · exact ⟨rows, .inl room.2⟩
  · exact ⟨rows, .inr (Edit.after_of_error run).symm⟩

end Table

namespace Entity

/-- A table and the pool stay as small as their numbers reach when rows are added. -/
theorem keeps_addRows [Memory] (e : Entity) (drafts : List e.NewRow) :
    Edit.Keeps (fun p : Table e.Row × Pool => p.1.size ≤ e.maxRows ∧ p.2.size ≤ Pool.maxSize)
      (Table.add drafts) := by
  rintro ⟨t, pool⟩ ⟨short, poolShort⟩
  have filled : ((drafts.mapM Draft.intern : Edit Pool (List e.Row)).after pool).size ≤
      Pool.maxSize := Edit.Keeps.mapM (fun d _ => e.keeps_internRow d) pool poolShort
  cases h : Table.add drafts (t, pool) with
  | ok start p =>
    obtain ⟨grown, after⟩ := p
    obtain ⟨-, records, run, -⟩ := Table.add_eq_ok h
    rw [Edit.after_of_ok run] at filled
    rw [Edit.after_of_ok h]
    exact ⟨Table.size_add_le h, filled⟩
  | error e' p =>
    obtain ⟨left, after⟩ := p
    obtain ⟨rows, pools⟩ := Table.add_eq_error h
    rw [Edit.after_of_error h]
    refine ⟨?_, ?_⟩
    · simpa only [Table.size, rows] using short
    · rcases pools with rfl | rfl
      · exact poolShort
      · exact filled

/-- A container that lets go of a table and the pool gets both back. -/
theorem put_back (e : Entity) (c : Container) (t : Table e.Row) (pool : Pool) :
    Stored.setTable { (Stored.setTable { c with pool := {} } ({} : Table e.Row)) with pool } t =
      e.put { c with pool } t := by
  cases e <;> rfl

variable {α : Type} {e : Entity} {edit : Edit (Table e.Row × Pool) α} {c : Container}
  {t : Table e.Row} {pool : Pool}

theorem onTable_of_ok {a : α} (h : edit (e.table c, c.pool) = .ok a (t, pool)) :
    Container.onTable edit c = .ok a (e.put { c with pool } t) := by
  simp only [Container.onTable]
  rw [show edit (Stored.table c, c.pool) = _ from h]
  simp only [put_back]

theorem onTable_of_error {err : Error} (h : edit (e.table c, c.pool) = .error err (t, pool)) :
    Container.onTable edit c = .error err (e.put { c with pool } t) := by
  simp only [Container.onTable]
  rw [show edit (Stored.table c, c.pool) = _ from h]
  simp only [put_back]

theorem after_onTable : (Container.onTable edit).after c =
    e.put { c with pool := (edit.after (e.table c, c.pool)).2 }
      (edit.after (e.table c, c.pool)).1 := by
  cases h : edit (e.table c, c.pool) with
  | ok a p => rw [Edit.after_of_ok (onTable_of_ok h), Edit.after_of_ok h]
  | error err p => rw [Edit.after_of_error (onTable_of_error h), Edit.after_of_error h]

/-- Rows were added to the table of a container. -/
structure Added (e : Entity) (drafts : List e.NewRow) (c : Container) (start : Nat)
    (c' : Container) : Prop where
  /-- The first row is numbered behind the last one there was. -/
  start : start = (e.table c).size
  /-- Records that are made from the rows stand behind those there were. -/
  rows : ∃ records, (e.rows c').toList = (e.rows c).toList ++ records ∧
    List.Forall₂ (e.Made c'.pool) drafts records
  /-- The table is as small as its row numbers reach. -/
  short : (e.table c').size ≤ e.maxRows
  /-- The pool grows at its end. -/
  pool : c.pool.Prefix c'.pool
  /-- The other tables stay. -/
  others : ∀ other : Entity, other ≠ e → other.table c' = other.table c
  /-- The numbers stay. -/
  metadata : c'.metadata = c.metadata
  /-- The stop index stays. -/
  stopIndex : c'.stopIndex = c.stopIndex

/-- An addition that succeeds has added the rows. -/
theorem add_eq_ok [Memory] {drafts : List e.NewRow} {c' : Container} {start : Nat}
    (h : (Container.add drafts : Edit Container Nat) c = .ok start c') :
    e.Added drafts c start c' := by
  cases run : Table.add drafts (e.table c, c.pool) with
  | error err p =>
    rw [Container.add, onTable_of_error run] at h
    cases h
  | ok first p =>
    obtain ⟨grown, filled⟩ := p
    rw [Container.add, onTable_of_ok run] at h
    cases h
    obtain ⟨rfl, records, made, rows⟩ := Table.add_eq_ok run
    obtain ⟨more, all⟩ := mapM_intern_eq_ok made
    refine ⟨rfl, ⟨records, ?_, ?_⟩, ?_, ?_, ?_, put_metadata .., put_stopIndex ..⟩
    · simp only [Entity.rows, table_put, rows, Array.toList_appendList]
    · simpa only [put_pool] using all
    · rw [table_put]
      exact Table.size_add_le run
    · simpa only [put_pool] using more
    · intro other ne
      rw [table_put_of_ne ne, table_withPool]

/-- An addition to a container fails as that to its table. -/
theorem exists_of_add_error [Memory] {drafts : List e.NewRow} {c' : Container} {err : Error}
    (h : (Container.add drafts : Edit Container Nat) c = .error err c') :
    ∃ left filled, Table.add drafts (e.table c, c.pool) = .error err (left, filled) ∧
      c' = e.put { c with pool := filled } left := by
  cases run : Table.add drafts (e.table c, c.pool) with
  | ok first p =>
    rw [Container.add, onTable_of_ok run] at h
    cases h
  | error err' p =>
    obtain ⟨left, filled⟩ := p
    rw [Container.add, onTable_of_error run] at h
    cases h
    exact ⟨left, filled, rfl, rfl⟩

/-- Rows that are not added leave the records of a table, and texts in the pool at most. -/
theorem addRows_eq_error [Memory] {drafts : List e.NewRow} {left : Table e.Row} {filled : Pool}
    {err : Error} (h : Table.add drafts (t, pool) = .error err (left, filled)) :
    left.rows = t.rows ∧ pool.Prefix filled := by
  obtain ⟨rows, ⟨-, rfl⟩ | run⟩ := Table.add_fails h
  · exact ⟨rows, .refl filled⟩
  · have more := Edit.Keeps.mapM (fun d _ => e.keeps_prefix_internRow pool d) (l := drafts)
      pool (.refl pool)
    rw [Edit.after_of_error run] at more
    exact ⟨rows, more⟩

/-- A table whose storage is another has the same records, and so have the others. -/
theorem rows_put_of_rows {left : Table e.Row} (same : left.rows = e.rows c) (pool : Pool)
    (other : Entity) : other.rows (e.put { c with pool } left) = other.rows c := by
  by_cases eq : other = e
  · subst eq
    rw [Entity.rows, table_put, same]
  · rw [Entity.rows, table_put_of_ne eq, table_withPool]
    rfl

/-- An addition that fails leaves the records and the numbers, and texts in the pool at
most. -/
theorem add_eq_error [Memory] {drafts : List e.NewRow} {c' : Container} {err : Error}
    (h : (Container.add drafts : Edit Container Nat) c = .error err c') :
    c.pool.Prefix c'.pool ∧ (∀ other : Entity, other.rows c' = other.rows c) ∧
      c'.metadata = c.metadata := by
  obtain ⟨left, filled, run, rfl⟩ := exists_of_add_error h
  obtain ⟨rows, more⟩ := addRows_eq_error run
  refine ⟨?_, rows_put_of_rows rows filled, put_metadata ..⟩
  rwa [put_pool]

end Entity

namespace Container

theorem after_onPool {α : Type} (edit : Edit Pool α) (c : Container) :
    (onPool edit).after c = { c with pool := edit.after c.pool } := by
  cases h : edit c.pool with
  | ok a pool => simp only [onPool, Edit.after, h]
  | error e pool => simp only [onPool, Edit.after, h]

theorem onPool_eq_ok {α : Type} {edit : Edit Pool α} {c c' : Container} {a : α} :
    onPool edit c = .ok a c' ↔ ∃ pool, edit c.pool = .ok a pool ∧ c' = { c with pool } := by
  cases h : edit c.pool with
  | ok a' pool =>
    simp only [onPool, h, EStateM.Result.ok.injEq]
    constructor
    · rintro ⟨rfl, rfl⟩
      exact ⟨pool, ⟨rfl, rfl⟩, rfl⟩
    · rintro ⟨pool', ⟨rfl, rfl⟩, rfl⟩
      exact ⟨rfl, rfl⟩
  | error e pool => simp [onPool, h]

theorem ensureOwned_eq_ok {c c' : Container} :
    ensureOwned c = .ok () c' ↔ c.isMapped = false ∧ c' = c := by
  rw [ensureOwned]
  cases c.isMapped with
  | false => simp [eq_comm]
  | true => simp

theorem ensureOwned_eq_error {c c' : Container} {err : Error} (h : ensureOwned c = .error err c') :
    c' = c := by
  rw [ensureOwned] at h
  split at h
  · cases h
    rfl
  · cases h

theorem keeps_ensureOwned (inv : Container → Prop) : Edit.Keeps inv ensureOwned := by
  intro c holds
  unfold Edit.after ensureOwned
  cases c.isMapped with
  | false => exact holds
  | true => exact holds

theorem ensureOwned_bind_of_mapped {α : Type} {c : Container} {f : Unit → Edit Container α}
    (mapped : c.isMapped = true) : (ensureOwned >>= f) c = .error (.denied label) c := by
  show EStateM.bind ensureOwned f c = _
  unfold EStateM.bind
  rw [ensureOwned, mapped]
  rfl

/-- An edit that asks for a container of its own leaves one from a snapshot as it is. -/
theorem after_of_mapped {α : Type} {c : Container} {f : Unit → Edit Container α}
    (mapped : c.isMapped = true) : (ensureOwned >>= f).after c = c :=
  Edit.after_of_error (ensureOwned_bind_of_mapped mapped)

theorem setCalendar_eq_ok {c c' : Container} {start : UInt64} {days : UInt32}
    (h : setCalendar start days c = .ok () c') :
    c' = { c with metadata := { c.metadata with calendarStart := start, days } } := by
  obtain ⟨_, owned, first, rest⟩ := Edit.bind_eq_ok.1 h
  obtain ⟨-, rfl⟩ := ensureOwned_eq_ok.1 first
  cases rest
  rfl

theorem setTimezone_eq_ok [Memory] {c c' : Container} {name : String} {utcOffset : Int32}
    (h : setTimezone name utcOffset c = .ok () c') :
    ∃ place pool, Pool.intern name c.pool = .ok place pool ∧ c' =
      { c with pool, metadata := { c.metadata with timezone := some place, utcOffset } } := by
  obtain ⟨_, owned, first, rest⟩ := Edit.bind_eq_ok.1 h
  obtain ⟨-, rfl⟩ := ensureOwned_eq_ok.1 first
  obtain ⟨place, c₁, second, rest⟩ := Edit.bind_eq_ok.1 rest
  obtain ⟨pool, intern, rfl⟩ := onPool_eq_ok.1 second
  cases rest
  exact ⟨place, pool, intern, rfl⟩

theorem buildStopIndex_of_owned [Memory] {c : Container} (owned : c.isMapped = false) :
    buildStopIndex c =
    match StopIndex.build c.stopPoints.size c.journeyPatterns.rows
      c.journeyPatternPoints.rows with
    | .ok stopIndex => .ok () { c with stopIndex }
    | .error e => .error e c := by
  have first : ensureOwned c = .ok () c := ensureOwned_eq_ok.2 ⟨owned, rfl⟩
  show EStateM.bind ensureOwned _ c = _
  unfold EStateM.bind
  rw [first]
  show (match StopIndex.build c.stopPoints.size c.journeyPatterns.rows
    c.journeyPatternPoints.rows with
    | .ok stopIndex => set { c with stopIndex }
    | .error e => throw e : Edit Container Unit) c = _
  cases StopIndex.build c.stopPoints.size c.journeyPatterns.rows c.journeyPatternPoints.rows with
  | error e => rfl
  | ok stopIndex => rfl

theorem buildStopIndex_eq_ok [Memory] {c c' : Container} (h : buildStopIndex c = .ok () c') :
    ∃ stopIndex, StopIndex.build c.stopPoints.size c.journeyPatterns.rows
      c.journeyPatternPoints.rows = .ok stopIndex ∧ c' = { c with stopIndex } := by
  have owned : c.isMapped = false := by
    obtain ⟨_, _, first, -⟩ := Edit.bind_eq_ok.1 h
    exact (ensureOwned_eq_ok.1 first).1
  rw [buildStopIndex_of_owned owned] at h
  split at h
  · cases h
    exact ⟨_, ‹_›, rfl⟩
  · cases h

theorem setCalendar_eq_error {c c' : Container} {start : UInt64} {days : UInt32} {err : Error}
    (h : setCalendar start days c = .error err c') : c' = c := by
  rcases Edit.bind_eq_error.1 h with first | ⟨_, _, -, rest⟩
  · exact ensureOwned_eq_error first
  · cases rest

/-- A time zone whose name does not go to the pool leaves the container as it is. -/
theorem setTimezone_eq_error [Memory] {c c' : Container} {name : String} {utcOffset : Int32}
    {err : Error} (h : setTimezone name utcOffset c = .error err c') : c' = c := by
  rcases Edit.bind_eq_error.1 h with first | ⟨_, owned, first, rest⟩
  · exact ensureOwned_eq_error first
  obtain ⟨-, rfl⟩ := ensureOwned_eq_ok.1 first
  rcases Edit.bind_eq_error.1 rest with second | ⟨place, c₁, -, rest⟩
  · have same := after_onPool (Pool.intern name) owned
    rw [Edit.after_of_error second] at same
    rw [same]
    cases run : Pool.intern name owned.pool with
    | ok place pool =>
      simp only [onPool, run] at second
      cases second
    | error err' left => rw [Edit.after_of_error run, (Pool.append_eq_error run).1]
  · cases rest

theorem buildStopIndex_eq_error [Memory] {c c' : Container} {err : Error}
    (h : buildStopIndex c = .error err c') : c' = c := by
  rcases Edit.bind_eq_error.1 h with first | ⟨_, owned, first, -⟩
  · exact ensureOwned_eq_error first
  · obtain ⟨isOwned, rfl⟩ := ensureOwned_eq_ok.1 first
    rw [buildStopIndex_of_owned isOwned] at h
    split at h
    · cases h
    · cases h
      rfl

/-- Emptying a table leaves the pool and the other tables. -/
theorem after_resetTable (e : Entity) (c : Container) :
    (resetTable e.Row).after c =
      e.put c ((Table.reset : Edit (Table e.Row) Unit).after (e.table c)) := by
  refine Entity.after_onTable.trans ?_
  cases run : (Table.reset : Edit (Table e.Row) Unit) (e.table c) with
  | ok a t => simp only [Edit.after, run]
  | error err t => simp only [Edit.after, run]

/-- Emptying a container keeps what each of its steps keeps. -/
theorem keeps_reset {inv : Container → Prop}
    (stopIndex : ∀ c, inv c → inv { c with stopIndex := {} })
    (tables : ∀ e : Entity, Edit.Keeps inv (resetTable e.Row))
    (pool : Edit.Keeps inv (onPool Pool.reset))
    (metadata : ∀ c, inv c → inv { c with metadata := {} }) : Edit.Keeps inv reset := by
  refine (keeps_ensureOwned inv).bind fun _ => ?_
  refine Edit.Keeps.bind (fun c h => stopIndex c h) fun _ => ?_
  refine (tables .journeyPattern).bind fun _ => ?_
  refine (tables .commercialMode).bind fun _ => ?_
  refine (tables .route).bind fun _ => ?_
  refine (tables .line).bind fun _ => ?_
  refine (tables .physicalMode).bind fun _ => ?_
  refine (tables .operator).bind fun _ => ?_
  refine (tables .vehicleJourney).bind fun _ => ?_
  refine (tables .vehicleTransfer).bind fun _ => ?_
  refine (tables .stopTime).bind fun _ => ?_
  refine (tables .journeyPatternPoint).bind fun _ => ?_
  refine (tables .transfer).bind fun _ => ?_
  refine (tables .stopArea).bind fun _ => ?_
  refine (tables .stopPoint).bind fun _ => ?_
  exact pool.bind fun _ c h => metadata c h

end Container

end TransitStore
