import TransitStore.Pool
import TransitStore.Table.Record

/-!
# Tables

A table keeps records of one type, numbered from zero.  Rows are only ever
added at the end, so a row number stays good.  Rows are given as *drafts*, which
carry their texts themselves.  Adding rows puts the texts in the string pool
and the places of the texts in the records.
-/

namespace TransitStore

/-- The room that the column of a field needs for so many rows. -/
def Field.demand {ρ : Type} (f : Field ρ) (rows : Nat) : Demand :=
  ⟨f.columnName, rows, f.type.size⟩

/-- The rows `δ` that become records `ρ`. -/
class Draft (δ : Type) (ρ : outParam Type) where
  /-- Puts the texts of a row in the pool, in order. -/
  intern [Memory] : δ → Edit Pool ρ

/-- A table of the records `ρ`. -/
structure Table (ρ : Type) where
  /-- The records. -/
  rows : Array ρ := #[]
  /-- Where they live. -/
  storage : Storage := .owned 0

namespace Table

variable {ρ δ : Type} [Record ρ]

instance : Inhabited (Table ρ) := ⟨{}⟩

/-- The number of rows. -/
def size (t : Table ρ) : Nat := t.rows.size

/-- The room for rows. -/
def capacity (t : Table ρ) : Nat := t.storage.capacity

/-- Whether the table belongs to a snapshot. -/
def isMapped (t : Table ρ) : Bool := t.storage.isMapped

/-- The most rows of a table of these records. -/
def maxRows (ρ : Type) [Record ρ] : Nat := (Record.width ρ).maxRows

/-- The elements of a column, as words. -/
def column (t : Table ρ) (f : Field ρ) : List Nat := t.rows.toList.map f.word

/-! ## Growing -/

/-- Storage with room for `target` rows in all, if there is not enough yet.  Every
column needs its room. -/
def reserve [Memory] (t : Table ρ) (target : Nat) : Except Error Storage :=
  match t.storage with
  | .mapped => .error (.denied (Record.label ρ))
  | .owned capacity =>
    if target ≤ capacity then .ok t.storage
    else if (Record.fields : List (Field ρ)).all fun f => (f.demand target).isMet then
      .ok (.owned target)
    else .error (.outOfMemory (Record.label ρ))

/-- The storage of a table that gets `count` more rows.  A table that has to
grow makes room for some more, within its row numbers. -/
def roomFor [Memory] (t : Table ρ) (count : Nat) : Except Error Storage :=
  let finish := t.size + count
  if t.isMapped then .error (.denied (Record.label ρ))
  else if maxRows ρ < finish then
    .error (.indexOverflow (Record.label ρ) (maxRows ρ) finish)
  else if t.capacity < finish then t.reserve (min (finish + Record.slack ρ) (maxRows ρ))
  else .ok t.storage

/-- Adds rows at the end and gives the number of the first.  Room is made
before any text goes to the pool, and all texts go there before any row is
added. -/
def add [Memory] [Draft δ ρ] (drafts : List δ) : Edit (Table ρ × Pool) Nat := fun (t, pool) =>
  let start := t.size
  match t.roomFor drafts.length with
  | .error e => .error e (t, pool)
  | .ok storage =>
    match (drafts.mapM Draft.intern : Edit Pool (List ρ)) pool with
    | .error e pool => .error e ({ t with storage }, pool)
    | .ok records pool => .ok start (⟨t.rows ++ records, storage⟩, pool)

/-- The rows of a table stay, and the new ones come behind them. -/
theorem add_eq_ok [Memory] [Draft δ ρ] {drafts : List δ} {t grown : Table ρ} {pool filled : Pool}
    {start : Nat} (h : add drafts (t, pool) = .ok start (grown, filled)) :
    start = t.size ∧ ∃ records, (drafts.mapM Draft.intern : Edit Pool (List ρ)) pool =
      .ok records filled ∧ grown.rows = t.rows ++ records := by
  unfold add at h
  cases hroom : t.roomFor drafts.length with
  | error e => simp [hroom] at h
  | ok storage =>
    cases hrecords : (drafts.mapM Draft.intern : Edit Pool (List ρ)) pool with
    | error e left => simp [hroom, hrecords] at h
    | ok records left =>
      simp only [hroom, hrecords] at h
      cases h
      exact ⟨rfl, records, rfl, rfl⟩

/-- Makes room for `target` rows in all. -/
def ensureCapacity [Memory] (target : Nat) : Edit (Table ρ) Unit := fun t =>
  match t.reserve target with
  | .error e => .error e t
  | .ok storage => .ok () { t with storage }

/-- Empties the table. -/
def reset : Edit (Table ρ) Unit := fun t =>
  if t.isMapped then .error (.denied (Record.label ρ)) t else .ok () {}

/-! ## Snapshots -/

/-- The table of a snapshot with these columns, each a sequence of words. -/
def ofColumns? (columns : Array (Array Nat)) : Except Malformation (Table ρ) :=
  let sizes := columns.map Array.size
  let count := sizes[0]?.getD 0
  if sizes.any (· ≠ count) then .error (.unequalColumns (Record.label ρ) sizes.toList)
  else if maxRows ρ < count then .error (.tooManyRows (Record.label ρ) count)
  else
    let record (row : Fin count) : ρ :=
      Record.ofWords fun column => ((columns[column]?.bind (·[row.val]?)).getD 0)
    .ok ⟨Array.ofFn record, .mapped⟩

end Table

end TransitStore
