import TransitStore.Column
import TransitStore.Edit

/-!
# The string pool

Texts are kept in one sequence of bytes, each with a zero byte behind it, and
are known by the place of their first byte.  The pool only ever grows at its
end, so a place stays good.  A text that itself has a zero character is read
back up to there.
-/

namespace TransitStore

/-- A pool of texts. -/
structure Pool where
  bytes : Column UInt8 := {}

namespace Pool

instance : Inhabited Pool := ⟨{}⟩

/-- The pool's name in messages. -/
def label : String := "string pool"

/-- The name of the pool's column. -/
def columnName : String := "StringPool"

/-- The most bytes a pool holds.  Places are numbers of 32 bits. -/
def maxSize : Nat := UInt32.size - 1

/-- The room a growing pool makes beyond what it needs. -/
def slack : Nat := 16

/-- The number of bytes. -/
def size (pool : Pool) : Nat := pool.bytes.size

/-- The room for bytes. -/
def capacity (pool : Pool) : Nat := pool.bytes.capacity

/-- Whether the pool belongs to a snapshot. -/
def isMapped (pool : Pool) : Bool := pool.bytes.isMapped

/-- The pool of a snapshot with these bytes. -/
def ofMapped? (bytes : Array UInt8) : Except Malformation Pool :=
  if maxSize < bytes.size then .error (.poolSize bytes.size) else .ok ⟨.ofMapped bytes⟩

/-! ## Growing -/

/-- The storage of a pool that gets `count` more bytes. -/
def roomFor [Memory] (pool : Pool) (count : Nat) : Except Error Storage :=
  let finish := pool.size + count
  if pool.isMapped then .error (.denied label)
  else if maxSize < finish then .error (.indexOverflow label maxSize finish)
  else if pool.capacity < finish then
    pool.bytes.storage.reserve pool.size ⟨columnName, finish + slack, 1⟩ label
  else .ok pool.bytes.storage

/-- Adds bytes at the end and gives the place of the first. -/
def append [Memory] (more : Array UInt8) : Edit Pool UInt32 := fun pool =>
  let start := pool.size
  match pool.roomFor more.size with
  | .error e => .error e pool
  | .ok storage => .ok (UInt32.ofNat start) ⟨⟨pool.bytes.values ++ more, storage⟩⟩

/-- The bytes of a pool stay, new ones come behind them, and their place is where
the pool ended. -/
theorem append_eq_ok [Memory] {more : Array UInt8} {pool grown : Pool} {place : UInt32}
    (h : append more pool = .ok place grown) :
    place = UInt32.ofNat pool.size ∧ grown.bytes.values = pool.bytes.values ++ more := by
  unfold append at h
  cases hroom : pool.roomFor more.size with
  | error e => simp [hroom] at h
  | ok storage =>
    simp only [hroom] at h
    cases h
    exact ⟨rfl, rfl⟩

/-- A pool that cannot grow stays as it is. -/
theorem append_eq_error [Memory] {more : Array UInt8} {pool left : Pool} {e : Error}
    (h : append more pool = .error e left) : left = pool ∧ pool.roomFor more.size = .error e := by
  unfold append at h
  cases hroom : pool.roomFor more.size with
  | error e' =>
    simp only [hroom] at h
    cases h
    exact ⟨rfl, rfl⟩
  | ok storage => simp [hroom] at h

/-- Adds bytes as they are.  No bytes have no place. -/
def add [Memory] (more : Array UInt8) : Edit Pool (Option UInt32) := fun pool =>
  if pool.isMapped then .error (.denied label) pool
  else if more.isEmpty then .ok none pool
  else (some <$> append more) pool

/-- Adds a text with a zero byte behind it. -/
def intern [Memory] (s : String) : Edit Pool UInt32 := append (s.toUTF8.data.push 0)

/-- Makes room for `target` bytes in all. -/
def ensureCapacity [Memory] (target : Nat) : Edit Pool Unit := fun pool =>
  match pool.bytes.reserveTotal 1 target label columnName with
  | .error e => .error e pool
  | .ok bytes => .ok () ⟨bytes⟩

/-- Empties the pool. -/
def reset : Edit Pool Unit := fun pool =>
  if pool.isMapped then .error (.denied label) pool else .ok () {}

/-! ## Reading -/

/-- The `count` bytes at a place. -/
def get? (pool : Pool) (place count : Nat) : Option (Array UInt8) :=
  if place + count ≤ pool.size then
    some (pool.bytes.values.extract place (place + count))
  else none

/-- The first place of a zero byte among `count` places. -/
def zeroAmong (bytes : Array UInt8) : (count place : Nat) → Option Nat
  | 0, _ => none
  | count + 1, place =>
    if bytes[place]? = some 0 then some place else zeroAmong bytes count (place + 1)

/-- The text at a place: the bytes up to the next zero byte, if there is one
and they are well-formed. -/
def text? (pool : Pool) (place : UInt32) : Option String :=
  let start := place.toNat
  match zeroAmong pool.bytes.values (pool.size - start) start with
  | none => none
  | some stop => String.fromUTF8? ⟨pool.bytes.values.extract start stop⟩

end Pool

end TransitStore
