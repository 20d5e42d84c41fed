import TransitStore.Error

/-!
# Columns

A column is a sequence of elements of one type.  It either owns its elements
and grows, or shows those of a mapped snapshot and never changes.  An owned
column has room for more elements than it holds, its *capacity*.  It gets room
from a `Memory`, which may have none to give.
-/

namespace TransitStore

/-- Where elements live. -/
inductive Storage where
  /-- In memory of their own, with room for so many. -/
  | owned (capacity : Nat)
  /-- In a snapshot. -/
  | mapped
deriving DecidableEq, Repr

namespace Storage

/-- The room for elements.  A snapshot has none to give. -/
def capacity : Storage → Nat
  | owned capacity => capacity
  | mapped => 0

/-- Whether the elements live in a snapshot. -/
def isMapped : Storage → Bool
  | owned _ => false
  | mapped => true

end Storage

/-! ## Memory -/

/-- The most bytes one allocation may have. -/
def maxAllocation : Nat := UInt64.size / 2 - 1

/-- A demand for the room of so many elements in a column. -/
structure Demand where
  /-- The name of the column. -/
  column : String
  /-- The number of elements. -/
  count : Nat
  /-- The bytes of one element. -/
  elementSize : Nat
deriving DecidableEq, Repr

/-- The memory that columns get their room from.  Nothing is known of what it gives.  One
operation never makes the same demand twice: room that is given is there, and room that is not
ends the operation.  So one answer for each demand is all that an operation sees of a memory. -/
class Memory where
  /-- Whether there is memory for a demand. -/
  has : Demand → Bool

/-- The memory that always has enough.  It is meant where no other one is named. -/
instance ample : Memory := ⟨fun _ => true⟩

namespace Demand

/-- The bytes of all elements. -/
def bytes (d : Demand) : Nat := d.count * d.elementSize

/-- Whether memory is given for a demand.  No elements need none. -/
def isGiven [Memory] (d : Demand) : Bool := Memory.has d || d.count == 0

/-- Whether a demand is met.  One for too many bytes never is. -/
def isMet [Memory] (d : Demand) : Bool := d.bytes ≤ maxAllocation && d.isGiven

@[simp] theorem isGiven_ample (d : Demand) : d.isGiven = true := rfl

@[simp] theorem isMet_ample (d : Demand) : d.isMet = decide (d.bytes ≤ maxAllocation) := by
  rw [isMet, isGiven_ample, Bool.and_true]

end Demand

/-- Storage of `size` elements with room for as many in all as are demanded.  Room that
is there already stays, and new room is no more than asked for. -/
def Storage.reserve [Memory] (s : Storage) (size : Nat) (d : Demand) (what : String) :
    Except Error Storage :=
  match s with
  | .mapped => .error (.denied what)
  | .owned capacity =>
    if d.count ≤ size ∨ d.count ≤ capacity then .ok s
    else if d.isMet then .ok (.owned d.count)
    else .error (.outOfMemory what)

/-! ## Columns -/

/-- A sequence of elements, owned or mapped. -/
structure Column (α : Type) where
  /-- The elements. -/
  values : Array α := #[]
  /-- Where they live. -/
  storage : Storage := .owned 0

namespace Column

variable {α : Type}

instance : Inhabited (Column α) := ⟨{}⟩

/-- An owned column with just enough room for its elements. -/
def ofArray (values : Array α) : Column α := ⟨values, .owned values.size⟩

/-- A column of a snapshot. -/
def ofMapped (values : Array α) : Column α := ⟨values, .mapped⟩

/-- The number of elements. -/
def size (c : Column α) : Nat := c.values.size

/-- Whether the column belongs to a snapshot. -/
def isMapped (c : Column α) : Bool := c.storage.isMapped

/-- The room for elements. -/
def capacity (c : Column α) : Nat := c.storage.capacity

/-- Makes room for `target` elements of `elementSize` bytes in all.  The name is for
the memory, what grows for messages. -/
def reserveTotal [Memory] (c : Column α) (elementSize target : Nat) (what : String)
    (name : String := what) : Except Error (Column α) :=
  (c.storage.reserve c.size ⟨name, target, elementSize⟩ what).map fun storage =>
    { c with storage }

/-- Adds elements at the end. -/
def append (c : Column α) (more : Array α) (what : String) : Except Error (Column α) :=
  match c.storage with
  | .mapped => .error (.denied what)
  | .owned capacity =>
    let values := c.values ++ more
    .ok ⟨values, .owned (max capacity values.size)⟩

/-- Adds one element at the end. -/
def push (c : Column α) (value : α) (what : String) : Except Error (Column α) :=
  c.append #[value] what

end Column

end TransitStore
