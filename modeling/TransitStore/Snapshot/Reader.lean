import TransitStore.Audit.References
import TransitStore.Snapshot.Layout

/-!
# Reading snapshots

`decode` gives the container of a snapshot's bytes.  It looks at the columns in
their order: each must lie inside the file at a place fit for its elements, the
columns of a table must have equally many elements, and no table may be longer
than its row numbers reach.  `openImage` also checks the references, if asked to.
-/

namespace TransitStore.Snapshot

/-- The word at a place, zero if it is not all inside the file. -/
def wordAt (image : ByteArray) (place size : Nat) : Nat :=
  if h : place + size ≤ image.size then LittleEndian.read image place size h else 0

/-- The numbers of a container that are in no table. -/
def readMetadata (image : ByteArray) : Metadata :=
  let timezone := wordAt image 16 4
  { calendarStart := UInt64.ofNat (wordAt image 8 8)
    days := UInt32.ofNat (wordAt image 24 4)
    timezone := if timezone = noTimezone then none else some (UInt32.ofNat timezone)
    utcOffset := (UInt32.ofNat (wordAt image 20 4)).toInt32 }

/-- The descriptor of a column, by the column's number. -/
def readDescriptor (image : ByteArray) (number : Nat) : Descriptor :=
  let place := descriptorStart + number * descriptorSize
  ⟨wordAt image place 8, wordAt image (place + 8) 8⟩

/-- Places past this one are not numbers of 64 bits. -/
def maxPlace : Nat := UInt64.size - 1

theorem element_inside {place size count total i : Nat} (hi : i < count)
    (h : place + count * size ≤ total) : place + i * size + size ≤ total := by
  have : (i + 1) * size ≤ count * size := Nat.mul_le_mul_right size hi
  rw [Nat.succ_mul] at this
  omega

/-- The elements of a column, as words. -/
def readColumn (image : ByteArray) (spec : ColumnSpec) (d : Descriptor) :
    Except Malformation (Array Nat) :=
  let size := d.count * spec.type.size
  if maxPlace < size ∨ maxPlace < d.offset + size then .error (.columnOverflow spec.name)
  else if h : d.offset + d.count * spec.type.size ≤ image.size then
    if d.offset % spec.type.alignment ≠ 0 then
      .error (.misaligned spec.name d.offset spec.type.name)
    else
      .ok (Array.ofFn fun i : Fin d.count =>
        LittleEndian.read image (d.offset + i * spec.type.size) spec.type.size
          (element_inside i.isLt h))
  else .error (.columnSpan spec.name d.offset (d.offset + size) image.size)

/-- Reading of columns one after the other.  The state is the number of the next one. -/
abbrev Reading := StateT Nat (Except Malformation)

/-- Reads the next column. -/
def nextColumn (image : ByteArray) (spec : ColumnSpec) : Reading (Array Nat) := do
  let number ← getModify (· + 1)
  readColumn image spec (readDescriptor image number)

/-- Reads the next columns as a table. -/
def nextTable {ρ : Type} [Record ρ] (image : ByteArray) : Reading (Table ρ) := do
  let columns ← (tableSpecs ρ).mapM (nextColumn image)
  Table.ofColumns? columns.toArray

/-- Reads the next column as a string pool. -/
def nextPool (image : ByteArray) : Reading Pool := do
  let bytes ← nextColumn image poolSpec
  Pool.ofMapped? (bytes.map UInt8.ofNat)

/-- Reads the next columns as a stop index. -/
def nextStopIndex (image : ByteArray) : Reading StopIndex := do
  let offsets ← nextColumn image indexOffsetsSpec
  let patterns ← nextColumn image indexPatternsSpec
  return .ofMapped (offsets.map UInt32.ofNat) (patterns.map UInt16.ofNat)

/-- Reads all columns as a container. -/
def readContainer (path : String) (image : ByteArray) : Reading Container := do
  return {
    backing := .mapped path image.size
    metadata := readMetadata image
    pool := ← nextPool image
    stopAreas := ← nextTable image
    stopPoints := ← nextTable image
    transfers := ← nextTable image
    operators := ← nextTable image
    physicalModes := ← nextTable image
    commercialModes := ← nextTable image
    lines := ← nextTable image
    routes := ← nextTable image
    journeyPatternPoints := ← nextTable image
    journeyPatterns := ← nextTable image
    stopTimes := ← nextTable image
    vehicleJourneys := ← nextTable image
    vehicleTransfers := ← nextTable image
    stopIndex := ← nextStopIndex image }

/-- The container of a snapshot. -/
def decode (path : String) (image : ByteArray) : Except Malformation Container :=
  if image.size < headerSize then .error (.tooShort path image.size headerSize)
  else if (image.extract 0 magic.utf8ByteSize).data ≠ magic.toUTF8.data then
    .error (.wrongMagic path magic)
  else (·.1) <$> (readContainer path image).run 0

/-- The container of a snapshot, with its references checked if `validate` is set. -/
def openImage (path : String) (validate : Bool) (image : ByteArray) : Except Error Container :=
  match decode path image with
  | .error reason => .error (.malformed reason)
  | .ok c =>
    if validate then
      match Audit.checkReferences c with
      | .error broken => .error (.malformed (.reference broken))
      | .ok () => .ok c
    else .ok c

end TransitStore.Snapshot
