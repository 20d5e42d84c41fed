import TransitStore.Snapshot.Layout

/-!
# Writing snapshots

`encode` gives the bytes of a container's snapshot.
-/

namespace TransitStore.Snapshot

open LittleEndian (push)

/-- Writes zero bytes up to a place. -/
def padTo (place : Nat) (out : ByteArray) : ByteArray :=
  (place - out.size).repeat (fun out => out.push 0) out

/-- Writes the numbers of a container that are in no table. -/
def writeMetadata (m : Metadata) (out : ByteArray) : ByteArray :=
  let out := push out 8 m.calendarStart.toNat
  let out := push out 4 ((m.timezone.map UInt32.toNat).getD noTimezone)
  let out := push out 4 m.utcOffset.toUInt32.toNat
  let out := push out 4 m.days.toNat
  push out 4 0

/-- Writes a descriptor. -/
def writeDescriptor (out : ByteArray) (d : Descriptor) : ByteArray :=
  push (push out 8 d.offset) 8 d.count

/-- Writes a column at the next place it can start at. -/
def writeColumn (out : ByteArray) (column : Column) : ByteArray :=
  column.words.foldl (fun out word => push out column.type.size word) (padTo (alignUp out.size) out)

/-- Writes the header of a container. -/
def writeHeader (c : Container) : ByteArray :=
  (descriptors c).foldl writeDescriptor (writeMetadata c.metadata magic.toUTF8)

/-- The snapshot of a container. -/
def encode (c : Container) : ByteArray :=
  let out := (columns c).foldl writeColumn (writeHeader c)
  padTo (alignUp out.size) out

end TransitStore.Snapshot
