import Mathlib
import TransitStore.Proofs.Snapshot.RoundTrip

/-!
# Where the columns of a snapshot stand

The header of a snapshot says where each column is.  The writer finds these places
without looking at what it has written, and then writes the columns one behind the
other.  Both come to the same places, whatever the sizes of the columns are: behind
the header a snapshot is nothing but its columns and the zero bytes in front of them
and behind the last one (`LaidFrom`), so it is laid out as its header says
(`laidOut_encode`).
-/

namespace TransitStore.Snapshot

/-! ## Layouts -/

/-- The next place from a given one on where a column can start, with nothing but zero
bytes up to it. -/
structure Padded (image : ByteArray) (place next : Nat) : Prop where
  /-- A column can start there. -/
  aligned : columnAlignment ∣ next
  le : place ≤ next
  /-- A column cannot start between. -/
  lt : next < place + columnAlignment
  zeros : bytesAt image place (next - place) = List.replicate (next - place) 0

/-- A column stands where its descriptor says, at the next place from a given one on. -/
structure Placed (image : ByteArray) (place : Nat) (column : Column) (d : Descriptor) : Prop
    extends Padded image place d.offset where
  count : d.count * column.type.size = (columnBytes column).length
  bytes : bytesAt image d.offset (d.count * column.type.size) = columnBytes column

/-- From a place on an image has columns where their descriptors say, one behind the
other.  It ends at the next place behind the last one. -/
inductive LaidFrom (image : ByteArray) : (place : Nat) → List Column → List Descriptor → Prop
  | finish {place : Nat} : Padded image place image.size → LaidFrom image place [] []
  | column {place : Nat} {column : Column} {columns : List Column} {d : Descriptor}
      {ds : List Descriptor} : Placed image place column d →
      LaidFrom image (d.finish column.type) columns ds →
      LaidFrom image place (column :: columns) (d :: ds)

section

variable {image : ByteArray} {front behind : List UInt8} {place : Nat} {column : Column}
  {columns : List Column} {d : Descriptor} {ds : List Descriptor}

theorem LaidFrom.le_size (laid : LaidFrom image place columns ds) : place ≤ image.size := by
  induction laid with
  | finish padded => exact padded.le
  | column placed _ ih =>
    refine Nat.le_trans placed.le (Nat.le_trans ?_ ih)
    exact Nat.le_add_right _ _

/-- All columns lie inside the image, the empty ones as well. -/
theorem LaidFrom.inside (laid : LaidFrom image place columns ds) {k : Nat}
    (at_ : columns[k]? = some column) (described : ds[k]? = some d) :
    place ≤ d.offset ∧ d.finish column.type ≤ image.size := by
  induction laid generalizing k with
  | finish => cases at_
  | column placed rest ih =>
    cases k with
    | zero =>
      cases at_
      cases described
      exact ⟨placed.le, rest.le_size⟩
    | succ k =>
      obtain ⟨behind, inside⟩ := ih at_ described
      refine ⟨Nat.le_trans placed.le (Nat.le_trans ?_ behind), inside⟩
      exact Nat.le_add_right _ _

/-! ## The bytes behind the header -/

theorem padded_of_split (split : image.data.toList = front ++ (gap place ++ behind))
    (length : front.length = place) : Padded image place (alignUp place) where
  aligned := dvd_alignUp place
  le := le_alignUp place
  lt := Nat.lt_succ_of_le (alignUp_le place)
  zeros := by
    have zeros := bytesAt_of_split split length
    rwa [gap, List.length_replicate] at zeros

/-- The places of the descriptors are the places where the columns are written. -/
theorem laidFrom_of_split (split : image.data.toList = front ++ bodyFrom place columns)
    (length : front.length = place) :
    LaidFrom image place columns (descriptorsFrom place columns) := by
  induction columns generalizing place front with
  | nil =>
    have size : image.size = alignUp place := by
      rw [← length_toList, split, List.length_append, length, bodyFrom, length_gap]
    rw [bodyFrom, ← List.append_nil (gap place)] at split
    refine .finish ?_
    rw [size]
    exact padded_of_split split length
  | cons column rest ih =>
    rw [bodyFrom] at split
    have start : (front ++ gap place).length = alignUp place := by
      rw [List.length_append, length, length_gap]
    have behind : image.data.toList = front ++ gap place ++
        (columnBytes column ++ bodyFrom (alignUp place + column.byteSize) rest) := by
      rw [split, List.append_assoc]
    refine .column ⟨padded_of_split split length, (length_columnBytes column).symm, ?_⟩ ?_
    · have bytes := bytesAt_of_split behind start
      rwa [length_columnBytes] at bytes
    · have after : image.data.toList = front ++ gap place ++ columnBytes column ++
          bodyFrom (alignUp place + column.byteSize) rest := by
        rw [List.append_assoc, behind]
      refine ih after ?_
      rw [List.length_append, start, length_columnBytes]
      rfl

end

/-! ## Snapshots -/

/-- An image is laid out as the snapshot of a container. -/
structure LaidOut (c : Container) (image : ByteArray) : Prop where
  /-- In front are the numbers of the container and the descriptors of its columns. -/
  header : bytesAt image 0 headerSize = headerBytes c
  /-- The columns follow in their order, and the image ends behind them. -/
  laid : LaidFrom image headerSize (columns c) (descriptors c)
  /-- They are the columns of every snapshot. -/
  order : (columns c).map Column.toColumnSpec = specs
  /-- Every column lies behind the header and inside the image. -/
  inside : ∀ (k : Nat) (column : Column) (d : Descriptor), (columns c)[k]? = some column →
    (descriptors c)[k]? = some d → headerSize ≤ d.offset ∧ d.finish column.type ≤ image.size
  /-- The first column has the bytes of the pool. -/
  pool : ∀ d, (descriptors c)[0]? = some d →
    elements image .u8 d = c.pool.bytes.values.map UInt8.toNat
  /-- Each column of a table has one field of all its rows. -/
  tables : ∀ (e : Entity) (j : Nat) (f : Field e.Row) (d : Descriptor),
    (Record.fields : List (Field e.Row))[j]? = some f →
    (descriptors c)[e.firstColumn + j]? = some d →
      elements image f.type d = (e.rows c).map f.word
  /-- The last two columns have the numbers of the stop index. -/
  stopIndex : ∀ offsets patterns, (descriptors c)[53]? = some offsets →
    (descriptors c)[54]? = some patterns →
      elements image .u32 offsets = c.stopIndex.offsets.values.map UInt32.toNat ∧
      elements image .u16 patterns = c.stopIndex.patterns.values.map UInt16.toNat
  /-- The descriptors of a container within its sizes are read from the header as they
  are. -/
  read : c.Fits → ∀ (k : Nat) (d : Descriptor), (descriptors c)[k]? = some d →
    descriptorOf image k = d

/-- The snapshot of every container is laid out as its header says. -/
theorem laidOut_encode (c : Container) : LaidOut c (encode c) where
  header := by
    rw [bytesAt, List.drop_zero, toList_encode, List.take_left' (length_headerBytes c)]
  laid := laidFrom_of_split (toList_encode c) (length_headerBytes c)
  order := map_toColumnSpec_columns c
  inside := by
    intro k column d at_ described
    exact (laidFrom_of_split (toList_encode c) (length_headerBytes c)).inside at_ described
  pool := by
    intro d described
    have at_ : (columns c)[0]? = some (poolColumn c.pool) := by rw [columns_eq]; rfl
    exact elements_encode at_ described
  tables := by
    intro e j f d field described
    have at_ : (tableColumns (e.table c))[j]? =
        some ⟨⟨f.columnName, f.type⟩, (e.rows c).map f.word⟩ := by
      rw [tableColumns, List.getElem?_map, field]
      rfl
    exact elements_encode (getElem?_columns at_) described
  stopIndex := by
    intro offsets patterns first second
    have at_ (k : Nat) : (columns c)[53 + k]? = (indexColumns c.stopIndex)[k]? := by
      rw [← columns_stopIndex, List.getElem?_drop]
    exact ⟨elements_encode (at_ 0) first, elements_encode (at_ 1) second⟩
  read := by
    intro fits k d described
    have inside := (List.getElem?_eq_some_iff.1 described).1
    rw [descriptors, length_descriptorsFrom] at inside
    exact descriptorOf_encode fits (List.getElem?_eq_getElem inside) described

/-- A container with an operator, a time zone and three walks. -/
def walked : Container :=
  (Container.Operation.add .transfer [(⟨7, 60⟩ : Transfer), ⟨8, 90⟩, ⟨9, 45⟩]).apply zoned

/-- Zero bytes follow the texts, the targets of the walks and their durations. -/
theorem laidOut_walked : LaidOut walked (encode walked) ∧
    (descriptors walked)[0]? = some ⟨912, 19⟩ ∧
    (descriptors walked)[13]? = some ⟨936, 3⟩ ∧
      elements (encode walked) .u16 ⟨936, 3⟩ = #[7, 8, 9] ∧
    (descriptors walked)[14]? = some ⟨944, 3⟩ ∧
      elements (encode walked) .u16 ⟨944, 3⟩ = #[60, 90, 45] ∧
    (descriptors walked)[17]? = some ⟨968, 1⟩ ∧
      elements (encode walked) .u32 ⟨968, 1⟩ = #[8] := by
  have laid := laidOut_encode walked
  have texts : (descriptors walked)[0]? = some ⟨912, 19⟩ := by decide +kernel
  have targets : (descriptors walked)[13]? = some ⟨936, 3⟩ := by decide +kernel
  have durations : (descriptors walked)[14]? = some ⟨944, 3⟩ := by decide +kernel
  have names : (descriptors walked)[17]? = some ⟨968, 1⟩ := by decide +kernel
  refine ⟨laid, texts, targets, ?_, durations, ?_, names, ?_⟩
  · exact (laid.tables .transfer 0 _ _ rfl targets).trans (by decide +kernel)
  · exact (laid.tables .transfer 1 _ _ rfl durations).trans (by decide +kernel)
  · exact (laid.tables .operator 2 _ _ rfl names).trans (by decide +kernel)

end TransitStore.Snapshot
