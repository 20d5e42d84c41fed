import Mathlib
import TransitStore.Snapshot.Writer
import TransitStore.Proofs.Snapshot.Image

/-!
# The bytes of a snapshot

The writer puts bytes at the end of an array.  Here its output is one list: the
header, and behind it the columns with the zero bytes between them
(`toList_encode`).  Each column stands where its descriptor says
(`split_bodyFrom`), and the whole is only so much longer than the columns
(`length_bodyFrom_le`).
-/

namespace TransitStore.Snapshot

open LittleEndian (bytes push wordCount)

/-! ## Words of equal size -/

theorem length_flatMap_of_length {α β : Type} {f : α → List β} {size : Nat} {l : List α}
    (length : ∀ a ∈ l, (f a).length = size) : (l.flatMap f).length = l.length * size := by
  induction l with
  | nil => simp
  | cons a l ih =>
    rw [List.flatMap_cons, List.length_append, length a (.head _),
      ih fun a' mem => length a' (.tail _ mem), List.length_cons, Nat.succ_mul, Nat.add_comm]

theorem split_flatMap {α β : Type} {f : α → List β} {size : Nat} {l : List α} {i : Nat} {a : α}
    (length : ∀ a ∈ l, (f a).length = size) (at_ : l[i]? = some a) :
    ∃ before behind, l.flatMap f = before ++ (f a ++ behind) ∧ before.length = i * size := by
  obtain ⟨inside, rfl⟩ := List.getElem?_eq_some_iff.1 at_
  refine ⟨(l.take i).flatMap f, (l.drop (i + 1)).flatMap f, ?_, ?_⟩
  · rw [← List.flatMap_cons, ← List.drop_eq_getElem_cons inside, ← List.flatMap_append,
      List.take_append_drop]
  · rw [length_flatMap_of_length fun a mem => length a (List.mem_of_mem_take mem),
      List.length_take, Nat.min_eq_left (Nat.le_of_lt inside)]

theorem bytesAt_of_split {image : ByteArray} {before part behind : List UInt8} {place : Nat}
    (split : image.data.toList = before ++ (part ++ behind)) (length : before.length = place) :
    bytesAt image place part.length = part := by
  rw [bytesAt, split, List.drop_left' length, List.take_left' rfl]

/-- A word is read where its bytes stand. -/
theorem wordOf_of_split {image : ByteArray} {before behind : List UInt8} {place size word : Nat}
    (split : image.data.toList = before ++ (bytes size word ++ behind))
    (length : before.length = place) (small : word < wordCount size) :
    wordOf image place size = word := by
  have at_ := bytesAt_of_split split length
  rw [LittleEndian.length_bytes] at at_
  rw [wordOf, at_, LittleEndian.value_bytes, Nat.mod_eq_of_lt small]

/-! ## Columns -/

/-- The bytes of a column. -/
def columnBytes (column : Column) : List UInt8 :=
  column.words.toList.flatMap (bytes column.type.size)

/-- The zero bytes between a place and the next column. -/
def gap (place : Nat) : List UInt8 := List.replicate (alignUp place - place) 0

/-- The bytes behind a place: columns with the gaps in front of them, and a last gap. -/
def bodyFrom : (place : Nat) → List Column → List UInt8
  | place, [] => gap place
  | place, column :: rest =>
    gap place ++ (columnBytes column ++ bodyFrom (alignUp place + column.byteSize) rest)

@[simp] theorem length_columnBytes (column : Column) :
    (columnBytes column).length = column.byteSize := by
  rw [columnBytes, length_flatMap_of_length fun word _ => LittleEndian.length_bytes _ word,
    Array.length_toList, Column.byteSize]

theorem le_alignUp (place : Nat) : place ≤ alignUp place := by
  simp only [alignUp, columnAlignment]
  omega

theorem alignUp_le (place : Nat) : alignUp place ≤ place + 7 := by
  simp only [alignUp, columnAlignment]
  omega

theorem dvd_alignUp (place : Nat) : columnAlignment ∣ alignUp place := ⟨_, Nat.mul_comm _ _⟩

theorem length_gap (place : Nat) : place + (gap place).length = alignUp place := by
  have := le_alignUp place
  rw [gap, List.length_replicate]
  omega

/-- Each column stands at the place of its descriptor. -/
theorem split_bodyFrom {columns : List Column} {place k : Nat} {column : Column} {d : Descriptor}
    {header : List UInt8} (length : header.length = place) (at_ : columns[k]? = some column)
    (placed : (descriptorsFrom place columns)[k]? = some d) :
    ∃ before behind, header ++ bodyFrom place columns =
      before ++ (columnBytes column ++ behind) ∧ before.length = d.offset ∧
        d.count = column.words.size ∧ columnAlignment ∣ d.offset := by
  induction columns generalizing place header k with
  | nil => cases at_
  | cons first rest ih =>
    have start : (header ++ gap place).length = alignUp place := by
      rw [List.length_append, length, length_gap]
    cases k with
    | zero =>
      cases at_
      cases placed
      refine ⟨header ++ gap place, bodyFrom (alignUp place + column.byteSize) rest, ?_, start, rfl,
        dvd_alignUp place⟩
      simp only [bodyFrom, List.append_assoc]
    | succ k =>
      have next : (header ++ gap place ++ columnBytes first).length =
          alignUp place + first.byteSize := by
        rw [List.length_append, start, length_columnBytes]
      obtain ⟨before, behind, split, rest⟩ := ih next at_ placed
      refine ⟨before, behind, ?_, rest⟩
      rw [← split]
      simp only [bodyFrom, List.append_assoc]

/-- The bytes behind the header are those of the columns, and no more than eight for
each gap. -/
theorem length_bodyFrom_le (columns : List Column) (place : Nat) :
    (bodyFrom place columns).length ≤
      (columns.map fun column => column.byteSize + columnAlignment).sum + columnAlignment := by
  induction columns generalizing place with
  | nil =>
    have := length_gap place
    have := alignUp_le place
    simp only [bodyFrom, List.map_nil, List.sum_nil, columnAlignment]
    omega
  | cons first rest ih =>
    have := length_gap place
    have := alignUp_le place
    have := ih (alignUp place + first.byteSize)
    simp only [columnAlignment] at this
    simp only [bodyFrom, List.length_append, length_columnBytes, List.map_cons, List.sum_cons,
      columnAlignment]
    omega

/-! ## The header -/

/-- The bytes of the numbers in the header. -/
def metadataBytes (m : Metadata) : List UInt8 :=
  magic.toUTF8.data.toList ++ (bytes 8 m.calendarStart.toNat ++
    (bytes 4 ((m.timezone.map UInt32.toNat).getD noTimezone) ++
      (bytes 4 m.utcOffset.toUInt32.toNat ++ (bytes 4 m.days.toNat ++ bytes 4 0))))

/-- The bytes of a descriptor. -/
def descriptorBytes (d : Descriptor) : List UInt8 := bytes 8 d.offset ++ bytes 8 d.count

/-- The bytes of the header of a container. -/
def headerBytes (c : Container) : List UInt8 :=
  metadataBytes c.metadata ++ (descriptors c).flatMap descriptorBytes

@[simp] theorem length_metadataBytes (m : Metadata) :
    (metadataBytes m).length = descriptorStart := by
  simp only [metadataBytes, List.length_append, LittleEndian.length_bytes]
  rfl

@[simp] theorem length_descriptorBytes (d : Descriptor) :
    (descriptorBytes d).length = descriptorSize := by
  simp only [descriptorBytes, List.length_append, LittleEndian.length_bytes]
  rfl

@[simp] theorem length_descriptorsFrom (columns : List Column) (place : Nat) :
    (descriptorsFrom place columns).length = columns.length := by
  induction columns generalizing place with
  | nil => rfl
  | cons first rest ih => simp [descriptorsFrom, ih]

/-! ## Writing -/

theorem toList_padTo (place : Nat) (out : ByteArray) :
    (padTo place out).data.toList = out.data.toList ++ List.replicate (place - out.size) 0 := by
  have step (n : Nat) : (n.repeat (fun out => out.push 0) out).data.toList =
      out.data.toList ++ List.replicate n 0 := by
    induction n with
    | zero => simp [Nat.repeat]
    | succ n ih => simp [Nat.repeat, ih, ByteArray.data_push, List.replicate_succ']
  exact step _

theorem toList_writeColumn (out : ByteArray) (column : Column) :
    (writeColumn out column).data.toList =
      out.data.toList ++ (gap out.size ++ columnBytes column) := by
  have step (words : List Nat) (out : ByteArray) :
      (words.foldl (fun out word => push out column.type.size word) out).data.toList =
        out.data.toList ++ words.flatMap (bytes column.type.size) := by
    induction words generalizing out with
    | nil => simp
    | cons word words ih =>
      rw [List.foldl_cons, ih, LittleEndian.toList_push, List.flatMap_cons, List.append_assoc]
  rw [writeColumn, ← Array.foldl_toList, step, toList_padTo, List.append_assoc]
  rfl

theorem toList_writeColumns (columns : List Column) (out : ByteArray) :
    (padTo (alignUp (columns.foldl writeColumn out).size)
      (columns.foldl writeColumn out)).data.toList =
        out.data.toList ++ bodyFrom out.size columns := by
  induction columns generalizing out with
  | nil => exact toList_padTo _ _
  | cons first rest ih =>
    have size : (writeColumn out first).size = alignUp out.size + first.byteSize := by
      have length := congrArg List.length (toList_writeColumn out first)
      rwa [List.length_append, List.length_append, length_columnBytes, ← Nat.add_assoc,
        length_toList, length_toList, length_gap] at length
    rw [List.foldl_cons, ih, toList_writeColumn, size, bodyFrom]
    simp only [List.append_assoc]

theorem toList_writeHeader (c : Container) : (writeHeader c).data.toList = headerBytes c := by
  have metadata : (writeMetadata c.metadata magic.toUTF8).data.toList =
      metadataBytes c.metadata := by
    simp only [writeMetadata, LittleEndian.toList_push, List.append_assoc, metadataBytes]
  have step (ds : List Descriptor) (out : ByteArray) :
      (ds.foldl writeDescriptor out).data.toList =
        out.data.toList ++ ds.flatMap descriptorBytes := by
    induction ds generalizing out with
    | nil => simp
    | cons d ds ih =>
      rw [List.foldl_cons, ih, List.flatMap_cons, writeDescriptor, LittleEndian.toList_push,
        LittleEndian.toList_push, descriptorBytes]
      simp only [List.append_assoc]
  rw [writeHeader, step, metadata, headerBytes]

end TransitStore.Snapshot
