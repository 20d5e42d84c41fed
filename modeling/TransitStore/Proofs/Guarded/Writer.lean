import Mathlib
import TransitStore.Proofs.Guarded.Columns
import TransitStore.Proofs.Snapshot.RoundTrip

/-!
# The guarded writer

A snapshot is written of the columns of an opened image.  The places of the columns are
summed up in words, twice: first for the descriptors, and then for the gaps between the
columns, each of which is a slice of eight zero bytes.  The columns of an image may
overlap, so those of a snapshot may have more bytes than the image they are taken from.
The sums are small enough since no table is too long.
-/

namespace TransitStore.Guarded

open Snapshot (Shows Descriptor specs bodyFrom gap descriptorsFrom columnBytes metadataBytes
  descriptorBytes columnAlignment columnCount headerSize length_gap)

/-- The first place from a given one on that a column can start at. -/
def alignUp (place : Nat) : Guarded Nat :=
  mul (if place % columnAlignment = 0 then place / columnAlignment else place / columnAlignment + 1)
    columnAlignment

/-- The bytes of a gap. -/
def padding : Array UInt8 := Array.replicate columnAlignment 0

/-- The zero bytes up to a place. -/
def zeros (place stop : Nat) : Guarded (Array UInt8) := do
  let count ← sub stop place
  slice padding 0 count

/-- The columns of an image. -/
def columnsOf (image : ByteArray) : List Snapshot.Column :=
  specs.mapIdx fun k spec =>
    ⟨spec, Snapshot.elements image spec.type (Snapshot.descriptorOf image k)⟩

/-- Where the next column can stand, and the descriptors of the ones in front of it. -/
structure Layout where
  place : Nat
  descriptors : Array Descriptor

/-- A descriptor that is not set. -/
def unset : Descriptor := ⟨0, 0⟩

/-- Gives a column, by its number, the next place. -/
def Layout.put (layout : Layout) (column : Snapshot.Column × Nat) : Guarded Layout := do
  let offset ← alignUp layout.place
  let descriptors ← store layout.descriptors column.2 ⟨offset, column.1.words.size⟩
  let place ← add offset (columnBytes column.1).length
  return { place, descriptors }

/-- The descriptors of columns. -/
def layOut (columns : List Snapshot.Column) : Guarded (Array Descriptor) := do
  let layout ← columns.zipIdx.foldlM Layout.put
    ⟨headerSize, Array.replicate columnCount unset⟩
  return layout.descriptors

/-- The bytes that are written, and the place behind them. -/
structure Output where
  place : Nat
  bytes : List UInt8

/-- Writes a column at the next place it can start at. -/
def Output.put (out : Output) (column : Snapshot.Column) : Guarded Output := do
  let aligned ← alignUp out.place
  let gap ← zeros out.place aligned
  let place ← add aligned (columnBytes column).length
  return { place, bytes := out.bytes ++ (gap.toList ++ columnBytes column) }

/-- Writes columns, and the gap behind the last one. -/
def Output.putAll (out : Output) (columns : List Snapshot.Column) : Guarded (List UInt8) := do
  let out ← columns.foldlM Output.put out
  let aligned ← alignUp out.place
  let gap ← zeros out.place aligned
  return out.bytes ++ gap.toList

/-- The bytes of a snapshot of the container that an image shows. -/
def encode (image : ByteArray) : Guarded (List UInt8) := do
  let descriptors ← layOut (columnsOf image)
  let header := metadataBytes (Snapshot.readMetadata image) ++
    descriptors.toList.flatMap descriptorBytes
  Output.putAll ⟨headerSize, header⟩ (columnsOf image)

/-! ## Places -/

theorem alignUp_eq {place : Nat} (small : Snapshot.alignUp place < wordSize) :
    alignUp place = .ok (Snapshot.alignUp place) := by
  have same : (if place % columnAlignment = 0 then place / columnAlignment
      else place / columnAlignment + 1) * columnAlignment = Snapshot.alignUp place := by
    by_cases whole : place % columnAlignment = 0
    · rw [if_pos whole, Snapshot.alignUp]
      simp only [columnAlignment] at whole ⊢
      omega
    · rw [if_neg whole, Snapshot.alignUp]
      simp only [columnAlignment] at whole ⊢
      omega
  rw [alignUp, mul_of_lt (by rwa [same]), same]

theorem zeros_eq (place : Nat) :
    zeros place (Snapshot.alignUp place) = .ok (gap place).toArray := by
  have le := Snapshot.le_alignUp place
  have short : Snapshot.alignUp place - place ≤ padding.size := by
    have := Snapshot.alignUp_le place
    simp only [padding, Array.size_replicate, columnAlignment]
    omega
  rw [zeros, sub_of_le le, ok_bind, slice_of_le (Nat.zero_le _) short]
  refine congrArg Except.ok (Array.toList_inj.1 ?_)
  rw [padding, Array.size_replicate] at short
  rw [padding, Array.extract_replicate, Array.toList_replicate, gap, Nat.min_eq_left short,
    Nat.sub_zero]

/-- The place behind a column and the gap in front of it. -/
theorem length_bodyFrom_cons (place : Nat) (column : Snapshot.Column)
    (rest : List Snapshot.Column) :
    place + (bodyFrom place (column :: rest)).length = Snapshot.alignUp place + column.byteSize +
      (bodyFrom (Snapshot.alignUp place + column.byteSize) rest).length := by
  have := length_gap place
  rw [bodyFrom, List.length_append, List.length_append, Snapshot.length_columnBytes]
  omega

/-! ## Descriptors -/

/-- The place behind a descriptor is free. -/
theorem store_descriptor (before : List Descriptor) (n : Nat) (d : Descriptor) :
    store (before ++ List.replicate (n + 1) unset).toArray before.length d =
      .ok (before ++ [d] ++ List.replicate n unset).toArray := by
  rw [store_of_lt (by simp)]
  refine congrArg Except.ok ?_
  simp [List.replicate_succ]

/-- The descriptors are stored one behind the other. -/
theorem foldlM_put {columns : List Snapshot.Column} {place : Nat} {before : List Descriptor}
    (small : place + (bodyFrom place columns).length < wordSize) :
    ∃ stop, (columns.zipIdx before.length).foldlM Layout.put
      ⟨place, (before ++ List.replicate columns.length unset).toArray⟩ =
        .ok ⟨stop, (before ++ descriptorsFrom place columns).toArray⟩ := by
  induction columns generalizing place before with
  | nil => exact ⟨place, rfl⟩
  | cons column rest ih =>
    rw [length_bodyFrom_cons] at small
    obtain ⟨stop, whole⟩ := @ih (Snapshot.alignUp place + column.byteSize)
      (before ++ [⟨Snapshot.alignUp place, column.words.size⟩]) (by omega)
    refine ⟨stop, ?_⟩
    have first : Layout.put ⟨place, (before ++ List.replicate (rest.length + 1) unset).toArray⟩
        (column, before.length) = .ok ⟨Snapshot.alignUp place + column.byteSize,
          (before ++ [(⟨Snapshot.alignUp place, column.words.size⟩ : Descriptor)] ++
            List.replicate rest.length unset).toArray⟩ := by
      have aligned : alignUp place = .ok (Snapshot.alignUp place) := alignUp_eq (by omega)
      have sum : add (Snapshot.alignUp place) column.byteSize = .ok _ := add_of_lt (by omega)
      simp only [Layout.put, aligned, ok_bind, store_descriptor, Snapshot.length_columnBytes, sum]
      rfl
    rw [List.zipIdx_cons, List.foldlM_cons, List.length_cons, first, ok_bind]
    rw [List.length_append, List.length_singleton] at whole
    rw [whole, descriptorsFrom, List.append_assoc, List.singleton_append]

theorem layOut_eq {columns : List Snapshot.Column} (count : columns.length = columnCount)
    (small : headerSize + (bodyFrom headerSize columns).length < wordSize) :
    layOut columns = .ok (descriptorsFrom headerSize columns).toArray := by
  obtain ⟨stop, whole⟩ := @foldlM_put columns headerSize [] small
  rw [List.length_nil, List.nil_append, List.nil_append, count, List.toArray_replicate] at whole
  rw [layOut, whole]
  rfl

/-! ## Bytes -/

theorem putAll_eq {columns : List Snapshot.Column} {place : Nat} {bytes : List UInt8}
    (small : place + (bodyFrom place columns).length < wordSize) :
    Output.putAll ⟨place, bytes⟩ columns = .ok (bytes ++ bodyFrom place columns) := by
  induction columns generalizing place bytes with
  | nil =>
    have last : Snapshot.alignUp place < wordSize := by
      rwa [bodyFrom, length_gap] at small
    rw [Output.putAll, List.foldlM_nil, pure_eq_ok, ok_bind, alignUp_eq last, ok_bind, zeros_eq]
    rfl
  | cons column rest ih =>
    rw [length_bodyFrom_cons] at small
    have first : Output.put ⟨place, bytes⟩ column =
        .ok ⟨Snapshot.alignUp place + column.byteSize,
          bytes ++ (gap place ++ columnBytes column)⟩ := by
      have aligned : alignUp place = .ok (Snapshot.alignUp place) := alignUp_eq (by omega)
      have sum : add (Snapshot.alignUp place) column.byteSize = .ok _ := add_of_lt (by omega)
      simp only [Output.put, aligned, zeros_eq, ok_bind, Snapshot.length_columnBytes, sum]
      rfl
    have later := @ih (Snapshot.alignUp place + column.byteSize)
      (bytes ++ (gap place ++ columnBytes column)) (by omega)
    rw [Output.putAll] at later ⊢
    rw [List.foldlM_cons, first, ok_bind, later, bodyFrom]
    simp only [List.append_assoc]

/-- A snapshot of an opened image is written without a fault. -/
theorem encode_eq {image : ByteArray} {path : String} {c : Container}
    (small : image.size < Container.maxFileSize) (shows : Shows path image c) :
    encode image = .ok (Snapshot.encode c).data.toList := by
  have columns : columnsOf image = Snapshot.columns c := shows.decodes.columns.symm
  have size := Snapshot.size_le_maxPlace (Container.Fits.of_shows small shows)
  have small : headerSize + (bodyFrom headerSize (Snapshot.columns c)).length < wordSize :=
    Nat.lt_succ_of_le size
  rw [encode, columns, layOut_eq (Snapshot.length_columns c) small, ok_bind, putAll_eq small,
    Snapshot.toList_encode, ← shows.metadata]
  rfl

end TransitStore.Guarded
