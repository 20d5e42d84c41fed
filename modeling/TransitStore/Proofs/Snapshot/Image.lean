import Mathlib
import TransitStore.Snapshot.Reader

/-!
# What an image says

The words of an image by the bytes they are made of, without the checks that the
reader makes.  A column is read exactly if its descriptor fits the image
(`ColumnFits`), and its elements are the words that stand there
(`readColumn_eq_ok`).
-/

namespace TransitStore.Snapshot

open LittleEndian (value wordCount)

/-- The bytes of an image from a place on. -/
def bytesAt (image : ByteArray) (place size : Nat) : List UInt8 :=
  (image.data.toList.drop place).take size

/-- The word that stands at a place of an image. -/
def wordOf (image : ByteArray) (place size : Nat) : Nat := value (bytesAt image place size)

/-- The descriptor that stands in an image's header for a column. -/
def descriptorOf (image : ByteArray) (number : Nat) : Descriptor where
  offset := wordOf image (descriptorStart + number * descriptorSize) 8
  count := wordOf image (descriptorStart + number * descriptorSize + 8) 8

/-- The word that stands at the place of an element of a column. -/
def elementOf (image : ByteArray) (type : CellType) (d : Descriptor) (i : Nat) : Nat :=
  wordOf image (d.offset + i * type.size) type.size

/-- The words of a column by its descriptor. -/
def elements (image : ByteArray) (type : CellType) (d : Descriptor) : Array Nat :=
  Array.ofFn fun i : Fin d.count => elementOf image type d i

@[simp] theorem size_elements (image : ByteArray) (type : CellType) (d : Descriptor) :
    (elements image type d).size = d.count := by
  simp [elements]

/-- The place where a column ends. -/
def Descriptor.finish (d : Descriptor) (type : CellType) : Nat := d.offset + d.count * type.size

/-- A descriptor shows a column of elements of a type that lies inside an image, and
all its places are numbers of 64 bits. -/
structure ColumnFits (image : ByteArray) (type : CellType) (d : Descriptor) : Prop where
  /-- The bytes of the column can be counted. -/
  size_le : d.count * type.size ≤ maxPlace
  /-- The column's end can be counted. -/
  finish_le : d.finish type ≤ maxPlace
  /-- The column ends inside the image. -/
  inside : d.finish type ≤ image.size
  /-- The column starts where its elements can be read. -/
  aligned : type.alignment ∣ d.offset

theorem length_toList (image : ByteArray) : image.data.toList.length = image.size := rfl

theorem length_bytesAt {image : ByteArray} {place size : Nat} (inside : place + size ≤ image.size) :
    (bytesAt image place size).length = size := by
  simp only [bytesAt, List.length_take, List.length_drop, length_toList]
  omega

theorem wordOf_lt (image : ByteArray) (place size : Nat) (inside : place + size ≤ image.size) :
    wordOf image place size < wordCount size := by
  have lt := LittleEndian.value_lt (bytesAt image place size)
  rwa [length_bytesAt inside] at lt

theorem wordAt_eq {image : ByteArray} {place size : Nat} (inside : place + size ≤ image.size) :
    wordAt image place size = wordOf image place size := by
  rw [wordAt, dif_pos inside, LittleEndian.read_eq]
  rfl

theorem readDescriptor_eq {image : ByteArray} {number : Nat}
    (inside : descriptorStart + (number + 1) * descriptorSize ≤ image.size) :
    readDescriptor image number = descriptorOf image number := by
  simp only [descriptorStart, descriptorSize] at inside
  simp only [readDescriptor, descriptorOf, descriptorStart, descriptorSize, Descriptor.mk.injEq]
  exact ⟨wordAt_eq (by omega), wordAt_eq (by omega)⟩

/-- A column is read exactly if its descriptor fits, and as it stands there. -/
theorem readColumn_eq_ok {image : ByteArray} {spec : ColumnSpec} {d : Descriptor}
    {words : Array Nat} :
    readColumn image spec d = .ok words ↔
      ColumnFits image spec.type d ∧ words = elements image spec.type d := by
  constructor
  · intro h
    simp only [readColumn] at h
    split at h
    · cases h
    · rename_i small
      split at h
      · rename_i inside
        split at h
        · cases h
        · rename_i aligned
          obtain ⟨size_le, finish_le⟩ := not_or.1 small
          cases h
          refine ⟨⟨Nat.not_lt.1 size_le, Nat.not_lt.1 finish_le, inside,
            Nat.dvd_of_mod_eq_zero (not_not.1 aligned)⟩, ?_⟩
          simp only [LittleEndian.read_eq]
          rfl
      · cases h
  · rintro ⟨fits, rfl⟩
    have small : ¬(maxPlace < d.count * spec.type.size ∨
        maxPlace < d.offset + d.count * spec.type.size) :=
      not_or.2 ⟨Nat.not_lt.2 fits.size_le, Nat.not_lt.2 fits.finish_le⟩
    have aligned : ¬d.offset % spec.type.alignment ≠ 0 :=
      not_not.2 (Nat.mod_eq_zero_of_dvd fits.aligned)
    have inside : d.offset + d.count * spec.type.size ≤ image.size := fits.inside
    simp only [readColumn]
    rw [if_neg small, dif_pos inside, if_neg aligned]
    simp only [LittleEndian.read_eq]
    rfl

theorem lt_wordCount_of_readColumn {image : ByteArray} {spec : ColumnSpec} {d : Descriptor}
    {words : Array Nat} (h : readColumn image spec d = .ok words) :
    ∀ word ∈ words, word < wordCount spec.type.size := by
  obtain ⟨fits, rfl⟩ := readColumn_eq_ok.1 h
  intro word mem
  obtain ⟨i, rfl⟩ := Array.mem_ofFn.1 mem
  exact wordOf_lt image _ _ (element_inside i.isLt fits.inside)

end TransitStore.Snapshot
