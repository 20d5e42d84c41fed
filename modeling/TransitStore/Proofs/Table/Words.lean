import Mathlib
import TransitStore.Network.JourneyPattern
import TransitStore.Network.Line
import TransitStore.Network.Stop
import TransitStore.Network.VehicleJourney

/-!
# Values, records and their words

A value of an element type is one word of the type's size, and a record is one
word for each of its fields.  `LawfulCell` and `LawfulRecord` say that nothing is
lost either way: a value is the value of its word, and the word of a value read
from a word is that word, cut to the size of the type.

A table is read from the columns of a snapshot exactly if they are the columns of
its records (`ofColumns?_eq_ok`).
-/

namespace TransitStore

open LittleEndian (wordCount)

namespace LittleEndian

theorem wordCount_pos (size : Nat) : 0 < wordCount size := by
  induction size with
  | zero => decide
  | succ size ih =>
    rw [wordCount]
    omega

end LittleEndian

/-! ## Values -/

/-- Values and their words stand for each other. -/
class LawfulCell (α : Type) [Cell α] : Prop where
  /-- The value of a word has the part of the word that fits its type. -/
  toWord_ofWord (n : Nat) : Cell.toWord (Cell.ofWord n : α) = n % wordCount (Cell.type α).size
  /-- A value is the value of its word. -/
  ofWord_toWord (a : α) : Cell.ofWord (Cell.toWord a) = a

instance : LawfulCell UInt8 where
  toWord_ofWord _ := rfl
  ofWord_toWord _ := UInt8.ofNat_toNat

instance : LawfulCell UInt16 where
  toWord_ofWord _ := rfl
  ofWord_toWord _ := UInt16.ofNat_toNat

instance : LawfulCell UInt32 where
  toWord_ofWord _ := rfl
  ofWord_toWord _ := UInt32.ofNat_toNat

instance : LawfulCell Int8 where
  toWord_ofWord _ := rfl
  ofWord_toWord a := by
    show (UInt8.ofNat a.toUInt8.toNat).toInt8 = a
    rw [UInt8.ofNat_toNat]
    rfl

instance : LawfulCell Coordinate where
  toWord_ofWord n := by
    show (UInt32.ofNat n).toNat + UInt32.size * (UInt32.ofNat (n / UInt32.size)).toNat =
      n % (UInt32.size * UInt32.size)
    rw [Nat.mod_mul]
    rfl
  ofWord_toWord a := by
    have low := a.latitude.toNat_lt_size
    show Coordinate.mk (UInt32.ofNat (a.latitude.toNat + UInt32.size * a.longitude.toNat))
      (UInt32.ofNat ((a.latitude.toNat + UInt32.size * a.longitude.toNat) / UInt32.size)) = a
    rw [Nat.add_mul_div_left _ _ (by decide), Nat.div_eq_of_lt low, Nat.zero_add,
      UInt32.ofNat_toNat]
    congr 1
    apply UInt32.toNat_inj.1
    rw [UInt32.toNat_ofNat', Nat.add_mul_mod_self_left, Nat.mod_eq_of_lt low]

instance : LawfulCell JourneyRef where
  toWord_ofWord n := by
    show (UInt16.ofNat n).toNat + UInt16.size * (UInt16.ofNat (n / UInt16.size)).toNat =
      n % (UInt16.size * UInt16.size)
    rw [Nat.mod_mul]
    rfl
  ofWord_toWord a := by
    have low := a.pattern.toNat_lt_size
    show JourneyRef.mk (UInt16.ofNat (a.pattern.toNat + UInt16.size * a.offset.toNat))
      (UInt16.ofNat ((a.pattern.toNat + UInt16.size * a.offset.toNat) / UInt16.size)) = a
    rw [Nat.add_mul_div_left _ _ (by decide), Nat.div_eq_of_lt low, Nat.zero_add,
      UInt16.ofNat_toNat]
    congr 1
    apply UInt16.toNat_inj.1
    rw [UInt16.toNat_ofNat', Nat.add_mul_mod_self_left, Nat.mod_eq_of_lt low]

namespace LawfulCell

variable {α : Type} [Cell α] [LawfulCell α]

theorem toWord_lt (a : α) : Cell.toWord a < wordCount (Cell.type α).size := by
  rw [← ofWord_toWord a, toWord_ofWord]
  exact Nat.mod_lt _ (LittleEndian.wordCount_pos _)

theorem map_ofWord_toWord (values : Array α) :
    (values.map Cell.toWord).map Cell.ofWord = values := by
  rw [Array.map_map]
  exact Array.map_id'' ofWord_toWord values

theorem map_toWord_ofWord {words : Array Nat}
    (fit : ∀ word ∈ words, word < wordCount (Cell.type α).size) :
    (words.map (Cell.ofWord : Nat → α)).map Cell.toWord = words := by
  apply Array.ext
  · simp
  · intro i _ hi
    simp only [Array.getElem_map]
    rw [toWord_ofWord]
    exact Nat.mod_eq_of_lt (fit _ (Array.getElem_mem hi))

end LawfulCell

/-! ## Records -/

/-- Records and the words of their fields stand for each other.  A record whose
fields are parts of lawful types has both laws by computation. -/
class LawfulRecord (ρ : Type) [Record ρ] : Prop where
  /-- A record has fields. -/
  fields_ne_nil : (Record.fields : List (Field ρ)) ≠ [] := by exact List.cons_ne_nil _ _
  /-- The columns have different names, and none has that of the texts. -/
  columnNames_nodup :
    (Pool.columnName :: (Record.fields : List (Field ρ)).map (·.columnName)).Nodup := by decide
  /-- Each field of a record made of words has the word of its place, cut to its size. -/
  words_ofWords (w : Nat → Nat) :
    ((Record.fields : List (Field ρ)).map fun f => f.word (Record.ofWords w)) =
      (Record.fields : List (Field ρ)).zipIdx.map fun (f, j) => w j % wordCount f.type.size := by
    intro w
    simp [Record.fields, Record.ofWords, Field.of, LawfulCell.toWord_ofWord]
  /-- A record is the record of its words. -/
  ofWords_words (r : ρ) :
    Record.ofWords (fun j => (((Record.fields : List (Field ρ)).map (·.word r))[j]?).getD 0) =
      r := by
    intro r
    simp [Record.fields, Record.ofWords, Field.of, LawfulCell.ofWord_toWord]

instance : LawfulRecord StopArea := {}
instance : LawfulRecord StopPoint := {}
instance : LawfulRecord Transfer := {}
instance : LawfulRecord Operator := {}
instance : LawfulRecord PhysicalMode := {}
instance : LawfulRecord CommercialMode := {}
instance : LawfulRecord Line := {}
instance : LawfulRecord Route := {}
instance : LawfulRecord JourneyPatternPoint := {}
instance : LawfulRecord JourneyPattern := {}
instance : LawfulRecord StopTime := {}
instance : LawfulRecord VehicleJourney := {}
instance : LawfulRecord JourneyRef := {}

section

variable {ρ : Type} [Record ρ]

section

variable [LawfulRecord ρ]

/-- The field of a place reads the word of that place. -/
theorem Field.word_ofWords {f : Field ρ} {j : Nat}
    (at_ : (Record.fields : List (Field ρ))[j]? = some f) (w : Nat → Nat) :
    f.word (Record.ofWords w) = w j % wordCount f.type.size := by
  have words := congrArg (·[j]?) (LawfulRecord.words_ofWords (ρ := ρ) w)
  simpa only [List.getElem?_map, List.getElem?_zipIdx, at_, Option.map_some, Option.some.injEq,
    Nat.zero_add] using words

theorem Field.word_lt {f : Field ρ} (mem : f ∈ (Record.fields : List (Field ρ))) (r : ρ) :
    f.word r < wordCount f.type.size := by
  obtain ⟨j, at_⟩ := List.mem_iff_getElem?.1 mem
  rw [← LawfulRecord.ofWords_words r, Field.word_ofWords at_]
  exact Nat.mod_lt _ (LittleEndian.wordCount_pos _)

end

namespace Table

/-- A column of as many rows as there are numbers for has eight bytes for each number of 32 bits
at most. -/
theorem mul_size_le {count : Nat} (le : count ≤ maxRows ρ) (f : Field ρ) :
    count * f.type.size ≤ 4294967295 * 8 := by
  have rows : maxRows ρ ≤ 4294967295 := by
    rw [maxRows]
    cases Record.width ρ <;> decide
  have size : f.type.size ≤ 8 := by cases f.type <;> decide
  exact Nat.mul_le_mul (le.trans rows) size

/-- The columns of a table, each a sequence of words. -/
def words (t : Table ρ) : List (Array Nat) :=
  (Record.fields : List (Field ρ)).map fun f => t.rows.map f.word

/-- There is a column for each field, and its elements fit the field. -/
def WordsFit (ρ : Type) [Record ρ] (columns : List (Array Nat)) : Prop :=
  List.Forall₂ (fun (f : Field ρ) column => ∀ word ∈ column, word < wordCount f.type.size)
    Record.fields columns

/-- The rows that are read from columns of a length. -/
def rowsOf (ρ : Type) [Record ρ] (columns : List (Array Nat)) (count : Nat) : Array ρ :=
  Array.ofFn fun row : Fin count =>
    Record.ofWords fun j => (columns[j]?.bind fun column => column[row.val]?).getD 0

/-- Columns of one length are read as a table unless it is too long. -/
theorem ofColumns?_of_sizes {columns : List (Array Nat)} {count : Nat} (some_ : columns ≠ [])
    (sizes : ∀ column ∈ columns, column.size = count) :
    (ofColumns? columns.toArray : Except Malformation (Table ρ)) =
      if maxRows ρ < count then .error (.tooManyRows (Record.label ρ) count)
      else .ok ⟨rowsOf ρ columns count, .mapped⟩ := by
  obtain ⟨first, rest, rfl⟩ := List.exists_cons_of_ne_nil some_
  have head : (((first :: rest).toArray.map Array.size)[0]?).getD 0 = count := by
    simpa using sizes first (.head _)
  have equal : ((first :: rest).toArray.map Array.size).any (· ≠ count) = false := by
    simpa using sizes
  rw [ofColumns?, head, if_neg (by rw [equal]; decide)]
  simp only [List.getElem?_toArray, rowsOf]

theorem sizes_of_ofColumns? {columns : List (Array Nat)} {t : Table ρ}
    (h : ofColumns? columns.toArray = .ok t) :
    ∃ count, ∀ column ∈ columns, column.size = count := by
  simp only [ofColumns?] at h
  split at h
  · cases h
  · rename_i equal
    generalize ((columns.toArray.map Array.size)[0]?).getD 0 = count at equal
    exact ⟨count, by simpa using equal⟩

variable [LawfulRecord ρ]

/-- Columns that fit are the columns of the records that are read from them. -/
theorem words_rowsOf {columns : List (Array Nat)} {count : Nat} {storage : Storage}
    (fit : WordsFit ρ columns) (sizes : ∀ column ∈ columns, column.size = count) :
    words (⟨rowsOf ρ columns count, storage⟩ : Table ρ) = columns := by
  apply List.ext_getElem
  · simpa [words] using fit.length_eq
  · intro j hf hj
    have hf : j < (Record.fields : List (Field ρ)).length := by simpa [words] using hf
    have size : columns[j].size = count := sizes _ (List.getElem_mem hj)
    simp only [words, List.getElem_map]
    apply Array.ext
    · simp [rowsOf, size]
    · intro i _ hi
      have inside := fit.get hf hj columns[j][i] (Array.getElem_mem hi)
      simp only [rowsOf, Array.getElem_map, Array.getElem_ofFn]
      rw [Field.word_ofWords (List.getElem?_eq_getElem hf), List.getElem?_eq_getElem hj,
        Option.bind_some, Array.getElem?_eq_getElem hi, Option.getD_some]
      exact Nat.mod_eq_of_lt inside

theorem rowsOf_words (t : Table ρ) : rowsOf ρ t.words t.size = t.rows := by
  apply Array.ext
  · simp [rowsOf, size]
  · intro i _ hi
    have row : (fun j : Nat => (t.words[j]?.bind fun column => column[i]?).getD 0) =
        fun j => (((Record.fields : List (Field ρ)).map (·.word t.rows[i]))[j]?).getD 0 := by
      funext j
      simp only [words, List.getElem?_map]
      cases (Record.fields : List (Field ρ))[j]? with
      | none => rfl
      | some f => simp [hi]
    simp only [rowsOf, Array.getElem_ofFn, row, LawfulRecord.ofWords_words]

/-- A table is read from columns that fit exactly if they are its columns and it is
not too long. -/
theorem ofColumns?_eq_ok {columns : List (Array Nat)} (fit : WordsFit ρ columns) {t : Table ρ} :
    ofColumns? columns.toArray = .ok t ↔
      t.storage = .mapped ∧ t.size ≤ maxRows ρ ∧ columns = t.words := by
  have some_ : columns ≠ [] := by
    intro empty
    subst empty
    exact LawfulRecord.fields_ne_nil (List.forall₂_nil_right_iff.1 fit)
  constructor
  · intro h
    obtain ⟨count, sizes⟩ := sizes_of_ofColumns? h
    rw [ofColumns?_of_sizes some_ sizes] at h
    split at h
    · cases h
    · cases h
      refine ⟨rfl, ?_, (words_rowsOf fit sizes).symm⟩
      simpa [size, rowsOf] using Nat.le_of_not_lt ‹_›
  · rintro ⟨mapped, short, rfl⟩
    have sizes : ∀ column ∈ t.words, column.size = t.size := by
      simp [words, size]
    rw [ofColumns?_of_sizes some_ sizes, if_neg (Nat.not_lt.2 short), rowsOf_words, ← mapped]

end Table

end

end TransitStore
