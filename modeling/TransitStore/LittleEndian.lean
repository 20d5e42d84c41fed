/-!
# Little-endian words

Every number in a snapshot is a word of a fixed number of bytes, lowest byte
first.  `bytes` and `value` say this for lists.  `push` and `read` do the same
at the end of a byte array and at a place inside one, and `toList_push` and
`read_eq` relate the two.
-/

namespace TransitStore.LittleEndian

/-- The `size` lowest bytes of a word, lowest first. -/
def bytes : (size word : Nat) → List UInt8
  | 0, _ => []
  | size + 1, word => UInt8.ofNat word :: bytes size (word / 256)

/-- The word with the given bytes. -/
def value : List UInt8 → Nat
  | [] => 0
  | b :: rest => b.toNat + 256 * value rest

/-- How many words of `size` bytes there are. -/
def wordCount : (size : Nat) → Nat
  | 0 => 1
  | size + 1 => 256 * wordCount size

@[simp] theorem length_bytes (size word : Nat) : (bytes size word).length = size := by
  induction size generalizing word with
  | zero => rfl
  | succ size ih => simp [bytes, ih]

theorem value_bytes (size word : Nat) : value (bytes size word) = word % wordCount size := by
  induction size generalizing word with
  | zero => simp [bytes, value, wordCount, Nat.mod_one]
  | succ size ih =>
    have low : (UInt8.ofNat word).toNat = word % 256 := rfl
    rw [bytes, value, ih, low, wordCount, Nat.mod_mul]

theorem value_lt (bs : List UInt8) : value bs < wordCount bs.length := by
  induction bs with
  | nil => simp [value, wordCount]
  | cons b bs ih =>
    have hb : b.toNat < 256 := b.toNat_lt
    simp only [value, List.length_cons, wordCount]
    omega

/-- Writes a word at the end of a byte array. -/
def push (out : ByteArray) : (size word : Nat) → ByteArray
  | 0, _ => out
  | size + 1, word => push (out.push (UInt8.ofNat word)) size (word / 256)

theorem toList_push (out : ByteArray) (size word : Nat) :
    (push out size word).data.toList = out.data.toList ++ bytes size word := by
  induction size generalizing out word with
  | zero => simp [push, bytes]
  | succ size ih => simp [push, bytes, ih, ByteArray.data_push]

/-- Reads a word at a place of a byte array that has all its bytes. -/
def read (image : ByteArray) (place : Nat) :
    (size : Nat) → (h : place + size ≤ image.size) → Nat
  | 0, _ => 0
  | size + 1, h =>
    have : place < image.size := by omega
    image[place].toNat + 256 * read image (place + 1) size (by omega)

theorem read_eq (image : ByteArray) (place size : Nat) (h : place + size ≤ image.size) :
    read image place size h = value ((image.data.toList.drop place).take size) := by
  induction size generalizing place with
  | zero => simp [read, value]
  | succ size ih =>
    have hp : place < image.data.toList.length := by
      have : image.data.toList.length = image.size := rfl
      omega
    rw [read, ih, List.drop_eq_getElem_cons hp, List.take_succ_cons, value]
    rfl

end TransitStore.LittleEndian
