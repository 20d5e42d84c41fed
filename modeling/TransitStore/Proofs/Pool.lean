import Mathlib
import TransitStore.Pool
import TransitStore.Proofs.Edit
import TransitStore.Proofs.Span

/-!
# Texts of the pool

A text that is put in the pool has a zero byte behind it, and is read back from its
place up to the first zero byte, which is the text up to its first zero character
(`stands_of_intern`, `Stands.text?_eq`).  Where no text stands, none is read
(`text?_eq_some_iff`).  Bytes only ever come behind those that are there, so what stands
at a place goes on standing there (`Stands.mono`).
-/

namespace TransitStore

/-- A text up to its first zero character. -/
def Text.untilZero (s : String) : String :=
  String.ofList (s.toList.takeWhile (· ≠ '\x00'))

/-- A text without a zero character is not cut. -/
theorem Text.untilZero_eq {s : String} (free : '\x00' ∉ s.toList) : Text.untilZero s = s := by
  have whole : s.toList.takeWhile (· ≠ '\x00') = s.toList := by
    rw [List.takeWhile_eq_self_iff]
    intro c mem
    simpa using fun zero : c = '\x00' => free (zero ▸ mem)
  rw [Text.untilZero, whole, String.ofList_toList]

/-! ## Bytes of texts -/

namespace Text

theorem zero_not_mem_utf8EncodeChar {c : Char} (other : c ≠ '\x00') :
    0 ∉ String.utf8EncodeChar c := by
  have positive : c.toNat ≠ 0 := fun zero => other (Char.toNat_inj.1 zero)
  have value : c.val.toNat = c.toNat := rfl
  intro mem
  unfold String.utf8EncodeChar at mem
  dsimp only at mem
  split_ifs at mem <;> simp [← UInt8.toNat_inj] at mem <;> omega

/-- The bytes of a text. -/
def bytes (s : String) : List UInt8 := s.toUTF8.data.toList

theorem bytes_ofList (l : List Char) :
    bytes (String.ofList l) = l.flatMap String.utf8EncodeChar := by
  simp [bytes, List.utf8Encode]

theorem zero_not_mem_bytes_untilZero (s : String) : 0 ∉ bytes (untilZero s) := by
  rw [untilZero, bytes_ofList]
  intro mem
  obtain ⟨c, inside, mem⟩ := List.mem_flatMap.1 mem
  have other : c ≠ '\x00' := by simpa using List.mem_takeWhile_imp inside
  exact zero_not_mem_utf8EncodeChar other mem

/-- With a zero byte behind it, a text starts with what comes before its first zero
character, and a zero byte follows. -/
theorem bytes_append_zero (s : String) :
    ∃ rest, bytes s ++ [0] = bytes (untilZero s) ++ 0 :: rest := by
  rw [untilZero, bytes_ofList, ← String.ofList_toList (s := s), bytes_ofList,
    String.toList_ofList]
  induction s.toList with
  | nil => exact ⟨[], rfl⟩
  | cons c l ih =>
    by_cases zero : c = '\x00'
    · subst zero
      exact ⟨_, rfl⟩
    · obtain ⟨rest, same⟩ := ih
      refine ⟨rest, ?_⟩
      rw [List.takeWhile_cons_of_pos (by simpa using zero), List.flatMap_cons, List.flatMap_cons,
        List.append_assoc, List.append_assoc, same]

end Text

namespace Pool

variable {pool grown : Pool} {place : UInt32} {s text : String}

/-! ## Places -/

theorem size_le_of_roomFor [Memory] {count : Nat} {storage : Storage}
    (h : pool.roomFor count = .ok storage) : pool.size + count ≤ maxSize := by
  simp only [roomFor] at h
  split at h
  · cases h
  · split at h
    · cases h
    · rename_i short
      exact Nat.not_lt.1 short

/-- A text is put behind the bytes of a pool, at the place where the pool ended. -/
theorem intern_eq_ok [Memory] {s : String} (h : intern s pool = .ok place grown) :
    place.toNat = pool.size ∧ pool.size < grown.size ∧ grown.size ≤ maxSize := by
  obtain ⟨rfl, values⟩ := append_eq_ok h
  have size : grown.size = pool.size + (s.toUTF8.data.push 0).size := by
    simp only [Pool.size, Column.size, values, Array.size_append]
  have room : pool.size + (s.toUTF8.data.push 0).size ≤ maxSize := by
    cases hroom : pool.roomFor (s.toUTF8.data.push 0).size with
    | error e =>
      simp only [intern, append, hroom] at h
      cases h
    | ok storage => exact size_le_of_roomFor hroom
  rw [← size] at room
  rw [Array.size_push] at size
  have small : pool.size < UInt32.size := by
    have : maxSize < UInt32.size := by decide
    omega
  exact ⟨UInt32.toNat_ofNat_of_lt' small, by omega, room⟩

/-- Texts go to a pool alike if its column gets the same room. -/
theorem intern_congr {memory other : Memory}
    (same : ∀ count, memory.has ⟨columnName, count, 1⟩ = other.has ⟨columnName, count, 1⟩)
    (s : String) : @intern memory s = @intern other s := by
  have met (count : Nat) :
      @Demand.isMet memory ⟨columnName, count, 1⟩ = @Demand.isMet other ⟨columnName, count, 1⟩ := by
    simp only [Demand.isMet, Demand.isGiven, same]
  funext pool
  simp only [intern, append, roomFor, Storage.reserve, met]

theorem keeps_intern [Memory] (s : String) :
    Edit.Keeps (fun pool => pool.size ≤ maxSize) (intern s) := by
  intro pool short
  cases h : intern s pool with
  | ok place grown =>
    rw [Edit.after_of_ok h]
    exact (intern_eq_ok h).2.2
  | error e left =>
    rw [Edit.after_of_error h, (append_eq_error h).1]
    exact short

/-! ## Texts at places -/

/-- The bytes of a text stand at a place, and the first zero byte stands behind them. -/
def Stands (pool : Pool) (place : UInt32) (text : String) : Prop :=
  0 ∉ Text.bytes text ∧ ∃ front rest, front.length = place.toNat ∧
    pool.bytes.values.toList = front ++ (Text.bytes text ++ 0 :: rest)

/-- The bytes of one pool come before those that another one has besides. -/
def Prefix (small large : Pool) : Prop :=
  small.bytes.values.toList <+: large.bytes.values.toList

theorem Prefix.refl (pool : Pool) : Prefix pool pool := List.prefix_refl _

theorem Prefix.trans {middle : Pool} (first : Prefix pool middle) (second : Prefix middle grown) :
    Prefix pool grown :=
  List.IsPrefix.trans first second

theorem Prefix.size_le (more : Prefix pool grown) : pool.size ≤ grown.size :=
  List.IsPrefix.length_le more

/-- A text takes at least its zero byte. -/
theorem Stands.lt_size (stands : pool.Stands place text) : place.toNat < pool.size := by
  obtain ⟨-, front, rest, length, bytes⟩ := stands
  rw [← length, Pool.size, Column.size, ← Array.length_toList, bytes, List.length_append,
    List.length_append, List.length_cons]
  omega

theorem Stands.mono (stands : pool.Stands place text) (more : Prefix pool grown) :
    grown.Stands place text := by
  obtain ⟨free, front, rest, length, bytes⟩ := stands
  obtain ⟨tail, more⟩ := more
  refine ⟨free, front, rest ++ tail, length, ?_⟩
  rw [← more, bytes, List.append_assoc, List.append_assoc, List.cons_append]

/-- The zero byte behind bytes without one is found from where these start. -/
theorem zeroAmong_eq {bytes : Array UInt8} {front text rest : List UInt8} {count : Nat}
    (free : 0 ∉ text) (same : bytes.toList = front ++ (text ++ 0 :: rest))
    (long : text.length < count) :
    zeroAmong bytes count front.length = some (front.length + text.length) := by
  induction text generalizing front count with
  | nil =>
    obtain ⟨count, rfl⟩ := Nat.exists_eq_succ_of_ne_zero (Nat.ne_zero_of_lt long)
    have at_ : bytes[front.length]? = some 0 := by
      rw [← Array.getElem?_toList, same]
      simp
    rw [zeroAmong, if_pos at_]
    rfl
  | cons byte text ih =>
    obtain ⟨count, rfl⟩ := Nat.exists_eq_succ_of_ne_zero (Nat.ne_zero_of_lt long)
    obtain ⟨first, others⟩ := List.ne_and_not_mem_of_not_mem_cons free
    have at_ : bytes[front.length]? = some byte := by
      rw [← Array.getElem?_toList, same]
      simp
    have same' : bytes.toList = (front ++ [byte]) ++ (text ++ 0 :: rest) := by simpa using same
    have later := ih others same' (Nat.lt_of_succ_lt_succ long)
    rw [List.length_append, List.length_singleton] at later
    rw [zeroAmong, if_neg, later, List.length_cons]
    · congr 1
      omega
    · rw [at_]
      exact fun same => first (Option.some.inj same).symm

/-- A zero byte that is found is the first one from where the search starts. -/
theorem exists_split_of_zeroAmong {bytes : Array UInt8} {count place finish : Nat}
    (h : zeroAmong bytes count place = some finish) :
    ∃ front text rest, front.length = place ∧ front.length + text.length = finish ∧ 0 ∉ text ∧
      bytes.toList = front ++ (text ++ 0 :: rest) := by
  induction count generalizing place with
  | zero => cases h
  | succ count ih =>
    rw [zeroAmong] at h
    split at h
    next zero =>
      cases h
      rw [← Array.getElem?_toList] at zero
      obtain ⟨front, rest, same, length⟩ := exists_split_of_getElem? zero
      exact ⟨front, [], rest, length, length, List.not_mem_nil, same⟩
    next other =>
      obtain ⟨front, text, rest, length, finish, free, same⟩ := ih h
      -- The byte that was passed over goes from the front to the text.
      rcases List.eq_nil_or_concat' front with rfl | ⟨front, byte, rfl⟩
      · cases length
      rw [List.length_append, List.length_singleton, Nat.succ_inj] at length
      subst length
      have first : byte ≠ 0 := by
        rintro rfl
        refine other ?_
        rw [← Array.getElem?_toList, same]
        simp
      refine ⟨front, byte :: text, rest, rfl, ?_, ?_, ?_⟩
      · rw [← finish, List.length_append, List.length_cons, List.length_singleton]
        omega
      · exact List.not_mem_cons_of_ne_of_not_mem first.symm free
      · rw [same, List.append_assoc, List.cons_append]
        rfl

/-- The text that stands at a place is read there. -/
theorem Stands.text?_eq (stands : pool.Stands place text) : pool.text? place = some text := by
  obtain ⟨free, front, rest, length, bytes⟩ := stands
  have size : pool.size = front.length + ((Text.bytes text).length + (rest.length + 1)) := by
    rw [Pool.size, Column.size, ← Array.length_toList, bytes, List.length_append,
      List.length_append, List.length_cons]
  have long : (Text.bytes text).length < pool.size - front.length := by omega
  have found := zeroAmong_eq free bytes long
  have inside : pool.bytes.values.extract front.length (front.length + (Text.bytes text).length) =
      text.toUTF8.data := by
    apply Array.toList_inj.1
    rw [Array.toList_extract, bytes]
    simp [Text.bytes]
  simp only [text?, ← length, found, inside]
  exact dif_pos text.isValidUTF8

/-- A text is read at a place exactly if it stands there. -/
theorem text?_eq_some_iff : pool.text? place = some s ↔ pool.Stands place s := by
  refine ⟨fun read => ?_, Stands.text?_eq⟩
  simp only [text?] at read
  split at read
  · cases read
  next finish found =>
    obtain ⟨front, text, rest, length, rfl, free, same⟩ := exists_split_of_zeroAmong found
    have inside : pool.bytes.values.extract place.toNat (front.length + text.length) =
        text.toArray := by
      apply Array.toList_inj.1
      rw [Array.toList_extract, same, ← length]
      simp
    rw [inside, String.fromUTF8?] at read
    split at read
    · cases read
      exact ⟨free, front, rest, length, same⟩
    · cases read

theorem prefix_of_append [Memory] {more : Array UInt8} (h : append more pool = .ok place grown) :
    Prefix pool grown := by
  obtain ⟨-, values⟩ := append_eq_ok h
  rw [Prefix, values, Array.toList_append]
  exact List.prefix_append _ _

theorem prefix_of_intern [Memory] (h : intern s pool = .ok place grown) : Prefix pool grown :=
  prefix_of_append h

theorem prefix_after_append [Memory] (more : Array UInt8) (pool : Pool) :
    Prefix pool ((append more).after pool) := by
  cases run : append more pool with
  | ok place grown =>
    rw [Edit.after_of_ok run]
    exact prefix_of_append run
  | error e left =>
    rw [Edit.after_of_error run, (append_eq_error run).1]
    exact .refl pool

/-- The bytes of a pool stay when texts are put in it, whether that fails or not. -/
theorem keeps_prefix_intern [Memory] (pool : Pool) (s : String) :
    Edit.Keeps (Prefix pool) (intern s) :=
  fun _ before => before.trans (prefix_after_append _ _)

/-- A text that was put in the pool stands at its place, up to its first zero character. -/
theorem stands_of_intern [Memory] (h : intern s pool = .ok place grown) :
    grown.Stands place (Text.untilZero s) := by
  obtain ⟨-, values⟩ := append_eq_ok h
  obtain ⟨rest, same⟩ := Text.bytes_append_zero s
  refine ⟨Text.zero_not_mem_bytes_untilZero s, pool.bytes.values.toList, rest, ?_, ?_⟩
  · exact (intern_eq_ok h).1.symm
  · rw [values, Array.toList_append, Array.toList_push, ← same]
    rfl

/-- Texts that were put in the pool one after the other all stand at their places. -/
theorem mapM_intern_eq_ok [Memory] {texts : List String} {places : List UInt32}
    (h : texts.mapM intern pool = .ok places grown) :
    Prefix pool grown ∧
      List.Forall₂ (fun s place => grown.Stands place (Text.untilZero s)) texts places := by
  induction texts generalizing pool places with
  | nil =>
    obtain ⟨rfl, rfl⟩ := Edit.mapM_nil_eq_ok.1 h
    exact ⟨.refl pool, .nil⟩
  | cons text texts ih =>
    obtain ⟨place, middle, rest, first, last, rfl⟩ := Edit.mapM_cons_eq_ok.1 h
    obtain ⟨more, stand⟩ := ih last
    exact ⟨(prefix_of_intern first).trans more, .cons ((stands_of_intern first).mono more) stand⟩

end Pool

end TransitStore
