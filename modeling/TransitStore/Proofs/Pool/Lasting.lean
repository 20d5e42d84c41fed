import Mathlib
import TransitStore.Proofs.Container.Room

/-!
# Places that last

Bytes are put in a pool as they are or as texts with a zero byte behind them, and room is
made for more of either.  Each such call leaves the pool as it is, changes its storage
only, or puts its bytes behind those there are (`does`), so a sequence of calls never
moves or rewrites a byte (`prefix_run`).  What a call put in the pool is read at the place
it gave as long as the pool grows (`lasting`).
-/

namespace TransitStore.Pool

variable {pool grown left : Pool} {place : UInt32}

/-- A call that makes a pool grow. -/
inductive Call where
  /-- Adds bytes as they are. -/
  | add (bytes : Array UInt8)
  /-- Adds a text with a zero byte behind it. -/
  | intern (text : String)
  /-- Makes room for so many bytes in all. -/
  | ensureCapacity (target : Nat)
deriving DecidableEq

namespace Call

/-- The bytes that a call adds. -/
def bytes : Call → Array UInt8
  | add bytes => bytes
  | intern text => text.toUTF8.data.push 0
  | ensureCapacity _ => #[]

/-- A call gives a place, or none. -/
def edit : Call → Edit Pool (Option UInt32)
  | add bytes => Pool.add bytes
  | intern text => some <$> Pool.intern text
  | ensureCapacity target => (fun _ => none) <$> Pool.ensureCapacity target

end Call

/-- A pool behind some calls, of which any may fail. -/
def run (pool : Pool) (calls : List Call) : Pool :=
  calls.foldl (fun pool call => call.edit.after pool) pool

@[simp] theorem run_nil (pool : Pool) : pool.run [] = pool := rfl

@[simp] theorem run_cons (pool : Pool) (call : Call) (calls : List Call) :
    pool.run (call :: calls) = (call.edit.after pool).run calls := rfl

/-! ## One call -/

/-- All that a call can do to a pool. -/
inductive Does (call : Call) (pool : Pool) : EStateM.Result Error Pool (Option UInt32) → Prop
  /-- It fails, and the pool stays as it is. -/
  | fails (e : Error) : Does call pool (.error e pool)
  /-- It has no bytes to add, and at most the storage is another. -/
  | keeps {left : Pool} (bare : call.bytes = #[]) (values : left.bytes.values = pool.bytes.values)
      (owned : pool.isMapped = false → left.isMapped = false) : Does call pool (.ok none left)
  /-- It adds its bytes behind those there are, and gives the place where the pool ended. -/
  | adds {place : UInt32} {grown : Pool} (nonempty : call.bytes ≠ #[])
      (room : pool.size + call.bytes.size ≤ maxSize) (place_eq : place.toNat = pool.size)
      (values : grown.bytes.values = pool.bytes.values ++ call.bytes)
      (owned : grown.isMapped = false) : Does call pool (.ok (some place) grown)

/-- Bytes, if any, come to stand where the pool ended, and have their places there. -/
theorem does_append (call : Call) (nonempty : call.bytes ≠ #[]) :
    Does call pool ((some <$> append call.bytes) pool) := by
  cases made : append call.bytes pool with
  | error e left =>
    obtain ⟨rfl, -⟩ := append_eq_error made
    rw [Edit.map_eq_error.2 made]
    exact .fails e
  | ok place grown =>
    rw [Edit.map_eq_ok.2 ⟨place, made, rfl⟩]
    obtain ⟨rfl, values⟩ := append_eq_ok made
    cases room : pool.roomFor call.bytes.size with
    | error e =>
      simp only [append, room] at made
      cases made
    | ok storage =>
      have long := Array.size_pos_iff.2 nonempty
      have fits := size_le_of_roomFor room
      have most : maxSize < UInt32.size := by decide
      refine .adds nonempty fits (UInt32.toNat_ofNat_of_lt' (by omega)) values ?_
      simp only [append, room] at made
      cases made
      exact (owned_of_roomFor room).2

theorem does (call : Call) (pool : Pool) : Does call pool (call.edit pool) := by
  cases call with
  | add bytes =>
    simp only [Call.edit, Pool.add]
    by_cases mapped : pool.isMapped
    · rw [if_pos mapped]
      exact .fails _
    rw [if_neg mapped]
    by_cases empty : bytes.isEmpty
    · rw [if_pos empty]
      exact .keeps (Array.isEmpty_iff.1 empty) rfl id
    · rw [if_neg empty]
      exact does_append (.add bytes) fun bare => empty (Array.isEmpty_iff.2 bare)
  | intern text => exact does_append (.intern text) Array.push_ne_empty
  | ensureCapacity target =>
    cases made : pool.bytes.storage.reserve pool.size ⟨columnName, target, 1⟩ label with
    | error e =>
      have failed : Pool.ensureCapacity target pool = .error e pool := by
        simp only [Pool.ensureCapacity, Column.reserveTotal, Pool.size] at made ⊢
        rw [made]
        rfl
      rw [Call.edit, Edit.map_eq_error.2 failed]
      exact .fails e
    | ok storage =>
      have done : Pool.ensureCapacity target pool = .ok () ⟨{ pool.bytes with storage }⟩ := by
        simp only [Pool.ensureCapacity, Column.reserveTotal, Pool.size] at made ⊢
        rw [made]
        rfl
      rw [Call.edit, Edit.map_eq_ok.2 ⟨(), done, rfl⟩]
      exact .keeps rfl rfl fun _ => Storage.owned_of_reserve made

theorem prefix_after (call : Call) (pool : Pool) : Prefix pool (call.edit.after pool) := by
  have what := does call pool
  rw [Edit.after]
  generalize call.edit pool = result at what
  cases what with
  | fails e => exact .refl pool
  | keeps bare values owned =>
    rw [Prefix, values]
  | adds nonempty room place values owned =>
    rw [Prefix, values, Array.toList_append]
    exact List.prefix_append _ _

/-- A pool of its own, with no more bytes than there are places. -/
def Growing (pool : Pool) : Prop := pool.isMapped = false ∧ pool.size ≤ maxSize

theorem growing_new : Growing {} := ⟨rfl, Nat.zero_le _⟩

theorem Growing.after (growing : pool.Growing) (call : Call) : (call.edit.after pool).Growing := by
  obtain ⟨own, short⟩ := growing
  have what := does call pool
  rw [Edit.after]
  generalize call.edit pool = result at what
  cases what with
  | fails e => exact ⟨own, short⟩
  | keeps bare values owned =>
    refine ⟨owned own, ?_⟩
    rwa [Pool.size, Column.size, values]
  | adds nonempty room place values owned =>
    refine ⟨owned, ?_⟩
    rwa [Pool.size, Column.size, values, Array.size_append]

/-- A pool of its own takes the bytes of a call exactly if it has places for them. -/
theorem Growing.exists_place_iff (growing : pool.Growing) (call : Call) :
    (∃ place grown, call.edit pool = .ok (some place) grown) ↔
      call.bytes ≠ #[] ∧ pool.size + call.bytes.size ≤ maxSize := by
  constructor
  · rintro ⟨place, grown, made⟩
    have what := does call pool
    rw [made] at what
    cases what with
    | adds nonempty room place values owned => exact ⟨nonempty, room⟩
  · rintro ⟨nonempty, room⟩
    obtain ⟨place, grown, made⟩ := exists_append growing.1 room
    refine ⟨place, grown, ?_⟩
    cases call with
    | add bytes =>
      have empty : ¬bytes.isEmpty := fun empty => nonempty (Array.isEmpty_iff.1 empty)
      simp only [Call.edit, Pool.add, growing.1, if_neg empty, Bool.false_eq_true, if_false]
      exact Edit.map_eq_ok.2 ⟨place, made, rfl⟩
    | intern text => exact Edit.map_eq_ok.2 ⟨place, made, rfl⟩
    | ensureCapacity target => exact absurd rfl nonempty

/-! ## Many calls -/

theorem prefix_run (pool : Pool) (calls : List Call) : Prefix pool (pool.run calls) := by
  induction calls generalizing pool with
  | nil => exact .refl pool
  | cons call calls ih => exact (prefix_after call pool).trans (ih (call.edit.after pool))

theorem Growing.run (growing : pool.Growing) (calls : List Call) : (pool.run calls).Growing := by
  induction calls generalizing pool with
  | nil => exact growing
  | cons call calls ih => exact ih (growing.after call)

/-- Bytes that came behind others are read where these ended, whatever comes behind them. -/
theorem get?_of_prefix {bytes : Array UInt8}
    (values : grown.bytes.values = pool.bytes.values ++ bytes) (more : Prefix grown left) :
    left.get? pool.size bytes.size = some bytes := by
  obtain ⟨rest, more⟩ := more
  rw [values, Array.toList_append] at more
  have inside : pool.size + bytes.size ≤ left.size := by
    have long := congrArg List.length more
    simp only [List.length_append, Array.length_toList] at long
    simp only [Pool.size, Column.size]
    omega
  rw [get?, if_pos inside]
  congr 1
  apply Array.toList_inj.1
  rw [Array.toList_extract, ← more]
  simp [Pool.size, Column.size]

/-- What a pool keeps of its bytes, and what its calls give, whatever is called later. -/
structure Lasting (pool : Pool) : Prop where
  /-- There are no more bytes than places. -/
  size_le : pool.size ≤ maxSize
  /-- The bytes stay in front of all that come later. -/
  stays (later : List Call) : pool.Prefix (pool.run later)
  /-- A call that fails changes nothing. -/
  fails {call : Call} {e : Error} {left : Pool} (failed : call.edit pool = .error e left) :
    left = pool
  /-- No bytes have no place, and change nothing. -/
  empty : Pool.add #[] pool = .ok none pool
  /-- Room changes no byte. -/
  room {target : Nat} {left : Pool} (made : Pool.ensureCapacity target pool = .ok () left) :
    left.bytes.values = pool.bytes.values
  /-- Bytes have the place where the pool ended, and are read there ever after. -/
  added {bytes : Array UInt8} {answer : Option UInt32} {grown : Pool} (nonempty : bytes ≠ #[])
    (made : Pool.add bytes pool = .ok answer grown) :
    ∃ place, answer = some place ∧ place.toNat = pool.size ∧
      ∀ later, (grown.run later).get? place.toNat bytes.size = some bytes
  /-- A text has the place where the pool ended, and is read there ever after, up to its
  first zero character. -/
  interned {text : String} {place : UInt32} {grown : Pool}
    (made : Pool.intern text pool = .ok place grown) :
    place.toNat = pool.size ∧
      ∀ later, (grown.run later).text? place = some (Text.untilZero text)
  /-- A call that gives a place later gives a greater one. -/
  increases {call other : Call} {place next : UInt32} {grown last : Pool}
    (made : call.edit pool = .ok (some place) grown) (later : List Call)
    (again : other.edit (grown.run later) = .ok (some next) last) : place < next
  /-- A call gives a place exactly if it has bytes and there are places for them. -/
  taken (call : Call) : (∃ place grown, call.edit pool = .ok (some place) grown) ↔
    call.bytes ≠ #[] ∧ pool.size + call.bytes.size ≤ maxSize

/-- A call that gives a place gives the one where the pool ended, and the pool grows. -/
theorem edit_eq_ok {call : Call} (made : call.edit pool = .ok (some place) grown) :
    place.toNat = pool.size ∧ pool.size < grown.size := by
  have what := does call pool
  rw [made] at what
  cases what with
  | adds nonempty room place values owned =>
    have long := Array.size_pos_iff.2 nonempty
    refine ⟨place, ?_⟩
    rw [Pool.size, Pool.size, Column.size, Column.size, values, Array.size_append]
    omega

theorem Growing.lasting (growing : pool.Growing) : Lasting pool where
  size_le := growing.2
  stays := prefix_run pool
  fails {call _ _} failed := by
    have what := does call pool
    rw [failed] at what
    cases what with
    | fails e => rfl
  empty := by
    simp only [Pool.add, growing.1]
    rfl
  room {target left} made := by
    have what := does (.ensureCapacity target) pool
    rw [Call.edit, Edit.map_eq_ok.2 ⟨(), made, rfl⟩] at what
    cases what with
    | keeps bare values owned => exact values
  added {bytes answer grown} nonempty made := by
    have what := does (.add bytes) pool
    rw [Call.edit, made] at what
    cases what with
    | keeps bare values owned => exact absurd bare nonempty
    | @adds place _ _ room place_eq values owned =>
      refine ⟨place, rfl, place_eq, fun later => ?_⟩
      rw [place_eq]
      exact get?_of_prefix values (prefix_run grown later)
  interned {text place grown} made :=
    ⟨(intern_eq_ok made).1, fun later =>
      ((stands_of_intern made).mono (prefix_run grown later)).text?_eq⟩
  increases {_ _ place next grown _} made later again := by
    obtain ⟨first, grows⟩ := edit_eq_ok made
    obtain ⟨second, -⟩ := edit_eq_ok again
    have between := (prefix_run grown later).size_le
    rw [UInt32.lt_iff_toNat_lt, first, second]
    omega
  taken := growing.exists_place_iff

/-- A pool that has been given bytes, texts and room since it was new keeps its bytes and
what was put in it, and so it goes on. -/
theorem lasting_run (calls : List Call) : Lasting (({} : Pool).run calls) :=
  (growing_new.run calls).lasting

-- Bytes without a zero byte run on into the text behind them, which has a place of its own.
example : (({} : Pool).run [.add #[65, 66], .intern "C", .add #[], .intern ""]).bytes.values =
    #[65, 66, 67, 0, 0] := by
  decide +kernel

end TransitStore.Pool
