import Mathlib
import TransitStore.Error
import TransitStore.Proofs.Span

/-!
# Guarded computations

A machine has an element of an array only at a place inside the array, and a slice only
between places that it has.  It counts in words of 64 bits, and a number keeps its value
in a smaller word only if it fits there.  A *guarded* computation makes each of these
steps with the check that goes with it, and ends with a `Fault` where the check fails.
One that ends with a value has made none of the steps that a machine cannot make.

Steps that check for themselves, and then have no value, are not guarded: a look at an
element with `xs[i]?`, a look at a slice (`slice?`) and a sum that may be too large
(`checkedAdd`).
-/

namespace TransitStore

/-- A step that a machine cannot make. -/
inductive Fault where
  /-- An element of an array at a place that it does not have. -/
  | index (place size : Nat)
  /-- A slice of an array that does not lie inside it, or ends before it starts. -/
  | slice (start stop size : Nat)
  /-- A sum, a product or a power of two that is too large for a word. -/
  | overflow
  /-- A difference below zero. -/
  | underflow
  /-- A number put in a word it does not fit in. -/
  | narrowing (value : Nat)
deriving DecidableEq, Repr

/-- A computation that may end with a fault. -/
abbrev Guarded : Type → Type := Except Fault

/-- A guarded computation that may also fail as it should. -/
abbrev Checked (ε : Type) : Type → Type := ExceptT ε Guarded

namespace Guarded

variable {α β ε : Type}

/-! ## Steps -/

/-- How many numbers a word has. -/
def wordSize : Nat := UInt64.size

/-- The element of an array at a place. -/
def index (xs : Array α) (i : Nat) : Guarded α :=
  match xs[i]? with
  | some x => .ok x
  | none => .error (.index i xs.size)

/-- An array with another element at a place. -/
def store (xs : Array α) (i : Nat) (x : α) : Guarded (Array α) :=
  if i < xs.size then .ok (xs.setIfInBounds i x) else .error (.index i xs.size)

/-- The elements of an array between two places. -/
def slice (xs : Array α) (start stop : Nat) : Guarded (Array α) :=
  if start ≤ stop ∧ stop ≤ xs.size then .ok (xs.extract start stop)
  else .error (.slice start stop xs.size)

def add (a b : Nat) : Guarded Nat :=
  if a + b < wordSize then .ok (a + b) else .error .overflow

def sub (a b : Nat) : Guarded Nat :=
  if b ≤ a then .ok (a - b) else .error .underflow

def mul (a b : Nat) : Guarded Nat :=
  if a * b < wordSize then .ok (a * b) else .error .overflow

/-- A number as a word of 16 bits. -/
def narrow16 (n : Nat) : Guarded UInt16 :=
  if n < UInt16.size then .ok (UInt16.ofNat n) else .error (.narrowing n)

/-- A number as a word of 32 bits. -/
def narrow32 (n : Nat) : Guarded UInt32 :=
  if n < UInt32.size then .ok (UInt32.ofNat n) else .error (.narrowing n)

/-- A word of 32 bits with one bit set. -/
def bit32 (place : Nat) : Guarded UInt32 :=
  if place < 32 then .ok (UInt32.ofNat (2 ^ place)) else .error .overflow

/-! ## Steps that check for themselves -/

/-- The sum of two numbers, if a word has it. -/
def checkedAdd (a b : Nat) : Option Nat := if a + b < wordSize then some (a + b) else none

/-- The elements of an array between two places, if it has them. -/
def slice? (xs : Array α) (start stop : Nat) : Option (Array α) :=
  if start ≤ stop ∧ stop ≤ xs.size then some (xs.extract start stop) else none

/-- A guarded computation as one that may also fail as it should. -/
def lift (x : Guarded α) : Checked ε α := ExceptT.lift x

/-- The value of an option, or else a failure. -/
def require (x : Option α) (e : ε) : Checked ε α :=
  match x with
  | some a => pure a
  | none => throw e

/-! ## What the steps give -/

@[simp] theorem ok_bind (a : α) (f : α → Guarded β) : (.ok a : Guarded α) >>= f = f a := rfl

@[simp] theorem pure_eq_ok (a : α) : (pure a : Guarded α) = .ok a := rfl

theorem index_of_getElem? {xs : Array α} {i : Nat} {x : α} (at_ : xs[i]? = some x) :
    index xs i = .ok x := by
  rw [index, at_]

theorem store_of_lt {xs : Array α} {i : Nat} (inside : i < xs.size) (x : α) :
    store xs i x = .ok (xs.setIfInBounds i x) := if_pos inside

theorem slice_of_le {xs : Array α} {start stop : Nat} (le : start ≤ stop)
    (inside : stop ≤ xs.size) : slice xs start stop = .ok (xs.extract start stop) :=
  if_pos ⟨le, inside⟩

theorem add_of_lt {a b : Nat} (small : a + b < wordSize) : add a b = .ok (a + b) := if_pos small

theorem sub_of_le {a b : Nat} (le : b ≤ a) : sub a b = .ok (a - b) := if_pos le

theorem mul_of_lt {a b : Nat} (small : a * b < wordSize) : mul a b = .ok (a * b) := if_pos small

theorem exists_narrow16 {n : Nat} (small : n < UInt16.size) :
    ∃ word, narrow16 n = .ok word ∧ word.toNat = n :=
  ⟨_, if_pos small, UInt16.toNat_ofNat_of_lt' small⟩

theorem exists_narrow32 {n : Nat} (small : n < UInt32.size) :
    ∃ word, narrow32 n = .ok word ∧ word.toNat = n :=
  ⟨_, if_pos small, UInt32.toNat_ofNat_of_lt' small⟩

theorem bit32_of_lt {place : Nat} (small : place < 32) :
    bit32 place = .ok (UInt32.ofNat (2 ^ place)) := if_pos small

/-! ## Computations without a fault -/

/-- The guarded computation that ends as given, and without a fault. -/
def settled (r : Except ε α) : Checked ε α := ExceptT.mk (.ok r)

theorem settled_bind (r : Except ε α) (f : α → Except ε β) :
    settled (r >>= f) = settled r >>= fun a => settled (f a) := by
  cases r <;> rfl

@[simp] theorem lift_ok (a : α) : (lift (.ok a) : Checked ε α) = pure a := rfl

@[simp] theorem require_some (a : α) (e : ε) : require (some a) e = (pure a : Checked ε α) := rfl

/-! ## Loops -/

/-- What holds of the elements of a list, counted from a place on, holds of those behind the
first, counted from the next place on. -/
theorem forall_getElem?_tail {P : Nat → α → Prop} {a : α} {l : List α} {k : Nat}
    (all : ∀ i b, (a :: l)[i]? = some b → P (k + i) b) :
    ∀ i b, l[i]? = some b → P (k + 1 + i) b := by
  intro i b at_
  rw [Nat.add_assoc, Nat.add_comm 1]
  exact all (i + 1) b at_

/-- A loop whose rounds each put some elements behind a list puts all of them there. -/
theorem foldlM_append {l : List α} {round : List β → α → Guarded (List β)} {more : α → List β}
    (step : ∀ a ∈ l, ∀ out, round out a = .ok (out ++ more a)) (out : List β) :
    l.foldlM round out = .ok (out ++ l.flatMap more) := by
  induction l generalizing out with
  | nil => simp
  | cons a l ih =>
    rw [List.foldlM_cons, step a (.head _), ok_bind, ih fun b mem => step b (.tail _ mem),
      List.flatMap_cons, List.append_assoc]

theorem foldlM_zipIdx {l : List α} {k : Nat} {round : List β → Nat → Guarded (List β)}
    {more : Nat → α → List β}
    (step : ∀ i a, l[i]? = some a → ∀ out, round out (k + i) = .ok (out ++ more (k + i) a))
    (out : List β) : (List.range' k l.length).foldlM round out =
      .ok (out ++ (l.zipIdx k).flatMap fun (a, i) => more i a) := by
  induction l generalizing k out with
  | nil => simp
  | cons a l ih =>
    have first : round out k = .ok (out ++ more k a) := step 0 a rfl out
    have later := forall_getElem?_tail
      (P := fun i a => ∀ out, round out i = .ok (out ++ more i a)) step
    rw [List.length_cons, List.range'_succ, List.foldlM_cons, first, ok_bind, ih later,
      List.zipIdx_cons, List.flatMap_cons, List.append_assoc]

/-- A loop over the rows of an array whose rounds each put some elements behind a list. -/
theorem foldlM_rows {rows : Array α} {round : List β → Nat → Guarded (List β)}
    {more : Nat → α → List β}
    (step : ∀ i a, rows[i]? = some a → ∀ out, round out i = .ok (out ++ more i a))
    (out : List β) : (List.range rows.size).foldlM round out =
      .ok (out ++ rows.toList.zipIdx.flatMap fun (a, i) => more i a) := by
  rw [List.range_eq_range', ← Array.length_toList]
  refine foldlM_zipIdx (fun i a at_ out => ?_) out
  rw [Nat.zero_add]
  exact step i a (by rwa [Array.getElem?_toList] at at_) out

/-- A loop whose rounds make no fault makes none. -/
theorem forM_settled {l : List α} {round : α → Checked ε Unit} {check : α → Except ε Unit}
    (step : ∀ a ∈ l, round a = settled (check a)) : l.forM round = settled (l.forM check) := by
  induction l with
  | nil => rfl
  | cons a l ih =>
    show (round a >>= fun _ => l.forM round) = settled (check a >>= fun _ => l.forM check)
    rw [settled_bind, step a (.head _), ih fun b mem => step b (.tail _ mem)]

end Guarded

end TransitStore
