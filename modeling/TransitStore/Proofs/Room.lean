import Mathlib
import TransitStore.Proofs.Edit

/-!
# Room

A state that can be full has an extent that stays within a limit.  Many edits of such a
state only ever fail since something outside the state is not as it should be, or since
the state would grow beyond its limit, and they grow it by the same extent wherever they
start (`Takes`).  Edits in a row and loops take what their parts take, so it is enough to
add up what is taken to know whether a long edit succeeds (`Takes.exists_ok_iff`).
-/

namespace TransitStore

/-- The states whose extent, an element of `M`, has a limit. -/
class Limited (σ : Type) (M : outParam Type) [LE M] where
  /-- The states that can be edited. -/
  Ready : σ → Prop
  extent : σ → M
  limit : M
  extent_le : ∀ s, Ready s → extent s ≤ limit

open Limited

section

variable {σ M α β : Type} [AddCommMonoid M] [Preorder M] [Limited σ M]

/-- An edit succeeds exactly if it is possible and there is room for what it takes, and then
gives a value with a property. -/
structure Takes (possible : Prop) (demand : M) (gives : α → Prop) (x : Edit σ α) : Prop where
  of_ok : ∀ s a t, Ready s → x s = .ok a t →
    possible ∧ gives a ∧ Ready t ∧ extent t = extent s + demand
  exists_ok : ∀ s, Ready s → possible → extent s + demand ≤ limit σ → ∃ a t, x s = .ok a t

namespace Takes

variable {p q : Prop} {d d' : M} {gives : α → Prop} {gives' : β → Prop}
  {x : Edit σ α} {f : α → Edit σ β}

theorem exists_ok_iff (takes : Takes p d gives x) {s : σ} (ready : Ready s) :
    (∃ a t, x s = .ok a t) ↔ p ∧ extent s + d ≤ limit σ := by
  constructor
  · rintro ⟨a, t, ok⟩
    obtain ⟨holds, -, ready', same⟩ := takes.of_ok s a t ready ok
    exact ⟨holds, same ▸ extent_le t ready'⟩
  · rintro ⟨holds, room⟩
    exact takes.exists_ok s ready holds room

theorem imp {gives' : α → Prop} (takes : Takes p d gives x)
    (weaker : ∀ a, gives a → gives' a) : Takes p d gives' x where
  of_ok s a t ready ok := by
    obtain ⟨holds, given, rest⟩ := takes.of_ok s a t ready ok
    exact ⟨holds, weaker a given, rest⟩
  exists_ok := takes.exists_ok

theorem congr (takes : Takes p d gives x) (same : p ↔ q) (equal : d = d') :
    Takes q d' gives x := by
  rwa [← propext same, ← equal]

theorem pure {a : α} (holds : gives a) : Takes True (0 : M) gives (pure a : Edit σ α) where
  of_ok s b t ready ok := by
    obtain ⟨rfl, rfl⟩ := Edit.pure_eq_ok.1 ok
    exact ⟨trivial, holds, ready, (add_zero _).symm⟩
  exists_ok s _ _ _ := ⟨a, s, rfl⟩

/-- An edit that never succeeds takes anything. -/
theorem never (fails : ∀ s a t, x s ≠ .ok a t) (impossible : ¬p) : Takes p d gives x where
  of_ok s a t _ ok := absurd ok (fails s a t)
  exists_ok _ _ holds _ := absurd holds impossible

theorem ofExcept (result : Except Error α) :
    Takes (∃ a, result = .ok a) (0 : M) (result = .ok ·) (Edit.ofExcept result : Edit σ α) where
  of_ok s a t ready ok := by
    obtain ⟨same, rfl⟩ := Edit.ofExcept_eq_ok.1 ok
    exact ⟨⟨a, same⟩, same, ready, (add_zero _).symm⟩
  exists_ok s _ holds _ := by
    obtain ⟨a, same⟩ := holds
    exact ⟨a, s, Edit.ofExcept_eq_ok.2 ⟨same, rfl⟩⟩

variable [CanonicallyOrderedAdd M]

/-- What holds wherever there is room need not be asked for. -/
theorem of_room (takes : Takes p d gives x) (free : d ≤ limit σ → p) : Takes True d gives x where
  of_ok s a t ready ok := ⟨trivial, (takes.of_ok s a t ready ok).2⟩
  exists_ok s ready _ room := takes.exists_ok s ready (free (le_add_self.trans room)) room

/-- Two edits in a row take what both of them take. -/
theorem bind (first : Takes p d gives x) (second : ∀ a, gives a → Takes q d' gives' (f a)) :
    Takes (p ∧ q) (d + d') gives' (x >>= f) where
  of_ok s b t ready ok := by
    obtain ⟨a, r, ok, ok'⟩ := Edit.bind_eq_ok.1 ok
    obtain ⟨holds, given, ready', grown⟩ := first.of_ok s a r ready ok
    obtain ⟨holds', given', ready'', grown'⟩ := (second a given).of_ok r b t ready' ok'
    exact ⟨⟨holds, holds'⟩, given', ready'', by rw [grown', grown, add_assoc]⟩
  exists_ok s ready holds room := by
    rw [← add_assoc] at room
    obtain ⟨a, r, ok⟩ := first.exists_ok s ready holds.1 (le_self_add.trans room)
    obtain ⟨-, given, ready', grown⟩ := first.of_ok s a r ready ok
    rw [← grown] at room
    obtain ⟨b, t, ok'⟩ := (second a given).exists_ok r ready' holds.2 room
    exact ⟨b, t, Edit.bind_eq_ok.2 ⟨a, r, ok, ok'⟩⟩

theorem andThen (first : Takes True d gives x)
    (second : ∀ a, gives a → Takes q d' gives' (f a)) : Takes q (d + d') gives' (x >>= f) :=
  (first.bind second).congr (iff_of_eq (true_and _)) rfl

theorem andPure (first : Takes p d gives x) {g : α → β} (given : ∀ a, gives a → gives' (g a)) :
    Takes p d gives' (x >>= fun a => Pure.pure (g a)) :=
  (first.bind fun a holds => .pure (given a holds)).congr (iff_of_eq (and_true _)) (add_zero _)

theorem ofExcept_bind {result : Except Error α}
    (second : ∀ a, result = .ok a → Takes q d gives' (f a)) :
    Takes ((∃ a, result = .ok a) ∧ q) d gives' (Edit.ofExcept result >>= f) :=
  ((Takes.ofExcept result).bind second).congr Iff.rfl (zero_add _)

theorem map (takes : Takes p d gives x) (g : α → β) : Takes p d (fun _ => True) (g <$> x) := by
  rw [map_eq_pure_bind]
  exact takes.andPure fun _ _ => trivial

variable {l : List α} {p : α → Prop} {d : α → M} {gives : α → β → Prop}

/-- A loop takes what its rounds take. -/
theorem mapM (each : ∀ a ∈ l, Takes (p a) (d a) (gives a) (f a)) :
    Takes (∀ a ∈ l, p a) (l.map d).sum (List.Forall₂ gives l) (l.mapM f) := by
  induction l with
  | nil =>
    rw [List.mapM_nil]
    exact (Takes.pure .nil).congr (by simp) rfl
  | cons a l ih =>
    rw [List.mapM_cons, List.map_cons, List.sum_cons]
    refine Takes.congr ?_ List.forall_mem_cons.symm rfl
    refine (each a (.head _)).bind fun b given => ?_
    exact (ih fun a mem => each a (.tail _ mem)).andPure fun bs rest => .cons given rest

theorem forM {step : α → Edit σ Unit}
    (each : ∀ a ∈ l, Takes (p a) (d a) (fun _ => True) (step a)) :
    Takes (∀ a ∈ l, p a) (l.map d).sum (fun _ => True) (l.forM step) := by
  induction l with
  | nil => exact (Takes.pure trivial).congr (by simp) rfl
  | cons a l ih =>
    rw [List.forM, List.map_cons, List.sum_cons]
    refine Takes.congr ?_ List.forall_mem_cons.symm rfl
    exact (each a (.head _)).bind fun _ _ => ih fun a mem => each a (.tail _ mem)

end Takes

end

end TransitStore
