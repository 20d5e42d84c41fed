import Mathlib
import TransitStore.Edit

/-!
# Properties of edits

An edit keeps a property of the state if the property holds behind it whenever it
held before, also where the edit fails (`Keeps`).  This goes through edits in a row
and through loops.  A loop that succeeds is taken apart round by round
(`mapM_cons_eq_ok`).
-/

namespace TransitStore.Edit

variable {σ α β : Type} {inv : σ → Prop} {x : Edit σ α} {f : α → Edit σ β}

/-! ## Properties that stay -/

/-- A property of the state holds behind an edit if it held before. -/
def Keeps (inv : σ → Prop) (x : Edit σ α) : Prop := ∀ s, inv s → inv (x.after s)

theorem after_of_ok {s t : σ} {a : α} (h : x s = .ok a t) : x.after s = t := by
  rw [after, h]

theorem after_of_error {s t : σ} {e : Error} (h : x s = .error e t) : x.after s = t := by
  rw [after, h]

theorem after_bind (s : σ) : (x >>= f).after s =
    match x s with
    | .ok a t => (f a).after t
    | .error _ t => t := by
  unfold after
  show (match EStateM.bind x f s with | .ok _ t => t | .error _ t => t) = _
  unfold EStateM.bind
  cases x s with
  | ok a t => rfl
  | error e t => rfl

theorem after_map (g : α → β) (s : σ) : (g <$> x).after s = x.after s := by
  rw [map_eq_pure_bind, after_bind]
  cases run : x s with
  | ok a t => exact (after_of_ok run).symm
  | error e t => exact (after_of_error run).symm

theorem Keeps.pure (a : α) : Keeps inv (pure a : Edit σ α) := fun _ h => h

theorem Keeps.ofExcept (result : Except Error α) : Keeps inv (ofExcept result) := by
  intro s h
  cases result with
  | ok a => exact h
  | error e => exact h

theorem Keeps.bind (hx : Keeps inv x) (hf : ∀ a, Keeps inv (f a)) : Keeps inv (x >>= f) := by
  intro s h
  have first := hx s h
  rw [after_bind]
  cases run : x s with
  | ok a t =>
    rw [after_of_ok run] at first
    exact hf a t first
  | error e t =>
    rw [after_of_error run] at first
    exact first

theorem Keeps.map (g : α → β) (hx : Keeps inv x) : Keeps inv (g <$> x) := by
  rw [map_eq_pure_bind]
  exact hx.bind fun a => .pure (g a)

theorem Keeps.mapM {l : List α} (each : ∀ a ∈ l, Keeps inv (f a)) :
    Keeps inv (l.mapM f) := by
  induction l with
  | nil => exact .pure []
  | cons a l ih =>
    rw [List.mapM_cons]
    refine (each a (.head _)).bind fun b => ?_
    exact (ih fun a' mem => each a' (.tail _ mem)).bind fun bs => .pure (b :: bs)

theorem Keeps.forM {l : List α} {step : α → Edit σ Unit} (each : ∀ a ∈ l, Keeps inv (step a)) :
    Keeps inv (l.forM step) := by
  induction l with
  | nil => exact .pure ()
  | cons a l ih =>
    rw [List.forM]
    exact (each a (.head _)).bind fun _ => ih fun a' mem => each a' (.tail _ mem)

/-! ## Edits that succeed -/

theorem pure_eq_ok {s t : σ} {a b : α} : (pure a : Edit σ α) s = .ok b t ↔ a = b ∧ s = t := by
  show EStateM.Result.ok a s = .ok b t ↔ _
  simp

theorem ofExcept_bind_eq_ok {result : Except Error α} {s t : σ} {b : β} :
    (ofExcept result >>= f) s = .ok b t ↔ ∃ a, result = .ok a ∧ f a s = .ok b t := by
  rw [bind_eq_ok]
  constructor
  · rintro ⟨a, r, run, hf⟩
    obtain ⟨made, rfl⟩ := ofExcept_eq_ok.1 run
    exact ⟨a, made, hf⟩
  · rintro ⟨a, made, hf⟩
    exact ⟨a, s, ofExcept_eq_ok.2 ⟨made, rfl⟩, hf⟩

theorem map_eq_ok {g : α → β} {s t : σ} {b : β} :
    (g <$> x) s = .ok b t ↔ ∃ a, x s = .ok a t ∧ g a = b := by
  rw [map_eq_pure_bind, bind_eq_ok]
  constructor
  · rintro ⟨a, r, hx, hg⟩
    obtain ⟨rfl, rfl⟩ := pure_eq_ok.1 hg
    exact ⟨a, hx, rfl⟩
  · rintro ⟨a, hx, rfl⟩
    exact ⟨a, t, hx, pure_eq_ok.2 ⟨rfl, rfl⟩⟩

/-- Two edits in a row fail together if the first one does, or the second one behind it. -/
theorem bind_eq_error {s t : σ} {e : Error} :
    (x >>= f) s = .error e t ↔ x s = .error e t ∨ ∃ a r, x s = .ok a r ∧ f a r = .error e t := by
  show EStateM.bind x f s = _ ↔ _
  unfold EStateM.bind
  cases x s with
  | ok a r => simp
  | error e' r => simp

theorem map_eq_error {g : α → β} {s t : σ} {e : Error} :
    (g <$> x) s = .error e t ↔ x s = .error e t := by
  rw [map_eq_pure_bind, bind_eq_error]
  constructor
  · rintro (h | ⟨a, r, -, h⟩)
    · exact h
    · cases h
  · exact .inl

theorem mapM_nil_eq_ok {s t : σ} {bs : List β} :
    ([].mapM f : Edit σ (List β)) s = .ok bs t ↔ bs = [] ∧ s = t := by
  rw [List.mapM_nil, pure_eq_ok, eq_comm]

theorem mapM_cons_eq_ok {a : α} {l : List α} {s t : σ} {bs : List β} :
    ((a :: l).mapM f) s = .ok bs t ↔
      ∃ b r rest, f a s = .ok b r ∧ l.mapM f r = .ok rest t ∧ bs = b :: rest := by
  rw [List.mapM_cons, bind_eq_ok]
  constructor
  · rintro ⟨b, r, head, h⟩
    obtain ⟨rest, r', tail, h⟩ := bind_eq_ok.1 h
    obtain ⟨rfl, rfl⟩ := pure_eq_ok.1 h
    exact ⟨b, r, rest, head, tail, rfl⟩
  · rintro ⟨b, r, rest, head, tail, rfl⟩
    exact ⟨b, r, head, bind_eq_ok.2 ⟨rest, t, tail, pure_eq_ok.2 ⟨rfl, rfl⟩⟩⟩

/-- A loop over two lists is one over the first and then one over the second. -/
theorem mapM_append_eq_ok {l m : List α} {s t : σ} {bs : List β} :
    ((l ++ m).mapM f) s = .ok bs t ↔
      ∃ front r rest, l.mapM f s = .ok front r ∧ m.mapM f r = .ok rest t ∧ bs = front ++ rest := by
  rw [List.mapM_append, bind_eq_ok]
  constructor
  · rintro ⟨front, r, first, h⟩
    obtain ⟨rest, r', second, h⟩ := bind_eq_ok.1 h
    obtain ⟨rfl, rfl⟩ := pure_eq_ok.1 h
    exact ⟨front, r, rest, first, second, rfl⟩
  · rintro ⟨front, r, rest, first, second, rfl⟩
    exact ⟨front, r, first, bind_eq_ok.2 ⟨rest, t, second, pure_eq_ok.2 ⟨rfl, rfl⟩⟩⟩

/-- A loop that succeeds has a property behind it that each of its rounds keeps. -/
theorem of_forM {property : σ → Prop} {l : List α} {step : α → Edit σ Unit} {s t : σ}
    (h : l.forM step s = .ok () t) (start : property s)
    (each : ∀ a ∈ l, ∀ s t, property s → step a s = .ok () t → property t) : property t := by
  induction l generalizing s with
  | nil =>
    obtain ⟨-, rfl⟩ := pure_eq_ok.1 h
    exact start
  | cons a l ih =>
    rw [List.forM] at h
    obtain ⟨_, r, first, rest⟩ := bind_eq_ok.1 h
    exact ih rest (each a (.head _) s r start first) fun a' mem => each a' (.tail _ mem)

theorem length_of_mapM {l : List α} {s t : σ} {bs : List β} (h : l.mapM f s = .ok bs t) :
    bs.length = l.length := by
  induction l generalizing s bs with
  | nil =>
    obtain ⟨rfl, -⟩ := mapM_nil_eq_ok.1 h
    rfl
  | cons a l ih =>
    obtain ⟨b, r, rest, -, tail, rfl⟩ := mapM_cons_eq_ok.1 h
    rw [List.length_cons, List.length_cons, ih tail]

end TransitStore.Edit

namespace TransitStore

/-! ## Loops without a state -/

theorem mapM_eq_some_iff {α β : Type} {f : α → Option β} {l : List α} {bs : List β} :
    l.mapM f = some bs ↔ List.Forall₂ (fun a b => f a = some b) l bs := by
  induction l generalizing bs with
  | nil =>
    rw [List.mapM_nil, List.forall₂_nil_left_iff]
    simp [eq_comm]
  | cons a l ih =>
    rw [List.mapM_cons, List.forall₂_cons_left_iff]
    simp only [Option.bind_eq_bind, Option.bind_eq_some_iff, ih]
    constructor
    · rintro ⟨b, head, bs, tail, same⟩
      cases same
      exact ⟨b, bs, head, tail, rfl⟩
    · rintro ⟨b, bs, head, tail, rfl⟩
      exact ⟨b, head, bs, tail, rfl⟩

/-- What a loop collects is what its rounds give. -/
theorem mem_of_mapM_eq_some {α β : Type} {f : α → Option β} {l : List α} {bs : List β}
    (h : l.mapM f = some bs) {b : β} : b ∈ bs ↔ ∃ a ∈ l, f a = some b := by
  rw [mapM_eq_some_iff] at h
  induction h with
  | nil => simp
  | cons head _ ih =>
    rw [List.mem_cons, List.exists_mem_cons_iff, head, ih, Option.some.injEq, eq_comm]

theorem isSome_mapM {α β : Type} {f : α → Option β} {l : List α} :
    (l.mapM f).isSome ↔ ∀ a ∈ l, (f a).isSome := by
  induction l with
  | nil => simp
  | cons a l ih =>
    rw [List.mapM_cons, List.forall_mem_cons, ← ih]
    cases f a with
    | none => simp
    | some b =>
      cases l.mapM f with
      | none => simp
      | some bs => simp

/-- A loop fails like the first of its rounds that fails. -/
theorem mapM_eq_error {α β ε : Type} {f : α → Except ε β} {front rest : List α} {a : α} {e : ε}
    (before : ∀ b ∈ front, ∃ c, f b = .ok c) (fails : f a = .error e) :
    (front ++ a :: rest).mapM f = .error e := by
  induction front with
  | nil =>
    rw [List.nil_append, List.mapM_cons, fails]
    rfl
  | cons b front ih =>
    obtain ⟨c, first⟩ := before b (.head _)
    rw [List.cons_append, List.mapM_cons, first, ih fun b mem => before b (.tail _ mem)]
    rfl

/-- A loop succeeds with what its rounds succeed with. -/
theorem mapM_eq_ok_iff {α β ε : Type} {f : α → Except ε β} {l : List α} {bs : List β} :
    l.mapM f = .ok bs ↔ List.Forall₂ (fun a b => f a = .ok b) l bs := by
  induction l generalizing bs with
  | nil =>
    rw [List.mapM_nil, List.forall₂_nil_left_iff]
    simp [pure, Except.pure, eq_comm]
  | cons a l ih =>
    rw [List.mapM_cons, List.forall₂_cons_left_iff]
    simp only [← ih]
    cases f a with
    | error e => simp [bind, Except.bind]
    | ok b =>
      cases l.mapM f with
      | error e => simp [bind, Except.bind]
      | ok bs' => simp [bind, Except.bind, pure, Except.pure, eq_comm]

/-- A loop of results is a result exactly if each round is. -/
theorem exists_mapM_eq_ok {α β ε : Type} {f : α → Except ε β} {l : List α} :
    (∃ bs, l.mapM f = .ok bs) ↔ ∀ a ∈ l, ∃ b, f a = .ok b := by
  induction l with
  | nil => simp [pure, Except.pure]
  | cons a l ih =>
    rw [List.mapM_cons, List.forall_mem_cons, ← ih]
    cases f a with
    | error e => simp [bind, Except.bind]
    | ok b =>
      cases l.mapM f with
      | error e => simp [bind, Except.bind]
      | ok bs => simp [bind, Except.bind, pure, Except.pure]

/-! ## Related lists -/

theorem rel_getElem?_of_forall₂ {α β : Type} {r : α → β → Prop} {l : List α} {m : List β}
    (same : List.Forall₂ r l m) (i : Nat) : Option.Rel r l[i]? m[i]? := by
  induction same generalizing i with
  | nil => exact .none
  | cons head _ ih =>
    cases i with
    | zero => exact .some head
    | succ i => exact ih i

/-- Next to an element of the first list stands a related one of the second. -/
theorem exists_right_of_forall₂ {α β : Type} {r : α → β → Prop} {l : List α} {m : List β}
    (same : List.Forall₂ r l m) {i : Nat} {a : α} (at_ : l[i]? = some a) :
    ∃ b, m[i]? = some b ∧ r a b := by
  have rel := rel_getElem?_of_forall₂ same i
  rw [at_] at rel
  generalize m[i]? = b? at rel ⊢
  cases rel with
  | some holds => exact ⟨_, rfl, holds⟩

/-- Next to an element of the second list stands a related one of the first. -/
theorem exists_left_of_forall₂ {α β : Type} {r : α → β → Prop} {l : List α} {m : List β}
    (same : List.Forall₂ r l m) {i : Nat} {b : β} (at_ : m[i]? = some b) :
    ∃ a, l[i]? = some a ∧ r a b :=
  exists_right_of_forall₂ same.flip at_

theorem exists_of_forall₂ {α β : Type} {rel : α → β → Prop} {as : List α} {bs : List β}
    (each : List.Forall₂ rel as bs) {b : β} (mem : b ∈ bs) : ∃ a ∈ as, rel a b := by
  obtain ⟨i, inside, rfl⟩ := List.mem_iff_getElem.1 mem
  have bound : i < as.length := by rwa [each.length_eq]
  exact ⟨as[i], List.getElem_mem bound, each.get bound inside⟩

/-- What is related to numbered elements is related to the elements. -/
theorem forall₂_zipIdx_iff {α β : Type} {r : α → β → Prop} {l : List α} {m : List β} :
    List.Forall₂ (fun pair b => r pair.1 b) l.zipIdx m ↔ List.Forall₂ r l m := by
  conv_rhs => rw [← List.zipIdx_map_fst 0 l]
  exact List.forall₂_map_left_iff.symm

end TransitStore
