import Mathlib
import TransitStore.Import.Build
import TransitStore.Proofs.Audit.Growing

/-!
# References of imported lines

An identifier stands for a row that there is, whatever identifiers are repeated, and
the mode of each route is among the modes.  So the operators, modes, lines and routes
that `addLines` puts into an empty container refer to each other.
-/

namespace TransitStore.Import

open Entity Container

/-! ## Numbers in few bits

A number is cut off where it does not fit, which leaves a smaller one. -/

theorem toNat_ofNat8_le (n : Nat) : (UInt8.ofNat n).toNat ≤ n := by
  rw [UInt8.toNat_ofNat']
  exact Nat.mod_le _ _

theorem toNat_ofNat16_le (n : Nat) : (UInt16.ofNat n).toNat ≤ n := by
  rw [UInt16.toNat_ofNat']
  exact Nat.mod_le _ _

theorem toNat_ofNat32_le (n : Nat) : (UInt32.ofNat n).toNat ≤ n := by
  rw [UInt32.toNat_ofNat']
  exact Nat.mod_le _ _

/-! ## Identifiers -/

/-- An identifier stands for one of the rows. -/
theorem Lookup.lt_of_getElem? {ids : List (Option String)} {id : String} {row : Nat}
    (found : (Lookup.ofIds ids)[id]? = some row) : row < ids.length := by
  have all : ∀ (id : String) (row : Nat),
      (Lookup.ofIds ids)[id]? = some row → row < ids.length := by
    unfold Lookup.ofIds
    refine List.foldlRecOn (motive := fun lookup : Lookup =>
      ∀ (id : String) (row : Nat), lookup[id]? = some row → row < ids.length) ids.zipIdx _ ?_ ?_
    · intro id row found
      rw [Std.HashMap.getElem?_empty] at found
      cases found
    · rintro lookup inside ⟨id?, last⟩ mem id row found
      cases id? with
      | none => exact inside id row found
      | some id' =>
        simp only [Std.HashMap.getElem?_insert] at found
        split at found
        · cases found
          exact List.snd_lt_of_mem_zipIdx mem
        · exact inside id row found
  exact all id row found

/-! ## Modes -/

theorem modesOf_concat (routes : List Feed.Route) (route : Feed.Route) :
    modesOf (routes ++ [route]) =
      if (modesOf routes).any (·.code == (Mode.of route.type).code) then modesOf routes
      else modesOf routes ++ [Mode.of route.type] := by
  unfold modesOf
  rw [List.foldl_append]
  rfl

/-- The code of each route is that of some mode. -/
theorem any_modesOf {routes : List Feed.Route} {route : Feed.Route} (mem : route ∈ routes) :
    (modesOf routes).any (·.code == (Mode.of route.type).code) := by
  induction routes using List.reverseRecOn with
  | nil => cases mem
  | append_singleton routes last ih =>
    rw [modesOf_concat]
    rcases List.mem_append.1 mem with old | new
    · split
      · exact ih old
      · rw [List.any_append, ih old, Bool.true_or]
    · cases List.mem_singleton.1 new
      split
      · assumption
      · simp

/-- A route's mode is a row that there is, also where its number does not fit the bits. -/
theorem modeRow_lt {routes : List Feed.Route} {route : Feed.Route} (mem : route ∈ routes) :
    (modeRow (modesOf routes) route).toNat < (modesOf routes).length := by
  have inside : (modesOf routes).findIdx (·.code == (Mode.of route.type).code) <
      (modesOf routes).length :=
    List.findIdx_lt_length_of_exists (List.any_eq_true.1 (any_modesOf mem))
  exact Nat.lt_of_le_of_lt (toNat_ofNat8_le _) inside

/-! ## Lines -/

theorem operatorRow?_lt {agencies : List Feed.Agency} {route : Feed.Route} {row : Nat}
    (found : operatorRow? (operatorLookup agencies) agencies.length route = some row) :
    row < agencies.length := by
  unfold operatorRow? at found
  split at found
  · have inside := Lookup.lt_of_getElem? found
    rwa [List.length_map] at inside
  · split at found
    · cases found
      omega
    · cases found

theorem lineDraft?_eq_ok {operators : Lookup} {agencies : Nat} {modes : List Mode}
    {route : Feed.Route} {line : Line.Draft}
    (h : lineDraft? operators agencies modes route = .ok line) :
    line.id = route.id ∧ line.code = route.shortName.getD "" ∧
      line.name = route.longName.getD "" ∧ line.physicalMode = modeRow modes route ∧
      ∃ row, operatorRow? operators agencies route = some row ∧ line.operator = UInt8.ofNat row := by
  unfold lineDraft? at h
  split at h
  · cases h
  · cases h
    exact ⟨rfl, rfl, rfl, rfl, _, ‹_›, rfl⟩

theorem line_lt {feed : Feed} {lines : List Line.Draft}
    (h : feed.routes.mapM (lineDraft? (operatorLookup feed.agencies) feed.agencies.length
      (modesOf feed.routes)) = .ok lines) {line : Line.Draft} (mem : line ∈ lines) :
    line.operator.toNat < feed.agencies.length ∧
      line.physicalMode.toNat < (modesOf feed.routes).length := by
  obtain ⟨route, mem', made⟩ := exists_of_forall₂ (mapM_eq_ok_iff.1 h) mem
  obtain ⟨-, -, -, mode, row, found, operator⟩ := lineDraft?_eq_ok made
  refine ⟨?_, ?_⟩
  · rw [operator]
    exact Nat.lt_of_le_of_lt (toNat_ofNat8_le row) (operatorRow?_lt found)
  · rw [mode]
    exact modeRow_lt mem'

/-- The tables that lines and what they refer to are put into. -/
def lineTables : List Entity := [operator, physicalMode, commercialMode, line, route]

/-- Lines were put into an empty container. -/
structure HasLines (feed : Feed) (lines : List Line.Draft) (c : Container) : Prop
    extends Extends lineTables {} c where
  /-- Each route of the feed has a line. -/
  length : lines.length = feed.routes.length
  /-- Each line has a route. -/
  routes : lines.length ≤ c.routes.size
  /-- The modes of lines are also commercial modes. -/
  modes : ∀ line ∈ lines, line.physicalMode.toNat < c.commercialModes.size

theorem addLines_eq_ok {feed : Feed} {lines : List Line.Draft} {c : Container}
    (h : addLines feed {} = .ok lines c) : HasLines feed lines c := by
  obtain ⟨_, c₁, add₁, h₁⟩ := Edit.bind_eq_ok.1 h
  obtain ⟨_, c₂, add₂, h₂⟩ := Edit.bind_eq_ok.1 h₁
  obtain ⟨_, c₃, add₃, h₃⟩ := Edit.bind_eq_ok.1 h₂
  obtain ⟨drafts, made, h₄⟩ := Edit.ofExcept_bind_eq_ok.1 h₃
  obtain ⟨_, c₄, add₄, h₅⟩ := Edit.bind_eq_ok.1 h₄
  obtain ⟨_, c₅, add₅, h₆⟩ := Edit.bind_eq_ok.1 h₅
  obtain ⟨rfl, rfl⟩ := Edit.pure_eq_ok.1 h₆
  have added₁ := add_eq_ok (e := operator) add₁
  have added₂ := add_eq_ok (e := physicalMode) add₂
  have added₃ := add_eq_ok (e := commercialMode) add₃
  have added₄ := add_eq_ok (e := line) add₄
  have added₅ := add_eq_ok (e := route) add₅
  have step₁ : Extends lineTables {} c₁ :=
    .of_added refersInside_new added₁ (by decide) fun _ _ _ => trivial
  have step₂ : Extends lineTables c₁ c₂ :=
    .of_added step₁.inside added₂ (by decide) fun _ _ _ => trivial
  have step₃ : Extends lineTables c₂ c₃ :=
    .of_added step₂.inside added₃ (by decide) fun _ _ _ => trivial
  have operators : feed.agencies.length ≤ c₃.operators.size := by
    have le : (feed.agencies.map operatorDraft).length ≤ _ :=
      added₁.length_le (step₂.trans step₃).grows
    rwa [List.length_map] at le
  have physical : (modesOf feed.routes).length ≤ c₃.physicalModes.size := by
    have le : ((modesOf feed.routes).map Mode.physical).length ≤ _ := added₂.length_le step₃.grows
    rwa [List.length_map] at le
  have step₄ : Extends lineTables c₃ c₄ := .of_added step₃.inside added₄ (by decide)
    fun d mem _ => by
      obtain ⟨operator, mode⟩ := line_lt made mem
      exact ⟨Nat.lt_of_lt_of_le operator operators, Nat.lt_of_lt_of_le mode physical⟩
  have lines : drafts.length ≤ c₄.lines.size := added₄.length_le (.refl lineTables c₄)
  have step₅ : Extends lineTables c₄ c₅ := .of_added step₄.inside added₅ (by decide)
    fun d mem _ => by
      obtain ⟨row, inside, rfl⟩ := List.mem_map.1 mem
      exact Nat.lt_of_le_of_lt (toNat_ofNat16_le row)
        (Nat.lt_of_lt_of_le (List.mem_range.1 inside) lines)
  refine ⟨((step₁.trans step₂).trans (step₃.trans step₄)).trans step₅, ?_, ?_, ?_⟩
  · exact (mapM_eq_ok_iff.1 made).length_eq.symm
  · have le : ((List.range drafts.length).map fun row => Route.mk (UInt16.ofNat row)).length ≤ _ :=
      added₅.length_le (.refl lineTables c₅)
    rwa [List.length_map, List.length_range] at le
  · have commercial : ((modesOf feed.routes).map Mode.commercial).length ≤ _ :=
      added₃.length_le (step₄.trans step₅).grows
    rw [List.length_map] at commercial
    intro line mem
    exact Nat.lt_of_lt_of_le (line_lt made mem).2 commercial

end TransitStore.Import
