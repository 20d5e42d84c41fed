import Mathlib
import TransitStore.Audit.References
import TransitStore.Proofs.Audit.Quality

/-!
# Transfers and their reverses

The check of quality looks for the reverse of each transfer among the transfers from its target,
and compares the transfer with the first one it finds.  Nothing is found exactly if each
transfer has a reverse there that takes as long.  Where no stop point has two transfers to the
same one, there is at most one reverse, and then an issue between two stop points says what the
two transfers between them are and is reported once (`decidesSymmetry`).
-/

namespace TransitStore

/-- A transfer is one of those from a stop point. -/
def Container.HasTransfer (c : Container) (source : Nat) (t : Transfer) : Prop :=
  ∃ run, c.transfersFrom? source = some run ∧ t ∈ run.slice

/-- No stop point has two transfers to the same one. -/
def Container.SingleTargets (c : Container) : Prop :=
  ∀ source run, c.transfersFrom? source = some run →
    run.slice.Pairwise fun t other => t.targetStop ≠ other.targetStop

namespace Audit

variable {c : Container} {issue : QualityIssue} {source target : Nat} {t reverse : Transfer}

/-! ## Reverses -/

/-- A transfer is the first one from a stop point that leads to some other. -/
def FirstBetween (c : Container) (source target : Nat) (t : Transfer) : Prop :=
  ∃ run front rest, c.transfersFrom? source = some run ∧ run.slice = front ++ t :: rest ∧
    t.targetStop.toNat = target ∧ ∀ other ∈ front, other.targetStop.toNat ≠ target

/-- There is a transfer back, and the first one takes as long. -/
def HasReverse (c : Container) (source : Nat) (t : Transfer) : Prop :=
  ∃ reverse, FirstBetween c t.targetStop.toNat source reverse ∧ reverse.duration = t.duration

theorem mem_transfersOf : t ∈ transfersOf c source ↔ c.HasTransfer source t := by
  rw [transfersOf, Container.HasTransfer]
  cases c.transfersFrom? source with
  | none => simp
  | some run => simp

theorem lt_of_hasTransfer (has : c.HasTransfer source t) : source < c.stopPoints.size := by
  obtain ⟨run, found, -⟩ := has
  obtain ⟨point, at_, -⟩ := Option.bind_eq_some_iff.1 found
  exact (Array.getElem?_eq_some_iff.1 at_).1

theorem find?_transfersOf_eq_some :
    (transfersOf c source).find? (·.targetStop.toNat == target) = some t ↔
      FirstBetween c source target t := by
  rw [transfersOf, FirstBetween]
  cases c.transfersFrom? source with
  | none => simp
  | some run =>
    simp only [List.find?_eq_some_iff_append, beq_iff_eq, Bool.not_eq_true', beq_eq_false_iff_ne]
    constructor
    · rintro ⟨leads, front, rest, split, others⟩
      exact ⟨run, front, rest, rfl, split, leads, others⟩
    · rintro ⟨_, front, rest, ⟨⟩, split, leads, others⟩
      exact ⟨leads, front, rest, split, others⟩

theorem find?_transfersOf_eq_none :
    (transfersOf c source).find? (·.targetStop.toNat == target) = none ↔
      ∀ t, c.HasTransfer source t → t.targetStop.toNat ≠ target := by
  simp only [List.find?_eq_none, mem_transfersOf, beq_iff_eq, ne_eq]

/-- Where a stop point has a single transfer to each other one, it is the first. -/
theorem firstBetween_iff (single : c.SingleTargets) :
    FirstBetween c source target t ↔ c.HasTransfer source t ∧ t.targetStop.toNat = target := by
  constructor
  · rintro ⟨run, front, rest, found, split, leads, -⟩
    refine ⟨⟨run, found, ?_⟩, leads⟩
    rw [split]
    exact List.mem_append_right _ (.head _)
  · rintro ⟨⟨run, found, mem⟩, leads⟩
    obtain ⟨front, rest, split⟩ := List.append_of_mem mem
    refine ⟨run, front, rest, found, split, leads, fun other before same => ?_⟩
    have apart := single source run found
    rw [split] at apart
    have ne := (List.pairwise_append.1 apart).2.2 other before t (.head _)
    exact ne (UInt16.toNat_inj.1 (same.trans leads.symm))

/-! ## What is reported -/

/-- The stop points of a transfer that an issue is of. -/
def QualityIssue.transfer? : QualityIssue → Option (Nat × Nat)
  | .missingReverseTransfer source target => some (source, target)
  | .asymmetricTransfer source target => some (source, target)
  | _ => none

theorem missingReverseTransfer_mem_iff : .missingReverseTransfer source target ∈ qualityIssues c ↔
    (∃ t, c.HasTransfer source t ∧ t.targetStop.toNat = target) ∧
      ∀ t, c.HasTransfer target t → t.targetStop.toNat ≠ source := by
  rw [mem_qualityIssues]
  constructor
  · rintro (issued | issued | ⟨_, _, _, -, -, issued⟩ | issued) <;> cases issued
    exact ⟨⟨_, mem_transfersOf.1 ‹_›, rfl⟩, find?_transfersOf_eq_none.1 ‹_›⟩
  · rintro ⟨⟨t, has, rfl⟩, none_⟩
    refine .inr (.inr (.inr ?_))
    exact .missing (lt_of_hasTransfer has) (mem_transfersOf.2 has)
      (find?_transfersOf_eq_none.2 none_)

theorem asymmetricTransfer_mem_iff : .asymmetricTransfer source target ∈ qualityIssues c ↔
    ∃ t reverse, c.HasTransfer source t ∧ t.targetStop.toNat = target ∧
      FirstBetween c target source reverse ∧ reverse.duration ≠ t.duration := by
  rw [mem_qualityIssues]
  constructor
  · rintro (issued | issued | ⟨_, _, _, -, -, issued⟩ | issued) <;> cases issued
    exact ⟨_, _, mem_transfersOf.1 ‹_›, rfl, find?_transfersOf_eq_some.1 ‹_›, ‹_›⟩
  · rintro ⟨t, reverse, has, rfl, found, differs⟩
    refine .inr (.inr (.inr ?_))
    exact .asymmetric (lt_of_hasTransfer has) (mem_transfersOf.2 has)
      (find?_transfersOf_eq_some.2 found) differs

/-- Nothing is found exactly if each transfer has a reverse that takes as long. -/
theorem noTransferIssue_iff : (∀ issue ∈ qualityIssues c, issue.transfer? = none) ↔
    ∀ source t, c.HasTransfer source t → HasReverse c source t := by
  constructor
  · intro none_ source t has
    cases found : (transfersOf c t.targetStop.toNat).find? (·.targetStop.toNat == source) with
    | none =>
      have missing := missingReverseTransfer_mem_iff.2
        ⟨⟨t, has, rfl⟩, find?_transfersOf_eq_none.1 found⟩
      cases none_ _ missing
    | some reverse =>
      have first := find?_transfersOf_eq_some.1 found
      refine ⟨reverse, first, by_contra fun differs => ?_⟩
      have asymmetric := asymmetricTransfer_mem_iff.2 ⟨t, reverse, has, rfl, first, differs⟩
      cases none_ _ asymmetric
  · intro reverses issue mem
    cases issue with
    | missingReverseTransfer source target =>
      obtain ⟨⟨t, has, rfl⟩, none_⟩ := missingReverseTransfer_mem_iff.1 mem
      obtain ⟨reverse, first, -⟩ := reverses source t has
      have some_ := find?_transfersOf_eq_some.2 first
      cases some_.symm.trans (find?_transfersOf_eq_none.2 none_)
    | asymmetricTransfer source target =>
      obtain ⟨t, reverse, has, rfl, first, differs⟩ := asymmetricTransfer_mem_iff.1 mem
      obtain ⟨reverse', first', same⟩ := reverses source t has
      have found := find?_transfersOf_eq_some.2 first
      cases found.symm.trans (find?_transfersOf_eq_some.2 first')
      exact absurd same differs
    | _ => rfl

/-! ## How often -/

theorem transfer?_of_transferIssue? (found : transferIssue? c source t = some issue) :
    issue.transfer? = some (source, t.targetStop.toNat) := by
  unfold transferIssue? at found
  dsimp only at found
  split at found
  · cases found
    rfl
  · obtain ⟨-, same⟩ := Option.ite_none_left_eq_some.1 found
    cases same
    rfl

theorem ends_unique {source' : Nat} {t' : Transfer} (found : transferIssue? c source t = some issue)
    (found' : transferIssue? c source' t' = some issue) :
    source = source' ∧ t.targetStop.toNat = t'.targetStop.toNat := by
  have ends := transfer?_of_transferIssue? found
  rw [transfer?_of_transferIssue? found', Option.some.injEq, Prod.mk.injEq] at ends
  exact ⟨ends.1.symm, ends.2.symm⟩

/-- The issues of transfers with different sources or targets are different. -/
theorem nodup_transferIssues (single : c.SingleTargets) : (transferIssues c).Nodup := by
  refine List.nodup_flatMap.2 ⟨fun source _ => ?_, ?_⟩
  · have apart : (transfersOf c source).Pairwise
        fun t other => t.targetStop ≠ other.targetStop := by
      rw [transfersOf]
      split
      · exact .nil
      · exact single source _ ‹_›
    refine List.pairwise_filterMap.2 (apart.imp fun ne issue found _ found' same => ne ?_)
    subst same
    exact UInt16.toNat_inj.1 (ends_unique found found').2
  · refine List.nodup_range.imp fun ne issue found found' => ne ?_
    obtain ⟨t, -, found⟩ := List.mem_filterMap.1 found
    obtain ⟨t', -, found'⟩ := List.mem_filterMap.1 found'
    exact (ends_unique found found').1

/-- An issue of a transfer is reported once. -/
theorem count_qualityIssues_le (single : c.SingleTargets) (ofTransfer : issue.transfer? ≠ none) :
    (qualityIssues c).count issue ≤ 1 := by
  have boarding : issue ∉ boardingIssues c := by
    rw [mem_boardingIssues]
    rintro (_ | _) <;> exact ofTransfer rfl
  have coordinate : issue ∉ coordinateIssues c := by
    rw [mem_coordinateIssues]
    rintro ⟨_⟩
    exact ofTransfer rfl
  have time : issue ∉ timeIssues c := by
    rw [mem_timeIssues]
    rintro ⟨_, _, _, -, -, _ | _ | _⟩ <;> exact ofTransfer rfl
  rw [qualityIssues, List.count_append, List.count_append, List.count_append,
    List.count_eq_zero.2 boarding, List.count_eq_zero.2 coordinate, List.count_eq_zero.2 time]
  have once := List.nodup_iff_count_le_one.1 (nodup_transferIssues single) issue
  omega

/-! ## Symmetry -/

/-- What the check of quality finds decides which transfers are symmetric. -/
structure DecidesSymmetry (c : Container) : Prop where
  /-- Nothing is found exactly if each transfer has a reverse, the first of which takes as
  long. -/
  none_iff : (∀ issue ∈ qualityIssues c, issue.transfer? = none) ↔
    ∀ source t, c.HasTransfer source t → HasReverse c source t
  missing_iff : c.SingleTargets → ∀ source target,
    (.missingReverseTransfer source target ∈ qualityIssues c ↔
      (∃ t, c.HasTransfer source t ∧ t.targetStop.toNat = target) ∧
        ¬∃ t, c.HasTransfer target t ∧ t.targetStop.toNat = source)
  asymmetric_iff : c.SingleTargets → ∀ source target,
    (.asymmetricTransfer source target ∈ qualityIssues c ↔
      ∃ t reverse, (c.HasTransfer source t ∧ t.targetStop.toNat = target) ∧
        (c.HasTransfer target reverse ∧ reverse.targetStop.toNat = source) ∧
          t.duration ≠ reverse.duration)
  /-- A transfer differs from its reverse exactly if the reverse differs from it. -/
  asymmetric_comm : c.SingleTargets → ∀ source target,
    (.asymmetricTransfer source target ∈ qualityIssues c ↔
      .asymmetricTransfer target source ∈ qualityIssues c)
  once : c.SingleTargets → ∀ source target,
    (qualityIssues c).count (.missingReverseTransfer source target) ≤ 1 ∧
      (qualityIssues c).count (.asymmetricTransfer source target) ≤ 1

theorem asymmetricTransfer_mem_iff_of_single (single : c.SingleTargets) :
    .asymmetricTransfer source target ∈ qualityIssues c ↔
      ∃ t reverse, (c.HasTransfer source t ∧ t.targetStop.toNat = target) ∧
        (c.HasTransfer target reverse ∧ reverse.targetStop.toNat = source) ∧
          t.duration ≠ reverse.duration := by
  simp only [asymmetricTransfer_mem_iff, firstBetween_iff single, ne_comm, and_assoc]

/-- The check of quality finds nothing in the transfers of a container exactly if each has a
reverse that takes as long.  Where no stop point has two transfers to the same one, what it
finds between two stop points says which of the two transfers between them is missing, or that
both are there and differ. -/
theorem decidesSymmetry (c : Container) : DecidesSymmetry c where
  none_iff := noTransferIssue_iff
  missing_iff _ source target := by
    rw [missingReverseTransfer_mem_iff]
    simp only [not_exists, not_and, ne_eq]
  asymmetric_iff single source target := asymmetricTransfer_mem_iff_of_single single
  asymmetric_comm single source target := by
    rw [asymmetricTransfer_mem_iff_of_single single, asymmetricTransfer_mem_iff_of_single single,
      exists_comm]
    simp only [and_left_comm, ne_comm]
  once single source target :=
    ⟨count_qualityIssues_le single nofun, count_qualityIssues_le single nofun⟩

/-- Three stop points.  Those in the first two rows have transfers to each other that take
different times, there is no way back from the third one to the first, and the third one has a
transfer to itself. -/
def oneWay : Container where
  pool := ⟨.ofArray #[0]⟩
  stopAreas := ⟨#[⟨0, ⟨0, 0⟩, 0, 0⟩], .owned 1⟩
  stopPoints := ⟨#[⟨0, 0, 0, ⟨0, 0⟩, 0, 0, 0, 0⟩, ⟨0, 0, 0, ⟨0, 0⟩, 0, 0, 0, 2⟩,
    ⟨0, 0, 0, ⟨0, 0⟩, 0, 0, 0, 3⟩], .owned 3⟩
  transfers := ⟨#[⟨1, 30⟩, ⟨2, 30⟩, ⟨0, 45⟩, ⟨2, 5⟩], .owned 4⟩

theorem singleTargets_oneWay : oneWay.SingleTargets := by
  intro source run found
  obtain ⟨point, at_, -⟩ := Option.bind_eq_some_iff.1 found
  have inside : source < 3 := (Array.getElem?_eq_some_iff.1 at_).1
  interval_cases source <;> cases found <;> decide

/-- The transfer from the third stop point to itself is its own reverse. -/
theorem decidesSymmetry_oneWay : Audit.checkReferences oneWay = .ok () ∧ oneWay.SingleTargets ∧
    .asymmetricTransfer 0 1 ∈ qualityIssues oneWay ∧
    .asymmetricTransfer 1 0 ∈ qualityIssues oneWay ∧
    .missingReverseTransfer 0 2 ∈ qualityIssues oneWay ∧
    .missingReverseTransfer 2 2 ∉ qualityIssues oneWay := by
  have decides := decidesSymmetry oneWay
  have single := singleTargets_oneWay
  have first : oneWay.HasTransfer 0 ⟨1, 30⟩ := ⟨⟨0, 2, by decide, by decide⟩, rfl, by decide⟩
  have second : oneWay.HasTransfer 0 ⟨2, 30⟩ := ⟨⟨0, 2, by decide, by decide⟩, rfl, by decide⟩
  have back : oneWay.HasTransfer 1 ⟨0, 45⟩ := ⟨⟨2, 3, by decide, by decide⟩, rfl, by decide⟩
  have self : oneWay.HasTransfer 2 ⟨2, 5⟩ := ⟨⟨3, 4, by decide, by decide⟩, rfl, by decide⟩
  have differs : .asymmetricTransfer 0 1 ∈ qualityIssues oneWay :=
    (decides.asymmetric_iff single 0 1).2 ⟨_, _, ⟨first, rfl⟩, ⟨back, rfl⟩, by decide⟩
  refine ⟨by decide, single, differs, (decides.asymmetric_comm single 0 1).1 differs, ?_, ?_⟩
  · refine (decides.missing_iff single 0 2).2 ⟨⟨_, second, rfl⟩, ?_⟩
    rintro ⟨t, ⟨run, ⟨⟩, mem⟩, leads⟩
    cases List.mem_singleton.1 mem
    exact absurd leads (by decide)
  · intro missing
    exact ((decides.missing_iff single 2 2).1 missing).2 ⟨_, self, rfl⟩

end Audit

end TransitStore
