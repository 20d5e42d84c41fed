import Mathlib
import TransitStore.Binary.Format

/-!
# Correct rounding

The bits of a datum without their sign count the numbers of a format from zero upwards
(`Format.number`), so data are neighbours if their bits are.  `Format.round` looks for the
exponent first, and then rounds to an integer of the last place (`scaled`).  All numbers of
larger exponents are such integers too, and the others are too small to be nearer, so the datum
is the nearest one of the whole format, and of two that are equally near the one with even bits
(`roundsTo_round`).  A datum of one format is converted to another one in the same way
(`converts_convert`).
-/

namespace TransitStore.Binary

/-! ## Nearest integers -/

/-- An integer is the one nearest to a number, the even one of two. -/
structure IsNearestInteger (y : ℚ) (s : Nat) : Prop where
  half : |y - s| ≤ 1 / 2
  even : |y - s| = 1 / 2 → Even s

namespace IsNearestInteger

variable {y : ℚ} {s n : Nat} (nearest : IsNearestInteger y s)

include nearest

/-- Other integers are no nearer, since they are a whole apart. -/
theorem half_le (other : n ≠ s) : 1 / 2 ≤ |y - n| := by
  have apart : (1 : ℚ) ≤ |(s : ℚ) - n| := by
    have int : (1 : Int) ≤ |(s : Int) - n| := by
      have some_ : (s : Int) - n ≠ 0 := by omega
      exact Int.one_le_abs some_
    exact_mod_cast int
  have sum := abs_sub_le (s : ℚ) y n
  have half := nearest.half
  rw [abs_sub_comm (s : ℚ) y] at sum
  linarith

theorem le (n : Nat) : |y - s| ≤ |y - n| := by
  by_cases same : n = s
  · rw [same]
  · exact nearest.half.trans (nearest.half_le same)

theorem even_of_eq (other : n ≠ s) (tie : |y - n| = |y - s|) : Even s :=
  nearest.even (le_antisymm nearest.half (tie ▸ nearest.half_le other))

theorem le_of_lt {bound : Nat} (lt : y < bound) : s ≤ bound := by
  have half := (abs_le.1 nearest.half).1
  have near : (s : ℚ) < (bound + 1 : Nat) := by
    push_cast
    linarith
  exact Nat.le_of_lt_succ (Nat.cast_lt.1 near)

theorem le_of_le {bound : Nat} (le : (bound : ℚ) ≤ y) : bound ≤ s := by
  have half := (abs_le.1 nearest.half).2
  have near : (bound : ℚ) < (s + 1 : Nat) := by
    push_cast
    linarith
  exact Nat.le_of_lt_succ (Nat.cast_lt.1 near)

end IsNearestInteger

/-- The integer nearest to a quotient by its remainder. -/
theorem isNearestInteger_of_rest {down rest d : Nat} (lt : rest < d) :
    IsNearestInteger (down + rest / d : ℚ)
      (if 2 * rest < d ∨ (2 * rest = d ∧ down % 2 = 0) then down else down + 1) := by
  have positive : (0 : ℚ) < d := Nat.cast_pos.2 (Nat.zero_lt_of_lt lt)
  have below : (rest : ℚ) / d < 1 / 2 ↔ 2 * rest < d := by
    rw [div_lt_div_iff₀ positive two_pos, mul_comm, one_mul]
    exact_mod_cast Iff.rfl
  have equal : (rest : ℚ) / d = 1 / 2 ↔ 2 * rest = d := by
    rw [div_eq_div_iff positive.ne' two_ne_zero, mul_comm, one_mul]
    exact_mod_cast Iff.rfl
  have nonneg : (0 : ℚ) ≤ (rest : ℚ) / d := by positivity
  have small : (rest : ℚ) / d < 1 := (div_lt_one positive).2 (Nat.cast_lt.2 lt)
  split
  · rename_i near
    have distance : |(down + rest / d : ℚ) - down| = rest / d := by
      rw [add_sub_cancel_left, abs_of_nonneg nonneg]
    refine ⟨?_, ?_⟩
    · rw [distance]
      exact near.elim (fun lt => (below.2 lt).le) fun tie => (equal.2 tie.1).le
    · rw [distance, equal]
      intro tie
      have even : down % 2 = 0 := by omega
      exact Nat.even_iff.2 even
  · rename_i far
    have distance : |(down + rest / d : ℚ) - (down + 1 : Nat)| = 1 - rest / d := by
      rw [Nat.cast_add_one, add_sub_add_left_eq_sub, abs_sub_comm, abs_of_pos (sub_pos.2 small)]
    have half : (1 : ℚ) / 2 ≤ rest / d := not_lt.1 fun lt => far (.inl (below.1 lt))
    refine ⟨?_, ?_⟩
    · rw [distance]
      linarith
    · rw [distance]
      intro tie
      have tie : 2 * rest = d := equal.1 (by linarith)
      have odd : (down + 1) % 2 = 0 := by omega
      exact Nat.even_iff.2 odd

/-! ## Quotients and powers -/

theorem power_pos (exponent : Int) : 0 < power 2 exponent := Nat.pow_pos Nat.two_pos

theorem power_div_power (exponent : Int) :
    (power 2 exponent : ℚ) / power 2 (-exponent) = 2 ^ exponent := by
  have parts : exponent = exponent.toNat - (-exponent).toNat := by omega
  simp only [power, Nat.pow_eq, Nat.cast_pow, Nat.cast_ofNat]
  conv_rhs => rw [parts, zpow_sub₀ two_ne_zero, zpow_natCast, zpow_natCast]

namespace Format

section

variable {num den : Nat}

/-- A quotient over a power of two, as a quotient of integers. -/
theorem scaled_quotient (num den : Nat) (e : Int) :
    ((num * power 2 (-e) : Nat) : ℚ) / (den * power 2 e : Nat) = num / den / 2 ^ e := by
  rw [← power_div_power, Nat.cast_mul, Nat.cast_mul, div_div_eq_mul_div, div_mul_eq_mul_div,
    div_div]

theorem isNearestInteger_scaled (some_ : 0 < den) (e : Int) :
    IsNearestInteger (num / den / 2 ^ e) (scaled num den e) := by
  rw [← scaled_quotient]
  unfold scaled
  generalize num * power 2 (-e) = n
  have some_ : 0 < den * power 2 e := Nat.mul_pos some_ (power_pos e)
  generalize den * power 2 e = d at some_
  have whole : (n : ℚ) = d * (n / d : Nat) + (n % d : Nat) := by
    exact_mod_cast (Nat.div_add_mod n d).symm
  have split : (n : ℚ) / d = (n / d : Nat) + (n % d : Nat) / d := by
    rw [whole, add_div, mul_div_cancel_left₀ _ (Nat.cast_pos.2 some_).ne']
  rw [split]
  exact isNearestInteger_of_rest (Nat.mod_lt n some_)

/-! ## The last place -/

theorem fits_iff (some_ : 0 < den) (precision : Nat) (e : Int) :
    num * power 2 (-e) < Nat.pow 2 precision * (den * power 2 e) ↔
      (num / den : ℚ) < 2 ^ (precision + e : Int) := by
  have denominator : (0 : ℚ) < den := Nat.cast_pos.2 some_
  have unit : (0 : ℚ) < power 2 (-e) := Nat.cast_pos.2 (power_pos _)
  rw [zpow_add₀ two_ne_zero, zpow_natCast, ← power_div_power, mul_div_assoc',
    div_lt_div_iff₀ denominator unit, ← Nat.cast_lt (α := ℚ)]
  push_cast [Nat.pow_eq]
  rw [mul_assoc, mul_comm (den : ℚ)]

/-- A quotient lies between powers of two by the lengths of its parts. -/
theorem quotient_bounds (numerator : 0 < num) (denominator : 0 < den) :
    (2 : ℚ) ^ ((Nat.log2 num : Int) - Nat.log2 den - 1) < num / den ∧
      (num / den : ℚ) < 2 ^ ((Nat.log2 num : Int) - Nat.log2 den + 1) := by
  have two : (2 : ℚ) ≠ 0 := two_ne_zero
  have least : ((2 ^ Nat.log2 num : Nat) : ℚ) ≤ num :=
    Nat.cast_le.2 (Nat.log2_self_le numerator.ne')
  have most : (num : ℚ) < (2 ^ (Nat.log2 num + 1) : Nat) := Nat.cast_lt.2 Nat.lt_log2_self
  have least' : ((2 ^ Nat.log2 den : Nat) : ℚ) ≤ den :=
    Nat.cast_le.2 (Nat.log2_self_le denominator.ne')
  have most' : (den : ℚ) < (2 ^ (Nat.log2 den + 1) : Nat) := Nat.cast_lt.2 Nat.lt_log2_self
  push_cast at least most least' most'
  constructor
  · calc (2 : ℚ) ^ ((Nat.log2 num : Int) - Nat.log2 den - 1)
        = 2 ^ Nat.log2 num / 2 ^ (Nat.log2 den + 1) := by
          rw [sub_sub, zpow_sub₀ two, zpow_natCast]
          norm_cast
      _ < 2 ^ Nat.log2 num / den := by gcongr
      _ ≤ num / den := by gcongr
  · calc (num / den : ℚ) < 2 ^ (Nat.log2 num + 1) / den := by gcongr
      _ ≤ 2 ^ (Nat.log2 num + 1) / 2 ^ Nat.log2 den := by gcongr
      _ = 2 ^ ((Nat.log2 num : Int) - Nat.log2 den + 1) := by
          rw [sub_add_eq_add_sub, zpow_sub₀ two, zpow_natCast]
          norm_cast

/-- The last place is no smaller than the format has it, and a quotient that has a larger one
has as many digits as there are. -/
theorem lastPlace_spec (f : Format) (numerator : 0 < num) (denominator : 0 < den) :
    f.minExponent ≤ f.lastPlace num den ∧
      (num / den : ℚ) < 2 ^ (f.precision + f.lastPlace num den : Int) ∧
      (f.lastPlace num den ≠ f.minExponent →
        (2 : ℚ) ^ (f.precision + f.lastPlace num den - 1 : Int) ≤ num / den) := by
  obtain ⟨above, below⟩ := quotient_bounds numerator denominator
  unfold lastPlace
  simp only [decide_eq_true_eq, fits_iff denominator]
  generalize (num / den : ℚ) = x at *
  generalize first : (Nat.log2 num : Int) - Nat.log2 den = length at *
  have place (e : Int) (lt : x < 2 ^ (f.precision + e : Int))
      (le : (2 : ℚ) ^ (f.precision + e - 1 : Int) ≤ x) :
      f.minExponent ≤ max e f.minExponent ∧ x < 2 ^ (f.precision + max e f.minExponent : Int) ∧
        (max e f.minExponent ≠ f.minExponent →
          (2 : ℚ) ^ (f.precision + max e f.minExponent - 1 : Int) ≤ x) := by
    refine ⟨le_max_right _ _, lt.trans_le ?_, ?_⟩
    · exact zpow_le_zpow_right₀ one_le_two (by omega)
    · intro larger
      rwa [max_eq_left (by omega : f.minExponent ≤ e)]
  split
  · rename_i fits
    refine place _ fits ?_
    rw [show (f.precision + (length - f.precision) - 1 : Int) = length - 1 by ring]
    exact above.le
  · rename_i short
    rw [if_pos]
    · refine place _ ?_ ?_
      · rwa [show (f.precision + (length - f.precision + 1) : Int) = length + 1 by ring]
      · rw [show (f.precision + (length - f.precision + 1) - 1 : Int) =
          f.precision + (length - f.precision) by ring]
        exact not_lt.1 short
    · rwa [show (f.precision + (length - f.precision + 1) : Int) = length + 1 by ring]

end

/-! ## Numbers of data -/

/-- The number of the bits of a datum without their sign.  Infinity and what is beyond it have
the numbers that they would have in a format with a longer exponent field. -/
def number (f : Format) (magnitude : Nat) : ℚ :=
  let field := magnitude / f.fieldUnit
  let fraction := magnitude % f.fieldUnit
  if field = 0 then fraction * 2 ^ f.minExponent
  else (fraction + f.fieldUnit) * 2 ^ (f.minExponent + (field - 1 : Nat))

variable {f : Format}

theorem fieldUnit_pos (f : Format) : 0 < f.fieldUnit := Nat.pow_pos Nat.two_pos

theorem number_of_lt {fraction : Nat} (lt : fraction < f.fieldUnit) :
    f.number fraction = fraction * 2 ^ f.minExponent := by
  rw [number, Nat.div_eq_of_lt lt, Nat.mod_eq_of_lt lt, if_pos rfl]

theorem number_of_field {t fraction : Nat} (lt : fraction < f.fieldUnit) :
    f.number (f.fieldUnit * (t + 1) + fraction) =
      (fraction + f.fieldUnit) * 2 ^ (f.minExponent + t) := by
  rw [number, Nat.mul_add_div f.fieldUnit_pos, Nat.mul_add_mod, Nat.div_eq_of_lt lt,
    Nat.mod_eq_of_lt lt, if_neg (Nat.succ_ne_zero t)]
  rfl

/-- A significand of an exponent makes a number, also if it is the next power of two. -/
theorem number_of_grid {t s : Nat} (normal : t ≠ 0 → f.fieldUnit ≤ s) (le : s ≤ 2 * f.fieldUnit) :
    f.number (t * f.fieldUnit + s) = s * 2 ^ (f.minExponent + t) := by
  rcases Nat.lt_or_ge s f.fieldUnit with small | large
  · have zero : t = 0 := by
      by_contra some_
      exact Nat.not_le.2 small (normal some_)
    rw [zero, Nat.zero_mul, Nat.zero_add, number_of_lt small, Nat.cast_zero, add_zero]
  · obtain ⟨fraction, rfl⟩ := Nat.exists_eq_add_of_le large
    rcases Nat.lt_or_ge fraction f.fieldUnit with lt | ge
    · have split : t * f.fieldUnit + (f.fieldUnit + fraction) =
          f.fieldUnit * (t + 1) + fraction := by ring
      rw [split, number_of_field lt, Nat.cast_add, add_comm (fraction : ℚ)]
    · obtain rfl : fraction = f.fieldUnit := by omega
      have split : t * f.fieldUnit + (f.fieldUnit + f.fieldUnit) =
          f.fieldUnit * (t + 1 + 1) + 0 := by ring
      rw [split, number_of_field f.fieldUnit_pos]
      push_cast
      rw [zero_add, ← add_assoc, zpow_add_one₀ two_ne_zero]
      ring

/-- All bits are a significand of an exponent. -/
theorem exists_grid (f : Format) (magnitude : Nat) : ∃ t s, magnitude = t * f.fieldUnit + s ∧
    s < 2 * f.fieldUnit ∧ (t ≠ 0 → f.fieldUnit ≤ s) := by
  have whole := Nat.div_add_mod magnitude f.fieldUnit
  have lt := Nat.mod_lt magnitude f.fieldUnit_pos
  cases field : magnitude / f.fieldUnit with
  | zero =>
    rw [field, Nat.mul_zero, Nat.zero_add] at whole
    refine ⟨0, magnitude, ?_, ?_, ?_⟩
    · rw [Nat.zero_mul, Nat.zero_add]
    · omega
    · intro some_
      exact absurd rfl some_
  | succ t =>
    rw [field] at whole
    refine ⟨t, f.fieldUnit + magnitude % f.fieldUnit, ?_, ?_, ?_⟩
    · rw [← whole, Nat.mul_add_mod, Nat.mod_mod]
      ring
    · omega
    · intro _
      exact Nat.le_add_right _ _

/-- The numbers grow with the bits. -/
theorem strictMono_number (f : Format) : StrictMono f.number := by
  apply strictMono_nat_of_lt_succ
  intro magnitude
  obtain ⟨t, s, rfl, lt, normal⟩ := f.exists_grid magnitude
  have next : t ≠ 0 → f.fieldUnit ≤ s + 1 := fun some_ => Nat.le_succ_of_le (normal some_)
  rw [Nat.add_assoc, number_of_grid normal lt.le, number_of_grid next lt]
  gcongr
  exact Nat.lt_succ_self s

/-! ## Nearest data -/

/-- A datum is the one of a format that is nearest to a number.  Of two that are equally near it
has even bits. -/
structure RoundsTo (f : Format) (x : ℚ) (magnitude : Nat) : Prop where
  le : magnitude ≤ f.infinity
  nearest : ∀ other ≤ f.infinity, |x - f.number magnitude| ≤ |x - f.number other|
  even : ∀ other ≤ f.infinity, other ≠ magnitude →
    |x - f.number other| = |x - f.number magnitude| → Even magnitude

/-- The numbers that are not below a power of two are integers of its last place. -/
theorem exists_number_eq_mul {t magnitude : Nat}
    (large : t ≠ 0 → t * f.fieldUnit + f.fieldUnit ≤ magnitude) :
    ∃ n : Nat, f.number magnitude = n * 2 ^ (f.minExponent + t) := by
  obtain ⟨t', s, rfl, lt, normal⟩ := f.exists_grid magnitude
  have le : t ≤ t' := by
    by_contra below
    have large := large (by omega)
    have step : t' * f.fieldUnit + f.fieldUnit ≤ t * f.fieldUnit := by
      rw [← Nat.succ_mul]
      exact Nat.mul_le_mul_right _ (by omega)
    omega
  obtain ⟨more, rfl⟩ := Nat.exists_eq_add_of_le le
  refine ⟨s * 2 ^ more, ?_⟩
  rw [number_of_grid normal lt.le, Nat.cast_add, ← add_assoc, zpow_add₀ two_ne_zero, zpow_natCast]
  push_cast
  ring

/-- An integer of the last place is the nearest number of all, if smaller numbers are below it
and below what is rounded. -/
theorem nearest_number {x : ℚ} {t s : Nat}
    (nearest : IsNearestInteger (x / 2 ^ (f.minExponent + t)) s) (le : s ≤ 2 * f.fieldUnit)
    (normal : t ≠ 0 → (f.fieldUnit : ℚ) ≤ x / 2 ^ (f.minExponent + t)) (other : Nat) :
    |x - f.number (t * f.fieldUnit + s)| ≤ |x - f.number other| ∧
      (other ≠ t * f.fieldUnit + s →
        |x - f.number other| = |x - f.number (t * f.fieldUnit + s)| → Even s) := by
  have large (some_ : t ≠ 0) : f.fieldUnit ≤ s := nearest.le_of_le (normal some_)
  have unit : (0 : ℚ) < 2 ^ (f.minExponent + t : Int) := zpow_pos two_pos _
  have distance (n : Nat) : |x - n * 2 ^ (f.minExponent + t : Int)| =
      |x / 2 ^ (f.minExponent + t : Int) - n| * 2 ^ (f.minExponent + t : Int) := by
    conv_rhs => rw [← abs_of_pos unit, ← abs_mul, abs_of_pos unit, sub_mul,
      div_mul_cancel₀ _ unit.ne']
  have own := number_of_grid large le
  by_cases same : other = t * f.fieldUnit + s
  · rw [same]
    exact ⟨le_rfl, fun differ => absurd rfl differ⟩
  by_cases small : t ≠ 0 ∧ other < t * f.fieldUnit + f.fieldUnit
  · obtain ⟨some_, below⟩ := small
    have least : f.number (t * f.fieldUnit + f.fieldUnit) =
        f.fieldUnit * 2 ^ (f.minExponent + t) :=
      number_of_grid (fun _ => le_rfl) (by omega)
    have lt := f.strictMono_number below
    rw [least] at lt
    have reach : (f.fieldUnit : ℚ) * 2 ^ (f.minExponent + t : Int) ≤ x :=
      (le_div_iff₀ unit).1 (normal some_)
    have farther : |x - f.number (t * f.fieldUnit + s)| < |x - f.number other| := by
      rw [own]
      calc |x - s * 2 ^ (f.minExponent + t : Int)|
          ≤ |x - f.fieldUnit * 2 ^ (f.minExponent + t : Int)| := by
            rw [distance, distance]
            exact mul_le_mul_of_nonneg_right (nearest.le _) unit.le
        _ = x - f.fieldUnit * 2 ^ (f.minExponent + t : Int) := abs_of_nonneg (sub_nonneg.2 reach)
        _ < x - f.number other := sub_lt_sub_left lt x
        _ ≤ |x - f.number other| := le_abs_self _
    exact ⟨farther.le, fun _ tie => absurd tie farther.ne'⟩
  · obtain ⟨n, at_⟩ : ∃ n : Nat, f.number other = n * 2 ^ (f.minExponent + t) := by
      apply exists_number_eq_mul
      intro some_
      exact not_lt.1 fun below => small ⟨some_, below⟩
    have differ : n ≠ s := by
      rintro rfl
      exact same (f.strictMono_number.injective (at_.trans own.symm))
    rw [own, at_, distance, distance]
    refine ⟨?_, fun _ tie => ?_⟩
    · exact mul_le_mul_of_nonneg_right (nearest.le n) unit.le
    · exact nearest.even_of_eq differ (mul_right_cancel₀ unit.ne' tie)

/-- Beyond the largest number infinity is the nearest. -/
theorem roundsTo_min {x : ℚ} {magnitude : Nat}
    (nearest : ∀ other, |x - f.number magnitude| ≤ |x - f.number other| ∧
      (other ≠ magnitude → |x - f.number other| = |x - f.number magnitude| → Even magnitude))
    (even : Even f.infinity) : f.RoundsTo x (min magnitude f.infinity) := by
  rcases Nat.lt_or_ge f.infinity magnitude with beyond | within
  · rw [min_eq_right beyond.le]
    have far := f.strictMono_number beyond
    have reach : f.number f.infinity ≤ x := by
      by_contra below
      have closer := (nearest f.infinity).1
      rw [abs_of_nonpos (by linarith), abs_of_nonpos (by linarith)] at closer
      linarith
    refine ⟨le_rfl, fun other le => ?_, fun _ _ _ _ => even⟩
    have below := f.strictMono_number.monotone le
    rw [abs_of_nonneg (by linarith), abs_of_nonneg (by linarith)]
    linarith
  · rw [min_eq_left within]
    exact ⟨within, fun other _ => (nearest other).1, fun other _ => (nearest other).2⟩

theorem number_zero (f : Format) : f.number 0 = 0 := by
  rw [number_of_lt f.fieldUnit_pos, Nat.cast_zero, zero_mul]

theorem cast_fieldUnit (precise : 1 ≤ f.precision) :
    (f.fieldUnit : ℚ) = 2 ^ (f.precision - 1 : Int) := by
  have cast : (f.precision - 1 : Int) = (f.precision - 1 : Nat) := by omega
  rw [cast, zpow_natCast, fieldUnit, Nat.pow_eq]
  norm_cast

theorem even_fieldUnit (precise : 2 ≤ f.precision) : Even f.fieldUnit := by
  rw [fieldUnit, Nat.pow_eq, Nat.even_pow]
  exact ⟨even_two, by omega⟩

theorem scaled_zero {den : Nat} (denominator : 0 < den) (e : Int) : scaled 0 den e = 0 := by
  have some_ : 0 < den * power 2 e := Nat.mul_pos denominator (power_pos e)
  simp [scaled, some_]

/-- Quotients are rounded to the nearest datum of a format. -/
theorem roundsTo_round {num den : Nat} (precise : 2 ≤ f.precision) (denominator : 0 < den) :
    f.RoundsTo (num / den) (f.round num den) := by
  have even : Even f.fieldUnit := even_fieldUnit precise
  have infinity : Even f.infinity := even.mul_left _
  rcases Nat.eq_zero_or_pos num with rfl | numerator
  · rw [round, scaled_zero denominator, if_pos f.fieldUnit_pos, Nat.cast_zero, zero_div]
    refine roundsTo_min (fun other => ⟨?_, fun _ _ => Even.zero⟩) infinity
    rw [number_zero, sub_zero, abs_zero]
    exact abs_nonneg _
  · obtain ⟨least, lt, full⟩ := f.lastPlace_spec numerator denominator
    dsimp only [round]
    generalize f.lastPlace num den = e at *
    obtain ⟨t, rfl⟩ : ∃ t : Nat, e = f.minExponent + t := ⟨(e - f.minExponent).toNat, by omega⟩
    have nearest : IsNearestInteger (num / den / 2 ^ (f.minExponent + t))
        (scaled num den (f.minExponent + t)) :=
      isNearestInteger_scaled denominator (f.minExponent + t)
    generalize scaled num den (f.minExponent + t) = s at *
    generalize (num / den : ℚ) = x at *
    have unit : (0 : ℚ) < 2 ^ (f.minExponent + t : Int) := zpow_pos two_pos _
    have power : (f.fieldUnit : ℚ) * 2 ^ (f.minExponent + t : Int) =
        2 ^ (f.precision + (f.minExponent + t) - 1 : Int) := by
      rw [cast_fieldUnit (Nat.le_of_succ_le precise), ← zpow_add₀ two_ne_zero, sub_add_eq_add_sub]
    have normal (some_ : t ≠ 0) : (f.fieldUnit : ℚ) ≤ x / 2 ^ (f.minExponent + t : Int) := by
      rw [le_div_iff₀ unit, power]
      exact full (by omega)
    have le : s ≤ 2 * f.fieldUnit := by
      apply nearest.le_of_lt
      rw [div_lt_iff₀ unit, Nat.cast_mul, Nat.cast_ofNat, mul_assoc, power, mul_comm,
        ← zpow_add_one₀ two_ne_zero, sub_add_cancel]
      exact lt
    have bits : (if s < f.fieldUnit then s
        else (f.minExponent + t - f.minExponent).toNat * f.fieldUnit + s) =
          t * f.fieldUnit + s := by
      split
      · rename_i small
        have zero : t = 0 := by
          by_contra some_
          exact Nat.not_le.2 small (nearest.le_of_le (normal some_))
        rw [zero, Nat.zero_mul, Nat.zero_add]
      · rw [add_sub_cancel_left, Int.toNat_natCast]
    rw [bits]
    refine roundsTo_min (fun other => ?_) infinity
    obtain ⟨nearer, tie⟩ := nearest_number nearest le normal other
    exact ⟨nearer, fun differ same => (even.mul_left t).add (tie differ same)⟩

/-- Of two numbers at one distance neither is as near as what lies between them. -/
theorem abs_sub_lt_of_between {x a b c : ℚ} (same : |x - a| = |x - b|) (low : a < c)
    (high : c < b) : |x - c| < |x - a| := by
  have middle : x - a = -(x - b) := (abs_eq_abs.1 same).resolve_left fun equal => by linarith
  rw [abs_of_nonneg (by linarith : 0 ≤ x - a), abs_lt]
  constructor <;> linarith

theorem RoundsTo.not_lt {x : ℚ} {a b : Nat} (first : f.RoundsTo x a) (second : f.RoundsTo x b) :
    ¬a < b := by
  intro lt
  have same : |x - f.number a| = |x - f.number b| :=
    le_antisymm (first.nearest b second.le) (second.nearest a first.le)
  -- Both are even, so there is a datum between them, and that one is nearer.
  have evenA := first.even b second.le lt.ne' same.symm
  have evenB := second.even a first.le lt.ne same
  have between : a + 1 < b := by
    rcases Nat.lt_or_eq_of_le (Nat.succ_le_of_lt lt) with between | rfl
    · exact between
    · exact absurd evenA (Nat.even_add_one.1 evenB)
  have low := f.strictMono_number (Nat.lt_succ_self a)
  have high := f.strictMono_number between
  have nearer := first.nearest (a + 1) (between.le.trans second.le)
  exact (abs_sub_lt_of_between same low high).not_ge nearer

/-- A number is rounded to one datum only. -/
theorem RoundsTo.unique {x : ℚ} {a b : Nat} (first : f.RoundsTo x a) (second : f.RoundsTo x b) :
    a = b :=
  le_antisymm (Nat.not_lt.1 (second.not_lt first)) (Nat.not_lt.1 (first.not_lt second))

/-! ## Conversion -/

/-- The bits of a datum of one format are converted to those of another one. -/
inductive Converts (source target : Format) (bits bits' : Nat) : Prop where
  /-- A number is rounded, and its sign is kept. -/
  | number (finite : source.magnitude bits < source.infinity)
    (sign : target.isNegative bits' = source.isNegative bits)
    (rounds : target.RoundsTo (source.number (source.magnitude bits)) (target.magnitude bits'))
  /-- An infinity is kept. -/
  | infinity (infinite : source.magnitude bits = source.infinity)
    (sign : target.isNegative bits' = source.isNegative bits)
    (infinite' : target.magnitude bits' = target.infinity)
  /-- What is no number stays none. -/
  | nan (nan : source.infinity < source.magnitude bits)
    (nan' : target.infinity < target.magnitude bits')

theorem infinity_lt_signBit (f : Format) : f.infinity < f.signBit := by
  have some_ : 0 < Nat.pow 2 f.exponentBits := Nat.pow_pos Nat.two_pos
  exact Nat.mul_lt_mul_of_pos_right (Nat.sub_lt some_ Nat.one_pos) f.fieldUnit_pos

theorem magnitude_withSign {negative : Bool} {magnitude : Nat} (lt : magnitude < f.signBit) :
    f.magnitude (f.withSign negative magnitude) = magnitude := by
  cases negative with
  | false => exact Nat.mod_eq_of_lt lt
  | true => exact (Nat.add_mod_left f.signBit magnitude).trans (Nat.mod_eq_of_lt lt)

theorem isNegative_withSign {negative : Bool} {magnitude : Nat} (lt : magnitude < f.signBit) :
    f.isNegative (f.withSign negative magnitude) = negative := by
  have none_ : magnitude / f.signBit = 0 := Nat.div_eq_of_lt lt
  cases negative with
  | false =>
    show (magnitude / f.signBit % 2 == 1) = false
    rw [none_]
    rfl
  | true =>
    show ((f.signBit + magnitude) / f.signBit % 2 == 1) = true
    rw [Nat.add_div_left magnitude (Nat.zero_lt_of_lt lt), none_]
    rfl

/-- Bits are decoded to the number they have, to an infinity or to none. -/
theorem decode_cases (f : Format) (bits : Nat) :
    (∃ significand exponent, f.decode bits = .finite (f.isNegative bits) significand exponent ∧
      f.magnitude bits < f.infinity ∧
      f.number (f.magnitude bits) = significand * 2 ^ exponent) ∨
    (f.decode bits = .infinite (f.isNegative bits) ∧ f.magnitude bits = f.infinity) ∨
    (f.decode bits = .nan ∧ f.infinity < f.magnitude bits) := by
  rcases Nat.lt_trichotomy (f.magnitude bits) f.infinity with finite | infinite | beyond
  · refine .inl ?_
    by_cases subnormal : f.magnitude bits / f.fieldUnit = 0
    · refine ⟨f.magnitude bits % f.fieldUnit, f.minExponent, ?_, finite, if_pos subnormal⟩
      simp only [decode, if_pos finite, if_pos subnormal]
    · refine ⟨f.magnitude bits % f.fieldUnit + f.fieldUnit,
        f.minExponent + (f.magnitude bits / f.fieldUnit - 1 : Nat), ?_, finite, ?_⟩
      · simp only [decode, if_pos finite, if_neg subnormal]
      · rw [number, if_neg subnormal, Nat.cast_add]
  · refine .inr (.inl ⟨?_, infinite⟩)
    simp only [decode, if_neg infinite.not_lt, if_pos infinite]
  · refine .inr (.inr ⟨?_, beyond⟩)
    simp only [decode, if_neg beyond.asymm, if_neg beyond.ne']

theorem quietNan_bounds (precise : 2 ≤ f.precision) :
    f.infinity < f.quietNan ∧ f.quietNan < f.signBit := by
  obtain ⟨half, unit⟩ := even_fieldUnit precise
  have positive := f.fieldUnit_pos
  have sign : f.signBit = f.infinity + f.fieldUnit := by
    have some_ : 0 < Nat.pow 2 f.exponentBits := Nat.pow_pos Nat.two_pos
    rw [infinity, ← Nat.succ_mul, Nat.succ_eq_add_one, Nat.sub_add_cancel some_]
    rfl
  rw [quietNan, sign]
  omega

/-- Converting rounds to the nearest datum of the other format. -/
theorem converts_convert (source : Format) {target : Format} (precise : 2 ≤ target.precision)
    (bits : Nat) : source.Converts target bits (source.convert target bits) := by
  rcases source.decode_cases bits with
    ⟨significand, exponent, decoded, finite, number⟩ | ⟨decoded, infinite⟩ | ⟨decoded, beyond⟩
  · have quotient : source.number (source.magnitude bits) =
        (significand * power 2 exponent : Nat) / (power 2 (-exponent) : Nat) := by
      rw [number, Nat.cast_mul, mul_div_assoc, power_div_power]
    have rounds : target.RoundsTo
        ((significand * power 2 exponent : Nat) / (power 2 (-exponent) : Nat))
        (target.round (significand * power 2 exponent) (power 2 (-exponent))) :=
      roundsTo_round precise (power_pos (-exponent))
    have lt := rounds.le.trans_lt target.infinity_lt_signBit
    rw [convert, decoded]
    refine .number finite (isNegative_withSign lt) ?_
    rw [magnitude_withSign lt, quotient]
    exact rounds
  · have lt := target.infinity_lt_signBit
    rw [convert, decoded]
    exact .infinity infinite (isNegative_withSign lt) (magnitude_withSign lt)
  · obtain ⟨more, lt⟩ := quietNan_bounds precise
    rw [convert, decoded]
    refine .nan beyond ?_
    rw [magnitude_withSign lt]
    exact more

theorem withSign_lt {negative : Bool} {magnitude : Nat} (lt : magnitude < f.signBit) :
    f.withSign negative magnitude < 2 * f.signBit := by
  unfold withSign
  split <;> omega

theorem convert_lt (source : Format) {target : Format} (precise : 2 ≤ target.precision)
    (bits : Nat) : source.convert target bits < 2 * target.signBit := by
  have infinity := target.infinity_lt_signBit
  unfold convert
  cases source.decode bits with
  | finite negative significand exponent =>
    exact withSign_lt ((Nat.min_le_right _ _).trans_lt infinity)
  | infinite negative => exact withSign_lt infinity
  | nan => exact withSign_lt (quietNan_bounds precise).2

/-- Bits are made of their sign and the others. -/
theorem withSign_magnitude {bits : Nat} (lt : bits < 2 * f.signBit) :
    f.withSign (f.isNegative bits) (f.magnitude bits) = bits := by
  have parts (negative : Bool) {rest : Nat} (small : rest < f.signBit)
      (split : bits = f.withSign negative rest) :
      f.withSign (f.isNegative bits) (f.magnitude bits) = bits := by
    rw [split, isNegative_withSign small, magnitude_withSign small]
  rcases Nat.lt_or_ge bits f.signBit with small | large
  · exact parts false small rfl
  · obtain ⟨rest, split⟩ := Nat.exists_eq_add_of_le large
    exact parts true (by omega) split

/-- A number is converted to one datum only. -/
theorem Converts.unique {source target : Format} {bits a b : Nat}
    (finite : source.magnitude bits < source.infinity) (first : source.Converts target bits a)
    (second : source.Converts target bits b) (ltA : a < 2 * target.signBit)
    (ltB : b < 2 * target.signBit) : a = b := by
  cases first with
  | number _ sign rounds =>
    cases second with
    | number _ sign' rounds' =>
      rw [← withSign_magnitude ltA, ← withSign_magnitude ltB, sign, sign',
        rounds.unique rounds']
    | infinity infinite => exact absurd infinite finite.ne
    | nan nan => exact absurd nan finite.asymm
  | infinity infinite => exact absurd infinite finite.ne
  | nan nan => exact absurd nan finite.asymm

end Format

end TransitStore.Binary
