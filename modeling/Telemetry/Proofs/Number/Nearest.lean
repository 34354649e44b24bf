import Mathlib.Algebra.Order.Field.Power
import Mathlib.Data.Rat.Floor
import Mathlib.Tactic.FieldSimp
import Mathlib.Tactic.Linarith
import Mathlib.Tactic.NormNum
import Mathlib.Tactic.Positivity
import Mathlib.Tactic.Ring
import Telemetry.Number.Binary64

/-! # Nearest binary64 numbers

A ratio becomes the binary64 number that is nearest to it. If two are equally near, it is the one whose
significand is even, and a ratio that lies too far beyond the greatest number becomes infinite. -/

namespace Telemetry

/-! ## Whole numbers -/

theorem roundHalfEven_half {num den : Nat} (hd : 0 < den) :
    |(roundHalfEven num den : ℚ) - num / den| ≤ 1 / 2 ∧
      (|(roundHalfEven num den : ℚ) - num / den| = 1 / 2 → Even (roundHalfEven num den)) := by
  have hq : (0 : ℚ) < den := by exact_mod_cast hd
  obtain ⟨f, hf⟩ : ∃ f : ℚ, f = (num % den : Nat) / den := ⟨_, rfl⟩
  have hn : (num : ℚ) / den = (num / den : Nat) + f := by
    rw [hf, div_eq_iff hq.ne', add_mul, div_mul_cancel₀ _ hq.ne']
    exact_mod_cast (Nat.div_add_mod' num den).symm
  have hr : ((num % den : Nat) : ℚ) = f * den := by rw [hf, div_mul_cancel₀ _ hq.ne']
  have hf0 : 0 ≤ f := hf ▸ by positivity
  have hdown : |((num / den : Nat) : ℚ) - ((num / den : Nat) + f)| = f := by
    rw [sub_add_cancel_left, abs_neg, abs_of_nonneg hf0]
  have hup : f ≤ 1 → |((num / den + 1 : Nat) : ℚ) - ((num / den : Nat) + f)| = 1 - f := by
    intro h1
    rw [Nat.cast_add_one, add_sub_add_left_eq_sub, abs_of_nonneg (sub_nonneg.mpr h1)]
  simp only [roundHalfEven, hn]
  split
  · rename_i h
    have h2 : 2 * (f * den) < den := by
      rw [← hr]
      exact_mod_cast h
    have hlt : f < 1 / 2 := by nlinarith
    rw [hdown]
    exact ⟨hlt.le, fun he => absurd he hlt.ne⟩
  · split
    · rename_i h
      have h2 : (den : ℚ) < 2 * (f * den) := by
        rw [← hr]
        exact_mod_cast h
      have h1 : f * den < den := by
        rw [← hr]
        exact_mod_cast Nat.mod_lt num hd
      have hgt : 1 / 2 < f := by nlinarith
      rw [hup (by nlinarith)]
      exact ⟨by linarith, fun he => absurd he (by linarith)⟩
    · rename_i hlt hgt
      have h2 : 2 * (f * den) = den := by
        rw [← hr]
        exact_mod_cast Nat.le_antisymm (Nat.not_lt.mp hgt) (Nat.not_lt.mp hlt)
      have hhalf : f = 1 / 2 := by nlinarith
      split
      · rename_i he
        rw [hdown]
        exact ⟨hhalf.le, fun _ => Nat.even_iff.mpr he⟩
      · rename_i ho
        rw [hup (by linarith)]
        exact ⟨by linarith, fun _ => Nat.even_add_one.mpr (Nat.not_even_iff.mpr (Nat.mod_two_ne_zero.mp ho))⟩

/-! ## Scaled ratios -/

theorem cast_timesPower (n : Nat) (k : Int) : (timesPower n 2 k : ℚ) = n * 2 ^ k.toNat := by
  rw [timesPower]
  push_cast [Nat.pow_eq]
  rfl

theorem timesPower_pos {n : Nat} (h : 0 < n) (k : Int) : 0 < timesPower n 2 k :=
  Nat.mul_pos h (Nat.pow_pos (by decide))

theorem timesPower_div (num den : Nat) (e : Int) :
    (timesPower num 2 (-e) : ℚ) / timesPower den 2 e = num / den / 2 ^ e := by
  rw [cast_timesPower, cast_timesPower]
  rcases le_total 0 e with h | h
  · obtain ⟨n, rfl⟩ := Int.eq_ofNat_of_zero_le h
    have h0 : (-(n : Int)).toNat = 0 := by omega
    rw [h0, Int.toNat_natCast, pow_zero, mul_one, zpow_natCast, div_div]
  · obtain ⟨n, hn⟩ := Int.eq_ofNat_of_zero_le (Int.neg_nonneg_of_nonpos h)
    have h0 : e.toNat = 0 := by omega
    have he : e = -(n : Int) := by omega
    rw [h0, he, neg_neg, Int.toNat_natCast, pow_zero, mul_one, zpow_neg, zpow_natCast, div_inv_eq_mul, div_mul_eq_mul_div]

namespace Binary64

/-! ## The last place -/

theorem lt_of_log2 {num den : Nat} (hn : 0 < num) (hd : 0 < den) :
    (2 : ℚ) ^ ((num.log2 : Int) - den.log2 - 1) < num / den ∧
      (num : ℚ) / den < 2 ^ ((num.log2 : Int) - den.log2 + 1) := by
  have hq : (0 : ℚ) < den := by exact_mod_cast hd
  have hnlo : (2 : ℚ) ^ num.log2 ≤ num := by exact_mod_cast Nat.log2_self_le hn.ne'
  have hnhi : (num : ℚ) < 2 ^ (num.log2 + 1) := by exact_mod_cast Nat.lt_log2_self
  have hdlo : (2 : ℚ) ^ den.log2 ≤ den := by exact_mod_cast Nat.log2_self_le hd.ne'
  have hdhi : (den : ℚ) < 2 ^ (den.log2 + 1) := by exact_mod_cast Nat.lt_log2_self
  rw [lt_div_iff₀ hq, div_lt_iff₀ hq]
  constructor
  · calc (2 : ℚ) ^ ((num.log2 : Int) - den.log2 - 1) * den
        < 2 ^ ((num.log2 : Int) - den.log2 - 1) * 2 ^ (den.log2 + 1) := by gcongr
      _ = 2 ^ num.log2 := by
        rw [← zpow_natCast, ← zpow_natCast, ← zpow_add₀ two_ne_zero]
        congr 1
        push_cast
        ring
      _ ≤ num := hnlo
  · calc (num : ℚ) < 2 ^ (num.log2 + 1) := hnhi
      _ = 2 ^ ((num.log2 : Int) - den.log2 + 1) * 2 ^ den.log2 := by
        rw [← zpow_natCast, ← zpow_natCast, ← zpow_add₀ two_ne_zero]
        congr 1
        push_cast
        ring
      _ ≤ 2 ^ ((num.log2 : Int) - den.log2 + 1) * den := by gcongr

theorem timesPower_lt_iff {num den : Nat} (hd : 0 < den) (a b : Nat) :
    timesPower num 2 b < timesPower den 2 a ↔ (num : ℚ) / den < 2 ^ ((a : Int) - b) := by
  have hq : (0 : ℚ) < den := by exact_mod_cast hd
  rw [← Nat.cast_lt (α := ℚ), cast_timesPower, cast_timesPower, Int.toNat_natCast, Int.toNat_natCast, div_lt_iff₀ hq,
    zpow_sub₀ two_ne_zero, zpow_natCast, zpow_natCast, div_mul_eq_mul_div, lt_div_iff₀ (by positivity), mul_comm (2 ^ a)]

/-- A ratio has 53 binary digits down to the last place, unless that would be below the least exponent. -/
theorem lastPlace_spec {num den : Nat} (hn : 0 < num) (hd : 0 < den) : ∃ k : Int,
    (2 : ℚ) ^ (k + 52) ≤ num / den ∧ (num : ℚ) / den < 2 ^ (k + 53) ∧ lastPlace num den = max leastExponent k := by
  obtain ⟨hlo, hhi⟩ := lt_of_log2 hn hd
  have hclamp : ∀ k : Int, (if k < leastExponent then leastExponent else k) = max leastExponent k := by
    intro k
    split
    · omega
    · omega
  simp only [lastPlace, timesPower_lt_iff hd, hclamp]
  split
  · rename_i h
    have h52 : (num.log2 : Int) - den.log2 - 52 - 1 + 52 = num.log2 - den.log2 - 1 := by omega
    have h53 : (num.log2 : Int) - den.log2 - 52 - 1 + 53 = num.log2 - den.log2 := by omega
    refine ⟨_, ?_, ?_, rfl⟩
    · rw [h52]
      exact hlo.le
    · rw [h53]
      exact h
  · rename_i h
    have h52 : (num.log2 : Int) - den.log2 - 52 + 52 = num.log2 - den.log2 := by omega
    have h53 : (num.log2 : Int) - den.log2 - 52 + 53 = num.log2 - den.log2 + 1 := by omega
    refine ⟨_, ?_, ?_, rfl⟩
    · rw [h52]
      exact not_lt.mp h
    · rw [h53]
      exact hhi

/-! ## The nearest number -/

/-- The finite numbers of the format. The significand has 53 binary digits, fewer only at the least exponent. -/
structure Canonical (m : Nat) (e : Int) : Prop where
  digits : m < 2 * leadingBit
  least : leastExponent ≤ e
  greatest : e ≤ greatestExponent
  normal : leadingBit ≤ m ∨ e = leastExponent

def unit (negative : Bool) : ℚ := if negative then -1 else 1

theorem unit_eq (negative : Bool) : unit negative = 1 ∨ unit negative = -1 := by
  cases negative with
  | true => exact .inr rfl
  | false => exact .inl rfl

theorem unit_mul_unit (negative : Bool) (y : ℚ) : unit negative * (unit negative * y) = y := by
  rcases unit_eq negative with h | h
  · rw [h, one_mul, one_mul]
  · rw [h, neg_one_mul, neg_one_mul, neg_neg]

theorem unit_mul_unit_eq (negative other : Bool) (y : ℚ) :
    unit negative * (unit other * y) = y ∨ unit negative * (unit other * y) = -y := by
  rcases unit_eq negative with h | h
  · rcases unit_eq other with h' | h'
    · exact .inl (by rw [h, h', one_mul, one_mul])
    · exact .inr (by rw [h, h', one_mul, neg_one_mul])
  · rcases unit_eq other with h' | h'
    · exact .inr (by rw [h, h', one_mul, neg_one_mul])
    · exact .inl (by rw [h, h', neg_one_mul, neg_one_mul, neg_neg])

theorem abs_sub_unit_mul (negative : Bool) (y x : ℚ) : |y - unit negative * x| = |unit negative * y - x| := by
  rcases unit_eq negative with h | h
  · rw [h, one_mul, one_mul]
  · rw [h, neg_one_mul, neg_one_mul, ← abs_neg, neg_sub', neg_neg]

theorem unit_mul_neg_iff {x : ℚ} (hx : 0 < x) (negative : Bool) : negative = true ↔ unit negative * x < 0 := by
  cases negative with
  | true => simp [unit, hx]
  | false => simp [unit, hx.le]

theorem unit_mul_natAbs (n : Int) : unit (n < 0) * n.natAbs = (n : ℚ) := by
  rw [Nat.cast_natAbs, Int.cast_abs]
  by_cases h : n < 0
  · have hr : (n : ℚ) < 0 := by exact_mod_cast h
    simp [unit, h, abs_of_neg hr]
  · have hr : (0 : ℚ) ≤ n := by exact_mod_cast not_lt.mp h
    simp [unit, h, abs_of_nonneg hr]

theorem toRat?_finite (negative : Bool) (m : Nat) (e : Int) :
    (finite negative m e).toRat? = some (unit negative * ((m : ℚ) * 2 ^ e)) := by
  have h : (timesPower m 2 e : ℚ) / timesPower 1 2 (-e) = m * 2 ^ e := by
    have hd := timesPower_div m 1 (-e)
    rwa [neg_neg, Nat.cast_one, div_one, zpow_neg, div_inv_eq_mul] at hd
  simp only [toRat?, dyadic, Rat.mkRat_eq_div, ← h]
  cases negative with
  | true => simp [unit, neg_div]
  | false => simp [unit]

/-- No whole number is nearer than one that is a half away at most, and only an odd one is so far from another one
that is as near. -/
theorem nearest_whole {x : ℚ} {n : Nat} (h : |n - x| ≤ 1 / 2) (heven : |n - x| = 1 / 2 → Even n) (k : Int) :
    |n - x| ≤ |k - x| ∧ (|k - x| = |n - x| → k ≠ n → Even n) := by
  by_cases hk : k = n
  · subst hk
    exact ⟨le_rfl, fun _ hne => absurd rfl hne⟩
  · have h1 : (1 : ℚ) ≤ |(k : ℚ) - n| := by exact_mod_cast Int.one_le_abs (sub_ne_zero.mpr hk)
    have h2 : |(k : ℚ) - n| ≤ |k - x| + |n - x| := abs_sub_comm (n : ℚ) x ▸ abs_sub_le _ _ _
    refine ⟨by linarith, fun he _ => heven (le_antisymm h ?_)⟩
    linarith

theorem abs_mul_zpow_sub (n x : ℚ) (e : Int) : |n * 2 ^ e - x| = |n - x / 2 ^ e| * 2 ^ e := by
  have hp : (0 : ℚ) < 2 ^ e := by positivity
  rw [← abs_of_pos hp, ← abs_mul, sub_mul, abs_of_pos hp, div_mul_cancel₀ _ hp.ne']

theorem leadingBit_eq : leadingBit = 2 ^ 52 := rfl

theorem cast_leadingBit : (leadingBit : ℚ) = 2 ^ 52 := by
  rw [leadingBit_eq]
  norm_cast

/-- What a number is rounded to, half a last place away at most, with 53 binary digits down to that place. -/
structure Rounds (x : ℚ) (e : Int) (n : Nat) : Prop where
  near : |n - x / 2 ^ e| ≤ 1 / 2
  even : |n - x / 2 ^ e| = 1 / 2 → Even n
  least : leastExponent ≤ e
  reaches : leastExponent < e → 2 ^ (e + 52) ≤ x
  below : x < 2 ^ (e + 53)

section
variable {x : ℚ} {n : Nat} {e : Int} (h : Rounds x e n)
include h

theorem Rounds.nearest {m : Nat} {k : Int} (hm : m < 2 * leadingBit) (hk : leastExponent ≤ k) :
    |n * 2 ^ e - x| ≤ |m * 2 ^ k - x| ∧
      (|m * 2 ^ k - x| = |n * 2 ^ e - x| → (m : ℚ) * 2 ^ k ≠ n * 2 ^ e → Even n) := by
  have hp : (0 : ℚ) < 2 ^ e := by positivity
  rcases le_or_gt e k with he | he
  · -- The other number is a multiple of the same power of two.
    have hmk : (m : ℚ) * 2 ^ k = ((m * 2 ^ (k - e).toNat : Nat) : Int) * 2 ^ e := by
      push_cast
      rw [← zpow_natCast, Int.toNat_of_nonneg (sub_nonneg.mpr he), mul_assoc, ← zpow_add₀ two_ne_zero, sub_add_cancel]
    obtain ⟨hle, htie⟩ := nearest_whole h.near h.even ((m * 2 ^ (k - e).toNat : Nat) : Int)
    rw [hmk, abs_mul_zpow_sub, abs_mul_zpow_sub]
    refine ⟨mul_le_mul_of_nonneg_right hle hp.le, fun heq hne => ?_⟩
    exact htie (mul_right_cancel₀ hp.ne' heq) fun hn => hne (by rw [hn, Int.cast_natCast])
  · -- It lies below a power of two that the ratio reaches, and that is a multiple again.
    have hlow := h.reaches (lt_of_le_of_lt hk he)
    have hbit : ((leadingBit : Int) : ℚ) * 2 ^ e = 2 ^ (e + 52) := by
      rw [Int.cast_natCast, cast_leadingBit, zpow_add₀ two_ne_zero, mul_comm]
      rfl
    have hmk : (m : ℚ) * 2 ^ k < 2 ^ (e + 52) := by
      have hm' : (m : ℚ) < 2 ^ (53 : Int) := by
        have : (m : ℚ) < 2 * leadingBit := by exact_mod_cast hm
        rw [cast_leadingBit] at this
        norm_num at this ⊢
        exact this
      calc (m : ℚ) * 2 ^ k < 2 ^ (53 : Int) * 2 ^ k := by gcongr
        _ = 2 ^ (53 + k) := (zpow_add₀ two_ne_zero _ _).symm
        _ ≤ 2 ^ (e + 52) := zpow_le_zpow_right₀ one_le_two (by omega)
    have hle := mul_le_mul_of_nonneg_right (nearest_whole h.near h.even leadingBit).1 hp.le
    rw [← abs_mul_zpow_sub, ← abs_mul_zpow_sub, hbit, abs_of_nonpos (sub_nonpos.mpr hlow)] at hle
    have hlt : |n * 2 ^ e - x| < |m * 2 ^ k - x| := by
      rw [abs_of_nonpos (by linarith : (m : ℚ) * 2 ^ k - x ≤ 0)]
      linarith
    exact ⟨hlt.le, fun heq => absurd heq hlt.ne'⟩

theorem Rounds.le : n ≤ 2 * leadingBit := by
  have hp : (0 : ℚ) < 2 ^ e := by positivity
  have hx : x / 2 ^ e < 2 ^ 53 := by
    rw [div_lt_iff₀ hp]
    refine h.below.trans_eq ?_
    rw [zpow_add₀ two_ne_zero, mul_comm]
    rfl
  have hn : (n : ℚ) < 2 ^ 53 + 1 := by linarith [(abs_le.mp h.near).2]
  have hn : n < 2 ^ 53 + 1 := by exact_mod_cast hn
  rw [leadingBit_eq]
  omega

theorem Rounds.ge (he : leastExponent < e) : leadingBit ≤ n := by
  have hp : (0 : ℚ) < 2 ^ e := by positivity
  have hx : 2 ^ 52 ≤ x / 2 ^ e := by
    rw [le_div_iff₀ hp]
    refine le_trans (le_of_eq ?_) (h.reaches he)
    rw [zpow_add₀ two_ne_zero, mul_comm]
    rfl
  have hn : (2 : ℚ) ^ 52 < n + 1 := by linarith [(abs_le.mp h.near).1]
  have hn : 2 ^ 52 < n + 1 := by exact_mod_cast hn
  rw [leadingBit_eq]
  omega

theorem Rounds.canonical (hn : n ≠ 2 * leadingBit) (hg : e ≤ greatestExponent) : Canonical n e where
  digits := lt_of_le_of_ne h.le hn
  least := h.least
  greatest := hg
  normal := by
    rcases eq_or_lt_of_le h.least with he | he
    · exact .inr he.symm
    · exact .inl (h.ge he)

end

/-! ## The greatest number -/

/-- The midpoint between the greatest number and the power of two above it. -/
def overflow : ℚ := (2 ^ 53 - 1 / 2) * 2 ^ greatestExponent

/-- The exponent after a significand that reached the next power of two was halved. -/
def packedExponent (n : Nat) (e : Int) : Int := if n = 2 * leadingBit then e + 1 else e

theorem overflow_pos : 0 < overflow := by
  have hu : (0 : ℚ) < 2 ^ greatestExponent := by positivity
  unfold overflow
  linarith

theorem overflow_lt : overflow < 2 ^ (greatestExponent + 53) := by
  have hu : (0 : ℚ) < 2 ^ greatestExponent := by positivity
  calc overflow < 2 ^ 53 * 2 ^ greatestExponent := by
        unfold overflow
        linarith
    _ = 2 ^ (greatestExponent + 53) := by
        rw [zpow_add₀ two_ne_zero, mul_comm]
        rfl

theorem lt_overflow {x : ℚ} {e : Int} (hx : x < 2 ^ (e + 53)) (he : e < greatestExponent) : x < overflow := by
  have hu : (0 : ℚ) < 2 ^ greatestExponent := by positivity
  calc x < 2 ^ (e + 53) := hx
    _ ≤ 2 ^ (52 + greatestExponent) := zpow_le_zpow_right₀ one_le_two (by omega)
    _ = 2 ^ 52 * 2 ^ greatestExponent := zpow_add₀ two_ne_zero _ _
    _ < overflow := by
        unfold overflow
        nlinarith

section
variable {x : ℚ} {n : Nat} {e : Int} (h : Rounds x e n)
include h

theorem Rounds.le_of_overflow (hg : greatestExponent < packedExponent n e) : overflow ≤ x := by
  have hp : (0 : ℚ) < 2 ^ e := by positivity
  unfold packedExponent at hg
  by_cases hn : n = 2 * leadingBit
  · rw [if_pos hn] at hg
    have hx : 2 ^ 53 - 1 / 2 ≤ x / 2 ^ e := by
      have hhi := (abs_le.mp h.near).2
      rw [hn, Nat.cast_mul, cast_leadingBit, Nat.cast_ofNat] at hhi
      linarith
    calc overflow ≤ (2 ^ 53 - 1 / 2) * 2 ^ e :=
          mul_le_mul_of_nonneg_left (zpow_le_zpow_right₀ one_le_two (by omega)) (by norm_num)
      _ ≤ x := (le_div_iff₀ hp).mp hx
  · rw [if_neg hn] at hg
    calc overflow ≤ 2 ^ (greatestExponent + 53) := overflow_lt.le
      _ ≤ 2 ^ (e + 52) := zpow_le_zpow_right₀ one_le_two (by omega)
      _ ≤ x := h.reaches (lt_trans (by decide) hg)

theorem Rounds.lt_of_fits (hg : packedExponent n e ≤ greatestExponent) : x < overflow := by
  have hp : (0 : ℚ) < 2 ^ e := by positivity
  unfold packedExponent at hg
  by_cases hn : n = 2 * leadingBit
  · rw [if_pos hn] at hg
    exact lt_overflow h.below (by omega)
  · rw [if_neg hn] at hg
    rcases eq_or_lt_of_le hg with rfl | he
    · -- The greatest significand is odd, so that the midpoint above it is not rounded to it.
      by_contra hx
      have hx : 2 ^ 53 - 1 / 2 ≤ x / 2 ^ greatestExponent := (le_div_iff₀ hp).mpr (not_lt.mp hx)
      have hlt : n + 1 ≤ 2 ^ 53 := by
        have hle := h.le
        rw [leadingBit_eq] at hle hn
        omega
      have hle : (n : ℚ) + 1 ≤ 2 ^ 53 := by exact_mod_cast hlt
      have hlo := (abs_le.mp h.near).1
      have hge : 2 ^ 53 ≤ n + 1 := by
        have : (2 : ℚ) ^ 53 ≤ n + 1 := by linarith
        exact_mod_cast this
      have heven : Even n := h.even (by rw [abs_of_nonpos (by linarith)]; linarith)
      obtain ⟨k, hk⟩ := heven
      omega
    · exact lt_overflow h.below he

end

/-! ## Rounding a ratio -/

theorem rounds_inPlaces {num den : Nat} (hn : 0 < num) (hd : 0 < den) :
    Rounds (num / den) (lastPlace num den) (inPlaces num den (lastPlace num den)) := by
  obtain ⟨k, hlo, hhi, hk⟩ := lastPlace_spec hn hd
  obtain ⟨hnear, heven⟩ := @roundHalfEven_half (timesPower num 2 (-lastPlace num den)) _
    (timesPower_pos hd (lastPlace num den))
  rw [timesPower_div] at hnear heven
  refine ⟨hnear, heven, hk ▸ le_max_left _ _, fun he => ?_, ?_⟩
  · have hmax : lastPlace num den = k := by omega
    rwa [hmax]
  · exact hhi.trans_le (zpow_le_zpow_right₀ one_le_two (by omega))

def packedSignificand (n : Nat) : Nat := if n = 2 * leadingBit then leadingBit else n

theorem pack_eq (negative : Bool) (n : Nat) (e : Int) : pack negative n e =
    if greatestExponent < packedExponent n e then .infinite negative
    else .finite negative (packedSignificand n) (packedExponent n e) := by
  by_cases h : n = 2 * leadingBit
  · simp only [pack, packedExponent, packedSignificand, if_pos h]
  · simp only [pack, packedExponent, packedSignificand, if_neg h]

theorem packed_value (n : Nat) (e : Int) : (packedSignificand n : ℚ) * 2 ^ packedExponent n e = n * 2 ^ e := by
  by_cases h : n = 2 * leadingBit
  · rw [packedSignificand, packedExponent, if_pos h, if_pos h, zpow_add₀ two_ne_zero, zpow_one, h]
    push_cast
    ring
  · rw [packedSignificand, packedExponent, if_neg h, if_neg h]

theorem even_packedSignificand {n : Nat} (h : Even n) : Even (packedSignificand n) := by
  unfold packedSignificand
  split
  · decide
  · exact h

theorem Rounds.canonical_packed {x : ℚ} {n : Nat} {e : Int} (h : Rounds x e n)
    (hg : packedExponent n e ≤ greatestExponent) : Canonical (packedSignificand n) (packedExponent n e) := by
  unfold packedSignificand
  unfold packedExponent at hg ⊢
  by_cases hn : n = 2 * leadingBit
  · rw [if_pos hn] at hg
    rw [if_pos hn, if_pos hn]
    have hl := h.least
    exact ⟨by decide, by omega, hg, .inl le_rfl⟩
  · rw [if_neg hn] at hg
    rw [if_neg hn, if_neg hn]
    exact h.canonical hn hg

/-- The number that a ratio becomes: a finite one with its sign, such that no other is nearer. It has an even
significand if another one is as near. -/
inductive Nearest (q : ℚ) : Binary64 → Prop
  | finite {negative : Bool} {m : Nat} {e : Int} {v : ℚ} (sign : negative = true ↔ q < 0) (canonical : Canonical m e)
      (value : (Binary64.finite negative m e).toRat? = some v)
      (nearest : ∀ {s : Bool} {k : Nat} {j : Int} {w : ℚ}, Canonical k j → (Binary64.finite s k j).toRat? = some w →
        |v - q| ≤ |w - q| ∧ (|w - q| = |v - q| → w ≠ v → Even m)) :
      Nearest q (.finite negative m e)

theorem Nearest.isInfinite {q : ℚ} {x : Binary64} (h : Nearest q x) : x.isInfinite = false := by
  cases h
  rfl

theorem nearest_of_sign {x a b : ℚ} (hx : 0 < x) (hb : 0 ≤ b) {P : Prop}
    (h : |a - x| ≤ |b - x| ∧ (|b - x| = |a - x| → b ≠ a → P)) :
    |a - x| ≤ |-b - x| ∧ (|-b - x| = |a - x| → -b ≠ a → P) := by
  have hle : |b - x| ≤ |-b - x| := by
    rw [abs_of_nonpos (by linarith : -b - x ≤ 0), abs_le]
    constructor
    · linarith
    · linarith
  refine ⟨h.1.trans hle, fun he hne => ?_⟩
  have hbx : |b - x| = |a - x| := le_antisymm (hle.trans he.le) h.1
  by_cases hba : b = a
  · -- Then the number is zero, and so is its negation.
    rw [← hbx, abs_of_nonpos (by linarith : -b - x ≤ 0)] at he
    rcases abs_cases (b - x) with ⟨hc, -⟩ | ⟨hc, -⟩
    · linarith
    · exact absurd (by linarith : -b = a) hne
  · exact h.2 hbx hba

theorem Rounds.nearest_finite {x : ℚ} {n : Nat} {e : Int} (h : Rounds x e n) (hx : 0 < x) (negative : Bool)
    (hg : packedExponent n e ≤ greatestExponent) :
    Nearest (unit negative * x) (.finite negative (packedSignificand n) (packedExponent n e)) := by
  refine .finite (unit_mul_neg_iff hx negative) (h.canonical_packed hg) (toRat?_finite _ _ _) fun {s k j w} hk hw => ?_
  have hb : (0 : ℚ) ≤ k * 2 ^ j := by positivity
  have hsame : |(n : ℚ) * 2 ^ e - x| ≤ |k * 2 ^ j - x| ∧
      (|k * 2 ^ j - x| = |n * 2 ^ e - x| → (k : ℚ) * 2 ^ j ≠ n * 2 ^ e → Even (packedSignificand n)) := by
    obtain ⟨hle, htie⟩ := h.nearest hk.digits hk.least
    exact ⟨hle, fun he hne => even_packedSignificand (htie he hne)⟩
  obtain ⟨hle, htie⟩ : |(n : ℚ) * 2 ^ e - x| ≤ |unit negative * w - x| ∧
      (|unit negative * w - x| = |n * 2 ^ e - x| → unit negative * w ≠ n * 2 ^ e → Even (packedSignificand n)) := by
    rw [toRat?_finite, Option.some_inj] at hw
    subst hw
    rcases unit_mul_unit_eq negative s (k * 2 ^ j) with hs | hs
    · rw [hs]
      exact hsame
    · rw [hs]
      exact nearest_of_sign hx hb hsame
  rw [packed_value, abs_sub_unit_mul, abs_sub_unit_mul, unit_mul_unit]
  exact ⟨hle, fun he hne => htie he fun h => hne (by rw [← h, unit_mul_unit])⟩

theorem nearest_zero : Nearest 0 (zero false) := by
  refine .finite (by simp) ⟨by decide, le_rfl, by decide, .inr rfl⟩ (toRat?_finite _ _ _) fun {s k j w} _ _ => ?_
  rw [Nat.cast_zero, zero_mul, mul_zero, sub_zero, abs_zero]
  exact ⟨abs_nonneg _, fun _ _ => Even.zero⟩

section
variable (n : Int) {den : Nat} (hd : 0 < den)
include hd

theorem abs_ratio : |(n : ℚ) / den| = n.natAbs / den := by
  have hq : (0 : ℚ) < den := by exact_mod_cast hd
  rw [abs_div, abs_of_pos hq, Nat.cast_natAbs, Int.cast_abs]

/-- A ratio that is small enough becomes the number nearest to it, and one that is not becomes infinite. -/
theorem ofRatio_nearest :
    (|(n : ℚ) / den| < overflow → Nearest (n / den) (ofRatio (n < 0) n.natAbs den)) ∧
    (overflow ≤ |(n : ℚ) / den| → ofRatio (n < 0) n.natAbs den = .infinite (n < 0)) := by
  have hq : (0 : ℚ) < den := by exact_mod_cast hd
  by_cases h0 : n = 0
  · subst h0
    rw [Int.cast_zero, zero_div, abs_zero]
    exact ⟨fun _ => nearest_zero, fun h => absurd h (not_le.mpr overflow_pos)⟩
  · have hn : 0 < n.natAbs := Int.natAbs_pos.mpr h0
    have hx : (0 : ℚ) < n.natAbs / den := by positivity
    have hr := rounds_inPlaces hn hd
    rw [abs_ratio n hd, ofRatio, if_neg hn.ne', pack_eq]
    split
    · rename_i hg
      exact ⟨fun h => absurd (hr.le_of_overflow hg) (not_le.mpr h), fun _ => rfl⟩
    · rename_i hg
      have hg := not_lt.mp hg
      refine ⟨fun _ => ?_, fun h => absurd (hr.lt_of_fits hg) (not_lt.mpr h)⟩
      have hs := hr.nearest_finite hx (n < 0) hg
      rwa [mul_div_assoc', unit_mul_natAbs] at hs

end

end Binary64

end Telemetry
