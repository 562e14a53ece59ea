import ReleaseMatch.Proofs.Number.Canonical
set_option autoImplicit false

/-!
# Order of numbers

Finite numbers are compared with integers as the rationals that they are. Rounding to the nearest number
does not pass an integer of 53 bits.
-/
namespace ReleaseMatch.Number

theorem roundEven_le_of_le {num den n : ℕ} (hden : 0 < den) (h : num ≤ n * den) : roundEven num den ≤ n := by
  rcases Nat.eq_or_lt_of_le h with rfl | hlt
  · exact (roundEven_mul_self hden).le
  · exact roundEven_le hlt

namespace Binary64

variable {negative : Bool} {m : ℕ} {e n : ℤ}

def rat (negative : Bool) (m : ℕ) (e : ℤ) : ℚ := if negative then -(m * 2 ^ e) else m * 2 ^ e

/-- The comparisons with an integer are made on numerators, over one denominator. -/
theorem rat_mul_ratio : rat negative m e * (ratio m e).2 =
    ((if negative then -((ratio m e).1 : ℤ) else (ratio m e).1 : ℤ) : ℚ) := by
  have hden : ((ratio m e).2 : ℚ) ≠ 0 := Nat.cast_ne_zero.2 (powRatio_snd_pos Nat.two_pos e).ne'
  have hratio : (m * 2 ^ e : ℚ) * (ratio m e).2 = (ratio m e).1 := by
    rw [← ratio_div, div_mul_cancel₀ _ hden]
  cases negative with
  | true => simp [rat, hratio]
  | false => simp [rat, hratio]

theorem ltInt_finite : (finite negative m e).ltInt n = true ↔ rat negative m e < n := by
  have hden : (0 : ℚ) < (ratio m e).2 := Nat.cast_pos.2 (powRatio_snd_pos Nat.two_pos e)
  rw [← mul_lt_mul_iff_left₀ hden, rat_mul_ratio]
  simp only [ltInt, decide_eq_true_eq]
  norm_cast

theorem leInt_finite : (finite negative m e).leInt n = true ↔ rat negative m e ≤ n := by
  have hden : (0 : ℚ) < (ratio m e).2 := Nat.cast_pos.2 (powRatio_snd_pos Nat.two_pos e)
  rw [← mul_le_mul_iff_left₀ hden, rat_mul_ratio]
  simp only [leInt, decide_eq_true_eq]
  norm_cast

theorem rat_le_iff {b : ℕ} : rat false m e ≤ b ↔ (ratio m e).1 ≤ b * (ratio m e).2 := by
  have hden : (0 : ℚ) < (ratio m e).2 := Nat.cast_pos.2 (powRatio_snd_pos Nat.two_pos e)
  rw [← mul_le_mul_iff_left₀ hden, rat_mul_ratio]
  simp only [Bool.false_eq_true, if_false]
  norm_cast

theorem exponentFor_le_zero {num den b : ℕ} (hnum : 0 < num) (hden : 0 < den) (hb : b < 2 ^ 53)
    (h : num ≤ b * den) : exponentFor num den ≤ 0 := by
  have hq : (0 : ℚ) < num / den := div_pos (Nat.cast_pos.2 hnum) (Nat.cast_pos.2 hden)
  have hle : (num / den : ℚ) ≤ b := (div_le_iff₀ (Nat.cast_pos.2 hden)).2 (by exact_mod_cast h)
  have hlt : (num / den : ℚ) < ((2 : ℕ) : ℚ) ^ (53 : ℤ) := hle.trans_lt (by exact_mod_cast hb)
  have hlog := (Int.lt_zpow_iff_log_lt one_lt_two hq).1 hlt
  rw [exponentFor_eq hnum hden]
  omega

theorem ofRatio_le {num den b : ℕ} (hden : 0 < den) (hb : b < 2 ^ 53) (h : num ≤ b * den) :
    ∃ m e, ofRatio negative num den = .finite negative m e ∧ rat false m e ≤ b := by
  rcases Nat.eq_zero_or_pos num with rfl | hnum
  · exact ⟨0, -1074, rfl, by simp [rat]⟩
  have hexponent := exponentFor_le_zero hnum hden hb h
  rw [ofRatio, if_neg hnum.ne']
  extract_lets e s m
  have hs : s = (num * 2 ^ (-e).toNat, den) := by
    by_cases he : e = 0
    · simp [s, scaled, powRatio, he]
    · simp [s, scaled, powRatio, show ¬0 ≤ e by omega]
  have hm : m ≤ b * 2 ^ (-e).toNat := by
    simp only [m, hs]
    refine roundEven_le_of_le hden ?_
    rw [Nat.mul_right_comm]
    exact Nat.mul_le_mul_right _ h
  have hvalue : (m * 2 ^ e : ℚ) ≤ b := by
    have hpow : (2 : ℚ) ^ e = ((2 : ℚ) ^ (-e).toNat)⁻¹ := by
      rw [← zpow_natCast, Int.toNat_of_nonneg (by omega), zpow_neg, inv_inv]
    rw [hpow, mul_inv_le_iff₀ (by positivity)]
    exact_mod_cast hm
  by_cases hcarry : m = 2 * normalFrom
  · rw [if_pos hcarry]
    dsimp only
    rw [if_neg (by omega), if_neg (by decide)]
    refine ⟨_, _, rfl, ?_⟩
    have hdouble : (normalFrom * 2 ^ (e + 1) : ℚ) = m * 2 ^ e := by
      rw [hcarry, zpow_add_one₀ two_ne_zero]
      push_cast
      ring
    simpa [rat, hdouble] using hvalue
  · rw [if_neg hcarry]
    dsimp only
    rw [if_neg (by omega)]
    split
    · exact ⟨0, -1074, rfl, by simp [rat]⟩
    · exact ⟨m, e, rfl, by simpa [rat] using hvalue⟩

end Binary64
end ReleaseMatch.Number
