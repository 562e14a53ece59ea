import Mathlib.Algebra.Order.Field.Power
import Mathlib.Data.Int.Log
import Mathlib.Data.Rat.Floor
import Mathlib.Tactic.Linarith
import Mathlib.Tactic.NormNum
import Mathlib.Tactic.Positivity
import Mathlib.Tactic.Ring
import ReleaseMatch.Number.Shortest
set_option autoImplicit false

/-!
# The nearest number

Rounding depends on the quotient alone, not on the ratio that it is given as, and a number is nearest to
itself. So the number nearest to a decimal does not depend on how many zeros the decimal ends in, and the
shortest decimal of a number reads back as that number.
-/
namespace ReleaseMatch.Number

theorem roundEven_mul_right {num den k : ℕ} (hk : 0 < k) :
    roundEven (num * k) (den * k) = roundEven num den := by
  simp only [roundEven, Nat.mul_div_mul_right _ _ hk, Nat.mul_mod_mul_right, ← Nat.mul_assoc,
    Nat.mul_lt_mul_right hk]

theorem roundEven_mul_self {m den : ℕ} (hden : 0 < den) : roundEven (m * den) den = m := by
  simp [roundEven, Nat.mul_div_cancel _ hden, hden]

theorem roundEven_eq_zero {num den : ℕ} (h : 2 * num < den) : roundEven num den = 0 := by
  have hlt : num < den := by omega
  simp [roundEven, Nat.div_eq_of_lt hlt, Nat.mod_eq_of_lt hlt, h]

/-! Powers as ratios -/

section

variable {base : ℕ} (hbase : 0 < base) (e : ℤ)

include hbase

theorem powRatio_fst_pos : 0 < (powRatio base e).1 := by
  rw [powRatio]
  split
  · exact Nat.pow_pos hbase
  · exact Nat.one_pos

theorem powRatio_snd_pos : 0 < (powRatio base e).2 := by
  rw [powRatio]
  split
  · exact Nat.one_pos
  · exact Nat.pow_pos hbase

end

theorem powRatio_div (base : ℕ) (e : ℤ) :
    ((powRatio base e).1 : ℚ) / (powRatio base e).2 = (base : ℚ) ^ e := by
  rw [powRatio]
  split
  · next he =>
    rw [Nat.cast_one, div_one, Nat.pow_eq, Nat.cast_pow, ← zpow_natCast, Int.toNat_of_nonneg he]
  · next he =>
    rw [Nat.cast_one, one_div, Nat.pow_eq, Nat.cast_pow, ← zpow_natCast, Int.toNat_of_nonneg (by omega),
      zpow_neg, inv_inv]

namespace Binary64

/-- A significand and an exponent that belong together. -/
structure IsCanonical (m : ℕ) (e : ℤ) : Prop where
  short : m < 2 ^ 53
  least : -1074 ≤ e
  most : e ≤ 971
  normal : 2 ^ 52 ≤ m ∨ e = -1074

/-! Exponents -/

section

variable {num den : ℕ} (hnum : 0 < num) (hden : 0 < den)

include hden

theorem scaled_lt_iff {e : ℤ} {n : ℕ} :
    (scaled num den e).1 < n * (scaled num den e).2 ↔ (num / den : ℚ) < n * 2 ^ e := by
  have hfst : (0 : ℚ) < (powRatio 2 e).1 := Nat.cast_pos.2 (powRatio_fst_pos two_pos e)
  have hsnd : (0 : ℚ) < (powRatio 2 e).2 := Nat.cast_pos.2 (powRatio_snd_pos two_pos e)
  have hden' : (0 : ℚ) < den := Nat.cast_pos.2 hden
  have hpow : ((2 : ℕ) : ℚ) ^ e = (powRatio 2 e).1 / (powRatio 2 e).2 := (powRatio_div 2 e).symm
  rw [Nat.cast_ofNat] at hpow
  rw [hpow, div_lt_iff₀ hden', scaled, ← Nat.cast_lt (α := ℚ)]
  push_cast
  rw [mul_div_assoc', div_mul_eq_mul_div, lt_div_iff₀ hsnd]
  ring_nf

include hnum

/-- The exponent is the one for a significand of 53 bits, unless that is too small. -/
theorem exponentFor_eq : exponentFor num den = max (Int.log 2 (num / den : ℚ) - 52) (-1074) := by
  have hq : (0 : ℚ) < num / den := div_pos (Nat.cast_pos.2 hnum) (Nat.cast_pos.2 hden)
  have hden' : (0 : ℚ) < den := Nat.cast_pos.2 hden
  have htwo : (2 : ℚ) ≠ 0 := two_ne_zero
  have hpow (n : ℕ) : (2 : ℚ) ^ n = (2 : ℚ) ^ (n : ℤ) := (zpow_natCast _ _).symm
  have hnumLow : (2 : ℚ) ^ (num.log2 : ℤ) ≤ num := by
    rw [← hpow]; exact_mod_cast Nat.log2_self_le hnum.ne'
  have hnumHigh : (num : ℚ) < 2 ^ ((num.log2 : ℤ) + 1) := by
    have := Nat.lt_log2_self (n := num)
    rw [← Nat.cast_succ, ← hpow]; exact_mod_cast this
  have hdenLow : (2 : ℚ) ^ (den.log2 : ℤ) ≤ den := by
    rw [← hpow]; exact_mod_cast Nat.log2_self_le hden.ne'
  have hdenHigh : (den : ℚ) < 2 ^ ((den.log2 : ℤ) + 1) := by
    have := Nat.lt_log2_self (n := den)
    rw [← Nat.cast_succ, ← hpow]; exact_mod_cast this
  have hlow : (num.log2 : ℤ) - den.log2 - 1 ≤ Int.log 2 (num / den : ℚ) := by
    rw [← Int.zpow_le_iff_le_log one_lt_two hq, Nat.cast_ofNat, le_div_iff₀ hden']
    calc (2 : ℚ) ^ ((num.log2 : ℤ) - den.log2 - 1) * den
        ≤ 2 ^ ((num.log2 : ℤ) - den.log2 - 1) * 2 ^ ((den.log2 : ℤ) + 1) := by gcongr
      _ = 2 ^ (num.log2 : ℤ) := by rw [← zpow_add₀ htwo]; congr 1; omega
      _ ≤ num := hnumLow
  have hhigh : Int.log 2 (num / den : ℚ) < (num.log2 : ℤ) - den.log2 + 1 := by
    rw [← Int.lt_zpow_iff_log_lt one_lt_two hq, Nat.cast_ofNat, div_lt_iff₀ hden']
    calc (num : ℚ) < 2 ^ ((num.log2 : ℤ) + 1) := hnumHigh
      _ = 2 ^ ((num.log2 : ℤ) - den.log2 + 1) * 2 ^ (den.log2 : ℤ) := by
        rw [← zpow_add₀ htwo]; congr 1; omega
      _ ≤ 2 ^ ((num.log2 : ℤ) - den.log2 + 1) * den := by gcongr
  have hguess : (scaled num den ((num.log2 : ℤ) - den.log2 - 52)).1 <
      normalFrom * (scaled num den ((num.log2 : ℤ) - den.log2 - 52)).2 ↔
      Int.log 2 (num / den : ℚ) < (num.log2 : ℤ) - den.log2 := by
    have hnormal : ((normalFrom : ℕ) : ℚ) = 2 ^ (52 : ℤ) := by norm_num [normalFrom]
    rw [scaled_lt_iff hden, hnormal, ← zpow_add₀ htwo, ← Int.lt_zpow_iff_log_lt one_lt_two hq,
      Nat.cast_ofNat]
    ring_nf
  rw [exponentFor]
  congr 1
  split
  · next h => have := hguess.1 h; omega
  · next h => have := mt hguess.2 h; omega

end

/-! Nearest numbers -/

section

variable {negative : Bool} {num den : ℕ}

theorem ofRatio_mul_right {k : ℕ} (hden : 0 < den) (hk : 0 < k) :
    ofRatio negative (num * k) (den * k) = ofRatio negative num den := by
  rcases Nat.eq_zero_or_pos num with rfl | hnum
  · simp [ofRatio]
  · have hexp : exponentFor (num * k) (den * k) = exponentFor num den := by
      rw [exponentFor_eq (Nat.mul_pos hnum hk) (Nat.mul_pos hden hk), exponentFor_eq hnum hden,
        Nat.cast_mul, Nat.cast_mul, mul_div_mul_right _ _ (Nat.cast_ne_zero.2 hk.ne')]
    have hscaled (e : ℤ) : scaled (num * k) (den * k) e =
        ((scaled num den e).1 * k, (scaled num den e).2 * k) := by
      simp only [scaled, Nat.mul_right_comm]
    simp only [ofRatio, hexp, hscaled, roundEven_mul_right hk, hnum.ne', (Nat.mul_pos hnum hk).ne']

/-- Only the quotient counts. -/
theorem ofRatio_congr {num' den' : ℕ} (hden : 0 < den) (hden' : 0 < den')
    (h : (num / den : ℚ) = num' / den') : ofRatio negative num den = ofRatio negative num' den' := by
  rw [div_eq_div_iff (Nat.cast_ne_zero.2 hden.ne') (Nat.cast_ne_zero.2 hden'.ne')] at h
  have hcross : num * den' = num' * den := by exact_mod_cast h
  rw [← ofRatio_mul_right hden hden', hcross, ← ofRatio_mul_right hden' hden, Nat.mul_comm den]

theorem ratio_div {m : ℕ} {e : ℤ} : ((ratio m e).1 / (ratio m e).2 : ℚ) = m * 2 ^ e := by
  have hpow := powRatio_div 2 e
  rw [Nat.cast_ofNat] at hpow
  rw [ratio, Nat.cast_mul, mul_div_assoc, hpow]

theorem ofRatio_ratio {m : ℕ} {e : ℤ} (h : IsCanonical m e) (hm : 0 < m) :
    ofRatio negative (ratio m e).1 (ratio m e).2 = .finite negative m e := by
  have hfst := powRatio_fst_pos two_pos e
  have hsnd := powRatio_snd_pos two_pos e
  have hnum : 0 < (ratio m e).1 := Nat.mul_pos hm hfst
  have hexp : exponentFor (ratio m e).1 (ratio m e).2 = e := by
    have hq : (0 : ℚ) < m * 2 ^ e := mul_pos (Nat.cast_pos.2 hm) (zpow_pos two_pos e)
    have hden : 0 < (ratio m e).2 := hsnd
    rw [exponentFor_eq hnum hden, ratio_div]
    have hhigh : Int.log 2 (m * 2 ^ e : ℚ) < 53 + e := by
      rw [← Int.lt_zpow_iff_log_lt one_lt_two hq, Nat.cast_ofNat, zpow_add₀ two_ne_zero]
      have : (m : ℚ) < 2 ^ (53 : ℤ) := by exact_mod_cast h.short
      gcongr
    rcases h.normal with hnormal | rfl
    · have hlow : 52 + e ≤ Int.log 2 (m * 2 ^ e : ℚ) := by
        rw [← Int.zpow_le_iff_le_log one_lt_two hq, Nat.cast_ofNat, zpow_add₀ two_ne_zero]
        have : (2 : ℚ) ^ (52 : ℤ) ≤ m := by exact_mod_cast hnormal
        gcongr
      have := h.least
      omega
    · omega
  have hscaled : scaled (ratio m e).1 (ratio m e).2 e =
      (m * ((powRatio 2 e).1 * (powRatio 2 e).2), (powRatio 2 e).1 * (powRatio 2 e).2) := by
    rw [scaled, ratio, Nat.mul_assoc, Nat.mul_comm (powRatio 2 e).2]
  have hshort : m ≠ 2 * normalFrom := by
    have := h.short
    rw [normalFrom]
    omega
  have hmost : ¬971 < e := not_lt.2 h.most
  simp only [ofRatio, hnum.ne', if_false, hexp, hscaled, roundEven_mul_self (Nat.mul_pos hfst hsnd), hshort,
    hmost, hm.ne']

theorem ofRatio_of_large (hnum : 0 < num) (hden : 0 < den) {x : ℤ} (hx : 1024 ≤ x)
    (h : (2 : ℚ) ^ x ≤ num / den) : ofRatio negative num den = .infinite negative := by
  have hq : (0 : ℚ) < num / den := div_pos (Nat.cast_pos.2 hnum) (Nat.cast_pos.2 hden)
  have hlog : x ≤ Int.log 2 (num / den : ℚ) :=
    (Int.zpow_le_iff_le_log one_lt_two hq).1 (by exact_mod_cast h)
  have hexp : 971 < exponentFor num den := by rw [exponentFor_eq hnum hden]; omega
  rw [ofRatio, if_neg hnum.ne']
  simp only
  split
  · rw [if_pos (show 971 < exponentFor num den + 1 by omega)]
  · rfl

theorem ofRatio_of_small (hnum : 0 < num) (hden : 0 < den) {x : ℤ} (hx : x < -1075)
    (h : (num / den : ℚ) < 2 ^ x) : ofRatio negative num den = zero negative := by
  have hq : (0 : ℚ) < num / den := div_pos (Nat.cast_pos.2 hnum) (Nat.cast_pos.2 hden)
  have hlog : Int.log 2 (num / den : ℚ) < x :=
    (Int.lt_zpow_iff_log_lt one_lt_two hq).1 (by exact_mod_cast h)
  have hexp : exponentFor num den = -1074 := by rw [exponentFor_eq hnum hden]; omega
  have hscaled : 2 * (scaled num den (-1074)).1 < (scaled num den (-1074)).2 := by
    have hdouble : (scaled (2 * num) den (-1074)).1 < 1 * (scaled (2 * num) den (-1074)).2 :=
      (scaled_lt_iff hden).2 ?_
    · rwa [Nat.one_mul, scaled, Nat.mul_assoc] at hdouble
    · calc ((2 * num : ℕ) / den : ℚ) = 2 * (num / den) := by push_cast; ring
        _ < 2 * 2 ^ x := by linarith
        _ = 2 ^ (1 + x) := (zpow_one_add₀ two_ne_zero x).symm
        _ ≤ 2 ^ (-1074 : ℤ) := zpow_le_zpow_right₀ one_le_two (by omega)
        _ = _ := by rw [Nat.cast_one, one_mul]
  have hzero := roundEven_eq_zero hscaled
  simp [ofRatio, hnum.ne', hexp, hzero, normalFrom]

end

/-! Decimals -/

section

variable {negative : Bool} {m : ℕ} {e : ℤ}

theorem decimal_div : ((m * (powRatio 10 e).1 : ℕ) / (powRatio 10 e).2 : ℚ) = m * 10 ^ e := by
  have hpow := powRatio_div 10 e
  rw [Nat.cast_ofNat] at hpow
  rw [Nat.cast_mul, mul_div_assoc, hpow]

theorem eight_zpow (x : ℤ) : (8 : ℚ) ^ x = 2 ^ (3 * x) := by
  rw [zpow_mul]
  norm_num

theorem two_zpow_le_ten_zpow {x : ℤ} (hx : 0 ≤ x) : (2 : ℚ) ^ (3 * x) ≤ 10 ^ x := by
  rw [← eight_zpow]
  exact zpow_le_zpow_left₀ hx (by norm_num) (by norm_num)

theorem ten_zpow_le_two_zpow {x : ℤ} (hx : x ≤ 0) : (10 : ℚ) ^ x ≤ 2 ^ (3 * x) := by
  have hflip : (8 : ℚ) ^ (-x) ≤ 10 ^ (-x) := zpow_le_zpow_left₀ (by omega) (by norm_num) (by norm_num)
  rwa [zpow_neg, zpow_neg, inv_le_inv₀ (zpow_pos (by norm_num) x) (zpow_pos (by norm_num) x), eight_zpow]
    at hflip

theorem ten_pow_log2_le (hm : m ≠ 0) : (10 : ℚ) ^ (m.log2 / 4) ≤ m := by
  have hself : 16 ^ (m.log2 / 4) ≤ m := by
    refine le_trans ?_ (Nat.log2_self_le hm)
    rw [show 16 = 2 ^ 4 by rfl, ← Nat.pow_mul]
    exact Nat.pow_le_pow_right two_pos (by omega)
  calc (10 : ℚ) ^ (m.log2 / 4) ≤ 16 ^ (m.log2 / 4) := by
        gcongr
        norm_num
    _ ≤ m := by exact_mod_cast hself

theorem lt_ten_pow_log2 : (m : ℚ) < 10 ^ (m.log2 / 3 + 1) := by
  have hself : m < 8 ^ (m.log2 / 3 + 1) := by
    refine lt_of_lt_of_le Nat.lt_log2_self ?_
    rw [show 8 = 2 ^ 3 by rfl, ← Nat.pow_mul]
    exact Nat.pow_le_pow_right two_pos (by omega)
  calc (m : ℚ) < 8 ^ (m.log2 / 3 + 1) := by exact_mod_cast hself
    _ ≤ 10 ^ (m.log2 / 3 + 1) := by
        gcongr
        norm_num

/-- Where nothing is computed, computing would come to the same. -/
theorem ofDecimal_eq (hm : 0 < m) :
    ofDecimal negative m e = ofRatio negative (m * (powRatio 10 e).1) (powRatio 10 e).2 := by
  have hnum : 0 < m * (powRatio 10 e).1 := Nat.mul_pos hm (powRatio_fst_pos (by omega) e)
  have hden : 0 < (powRatio 10 e).2 := powRatio_snd_pos (by omega) e
  have hpos : (0 : ℚ) < 10 ^ e := zpow_pos (by norm_num) e
  rw [ofDecimal, if_neg hm.ne']
  dsimp only
  -- The binary digits of `m` say from which power of ten on the number is infinite, and below which zero.
  split
  · next hsize =>
    set x : ℤ := (m.log2 : ℤ) / 4 + e
    refine (ofRatio_of_large hnum hden (show 1024 ≤ 3 * x by omega) ?_).symm
    have hlow := ten_pow_log2_le hm.ne'
    calc (2 : ℚ) ^ (3 * x) ≤ 10 ^ x := two_zpow_le_ten_zpow (by omega)
      _ = 10 ^ (m.log2 / 4) * 10 ^ e := by
        rw [← zpow_natCast, ← zpow_add₀ (by norm_num)]
        rfl
      _ ≤ m * 10 ^ e := by gcongr
      _ = _ := decimal_div.symm
  · split
    · next hsize =>
      set x : ℤ := (m.log2 : ℤ) / 3 + 1 + e
      refine (ofRatio_of_small hnum hden (show 3 * x < -1075 by omega) ?_).symm
      calc _ = (m : ℚ) * 10 ^ e := decimal_div
        _ < 10 ^ (m.log2 / 3 + 1) * 10 ^ e := (mul_lt_mul_iff_left₀ hpos).2 lt_ten_pow_log2
        _ = 10 ^ x := by
          rw [← zpow_natCast, ← zpow_add₀ (by norm_num)]
          rfl
        _ ≤ 2 ^ (3 * x) := ten_zpow_le_two_zpow (by omega)
    · rfl

theorem ofDecimal_mul_pow (k : ℕ) :
    ofDecimal negative (m * 10 ^ k) e = ofDecimal negative m (e + k) := by
  rcases Nat.eq_zero_or_pos m with rfl | hm
  · simp [ofDecimal]
  · rw [ofDecimal_eq (Nat.mul_pos hm (by positivity)), ofDecimal_eq hm]
    refine ofRatio_congr (powRatio_snd_pos (by omega) e) (powRatio_snd_pos (by omega) _) ?_
    rw [decimal_div, decimal_div, Nat.cast_mul, Nat.cast_pow, Nat.cast_ofNat, mul_assoc,
      zpow_add₀ (by norm_num), zpow_natCast, mul_comm (10 ^ k : ℚ)]

theorem exactDecimal_reads (h : IsCanonical m e) (hm : 0 < m) :
    ofDecimal negative (exactDecimal m e).digits (exactDecimal m e).exponent =
      .finite negative m e := by
  have hexact : 0 < (exactDecimal m e).digits ∧
      ((exactDecimal m e).digits * 10 ^ (exactDecimal m e).exponent : ℚ) = m * 2 ^ e := by
    rw [exactDecimal]
    split
    · next he =>
      refine ⟨Nat.mul_pos hm (Nat.pow_pos two_pos), ?_⟩
      rw [zpow_zero, mul_one, Nat.cast_mul, Nat.pow_eq, Nat.cast_pow, Nat.cast_ofNat, ← zpow_natCast,
        Int.toNat_of_nonneg he]
    · next he =>
      refine ⟨Nat.mul_pos hm (Nat.pow_pos (by omega)), ?_⟩
      rw [Nat.cast_mul, Nat.pow_eq, Nat.cast_pow, Nat.cast_ofNat, ← zpow_natCast,
        Int.toNat_of_nonneg (by omega), mul_assoc, zpow_neg, ← inv_zpow, ← mul_zpow]
      norm_num
  rw [ofDecimal_eq hexact.1, ← ofRatio_ratio h hm]
  refine ofRatio_congr (powRatio_snd_pos (by omega) _) (powRatio_snd_pos two_pos e) ?_
  rw [decimal_div, hexact.2, ratio_div]

theorem shortestWith_reads {count : ℕ} {d : Decimal} (h : shortestWith m e count = some d) :
    ofDecimal false d.digits d.exponent = .finite false m e := by
  unfold shortestWith at h
  extract_lets r grid p num den low reads near far at h
  split at h
  · next hreads =>
    obtain rfl := Option.some.inj h
    exact eq_of_beq hreads
  · split at h
    · next hreads =>
      obtain rfl := Option.some.inj h
      exact eq_of_beq hreads
    · exact absurd h (by simp)

theorem shortest_reads (h : IsCanonical m e) (hm : 0 < m) :
    ofDecimal false (shortest m e).digits (shortest m e).exponent = .finite false m e := by
  rw [shortest]
  cases hfound : (List.range 17).findSome? fun n => shortestWith m e (n + 1) with
  | none => exact exactDecimal_reads h hm
  | some d =>
    obtain ⟨n, -, hn⟩ := List.exists_of_findSome?_eq_some hfound
    exact shortestWith_reads hn

end
end Binary64
end ReleaseMatch.Number
