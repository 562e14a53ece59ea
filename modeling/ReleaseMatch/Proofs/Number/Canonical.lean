import ReleaseMatch.Proofs.Number.Numeral
set_option autoImplicit false

/-!
# Numbers that are read

Whatever decimal is read, the number nearest to it is infinite or has a significand and an exponent that
belong together. So a text is that of its own number exactly if it is the text of some number.
-/
namespace ReleaseMatch.Number

theorem roundEven_le {num den n : ℕ} (h : num < n * den) : roundEven num den ≤ n := by
  have hq : num / den < n := Nat.div_lt_of_lt_mul (by rwa [Nat.mul_comm])
  rw [roundEven]
  split
  · omega
  · split
    · exact hq
    · omega

theorem le_roundEven {num den n : ℕ} (hden : 0 < den) (h : n * den ≤ num) : n ≤ roundEven num den := by
  have hq : n ≤ num / den := (Nat.le_div_iff_mul_le hden).2 h
  rw [roundEven]
  split
  · exact hq
  · split <;> omega

namespace Binary64

variable {negative : Bool}

theorem isCanonical_zero : IsCanonical 0 (-1074) :=
  ⟨by decide, Int.le_refl _, by decide, .inr rfl⟩

/-- Rounding to a significand at the exponent for it gives one of 53 bits, or the next power of two. -/
theorem roundEven_exponentFor {num den : ℕ} (hnum : 0 < num) (hden : 0 < den) :
    roundEven (scaled num den (exponentFor num den)).1 (scaled num den (exponentFor num den)).2 ≤ 2 ^ 53 ∧
      (2 ^ 52 ≤ roundEven (scaled num den (exponentFor num den)).1 (scaled num den (exponentFor num den)).2 ∨
        exponentFor num den = -1074) := by
  have hq : (0 : ℚ) < num / den := div_pos (Nat.cast_pos.2 hnum) (Nat.cast_pos.2 hden)
  have hexp := exponentFor_eq hnum hden
  generalize exponentFor num den = e at hexp ⊢
  have hpos : 0 < (scaled num den e).2 := Nat.mul_pos hden (powRatio_fst_pos two_pos e)
  refine ⟨roundEven_le ((scaled_lt_iff hden).2 ?_), ?_⟩
  · have hlog : Int.log 2 (num / den : ℚ) < 53 + e := by omega
    have hlt := (Int.lt_zpow_iff_log_lt one_lt_two hq).2 hlog
    rw [Nat.cast_ofNat, zpow_add₀ two_ne_zero] at hlt
    exact_mod_cast hlt
  · by_cases he : e = -1074
    · exact .inr he
    · refine .inl (le_roundEven hpos (not_lt.1 fun hlt => ?_))
      have hlog : 52 + e ≤ Int.log 2 (num / den : ℚ) := by omega
      have hle := (Int.zpow_le_iff_le_log one_lt_two hq).2 hlog
      rw [Nat.cast_ofNat, zpow_add₀ two_ne_zero] at hle
      exact absurd ((scaled_lt_iff hden).1 hlt) (not_lt.2 (by exact_mod_cast hle))

theorem ofRatio_cases {num den : ℕ} (hden : 0 < den) :
    ofRatio negative num den = .infinite negative ∨
      ∃ m e, IsCanonical m e ∧ ofRatio negative num den = .finite negative m e := by
  rcases Nat.eq_zero_or_pos num with rfl | hnum
  · exact .inr ⟨_, _, isCanonical_zero, rfl⟩
  obtain ⟨hhigh, hlow⟩ := roundEven_exponentFor hnum hden
  have hleast : -1074 ≤ exponentFor num den := le_max_right _ _
  rw [ofRatio, if_neg hnum.ne']
  extract_lets e s m
  -- The significand may have become the next power of two; then it is halved again.
  by_cases hcarry : m = 2 * normalFrom
  · rw [if_pos hcarry]
    dsimp only
    split
    · exact .inl rfl
    · next hmost =>
      exact .inr ⟨normalFrom, e + 1, ⟨by decide, by omega, not_lt.1 hmost, .inl (by decide)⟩, rfl⟩
  · rw [if_neg hcarry]
    dsimp only
    split
    · exact .inl rfl
    · next hmost =>
      split
      · exact .inr ⟨_, _, isCanonical_zero, rfl⟩
      · have hnormal : 2 * normalFrom = 2 ^ 53 := rfl
        have hshort : m < 2 ^ 53 := lt_of_le_of_ne hhigh (hnormal ▸ hcarry)
        exact .inr ⟨m, e, ⟨hshort, hleast, not_lt.1 hmost, hlow⟩, rfl⟩

theorem ofDecimal_cases (m : ℕ) (e : ℤ) : ofDecimal negative m e = .infinite negative ∨
    ∃ m' e', IsCanonical m' e' ∧ ofDecimal negative m e = .finite negative m' e' := by
  rcases Nat.eq_zero_or_pos m with rfl | hm
  · exact .inr ⟨_, _, isCanonical_zero, rfl⟩
  · rw [ofDecimal_eq hm]
    exact ofRatio_cases (powRatio_snd_pos (by omega) e)

end Binary64

def IsNumberText (s : String) : Prop :=
  ∃ m e, Binary64.IsCanonical m e ∧ (Binary64.finite false m e).text = s

theorem Numeral.IsProper.text_ofDecimal_iff {n : Numeral} (h : n.IsProper) :
    (Binary64.ofDecimal false n.digits n.exponent).text = String.ofList n.text ↔
      IsNumberText (String.ofList n.text) := by
  constructor
  · intro htext
    rcases @Binary64.ofDecimal_cases false n.digits n.exponent with hinf | ⟨m, e, hcanonical, hfinite⟩
    · rw [hinf] at htext
      obtain ⟨d, cs, hd, hcs⟩ := h.exists_cons
      have hhead := congrArg String.toList htext
      rw [String.toList_ofList, hcs] at hhead
      obtain rfl : 'i' = d := (List.cons.inj hhead).1
      exact absurd hd (by decide)
    · exact ⟨m, e, hcanonical, hfinite ▸ htext⟩
  · rintro ⟨m, e, hcanonical, htext⟩
    obtain ⟨n', hn', -, hreads, htext'⟩ := @Binary64.exists_numeral false _ _ hcanonical
    have hsame : n'.text = n.text := String.ofList_injective (htext'.symm.trans htext)
    have hread := hn'.readFloat
    rw [hsame, h.readFloat, hreads] at hread
    rw [Option.some.inj hread, htext]

end ReleaseMatch.Number
