import ReleaseMatch.Log.Line
import ReleaseMatch.Proofs.Number.Order
import ReleaseMatch.Proofs.Result
set_option autoImplicit false

/-!
# Times of records

A time in seconds that lies in the years 1 to 9999 is a date and a clock time. Rounding to microseconds may
carry it into the next second, but no further.
-/
namespace ReleaseMatch

open Number

/-! Dates -/

theorem Calendar.ofDays_year {days : ℤ} (h : -719162 ≤ days) (h' : days ≤ 2932896) :
    1 ≤ (ofDays days).1 ∧ (ofDays days).1 ≤ 9999 := by
  have hdiv : Int.fdiv (days + 719468) 146097 = (days + 719468) / 146097 := Int.fdiv_eq_ediv_of_nonneg _ (by decide)
  have hmod : Int.fmod (days + 719468) 146097 = (days + 719468) % 146097 := Int.fmod_eq_emod_of_nonneg _ (by decide)
  simp only [ofDays, hdiv, hmod]
  generalize hera : (days + 719468) / 146097 = era
  generalize hday : ((days + 719468) % 146097).toNat = day
  have hsum : days + 719468 = 146097 * era + day := by omega
  have hfull : day < 146097 := by omega
  generalize hyear : (day - day / 1460 + day / 36524 - day / 146096) / 365 = year
  -- March is month 0, so that the last months of a year in this count belong to the next one.
  generalize hmonth : (5 * (day - (365 * year + year / 4 - year / 100)) + 2) / 153 = month
  have hfirst : era = 0 → year = 0 → 10 ≤ month ∧ month < 12 := by omega
  have hlast : era = 24 → year = 399 → month < 10 := by omega
  have hyears : 0 ≤ era ∧ era ≤ 24 ∧ year ≤ 399 := by omega
  split_ifs <;> omega

namespace Log

open Calendar

/-- Seconds from the first day of the year 1 up to the last one of the year 9999. -/
def InCalendar (seconds : ℤ) : Prop := -62135596800 ≤ seconds ∧ seconds < 253402300800

theorem exists_date {seconds : ℤ} (h : InCalendar seconds) (micros : ℕ) :
    checkYear (ofDays (Int.fdiv seconds 86400)).1 = .ok () ∧
      ∃ date clock, ofSeconds seconds micros = .ok (date, clock) := by
  have hdiv : Int.fdiv seconds 86400 = seconds / 86400 := Int.fdiv_eq_ediv_of_nonneg _ (by decide)
  obtain ⟨hfirst, hlast⟩ := h
  obtain ⟨hlow, hhigh⟩ := ofDays_year (show -719162 ≤ Int.fdiv seconds 86400 by omega) (by omega)
  refine ⟨?_, ?_⟩
  · rw [checkYear, inWord32, decide_eq_true (by omega), decide_eq_true (by omega)]
    rfl
  · unfold ofSeconds
    dsimp only
    rw [if_neg (by simp only [Bool.or_eq_true, decide_eq_true_eq]; omega)]
    exact ⟨_, _, rfl⟩

theorem isoTime_of_splitTime {time : Value} {seconds : ℤ}
    (hsplit : ∃ micros, Record.splitTime time = .ok (seconds, micros)) (h : InCalendar seconds) :
    ∃ s, isoTime time = .ok s := by
  obtain ⟨micros, hsplit⟩ := hsplit
  obtain ⟨hyear, date, clock, hdate⟩ := exists_date h micros
  rw [isoTime, hsplit]
  simp only [bind, Except.bind, hyear, hdate]
  exact ⟨_, rfl⟩

/-! Fractions of a second -/

/-- The microseconds of a fraction: it is rounded to a number, multiplied, and rounded twice again. -/
theorem microsOf_le {num den : ℕ} (hlt : num < den) :
    Record.splitTime.microsOf ((Binary64.ofRatio false num den).mul (.ofInt 1000000)) ≤ 1000000 := by
  have hden : 0 < den := Nat.zero_lt_of_lt hlt
  obtain ⟨m, e, hpart, hle⟩ : ∃ m e, Binary64.ofRatio false num den = .finite false m e ∧
      Binary64.rat false m e ≤ (1 : ℕ) :=
    Binary64.ofRatio_le hden (by decide) (by omega)
  have hmillion : Binary64.ofInt 1000000 = .finite false (1000000 * 2 ^ 33) (-33) := by decide +kernel
  have hratio : Binary64.ratio (1000000 * 2 ^ 33) (-33) = (1000000 * 2 ^ 33, 2 ^ 33) := by decide +kernel
  have hpos : 0 < (Binary64.ratio m e).2 := powRatio_snd_pos Nat.two_pos e
  have hbound : (Binary64.ratio m e).1 ≤ 1 * (Binary64.ratio m e).2 := Binary64.rat_le_iff.1 (by exact_mod_cast hle)
  rw [hpart, hmillion, Binary64.mul, Binary64.signedRatio, Binary64.signedRatio, hratio]
  simp only [Bool.false_eq_true, if_false, Binary64.ofSignedRatio]
  split
  · exact (Nat.zero_le _).trans' (by decide +kernel)
  · obtain ⟨m', e', hproduct, hle'⟩ := @Binary64.ofRatio_le
      (decide (((Binary64.ratio m e).1 : ℤ) * ((1000000 * 2 ^ 33 : ℕ) : ℤ) < 0))
      (((Binary64.ratio m e).1 : ℤ) * ((1000000 * 2 ^ 33 : ℕ) : ℤ)).natAbs ((Binary64.ratio m e).2 * 2 ^ 33)
      1000000 (Nat.mul_pos hpos (by decide)) (by decide) (by
        rw [Int.natAbs_mul, Int.natAbs_natCast, Int.natAbs_natCast]
        nlinarith)
    rw [hproduct]
    exact roundEven_le_of_le (powRatio_snd_pos Nat.two_pos e') (Binary64.rat_le_iff.1 (by exact_mod_cast hle'))

/-! Times -/

/-- A time in the years 1 to 9999; one with a fraction lies before the last second of them. -/
inductive IsTime : Value → Prop
  | int {n : ℤ} (h : InCalendar n) : IsTime (.int n)
  | float {negative : Bool} {m : ℕ} {e : ℤ} (h : -62135596800 < Binary64.rat negative m e)
      (h' : Binary64.rat negative m e < 253402300799) : IsTime (.float (.finite negative m e))

theorem inWord64_of_inCalendar {n : ℤ} (h : InCalendar n) : inWord64 n = true := by
  obtain ⟨hfirst, hlast⟩ := h
  rw [inWord64, decide_eq_true (by omega), decide_eq_true (by omega)]
  rfl

theorem inCalendar_of_whole {negative : Bool} {whole micros : ℕ} (hmicros : micros ≤ 1000000)
    (hwhole : whole < if negative then 62135596800 else 253402300799) :
    InCalendar (Int.fdiv (if negative then -((whole : ℤ) * 1000000 + micros) else (whole : ℤ) * 1000000 + micros)
      1000000) := by
  rw [Int.fdiv_eq_ediv_of_nonneg _ (by decide)]
  cases negative with
  | true =>
    simp only [if_true] at hwhole ⊢
    constructor <;> omega
  | false =>
    simp only [Bool.false_eq_true, if_false] at hwhole ⊢
    constructor <;> omega

theorem isoTime_of_isTime {time : Value} (h : IsTime time) : ∃ s, isoTime time = .ok s := by
  cases h with
  | @int n h =>
    refine isoTime_of_splitTime ⟨0, ?_⟩ h
    rw [Record.splitTime, Record.splitTime.seconds, inWord64_of_inCalendar h]
    rfl
  | @float negative m e h h' =>
    have hden : 0 < (Binary64.ratio m e).2 := powRatio_snd_pos Nat.two_pos e
    have hden' : (0 : ℚ) < (Binary64.ratio m e).2 := Nat.cast_pos.2 hden
    have hlow := mul_lt_mul_of_pos_right h hden'
    have hhigh := mul_lt_mul_of_pos_right h' hden'
    rw [Binary64.rat_mul_ratio] at hlow hhigh
    have hwhole : (Binary64.ratio m e).1 / (Binary64.ratio m e).2 <
        if negative then 62135596800 else 253402300799 := by
      rw [Nat.div_lt_iff_lt_mul hden]
      cases negative with
      | true =>
        rw [if_pos rfl] at hlow
        have hlt : (-62135596800 * (Binary64.ratio m e).2 : ℤ) < -((Binary64.ratio m e).1 : ℤ) := by
          exact_mod_cast hlow
        rw [if_pos rfl]
        omega
      | false =>
        rw [if_neg Bool.false_ne_true] at hhigh
        rw [if_neg Bool.false_ne_true]
        exact_mod_cast hhigh
    have hcalendar := inCalendar_of_whole (microsOf_le (Nat.mod_lt (Binary64.ratio m e).1 hden)) hwhole
    refine isoTime_of_splitTime ?_ hcalendar
    rw [Record.splitTime, Record.splitTime.seconds, inWord64_of_inCalendar hcalendar]
    exact ⟨_, rfl⟩

end Log
end ReleaseMatch
