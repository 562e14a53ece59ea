import Mathlib.Data.List.TakeDrop
import ReleaseMatch.Number.Read
import ReleaseMatch.Proofs.Number.Nearest
import ReleaseMatch.Proofs.Text.Ascii
set_option autoImplicit false

/-!
# Numerals

The text of a number is a numeral: digits, behind a point some more if there are any, and behind a letter a
power of ten if there is one. Whatever its layout, it reads as the number that it is the text of.
-/
namespace ReleaseMatch.Number

/-! Digits -/

def IsDigits (cs : List Char) : Prop := ∀ c ∈ cs, c.isDigit = true

theorem IsDigits.append {cs ds : List Char} (h : IsDigits cs) (h' : IsDigits ds) : IsDigits (cs ++ ds) := by
  intro c hc
  rcases List.mem_append.1 hc with hc | hc
  · exact h c hc
  · exact h' c hc

theorem isDigits_zeros (n : ℕ) : IsDigits (List.replicate n '0') := by
  intro c hc
  rw [List.eq_of_mem_replicate hc]
  rfl

theorem isDigits_toDigits (n : ℕ) : IsDigits (Nat.toDigits 10 n) :=
  fun _ hc => Nat.isDigit_of_mem_toDigits (by decide) (by decide) hc

theorem ne_of_isDigit {c d : Char} (hc : c.isDigit = true) (hd : d.isDigit = false) : c ≠ d := by
  rintro rfl
  rw [hc] at hd
  cases hd

theorem digitValue?_of_isDigit {c : Char} (hc : c.isDigit = true) :
    digitValue? c = some (c.toNat - 48) := by
  rw [digitValue?, if_pos hc]

theorem foldl_digits (base n : ℕ) (ds : List Char) :
    ds.foldl (fun n d => n * base + (digitValue? d).getD 0) n = n * base ^ ds.length + digitsOf base ds := by
  induction ds generalizing n with
  | nil => simp [digitsOf]
  | cons d ds ih =>
    rw [digitsOf, List.foldl_cons, List.foldl_cons, ih, ih (0 * base + _), List.length_cons]
    ring

theorem digitsOf_append (base : ℕ) (cs ds : List Char) :
    digitsOf base (cs ++ ds) = digitsOf base cs * base ^ ds.length + digitsOf base ds := by
  rw [digitsOf, List.foldl_append, foldl_digits]
  rfl

theorem digitsOf_zeros (base n : ℕ) : digitsOf base (List.replicate n '0') = 0 := by
  induction n with
  | zero => rfl
  | succ n ih =>
    rw [List.replicate_succ, ← List.singleton_append, digitsOf_append, ih]
    simp [digitsOf, digitValue?_of_isDigit (show '0'.isDigit = true by rfl)]

theorem digitsOf_append_zeros (base n : ℕ) (ds : List Char) :
    digitsOf base (ds ++ List.replicate n '0') = digitsOf base ds * base ^ n := by
  rw [digitsOf_append, digitsOf_zeros, List.length_replicate, Nat.add_zero]

theorem digitsOf_zeros_append (base n : ℕ) (ds : List Char) :
    digitsOf base (List.replicate n '0' ++ ds) = digitsOf base ds := by
  rw [digitsOf_append, digitsOf_zeros, Nat.zero_mul, Nat.zero_add]

theorem digitsOf_toDigits (n : ℕ) : digitsOf 10 (Nat.toDigits 10 n) = n := by
  refine Eq.trans ?_ Nat.ofDigitChars_ten_toDigits
  rw [digitsOf, Nat.ofDigitChars_eq_foldl]
  refine List.foldl_ext _ _ _ fun k d hd => ?_
  rw [digitValue?_of_isDigit (isDigits_toDigits n d hd), Nat.mul_comm]
  rfl

theorem joinDigits_eq {isDigit : Char → Bool} {ds : List Char} (hne : ds ≠ [])
    (h : ∀ d ∈ ds, isDigit d = true ∧ d ≠ '_') : joinDigits isDigit ds = some ds := by
  fun_induction joinDigits isDigit ds with
  | case1 => exact absurd rfl hne
  | case2 d hd => rfl
  | case3 d hd => exact absurd (h d (by simp)).1 hd
  | case4 d rest => exact absurd rfl (h '_' (by simp)).2
  | case5 d rest => exact absurd rfl (h '_' (by simp)).2
  | case6 d rest hrest hbar hd ih =>
    rw [ih hrest fun c hc => h c (List.mem_cons_of_mem _ hc), Option.map_some]
  | case7 d rest hrest hbar hd => exact absurd (h d (by simp)).1 hd

theorem IsDigits.join {ds : List Char} (h : IsDigits ds) (hne : ds ≠ []) :
    joinDigits Char.isDigit ds = some ds :=
  joinDigits_eq hne fun d hd => ⟨h d hd, ne_of_isDigit (h d hd) rfl⟩

theorem IsDigits.joinSome {ds : List Char} (h : IsDigits ds) : joinSomeDigits ds = some ds := by
  rw [joinSomeDigits]
  split
  · next hnil => rw [List.isEmpty_iff.1 hnil]
  · next hne => exact h.join (mt List.isEmpty_iff.2 hne)

/-! Numerals -/

structure Numeral where
  whole : List Char
  fraction : List Char := []
  power : Option ℤ := none

namespace Numeral

def pointText (ds : List Char) : List Char :=
  if ds.isEmpty then [] else '.' :: ds

def powerText : Option ℤ → List Char
  | none => []
  | some n => 'e' :: exponentText n

def text (n : Numeral) : List Char :=
  n.whole ++ (pointText n.fraction ++ powerText n.power)

def digits (n : Numeral) : ℕ := digitsOf 10 (n.whole ++ n.fraction)

def exponent (n : Numeral) : ℤ := n.power.getD 0 - n.fraction.length

structure IsProper (n : Numeral) : Prop where
  ne_nil : n.whole ≠ []
  whole : IsDigits n.whole
  fraction : IsDigits n.fraction

/-- A numeral in which the digits of a decimal stand. -/
structure Writes (n : Numeral) (d : Decimal) : Prop extends n.IsProper where
  value (negative : Bool) :
    Binary64.ofDecimal negative n.digits n.exponent = .ofDecimal negative d.digits d.exponent

theorem exponentText_eq (n : ℤ) : ∃ ds, ds ≠ [] ∧ IsDigits ds ∧ digitsOf 10 ds = n.natAbs ∧
    exponentText n = (if n < 0 then '-' else '+') :: ds := by
  have hds := isDigits_toDigits n.natAbs
  by_cases hlen : (Nat.toDigits 10 n.natAbs).length < 2
  · refine ⟨_, List.cons_ne_nil _ _, (isDigits_zeros 1).append hds,
      (digitsOf_zeros_append 10 1 _).trans (digitsOf_toDigits _), ?_⟩
    rw [exponentText, if_pos hlen]
    rfl
  · refine ⟨_, Nat.toDigits_ne_nil, hds, digitsOf_toDigits _, ?_⟩
    rw [exponentText, if_neg hlen]

theorem readExponent_powerText (p : Option ℤ) : readExponent (powerText p) = some (p.getD 0) := by
  cases p with
  | none => rfl
  | some n =>
    obtain ⟨ds, hne, hds, hvalue, htext⟩ := exponentText_eq n
    rw [powerText, htext, readExponent, if_pos (by decide)]
    rcases lt_or_ge n 0 with hn | hn
    · simp [hn, splitSign, hds.join hne, hvalue, abs_of_neg hn]
    · simp [not_lt.2 hn, splitSign, hds.join hne, hvalue, abs_of_nonneg hn]

theorem mem_powerText {p : Option ℤ} {c : Char} (h : c ∈ powerText p) : c.isDigit = true ∨ c ∈ ['e', '+', '-'] := by
  cases p with
  | none => cases h
  | some p =>
    obtain ⟨ds, -, hds, -, htext⟩ := exponentText_eq p
    rw [powerText, htext, List.mem_cons, List.mem_cons] at h
    rcases h with rfl | rfl | hc
    · exact .inr (by simp)
    · split <;> exact .inr (by simp)
    · exact .inl (hds c hc)

theorem stops_powerText (p : Option ℤ) :
    (powerText p).takeWhile isFloatDigit = [] ∧ (powerText p).dropWhile isFloatDigit = powerText p := by
  cases p <;> exact ⟨rfl, rfl⟩

theorem span_digits {ds rest : List Char} (hds : IsDigits ds) (hrest : rest.takeWhile isFloatDigit = [])
    (hrest' : rest.dropWhile isFloatDigit = rest) :
    (ds ++ rest).takeWhile isFloatDigit = ds ∧ (ds ++ rest).dropWhile isFloatDigit = rest := by
  have hall : ∀ d ∈ ds, isFloatDigit d = true := fun d hd => by rw [isFloatDigit, hds d hd]; rfl
  rw [List.takeWhile_append_of_pos hall, List.dropWhile_append_of_pos hall, hrest, hrest', List.append_nil]
  exact ⟨rfl, rfl⟩

variable {n : Numeral}

theorem IsProper.readDecimal (h : n.IsProper) (negative : Bool) :
    readDecimal negative n.text = some (.ofDecimal negative n.digits n.exponent) := by
  obtain ⟨htake, hdrop⟩ := stops_powerText n.power
  rw [Number.readDecimal, text, pointText]
  by_cases hfraction : n.fraction = []
  · obtain ⟨hspan, hspan'⟩ := span_digits h.whole htake hdrop
    rw [if_pos (List.isEmpty_iff.2 hfraction), List.nil_append, hspan, hspan', h.whole.joinSome]
    cases hpower : n.power with
    | none => simp [powerText, readExponent, h.ne_nil, digits, exponent, hfraction, hpower]
    | some p =>
      have hread := readExponent_powerText (some p)
      simp only [powerText] at hread ⊢
      simp [hread, h.ne_nil, digits, exponent, hfraction, hpower]
  · obtain ⟨hspan, hspan'⟩ := @span_digits _ ('.' :: (n.fraction ++ powerText n.power)) h.whole rfl rfl
    obtain ⟨hspan₂, hspan₂'⟩ := span_digits h.fraction htake hdrop
    rw [if_neg (mt List.isEmpty_iff.1 hfraction), List.cons_append, hspan, hspan', h.whole.joinSome]
    simp [hspan₂, hspan₂', h.fraction.joinSome, h.ne_nil, readExponent_powerText, digits, exponent]

end Numeral

/-! Layouts -/

theorem stripZeros_append (cs : List Char) :
    ∃ k, cs = stripZeros cs ++ List.replicate k '0' := by
  refine ⟨(cs.reverse.takeWhile (· == '0')).length, ?_⟩
  have hzeros : cs.reverse.takeWhile (· == '0') =
      List.replicate (cs.reverse.takeWhile (· == '0')).length '0' :=
    List.eq_replicate_of_mem fun c hc =>
      eq_of_beq (List.all_eq_true.1 (List.all_takeWhile (p := (· == '0'))) c hc)
  have hsplit := congrArg List.reverse (List.takeWhile_append_dropWhile (p := (· == '0')) (l := cs.reverse))
  rw [List.reverse_append, List.reverse_reverse] at hsplit
  refine hsplit.symm.trans ?_
  rw [stripZeros]
  conv_lhs => rw [hzeros, List.reverse_replicate]

/-- Where the point stands among some digits, and a power behind them, is all that layouts differ in. -/
theorem exists_positional {ds : List Char} (hds : IsDigits ds) (hne : ds ≠ []) (point : ℤ) :
    ∃ n : Numeral, n.IsProper ∧ n.fraction ≠ [] ∧ n.text = positional ds point ∧
      ∀ negative, Binary64.ofDecimal negative n.digits n.exponent =
        .ofDecimal negative (digitsOf 10 ds) (point - ds.length) := by
  rw [positional]
  -- The point stands in front of the digits, behind them or among them.
  split
  · next hpoint =>
    refine ⟨⟨['0'], List.replicate (-point).toNat '0' ++ ds, none⟩,
      ⟨by simp, isDigits_zeros 1, (isDigits_zeros _).append hds⟩, by simp [hne], ?_, fun negative => ?_⟩
    · simp [Numeral.text, Numeral.pointText, Numeral.powerText, hne]
    · rw [Numeral.digits, Numeral.exponent, ← List.append_assoc,
        show ['0'] = List.replicate 1 '0' by rfl, List.replicate_append_replicate, digitsOf_zeros_append]
      congr 1
      simp
      omega
  · next hpoint =>
    dsimp only
    split
    · next hlen =>
      refine ⟨⟨ds ++ List.replicate (point.toNat - ds.length) '0', ['0'], none⟩,
        ⟨by simp [hne], hds.append (isDigits_zeros _), isDigits_zeros 1⟩, by simp, ?_, fun negative => ?_⟩
      · simp [Numeral.text, Numeral.pointText, Numeral.powerText]
      · rw [Numeral.digits, Numeral.exponent, List.append_assoc, show ['0'] = List.replicate 1 '0' by rfl,
          List.replicate_append_replicate, digitsOf_append_zeros, Binary64.ofDecimal_mul_pow]
        congr 1
        simp
        omega
    · next hlen =>
      refine ⟨⟨ds.take point.toNat, ds.drop point.toNat, none⟩,
        ⟨?_, fun c hc => hds c (List.mem_of_mem_take hc), fun c hc => hds c (List.mem_of_mem_drop hc)⟩,
        ?_, ?_, fun negative => ?_⟩
      · simp [hne]
        omega
      · simp
        omega
      · simp [Numeral.text, Numeral.pointText, Numeral.powerText]
        omega
      · rw [Numeral.digits, Numeral.exponent, List.take_append_drop]
        congr 1
        simp
        omega

theorem exists_exponential {ds : List Char} (hds : IsDigits ds) (hne : ds ≠ []) (point : ℤ) :
    ∃ n : Numeral, n.IsProper ∧ n.power.isSome ∧ n.text = exponential ds point ∧
      ∀ negative, Binary64.ofDecimal negative n.digits n.exponent =
        .ofDecimal negative (digitsOf 10 ds) (point - ds.length) := by
  cases ds with
  | nil => exact absurd rfl hne
  | cons d rest =>
    refine ⟨⟨[d], rest, some (point - 1)⟩, ⟨by simp, fun c hc => hds c ?_, fun c hc => hds c ?_⟩, rfl, ?_,
      fun negative => ?_⟩
    · rw [List.mem_singleton.1 hc]
      exact List.mem_cons_self
    · exact List.mem_cons_of_mem _ hc
    · cases rest <;> simp [exponential, Numeral.text, Numeral.pointText, Numeral.powerText]
    · rw [Numeral.digits, Numeral.exponent]
      congr 1
      simp
      omega

theorem Decimal.exists_numeral {d : Decimal} (hd : 0 < d.digits) :
    ∃ n : Numeral, n.Writes d ∧ (n.fraction ≠ [] ∨ n.power.isSome) ∧ n.text = d.text := by
  have hall := isDigits_toDigits d.digits
  obtain ⟨k, hk⟩ := stripZeros_append (Nat.toDigits 10 d.digits)
  have hvalue := digitsOf_toDigits d.digits
  rw [hk, digitsOf_append_zeros] at hvalue
  have hne : stripZeros (Nat.toDigits 10 d.digits) ≠ [] := by
    intro hnil
    rw [hnil] at hvalue
    simp [digitsOf] at hvalue
    omega
  have hdigits : IsDigits (stripZeros (Nat.toDigits 10 d.digits)) := by
    intro c hc
    refine hall c ?_
    rw [hk]
    exact List.mem_append_left _ hc
  have hlength := congrArg List.length hk
  rw [List.length_append, List.length_replicate] at hlength
  have hreads (negative : Bool) : Binary64.ofDecimal negative d.digits d.exponent =
      .ofDecimal negative (digitsOf 10 (stripZeros (Nat.toDigits 10 d.digits)))
        ((Nat.toDigits 10 d.digits).length + d.exponent - (stripZeros (Nat.toDigits 10 d.digits)).length) := by
    conv_lhs => rw [← hvalue, Binary64.ofDecimal_mul_pow]
    congr 1
    omega
  rw [Decimal.text]
  split
  · obtain ⟨n, hproper, hfraction, htext, hn⟩ := exists_positional hdigits hne
      ((Nat.toDigits 10 d.digits).length + d.exponent)
    exact ⟨n, ⟨hproper, fun negative => (hn negative).trans (hreads negative).symm⟩, .inl hfraction, htext⟩
  · obtain ⟨n, hproper, hpower, htext, hn⟩ := exists_exponential hdigits hne
      ((Nat.toDigits 10 d.digits).length + d.exponent)
    exact ⟨n, ⟨hproper, fun negative => (hn negative).trans (hreads negative).symm⟩, .inr hpower, htext⟩

def signed (negative : Bool) (cs : List Char) : List Char :=
  if negative then '-' :: cs else cs

theorem Binary64.exists_numeral {negative : Bool} {m : ℕ} {e : ℤ} (h : IsCanonical m e) :
    ∃ n : Numeral, n.IsProper ∧ (n.fraction ≠ [] ∨ n.power.isSome) ∧
      ofDecimal false n.digits n.exponent = .finite false m e ∧
      (Binary64.finite negative m e).text = String.ofList (signed negative n.text) := by
  rcases Nat.eq_zero_or_pos m with rfl | hm
  · have he : e = -1074 := h.normal.resolve_left (by decide)
    exact ⟨⟨['0'], ['0'], none⟩, ⟨by simp, isDigits_zeros 1, isDigits_zeros 1⟩, by simp, by rw [he]; rfl, rfl⟩
  · have hreads := shortest_reads h hm
    have hdigits : 0 < (shortest m e).digits := by
      refine Nat.pos_of_ne_zero fun hzero => ?_
      rw [hzero, ofDecimal, if_pos rfl, zero] at hreads
      exact hm.ne (Binary64.finite.inj hreads).2.1
    obtain ⟨n, hwrites, hlayout, htext⟩ := Decimal.exists_numeral hdigits
    refine ⟨n, hwrites.toIsProper, hlayout, (hwrites.value false).trans hreads, ?_⟩
    rw [htext, Binary64.text, if_neg hm.ne']
    rfl

/-! Reading -/

def isNumeralChar (c : Char) : Bool :=
  c.isDigit || c == '.' || c == 'e' || c == '+' || c == '-'

theorem isNumeralChar_of_isDigit {c : Char} (h : c.isDigit = true) : isNumeralChar c = true := by
  rw [isNumeralChar, h]
  rfl

theorem isAscii_of_isNumeralChar {c : Char} (h : isNumeralChar c = true) : c.toNat < 128 := by
  simp only [isNumeralChar, Bool.or_eq_true, beq_iff_eq] at h
  rcases h with (((h | rfl) | rfl) | rfl) | rfl
  · have := Char.isDigit_iff_toNat.1 h
    have hnine : '9'.toNat = 57 := rfl
    omega
  all_goals decide

theorem isAsciiBlank_of_isNumeralChar {c : Char} (h : isNumeralChar c = true) : isAsciiBlank c = false := by
  simp only [isNumeralChar, Bool.or_eq_true, beq_iff_eq] at h
  rcases h with (((h | rfl) | rfl) | rfl) | rfl
  · have hdigit := Char.isDigit_iff_toNat.1 h
    have hzero : '0'.toNat = 48 := rfl
    simp only [isAsciiBlank, Bool.or_eq_false_iff, beq_eq_false_iff_ne, Bool.and_eq_false_iff,
      decide_eq_false_iff_not]
    exact ⟨ne_of_isDigit h rfl, by omega⟩
  all_goals decide

theorem plainChars_eq {cs : List Char} (h : ∀ c ∈ cs, isNumeralChar c = true) : plainChars cs = cs := by
  rw [plainChars, if_pos]
  exact List.all_eq_true.2 fun c hc => decide_eq_true (isAscii_of_isNumeralChar (h c hc))

theorem trimAscii_eq {cs : List Char} (h : ∀ c ∈ cs, isNumeralChar c = true) : trimAscii cs = cs := by
  have hkeep {ds : List Char} (hds : ∀ c ∈ ds, isNumeralChar c = true) :
      ds.dropWhile isAsciiBlank = ds := by
    cases ds with
    | nil => rfl
    | cons d ds =>
      rw [List.dropWhile_cons_of_neg]
      rw [isAsciiBlank_of_isNumeralChar (hds d List.mem_cons_self)]
      exact Bool.false_ne_true
  rw [trimAscii, hkeep h, hkeep fun c hc => h c (List.mem_reverse.1 hc), List.reverse_reverse]

theorem toLower_of_isDigit {c : Char} (h : c.isDigit = true) : c.toLower = c :=
  Text.of_isAscii (p := fun c => c.isDigit = true → c.toLower = c) (by decide +kernel)
    (decide_eq_true (isAscii_of_isNumeralChar (isNumeralChar_of_isDigit h))) h

theorem splitSign_of_isDigit {d : Char} {cs : List Char} (hd : d.isDigit = true) :
    splitSign (d :: cs) = (false, d :: cs) := by
  have hminus : d ≠ '-' := ne_of_isDigit hd rfl
  have hplus : d ≠ '+' := ne_of_isDigit hd rfl
  unfold splitSign
  split
  · next heq => exact absurd (List.cons.inj heq).1 hminus
  · next heq => exact absurd (List.cons.inj heq).1 hplus
  · rfl

namespace Numeral

variable {n : Numeral}

theorem IsProper.chars (h : n.IsProper) : ∀ c ∈ n.text, isNumeralChar c = true := by
  intro c hc
  rw [text, List.mem_append, List.mem_append] at hc
  rcases hc with hc | hc | hc
  · exact isNumeralChar_of_isDigit (h.whole c hc)
  · rw [pointText] at hc
    split at hc
    · cases hc
    · rcases List.mem_cons.1 hc with rfl | hc
      · rfl
      · exact isNumeralChar_of_isDigit (h.fraction c hc)
  · rcases mem_powerText hc with hdigit | hmark
    · exact isNumeralChar_of_isDigit hdigit
    · have hmarks : ∀ c ∈ ['e', '+', '-'], isNumeralChar c = true := by simp [isNumeralChar]
      exact hmarks c hmark

theorem IsProper.exists_cons (h : n.IsProper) : ∃ d cs, d.isDigit = true ∧ n.text = d :: cs := by
  obtain ⟨d, ds, hwhole⟩ := List.exists_cons_of_ne_nil h.ne_nil
  refine ⟨d, ds ++ (pointText n.fraction ++ powerText n.power), h.whole d ?_, ?_⟩
  · rw [hwhole]
    exact List.mem_cons_self
  · rw [text, hwhole, List.cons_append]

theorem IsProper.readFloat (h : n.IsProper) :
    Number.readFloat n.text = some (.ofDecimal false n.digits n.exponent) := by
  obtain ⟨d, cs, hd, htext⟩ := h.exists_cons
  have hword {w : String} (hw : ∀ c ∈ w.toList, c.isDigit = false) :
      String.ofList (n.text.map Char.toLower) ≠ w := by
    rintro rfl
    have hmem := List.mem_map_of_mem (f := Char.toLower) (htext ▸ List.mem_cons_self : d ∈ n.text)
    rw [toLower_of_isDigit hd, ← @String.toList_ofList (n.text.map _)] at hmem
    rw [hw d hmem] at hd
    cases hd
  have hinf := hword (w := "inf") (by simp)
  have hinfinity := hword (w := "infinity") (by simp)
  rw [Number.readFloat, plainChars_eq h.chars, trimAscii_eq h.chars, htext, splitSign_of_isDigit hd, ← htext]
  dsimp only
  rw [if_neg (by simp [hinf, hinfinity]), if_neg (hword (by simp)), h.readDecimal]

theorem IsProper.mem_text_iff (h : n.IsProper) : '.' ∈ n.text ↔ n.fraction ≠ [] := by
  have hdigits {ds : List Char} (hds : IsDigits ds) : '.' ∉ ds := fun hmem =>
    ne_of_isDigit (hds '.' hmem) (d := '.') rfl rfl
  have hpower : '.' ∉ powerText n.power := fun hmem => absurd (mem_powerText hmem) (by decide)
  rw [text, List.mem_append, List.mem_append, or_iff_right (hdigits h.whole), or_iff_left hpower, pointText]
  split
  · next hnil => exact iff_of_false List.not_mem_nil fun hne => hne (List.isEmpty_iff.1 hnil)
  · next hne => exact iff_of_true List.mem_cons_self (mt List.isEmpty_iff.2 hne)

end Numeral

end ReleaseMatch.Number
