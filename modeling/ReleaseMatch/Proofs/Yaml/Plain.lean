import ReleaseMatch.Proofs.Yaml.Form
import ReleaseMatch.Yaml.Construct
set_option autoImplicit false

/-!
# Numbers as plain scalars

An integer is read as itself, unless it has too many digits, and so is a floating point number whose text has
a point. A number that is written with an exponent and no point is read as text.
-/
namespace ReleaseMatch.Yaml

open Number Form

theorem not_mem_signed {c : Char} {cs : List Char} (negative : Bool) (hc : c ≠ '-') (h : c ∉ cs) :
    c ∉ signed negative cs := by
  cases negative with
  | true => exact fun hmem => (List.mem_cons.1 hmem).elim hc h
  | false => exact h

/-! Tags -/

theorem plainTag_of_isDigit {text : String} {d : Char} (hd : d.isDigit = true) (hmem : d ∈ text.toList) :
    plainTag text =
      if (floatForm text.toList.length).fits text.toList then .float
      else if (intForm text.toList.length).fits text.toList then .int
      else if timestampForm.fits text.toList then .timestamp else .str := by
  have hne {w : String} (hw : w.toList.any Char.isDigit = false) : text ≠ w := by
    rintro rfl
    exact List.any_eq_false.1 hw d hmem hd
  have hno {l : List String} (hl : ∀ w ∈ l, w.toList.any Char.isDigit = false) :
      l.contains text = false :=
    Bool.eq_false_iff.2 fun hin => hne (hl text (List.contains_iff_mem.1 hin)) rfl
  have hbool : boolWords.contains text = false := hno (by decide +kernel)
  have hfloat : floatWords.contains text = false := hno (by decide +kernel)
  have hnull : nullWords.contains text = false := hno (by decide +kernel)
  have hmarks : ["!", "&", "*"].contains text = false := hno (by decide +kernel)
  have hmerge : text ≠ "<<" := hne (by decide)
  have hvalue : text ≠ "=" := hne (by decide)
  rw [plainTag]
  simp only [hbool, hfloat, hnull, hmarks, hmerge, hvalue, Bool.false_or, Bool.false_eq_true, if_false]

section

variable {n : Numeral} (h : n.IsProper) (negative : Bool)

theorem mem_signForm (cs : List Char) : cs ∈ signForm (signed negative cs) := by
  cases negative with
  | true => exact mem_opt (mem_char rfl)
  | false => exact mem_opt_self

theorem mem_exponentForm (p : Option ℤ) : [] ∈ exponentForm (Numeral.powerText p) := by
  cases p with
  | none => exact mem_opt_self
  | some p =>
    obtain ⟨ds, hne, hds, -, htext⟩ := Numeral.exponentText_eq p
    obtain ⟨d, ds, rfl⟩ := List.exists_cons_of_ne_nil hne
    rw [Numeral.powerText, htext]
    refine mem_opt (mem_seq (mem_char rfl) (mem_seq (mem_char ?_) (mem_seq ?_ mem_all_nil)))
    · split <;> rfl
    · rw [← List.append_nil ds]
      exact mem_some1 (hds d List.mem_cons_self) fun c hc => hds c (List.mem_cons_of_mem _ hc)

include h

theorem exists_isDigit_mem : ∃ d ∈ signed negative n.text, d.isDigit = true := by
  obtain ⟨d, cs, hd, htext⟩ := h.exists_cons
  refine ⟨d, ?_, hd⟩
  rw [htext]
  cases negative with
  | true => exact List.mem_cons_of_mem _ List.mem_cons_self
  | false => exact List.mem_cons_self

theorem plainTag_of_fraction (hfraction : n.fraction ≠ []) :
    plainTag (String.ofList (signed negative n.text)) = .float := by
  obtain ⟨d, hmem, hd⟩ := exists_isDigit_mem h negative
  rw [plainTag_of_isDigit hd (by rwa [String.toList_ofList]), if_pos]
  rw [String.toList_ofList, fits_iff]
  have hbar {ds : List Char} (hds : IsDigits ds) : ∀ c ∈ ds, isDigitOrBar c = true := fun c hc => by
    rw [isDigitOrBar, hds c hc]
    rfl
  obtain ⟨w, ws, hwhole⟩ := List.exists_cons_of_ne_nil h.ne_nil
  have hw := h.whole
  rw [hwhole] at hw
  refine mem_any List.mem_cons_self (mem_seq (mem_signForm negative _) ?_)
  rw [Numeral.text, hwhole, Numeral.pointText, if_neg (mt List.isEmpty_iff.1 hfraction)]
  refine mem_seq (mem_char (hw w List.mem_cons_self)) (mem_seq (mem_many (hbar fun c hc => hw c ?_)) ?_)
  · exact List.mem_cons_of_mem _ hc
  refine mem_seq (mem_char rfl) (mem_seq (mem_many (hbar h.fraction)) ?_)
  exact mem_seq (mem_exponentForm n.power) mem_all_nil

theorem plainTag_of_power (hfraction : n.fraction = []) (hpower : n.power.isSome = true) :
    plainTag (String.ofList (signed negative n.text)) = .str := by
  obtain ⟨d, hmem, hd⟩ := exists_isDigit_mem h negative
  have hpoint : '.' ∉ signed negative n.text :=
    not_mem_signed negative (by decide) fun hmem => h.mem_text_iff.1 hmem hfraction
  have he : 'e' ∈ signed negative n.text := by
    obtain ⟨p, hp⟩ := Option.isSome_iff_exists.1 hpower
    have : 'e' ∈ n.text := by
      rw [Numeral.text, hp, Numeral.powerText]
      simp
    cases negative with
    | true => exact List.mem_cons_of_mem _ this
    | false => exact this
  have hx : 'x' ∉ signed negative n.text :=
    not_mem_signed negative (by decide) fun hmem => absurd (h.chars 'x' hmem) (by decide)
  rw [plainTag_of_isDigit hd (by rwa [String.toList_ofList]), String.toList_ofList,
    if_neg ((floatForm_takes _).not_fits hpoint), if_neg ((intForm_takes _).not_fits fun h => hx (h he)),
    if_neg (timestampForm_takes.not_fits fun h => h he)]

end

theorem toDigits_head {n : ℕ} (hn : 0 < n) : ∃ d ds, Nat.toDigits 10 n = d :: ds ∧ '1' ≤ d ∧ d ≤ '9' := by
  induction n using Nat.strongRecOn with
  | ind n ih =>
    rw [Nat.toDigits_eq_if (by decide)]
    split
    · next hlt =>
      refine ⟨_, [], rfl, ?_⟩
      have : ∀ n < 10, 0 < n → '1' ≤ n.digitChar ∧ n.digitChar ≤ '9' := by decide
      exact this n hlt hn
    · next hge =>
      obtain ⟨d, ds, hds, hd⟩ := ih (n / 10) (by omega) (by omega)
      exact ⟨d, _, by rw [hds, List.cons_append], hd⟩

theorem toString_int (n : ℤ) :
    toString n = String.ofList (signed (decide (n < 0)) (Nat.toDigits 10 n.natAbs)) := by
  cases n with
  | ofNat m =>
    have hpos : ¬Int.ofNat m < 0 := not_lt.2 (Int.natCast_nonneg m)
    rw [decide_eq_false hpos]
    exact Nat.toString_eq_ofList_toDigits
  | negSucc m =>
    rw [decide_eq_true (Int.negSucc_lt_zero m)]
    change "-" ++ toString (m + 1) = _
    rw [Nat.toString_eq_ofList_toDigits, ← String.toList_inj, String.toList_append]
    simp [signed]

theorem isProper_toDigits (n : ℕ) : (Numeral.mk (Nat.toDigits 10 n) [] none).IsProper :=
  ⟨Nat.toDigits_ne_nil, isDigits_toDigits n, fun _ hc => absurd hc List.not_mem_nil⟩

theorem text_toDigits (n : ℕ) : (Numeral.mk (Nat.toDigits 10 n) [] none).text = Nat.toDigits 10 n :=
  List.append_nil _

theorem plainTag_toString (n : ℤ) : plainTag (toString n) = .int := by
  have hproper := isProper_toDigits n.natAbs
  obtain ⟨d, hmem, hd⟩ := exists_isDigit_mem hproper (decide (n < 0))
  rw [text_toDigits] at hmem
  have hpoint : '.' ∉ signed (decide (n < 0)) (Nat.toDigits 10 n.natAbs) :=
    not_mem_signed _ (by decide) fun hmem => absurd (isDigits_toDigits _ _ hmem) (by decide)
  rw [toString_int, plainTag_of_isDigit hd (by rwa [String.toList_ofList]), String.toList_ofList,
    if_neg ((floatForm_takes _).not_fits hpoint), if_pos]
  rw [fits_iff]
  refine mem_seq (mem_signForm _ _) ?_
  rcases Nat.eq_zero_or_pos n.natAbs with hzero | hpos
  · rw [hzero]
    exact mem_any (f := lit '0') (by simp) (mem_char rfl)
  · obtain ⟨d, ds, hds, hlow, hhigh⟩ := toDigits_head hpos
    have hbar : ∀ c ∈ ds, isDigitOrBar c = true := fun c hc => by
      rw [isDigitOrBar, isDigits_toDigits n.natAbs c (by rw [hds]; exact List.mem_cons_of_mem _ hc)]
      rfl
    rw [hds]
    refine mem_any (f := seq (char fun c => '1' ≤ c && c ≤ '9') (many isDigitOrBar)) (by simp) ?_
    refine mem_seq (mem_char (by simp [hlow, hhigh])) ?_
    rw [← List.append_nil ds]
    exact mem_many hbar

/-! Values -/

theorem withoutBars_eq {cs : List Char} (h : ∀ c ∈ cs, isNumeralChar c = true) :
    withoutBars (String.ofList cs) = cs := by
  rw [withoutBars, String.toList_ofList, List.filter_eq_self]
  intro c hc
  rw [bne_iff_ne]
  rintro rfl
  exact absurd (h '_' hc) (by decide)

theorem lower_of_isNumeralChar {c : Char} (h : isNumeralChar c = true) : Text.lower c = [c] :=
  Text.of_isAscii (p := fun c => isNumeralChar c = true → Text.lower c = [c]) (by decide +kernel)
    (decide_eq_true (isAscii_of_isNumeralChar h)) h

theorem chars_signed {cs : List Char} (h : ∀ c ∈ cs, isNumeralChar c = true) (negative : Bool) :
    ∀ c ∈ signed negative cs, isNumeralChar c = true := by
  cases negative with
  | true =>
    intro c hc
    rcases List.mem_cons.1 hc with rfl | hc
    · rfl
    · exact h c hc
  | false => exact h

theorem toFloat_text {n : Numeral} (h : n.IsProper) (negative : Bool) :
    toFloat (String.ofList (signed negative n.text)) =
      .ok (if negative then (Binary64.ofDecimal false n.digits n.exponent).neg
        else .ofDecimal false n.digits n.exponent) := by
  have hlower : (signed negative n.text).flatMap Text.lower = signed negative n.text := by
    rw [List.flatMap_def, List.map_congr_left fun c hc => lower_of_isNumeralChar (chars_signed h.chars negative c hc),
      ← List.flatMap_def]
    exact List.flatMap_singleton' _
  obtain ⟨d, cs, hd, htext⟩ := h.exists_cons
  have hcolon : ':' ∉ n.text := fun hmem => absurd (h.chars ':' hmem) (by decide)
  have hpart : toFloatPart n.text = .ok (.ofDecimal false n.digits n.exponent) := by
    rw [toFloatPart, h.readFloat]
  have hminus : d ≠ '-' := ne_of_isDigit hd rfl
  have hplus : d ≠ '+' := ne_of_isDigit hd rfl
  have hpoint : d ≠ '.' := ne_of_isDigit hd rfl
  rw [toFloat, withoutBars_eq (chars_signed h.chars negative), hlower]
  rw [htext] at hcolon hpart ⊢
  cases negative with
  | true => simp [signed, hpoint, hcolon, hpart]
  | false => simp [signed, hminus, hplus, hpoint, hcolon, hpart]

theorem lt_ten_of_isDigit {d : Char} (hd : d.isDigit = true) : d.toNat - 48 < 10 := by
  have hnine := (Char.isDigit_iff_toNat.1 hd).2
  have : '9'.toNat = 57 := rfl
  omega

theorem readBase_eq (base : ℕ) {ds : List Char} (hds : IsDigits ds) (hne : ds ≠ [])
    (hlt : ∀ d ∈ ds, d.toNat - 48 < base) : readBase base ds =
      if base = 10 && maxIntDigits < ds.length then .error (.text (.longInt ds.length))
      else .ok (digitsOf base ds) := by
  obtain ⟨d, cs, rfl⟩ := List.exists_cons_of_ne_nil hne
  have hchars := fun c hc => isNumeralChar_of_isDigit (hds c hc)
  have hjoin : joinDigits (isDigitOf base) (d :: cs) = some (d :: cs) := by
    refine joinDigits_eq hne fun c hc => ⟨?_, ne_of_isDigit (hds c hc) rfl⟩
    rw [isDigitOf, digitValue?_of_isDigit (hds c hc), Option.any_some, decide_eq_true_eq]
    exact hlt c hc
  have hdrop : dropBase base (d :: cs) = d :: cs := by
    have hletters {c : Char} (hc : c.isDigit = true) :
        (if base = 16 then ['x', 'X'] else if base = 8 then ['o', 'O'] else if base = 2 then ['b', 'B']
          else []).contains c = false := by
      have hno {x y : Char} (hx : x.isDigit = false) (hy : y.isDigit = false) : [x, y].contains c = false := by
        refine Bool.eq_false_iff.2 fun hin => ?_
        rcases List.mem_cons.1 (List.contains_iff_mem.1 hin) with heq | hin
        · exact ne_of_isDigit hc hx heq
        · exact ne_of_isDigit hc hy (List.mem_singleton.1 hin)
      split_ifs
      · exact hno rfl rfl
      · exact hno rfl rfl
      · exact hno rfl rfl
      · rfl
    simp only [dropBase]
    split
    · next l rest heq =>
      rw [hletters (hds l (by rw [heq]; simp)), if_neg Bool.false_ne_true]
    · rfl
  rw [readBase, readInt, plainChars_eq hchars, trimAscii_eq hchars, splitSign_of_isDigit (hds d List.mem_cons_self)]
  dsimp only
  rw [hdrop, hjoin]
  dsimp only
  by_cases hlong : (base = 10 && decide (maxIntDigits < (d :: cs).length)) = true
  · simp only [hlong, if_true]
  · simp only [hlong, Bool.false_eq_true, if_false]

theorem readBase_digits {ds : List Char} (hds : IsDigits ds) (hne : ds ≠ []) (hlen : ds.length ≤ maxIntDigits) :
    readBase 10 ds = .ok (digitsOf 10 ds) := by
  rw [readBase_eq 10 hds hne fun d hd => lt_ten_of_isDigit (hds d hd), if_neg (by simpa using hlen)]

theorem toInt_toString {n : ℤ} (hlen : (Nat.toDigits 10 n.natAbs).length ≤ maxIntDigits) :
    toInt (toString n) = .ok n := by
  have hdigits := isDigits_toDigits n.natAbs
  have hread := readBase_digits hdigits Nat.toDigits_ne_nil hlen
  have hcolon : ':' ∉ Nat.toDigits 10 n.natAbs := fun hmem => absurd (hdigits _ hmem) (by decide)
  have hchars := chars_signed (fun c hc => isNumeralChar_of_isDigit (hdigits c hc)) (decide (n < 0))
  rw [digitsOf_toDigits] at hread
  rw [toInt, toString_int, withoutBars_eq hchars]
  rcases Nat.eq_zero_or_pos n.natAbs with hzero | hpos
  · obtain rfl := Int.natAbs_eq_zero.1 hzero
    rfl
  · obtain ⟨d, ds, hds, hlow, -⟩ := toDigits_head hpos
    have hd : d.isDigit = true := hdigits d (by rw [hds]; exact List.mem_cons_self)
    have hminus : d ≠ '-' := ne_of_isDigit hd rfl
    have hplus : d ≠ '+' := ne_of_isDigit hd rfl
    have hzero : d ≠ '0' := fun heq => absurd (heq ▸ hlow) (by decide)
    rw [hds] at hread hcolon ⊢
    rcases lt_or_ge n 0 with hn | hn
    · simp [signed, hn, hzero, hcolon, hread, abs_of_neg hn]
    · simp [signed, not_lt.2 hn, hminus, hplus, hzero, hcolon, hread, hn]

def readBack (x : Binary64) : Value :=
  if '.' ∈ x.text.toList then .float x else .text x.text

section

variable (mark : Mark)

theorem scalarValue_null :
    scalarValue (.scalar (plainTag "null") "null" mark) = .ok (some .null) := by
  rw [show plainTag "null" = .null by decide +kernel]
  rfl

theorem scalarValue_bool (b : Bool) :
    scalarValue (.scalar (plainTag (if b then "true" else "false")) (if b then "true" else "false") mark) =
      .ok (some (.bool b)) := by
  have htag : ∀ b : Bool, plainTag (if b then "true" else "false") = .bool := by decide +kernel
  rw [htag b]
  cases b <;> rfl

theorem scalarValue_int {n : ℤ} (hlen : (Nat.toDigits 10 n.natAbs).length ≤ maxIntDigits) :
    scalarValue (.scalar (plainTag (toString n)) (toString n) mark) = .ok (some (.int n)) := by
  rw [plainTag_toString]
  simp only [scalarValue, Node.tag, scalarText, bind, Except.bind, toInt_toString hlen]
  rfl

theorem scalarValue_float {negative : Bool} {m : ℕ} {e : ℤ} (h : Binary64.IsCanonical m e) :
    scalarValue (.scalar (plainTag (Binary64.finite negative m e).text) (Binary64.finite negative m e).text mark) =
      .ok (some (readBack (.finite negative m e))) := by
  obtain ⟨n, hproper, hlayout, hreads, htext⟩ := @Binary64.exists_numeral negative m e h
  have hpoint : '.' ∈ (Binary64.finite negative m e).text.toList ↔ n.fraction ≠ [] := by
    rw [htext, String.toList_ofList, ← hproper.mem_text_iff]
    cases negative with
    | true => exact List.mem_cons.trans (or_iff_right (by decide))
    | false => exact Iff.rfl
  rw [readBack]
  by_cases hfraction : n.fraction = []
  · have hpower := hlayout.resolve_left (not_not_intro hfraction)
    rw [if_neg (mt hpoint.1 (not_not_intro hfraction)), htext, plainTag_of_power hproper negative hfraction hpower]
    rfl
  · have hvalue := toFloat_text hproper negative
    rw [hreads] at hvalue
    rw [if_pos (hpoint.2 hfraction), htext, plainTag_of_fraction hproper negative hfraction]
    simp only [scalarValue, Node.tag, scalarText, bind, Except.bind, hvalue]
    cases negative <;> rfl

end

end ReleaseMatch.Yaml
