import ReleaseMatch.Proofs.Number.Canonical
import ReleaseMatch.Proofs.Yaml.Plain
set_option autoImplicit false

/-!
# Bare numerals

Digits without quotes, perhaps with a point between them, are taken for a number if their form is that of one.
With a point it is always that of a floating point number. Without one it is that of an integer, which is
in base eight when a zero stands in front; but behind such a zero an eight or a nine makes it no number at all.
-/
namespace ReleaseMatch.Yaml

open Number Form

/-! Digits of an integer -/

theorem digitChar_of_isDigit {d : Char} (hd : d.isDigit = true) : (d.toNat - 48).digitChar = d := by
  have hrange := Char.isDigit_iff_toNat.1 hd
  have hzero : '0'.toNat = 48 := rfl
  have hnine : '9'.toNat = 57 := rfl
  rw [← Char.toNat_inj, Nat.toNat_digitChar_of_lt_ten (by omega)]
  omega

theorem toDigits_foldl {n : ℕ} (hn : 0 < n) {ds : List Char} (hds : IsDigits ds) :
    Nat.toDigits 10 (ds.foldl (fun n d => n * 10 + (digitValue? d).getD 0) n) = Nat.toDigits 10 n ++ ds := by
  induction ds generalizing n with
  | nil => exact (List.append_nil _).symm
  | cons d ds ih =>
    have hd := hds d List.mem_cons_self
    have hlt := lt_ten_of_isDigit hd
    have hstep : Nat.toDigits 10 (n * 10 + (d.toNat - 48)) = Nat.toDigits 10 n ++ [d] := by
      rw [Nat.mul_comm, ← Nat.toDigits_append_toDigits (by decide) hn hlt, Nat.toDigits_of_lt_base hlt,
        digitChar_of_isDigit hd]
    rw [List.foldl_cons, digitValue?_of_isDigit hd, Option.getD_some,
      ih (by omega) fun c hc => hds c (List.mem_cons_of_mem _ hc), hstep, List.append_assoc]
    rfl

/-- Without a zero in front, digits are those that their number is written with. -/
theorem toDigits_digitsOf {d : Char} {ds : List Char} (hds : IsDigits (d :: ds)) (hd : d ≠ '0') :
    Nat.toDigits 10 (digitsOf 10 (d :: ds)) = d :: ds := by
  have hdigit := hds d List.mem_cons_self
  have hrange := Char.isDigit_iff_toNat.1 hdigit
  have hzero : '0'.toNat = 48 := rfl
  have hnine : '9'.toNat = 57 := rfl
  have hpos : 0 < d.toNat - 48 := by
    have hne : d.toNat ≠ 48 := fun heq => hd (Char.toNat_inj.1 heq)
    omega
  rw [digitsOf, List.foldl_cons, digitValue?_of_isDigit hdigit, Option.getD_some, Nat.zero_mul, Nat.zero_add,
    toDigits_foldl hpos fun c hc => hds c (List.mem_cons_of_mem _ hc), Nat.toDigits_of_lt_base (by omega),
    digitChar_of_isDigit hdigit]
  rfl

theorem ofList_toDigits (n : ℕ) : String.ofList (Nat.toDigits 10 n) = toString (n : ℤ) := by
  rw [toString_int, decide_eq_false (Int.not_lt.2 (Int.natCast_nonneg n)), Int.natAbs_natCast]
  rfl

/-! Kinds of numerals -/

/-- What the form of a numeral is that of: of a floating point number, of an integer in base ten or eight,
or, behind a zero, of no number. -/
inductive NumeralKind
  | point
  | whole
  | octal
  | padded
  deriving DecidableEq

def isOctalDigit (c : Char) : Bool := c.toNat < 56

def numeralKind (n : Numeral) : NumeralKind :=
  if n.fraction ≠ [] then .point
  else
    match n.whole with
    | '0' :: d :: ds => if (d :: ds).all isOctalDigit then .octal else .padded
    | _ => .whole

def numeralValue (n : Numeral) : Value :=
  match numeralKind n with
  | .point => .float (Binary64.ofDecimal false n.digits n.exponent)
  | .whole => .int (digitsOf 10 n.whole)
  | .octal => .int (digitsOf 8 n.whole)
  | .padded => .text (String.ofList n.text)

/-- Only in base ten are there too many digits to be read. -/
def isOverlong (n : Numeral) : Bool :=
  numeralKind n == .whole && maxIntDigits < n.whole.length

/-- A numeral of a kind, with what that says of its digits. -/
inductive IsKind (n : Numeral) : NumeralKind → Prop
  | point (hfraction : n.fraction ≠ []) : IsKind n .point
  | zero (htext : n.text = ['0']) (hwhole : n.whole = ['0']) : IsKind n .whole
  | whole {d : Char} {ds : List Char} (hd : d ≠ '0') (htext : n.text = d :: ds) (hwhole : n.whole = d :: ds) :
      IsKind n .whole
  | octal {d : Char} {ds : List Char} (hoctal : ∀ c ∈ d :: ds, isOctalDigit c = true)
      (htext : n.text = '0' :: d :: ds) (hwhole : n.whole = '0' :: d :: ds) : IsKind n .octal
  | padded {c d : Char} {ds : List Char} (hc : c ∈ d :: ds) (hbeyond : isOctalDigit c = false)
      (htext : n.text = '0' :: d :: ds) : IsKind n .padded

section

variable {n : Numeral} (h : n.IsProper) (hpower : n.power = none)

include h hpower

theorem isKind_numeralKind : IsKind n (numeralKind n) := by
  rw [numeralKind]
  by_cases hfraction : n.fraction = []
  · have htext : n.text = n.whole := by
      rw [Numeral.text, hfraction, hpower]
      exact List.append_nil _
    rw [if_neg (not_not_intro hfraction)]
    split
    · next d ds hwhole =>
      rw [hwhole] at htext
      split
      · next hoctal => exact .octal (List.all_eq_true.1 hoctal) htext hwhole
      · next hbeyond =>
        obtain ⟨c, hc, hbeyond⟩ := List.all_eq_false.1 (Bool.eq_false_iff.2 hbeyond)
        exact .padded hc (Bool.eq_false_iff.2 hbeyond) htext
    · next hshape =>
      obtain ⟨d, ds, hwhole⟩ := List.exists_cons_of_ne_nil h.ne_nil
      rw [hwhole] at htext
      by_cases hd : d = '0'
      · subst hd
        cases ds with
        | nil => exact .zero htext hwhole
        | cons d ds => exact absurd hwhole (hshape d ds)
      · exact .whole hd htext hwhole
  · rw [if_pos hfraction]
    exact .point hfraction

theorem isDigits_text (hkind : numeralKind n ≠ .point) : IsDigits n.text := by
  have hfraction : n.fraction = [] := by
    by_contra hne
    exact hkind (if_pos hne)
  rw [Numeral.text, hfraction, hpower]
  exact h.whole.append fun c hc => absurd hc List.not_mem_nil

end

/-! Tags -/

theorem timestampForm_takes_dash : Takes ('-' ∈ ·) timestampForm := by
  have hchar (test : Char → Bool) : Takes (fun _ => True) (char test) := takes_char fun _ _ => trivial
  have hmany (test : Char → Bool) : Takes (fun _ => True) (many test) := takes_many joins_true fun _ _ => trivial
  have hsome (test : Char → Bool) : Takes (fun _ => True) (some1 test) := takes_some1 joins_true fun _ _ => trivial
  have hseq {f g : Form} (hf : Takes (fun _ => True) f) (hg : Takes (fun _ => True) g) :
      Takes (fun _ => True) (seq f g) := hf.seq hg fun _ _ _ _ => trivial
  have hdigits (least more : ℕ) : Takes (fun _ => True) (digitsForm least more) := by
    refine TakesEach.all joins_true fun f hf => ?_
    rcases List.mem_append.1 hf with hf | hf
    · rw [List.eq_of_mem_replicate hf]
      exact hchar _
    · rw [List.eq_of_mem_replicate hf]
      exact (hchar _).opt joins_true
  have hdash : Takes ('-' ∈ ·) (lit '-') := takes_char fun c hc => by
    rw [eq_of_beq hc]
    exact List.mem_singleton_self _
  have hoffset : Takes (fun _ => True) (all [char (fun c => c == '-' || c == '+'), digitsForm 1 1,
      opt (seq (lit ':') (digitsForm 2 0))]) :=
    TakesEach.all joins_true <| .cons (hchar _) <| .cons (hdigits 1 1) <|
      .cons ((hseq (hchar _) (hdigits 2 0)).opt joins_true) .nil
  refine TakesEach.any (.cons (TakesEach.all_of_mem ?_ (by simp) hdash) <|
    .cons (TakesEach.all_of_mem ?_ (by simp) hdash) .nil)
  · exact .cons (hdigits 4 0) <| .cons (hchar _) <| .cons (hdigits 2 0) <| .cons (hchar _) <|
      .cons (hdigits 2 0) .nil
  · exact .cons (hdigits 4 0) <| .cons (hchar _) <| .cons (hdigits 1 1) <| .cons (hchar _) <|
      .cons (hdigits 1 1) <| .cons ((hchar _).alt (hsome _)) <| .cons (hdigits 1 1) <|
      .cons (hchar _) <| .cons (hdigits 2 0) <| .cons (hchar _) <| .cons (hdigits 2 0) <|
      .cons ((hseq (hchar _) (hmany _)).opt joins_true) <|
      .cons ((hseq (hmany _) ((hchar _).alt hoffset)).opt joins_true) .nil

section

variable {d : Char} {ds : List Char}

theorem plainTag_digits (hds : IsDigits (d :: ds)) : plainTag (String.ofList (d :: ds)) =
    if (intForm (d :: ds).length).fits (d :: ds) then .int else .str := by
  have hpoint : '.' ∉ d :: ds := fun hmem => absurd (hds _ hmem) (by decide)
  have hdash : '-' ∉ d :: ds := fun hmem => absurd (hds _ hmem) (by decide)
  rw [plainTag_of_isDigit (hds d List.mem_cons_self) (by rw [String.toList_ofList]; exact List.mem_cons_self),
    String.toList_ofList, if_neg ((floatForm_takes _).not_fits hpoint),
    if_neg (timestampForm_takes_dash.not_fits hdash)]

theorem nil_mem_some1_iff {test : Char → Bool} : [] ∈ some1 test (d :: ds) ↔ (d :: ds).all test = true := by
  rw [List.all_eq_true]
  constructor
  · intro h
    have hjoins : Joins fun used => ∀ c ∈ used, test c = true :=
      ⟨fun c hc => absurd hc List.not_mem_nil, fun h h' => List.forall_mem_append.2 ⟨h, h'⟩⟩
    obtain ⟨used, heq, hused⟩ := takes_some1 hjoins (fun c hc => List.forall_mem_singleton.2 hc) _ _ h
    rwa [heq, List.append_nil]
  · intro h
    rw [← List.append_nil ds]
    exact mem_some1 (h d List.mem_cons_self) fun c hc => h c (List.mem_cons_of_mem d hc)

theorem fits_intForm_zero (fuel : ℕ) (hds : IsDigits (d :: ds)) :
    (intForm fuel).fits ('0' :: d :: ds) = (d :: ds).all isOctalDigit := by
  have hb : d ≠ 'b' := ne_of_isDigit (hds d List.mem_cons_self) rfl
  have hx : d ≠ 'x' := ne_of_isDigit (hds d List.mem_cons_self) rfl
  have hoctal : ∀ c ∈ d :: ds, (('0' ≤ c && c ≤ '7') || c == '_') = isOctalDigit c := fun c hc =>
    Text.of_isAscii (p := fun c => c.isDigit = true → (('0' ≤ c && c ≤ '7') || c == '_') = isOctalDigit c)
      (by decide) (decide_eq_true (isAscii_of_isNumeralChar (isNumeralChar_of_isDigit (hds c hc)))) (hds c hc)
  have hsign : signForm ('0' :: d :: ds) = ['0' :: d :: ds] := rfl
  have hsome : [] ∈ intForm fuel ('0' :: d :: ds) ↔
      [] ∈ some1 (fun c => ('0' ≤ c && c ≤ '7') || c == '_') (d :: ds) := by
    simp [intForm, seq, hsign, any, alt, all, lit, char, hb, hx]
  rw [Bool.eq_iff_iff, fits_iff, hsome, nil_mem_some1_iff, List.all_eq_true, List.all_eq_true]
  exact forall₂_congr fun c hc => by rw [hoctal c hc]

end

/-! Values -/

theorem toInt_eq {base : ℕ} {d : Char} {ds : List Char} (hds : IsDigits (d :: ds))
    (hbase : d ≠ '0' ∧ base = 10 ∨ d = '0' ∧ ds ≠ [] ∧ base = 8) :
    toInt (String.ofList (d :: ds)) = readBase base (d :: ds) := by
  have hchars := fun c hc => isNumeralChar_of_isDigit (hds c hc)
  have hcolon : ':' ∉ d :: ds := fun hmem => absurd (hds _ hmem) (by decide)
  have hminus : d ≠ '-' := ne_of_isDigit (hds d List.mem_cons_self) rfl
  have hplus : d ≠ '+' := ne_of_isDigit (hds d List.mem_cons_self) rfl
  rw [toInt, withoutBars_eq hchars]
  rcases hbase with ⟨hd, rfl⟩ | ⟨rfl, hne, rfl⟩
  · simp [hminus, hplus, hd, hcolon]
  · obtain ⟨c, cs, rfl⟩ := List.exists_cons_of_ne_nil hne
    have hb : c ≠ 'b' := ne_of_isDigit (hds c (by simp)) rfl
    have hx : c ≠ 'x' := ne_of_isDigit (hds c (by simp)) rfl
    simp [hb, hx]

section

variable {n : Numeral} (h : n.IsProper) (hpower : n.power = none)

include h hpower

theorem plainTag_numeral : plainTag (String.ofList n.text) =
    match numeralKind n with
    | .point => .float
    | .whole | .octal => .int
    | .padded => .str := by
  have hkind := isKind_numeralKind h hpower
  have hdigits := isDigits_text h hpower
  generalize numeralKind n = kind at hkind hdigits ⊢
  cases hkind with
  | point hfraction => exact plainTag_of_fraction h false hfraction
  | zero htext => rw [htext]; decide +kernel
  | whole hd htext =>
    rw [htext, ← toDigits_digitsOf (htext ▸ hdigits (by simp)) hd, ofList_toDigits]
    exact plainTag_toString _
  | octal hoctal htext =>
    have hds := htext ▸ hdigits (by simp)
    rw [htext, plainTag_digits hds, fits_intForm_zero _ fun c hc => hds c (List.mem_cons_of_mem _ hc),
      List.all_eq_true.2 hoctal]
    rfl
  | padded hc hbeyond htext =>
    have hds := htext ▸ hdigits (by simp)
    rw [htext, plainTag_digits hds, fits_intForm_zero _ fun c hc => hds c (List.mem_cons_of_mem _ hc),
      List.all_eq_false.2 ⟨_, hc, Bool.eq_false_iff.1 hbeyond⟩]
    rfl

theorem scalarValue_numeral (mark : Mark) :
    scalarValue (.scalar (plainTag (String.ofList n.text)) (String.ofList n.text) mark) =
      if isOverlong n then .error (.text (.longInt n.whole.length)) else .ok (some (numeralValue n)) := by
  have hkind := isKind_numeralKind h hpower
  have hdigits := isDigits_text h hpower
  rw [plainTag_numeral h hpower, isOverlong, numeralValue]
  generalize numeralKind n = kind at hkind hdigits ⊢
  cases hkind with
  | point hfraction =>
    have hfloat := toFloat_text h false
    simp only [signed, Bool.false_eq_true, if_false] at hfloat
    simp only [scalarValue, Node.tag, scalarText, bind, Except.bind, hfloat]
    rfl
  | zero htext hwhole =>
    rw [htext, hwhole]
    rfl
  | @whole d ds hd htext hwhole =>
    have hds := htext ▸ hdigits (by simp)
    have hvalue := readBase_eq 10 hds (List.cons_ne_nil _ _) fun c hc => lt_ten_of_isDigit (hds c hc)
    rw [htext, hwhole]
    simp only [scalarValue, Node.tag, scalarText, bind, Except.bind, toInt_eq hds (.inl ⟨hd, rfl⟩), hvalue]
    simp only [decide_true, beq_self_eq_true, Bool.true_and, decide_eq_true_eq]
    by_cases hlong : maxIntDigits < (d :: ds).length
    · rw [if_pos hlong, if_pos hlong]
    · rw [if_neg hlong, if_neg hlong]
      rfl
  | octal hoctal htext hwhole =>
    have hds := htext ▸ hdigits (by simp)
    have hvalue := readBase_eq 8 hds (List.cons_ne_nil _ _) fun c hc => ?_
    · rw [htext, hwhole]
      simp only [scalarValue, Node.tag, scalarText, bind, Except.bind,
        toInt_eq hds (.inr ⟨rfl, List.cons_ne_nil _ _, rfl⟩), hvalue]
      rfl
    · rcases List.mem_cons.1 hc with rfl | hc
      · decide
      · have := of_decide_eq_true (hoctal c hc)
        omega
  | padded => rfl

end

end ReleaseMatch.Yaml
