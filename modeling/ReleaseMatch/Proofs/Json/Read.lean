import ReleaseMatch.Json.Read
import ReleaseMatch.Proofs.Json.Tokens
set_option autoImplicit false

/-!
# The reader of JSON undoes the writer

What is written is read as what it was written from, whatever stands behind it: each character by its
escape, a number by its digits, and a value by what it is made of.
-/
namespace ReleaseMatch.Json

open Number Yaml

/-! Strings -/

theorem hexValue?_hexDigit {n : ℕ} (hn : n < 16) : hexValue? (Text.hexDigit n) = some n := by
  have : ∀ n < 16, hexValue? (Text.hexDigit n) = some n := by decide
  exact this n hn

theorem unit?_hex {n : ℕ} (hn : n < 0x10000) (rest : List Char) :
    unit? (Text.hex 4 n ++ rest) = some (n, rest) := by
  have hdigit (k : ℕ) : hexValue? (Text.hexDigit (k % 16)) = some (k % 16) :=
    hexValue?_hexDigit (Nat.mod_lt _ (by decide))
  have hvalue : ((n / 16 / 16 / 16 % 16 * 16 + n / 16 / 16 % 16) * 16 + n / 16 % 16) * 16 + n % 16 = n := by
    omega
  simp [Text.hex, unit?, hdigit, hvalue]

theorem unitChar_basic {a : Char} (ha : a.toNat < 0x10000) (rest : List Char) :
    unitChar a.toNat rest = (a, rest) := by
  have hvalid : a.toNat < 0xD800 ∨ 0xDFFF < a.toNat ∧ a.toNat < 0x110000 := a.valid
  have hhigh : ¬(decide (0xD800 ≤ a.toNat) && decide (a.toNat < 0xDC00)) = true := by
    rw [Bool.and_eq_true, decide_eq_true_eq, decide_eq_true_eq]
    omega
  have hlow : ¬(decide (0xDC00 ≤ a.toNat) && decide (a.toNat < 0xE000)) = true := by
    rw [Bool.and_eq_true, decide_eq_true_eq, decide_eq_true_eq]
    omega
  unfold unitChar
  rw [if_neg hhigh, if_neg hlow, Char.ofNat_toNat]

theorem unitChar_pair {a : Char} (ha : 0x10000 ≤ a.toNat) (rest : List Char) :
    unitChar (0xD800 + (a.toNat - 0x10000) / 0x400)
      (unit (0xDC00 + (a.toNat - 0x10000) % 0x400) ++ rest) = (a, rest) := by
  have hvalid : a.toNat < 0xD800 ∨ 0xDFFF < a.toNat ∧ a.toNat < 0x110000 := a.valid
  generalize hn : a.toNat - 0x10000 = n
  have hmod : n % 0x400 < 0x400 := Nat.mod_lt _ (by decide)
  have hhigh : (decide (0xD800 ≤ 0xD800 + n / 0x400) && decide (0xD800 + n / 0x400 < 0xDC00)) = true := by
    rw [Bool.and_eq_true, decide_eq_true_eq, decide_eq_true_eq]
    omega
  have hlow : (decide (0xDC00 ≤ 0xDC00 + n % 0x400) && decide (0xDC00 + n % 0x400 < 0xE000)) = true := by
    rw [Bool.and_eq_true, decide_eq_true_eq, decide_eq_true_eq]
    omega
  have hvalue : 0x10000 + (0xD800 + n / 0x400 - 0xD800) * 0x400 + (0xDC00 + n % 0x400 - 0xDC00) = a.toNat := by
    omega
  unfold unitChar
  rw [if_pos hhigh, unit, List.cons_append, List.cons_append]
  simp only [unit?_hex (show 0xDC00 + n % 0x400 < 0x10000 by omega)]
  rw [if_pos hlow, hvalue, Char.ofNat_toNat]

variable {fuel : ℕ} {rest : List Char}

theorem readString_unit {n : ℕ} (hn : n < 0x10000) (acc : List Char) :
    readString (fuel + 1) (unit n ++ rest) acc =
      readString fuel (unitChar n rest).2 ((unitChar n rest).1 :: acc) := by
  rw [unit, List.cons_append, List.cons_append, readString, unit?_hex hn]

theorem readString_plain {a : Char} (hplain : 32 ≤ a.toNat) (hquote : a ≠ '"') (hslash : a ≠ '\\')
    (acc : List Char) : readString (fuel + 1) (a :: rest) acc = readString fuel rest (a :: acc) := by
  rw [readString]
  · rw [if_neg (by omega)]
  · simpa using hquote
  · simp [hslash]
  · simp [hslash]

theorem readString_escape (a : Char) (acc : List Char) :
    readString (fuel + 1) (escape a ++ rest) acc = readString fuel rest (a :: acc) := by
  by_cases ha : a.toNat < 0x10000
  · have hcode {n : ℕ} (h : a.toNat = n) : a = Char.ofNat n := by rw [← h, Char.ofNat_toNat]
    unfold escape
    dsimp only
    split_ifs with hquote hslash hfeed hreturn htab hform hback hplain
    · rw [hquote]; rfl
    · rw [hslash]; rfl
    · rw [hfeed]; rfl
    · rw [hreturn]; rfl
    · rw [htab]; rfl
    · rw [hcode hform]; rfl
    · rw [hcode hback]; rfl
    · rw [Bool.and_eq_true, decide_eq_true_eq] at hplain
      exact readString_plain hplain.1 hquote hslash acc
    · rw [readString_unit ha, unitChar_basic ha]
  · have hge := not_lt.1 ha
    have hvalid : a.toNat < 0xD800 ∨ 0xDFFF < a.toNat ∧ a.toNat < 0x110000 := a.valid
    have hhigh : 0xD800 + (a.toNat - 0x10000) / 0x400 < 0x10000 := by omega
    rw [Yaml.escape_pair hge, List.append_assoc, readString_unit hhigh, unitChar_pair hge]

theorem readString_string (cs : List Char) (hfuel : cs.length < fuel) (acc : List Char) :
    readString fuel (cs.flatMap escape ++ '"' :: rest) acc =
      some (String.ofList (acc.reverse ++ cs), rest) := by
  induction cs generalizing fuel acc with
  | nil =>
    cases fuel with
    | zero => omega
    | succ fuel =>
      rw [List.append_nil]
      rfl
  | cons a cs ih =>
    cases fuel with
    | zero => omega
    | succ fuel =>
      rw [List.length_cons] at hfuel
      rw [List.flatMap_cons, List.append_assoc, readString_escape, ih (by omega), List.reverse_cons,
        List.append_assoc, List.singleton_append]

/-! Digits -/

theorem digitsValue_eq {ds : List Char} (h : IsDigits ds) : digitsValue ds = digitsOf 10 ds := by
  rw [digitsValue, digitsOf]
  refine List.foldl_ext _ _ _ fun n d hd => ?_
  rw [digitValue?_of_isDigit (h d hd)]
  rfl

theorem span_isDigit {ds : List Char} (hds : IsDigits ds) (hrest : ∀ c ∈ rest.head?, c.isDigit = false) :
    (ds ++ rest).takeWhile Char.isDigit = ds ∧ (ds ++ rest).dropWhile Char.isDigit = rest := by
  rw [List.takeWhile_append_of_pos hds, List.dropWhile_append_of_pos hds]
  cases rest with
  | nil => exact ⟨List.append_nil ds, rfl⟩
  | cons c rest =>
    have hc : ¬c.isDigit = true := by simp [hrest c rfl]
    rw [List.takeWhile_cons_of_neg hc, List.dropWhile_cons_of_neg hc, List.append_nil]
    exact ⟨rfl, rfl⟩

theorem ofDecimal_true (m : ℕ) (e : ℤ) :
    Binary64.ofDecimal true m e = (Binary64.ofDecimal false m e).neg := by
  have hratio (num den : ℕ) : Binary64.ofRatio true num den = (Binary64.ofRatio false num den).neg := by
    unfold Binary64.ofRatio
    dsimp only
    split_ifs <;> rfl
  unfold Binary64.ofDecimal
  dsimp only
  split_ifs
  · rfl
  · rfl
  · rfl
  · exact hratio _ _

/-! Numerals without zeros in front -/

/-- A zero stands in front of the digits of a number only if it is the whole part. -/
theorem text_starts {d : Decimal} (hd : 0 < d.digits) :
    (∃ cs, d.text = '0' :: '.' :: cs) ∨ ∃ c cs, d.text = c :: cs ∧ c ≠ '0' := by
  obtain ⟨c, all, hall, hc, -⟩ := toDigits_head hd
  have hzero : c ≠ '0' := by
    rintro rfl
    exact absurd hc (by decide)
  obtain ⟨k, hk⟩ := stripZeros_append (Nat.toDigits 10 d.digits)
  rw [hall] at hk
  unfold Decimal.text
  rw [hall]
  dsimp only
  generalize ((c :: all).length : ℤ) + d.exponent = point
  cases hstrip : stripZeros (c :: all) with
  | nil =>
    rw [hstrip, List.nil_append] at hk
    have hmem : c ∈ List.replicate k '0' := hk ▸ List.mem_cons_self
    exact absurd (List.eq_of_mem_replicate hmem) hzero
  | cons c' ds =>
    rw [hstrip, List.cons_append] at hk
    obtain rfl := (List.cons.inj hk).1
    split
    · unfold positional
      split
      · exact .inl ⟨_, rfl⟩
      · dsimp only
        split
        · exact .inr ⟨c, _, rfl, hzero⟩
        · obtain ⟨n, hn⟩ := Nat.exists_eq_succ_of_ne_zero (show point.toNat ≠ 0 by omega)
          rw [hn]
          exact .inr ⟨c, _, rfl, hzero⟩
    · cases ds with
      | nil => exact .inr ⟨c, _, rfl, hzero⟩
      | cons d' ds => exact .inr ⟨c, _, rfl, hzero⟩

def IsTrim (n : Numeral) : Prop := n.whole.length = 1 ∨ n.whole.head? ≠ some '0'

theorem isTrim_of_text {n : Numeral} (h : n.IsProper)
    (htext : (∃ cs, n.text = '0' :: '.' :: cs) ∨ ∃ c cs, n.text = c :: cs ∧ c ≠ '0') : IsTrim n := by
  unfold IsTrim
  unfold Numeral.text at htext
  cases hwhole : n.whole with
  | nil => exact absurd hwhole h.ne_nil
  | cons c ds =>
    rw [hwhole] at htext
    rcases htext with ⟨cs, htext⟩ | ⟨d, cs, htext, hd⟩
    · cases ds with
      | nil => exact .inl rfl
      | cons c' ds =>
        obtain rfl : c' = '.' := by simpa using (List.cons.inj (List.cons.inj htext).2).1
        exact absurd (h.whole '.' (by simp [hwhole])) (by decide)
    · obtain rfl : c = d := (List.cons.inj htext).1
      exact .inr (by simpa using hd)

theorem exists_trim_numeral {negative : Bool} {m : ℕ} {e : ℤ} (h : Binary64.IsCanonical m e) :
    ∃ n : Numeral, n.IsProper ∧ IsTrim n ∧ (n.fraction ≠ [] ∨ n.power.isSome) ∧
      Binary64.ofDecimal negative n.digits n.exponent = .finite negative m e ∧
      (Binary64.finite negative m e).text = String.ofList (signed negative n.text) := by
  obtain ⟨n, hproper, hlayout, hvalue, htext⟩ := @Binary64.exists_numeral negative m e h
  have hbody : n.text = if m = 0 then ['0', '.', '0'] else (Binary64.shortest m e).text := by
    rw [Binary64.text] at htext
    have hlist := String.ofList_injective htext
    cases negative with
    | true => exact (List.cons.inj hlist).2.symm
    | false => exact hlist.symm
  refine ⟨n, hproper, isTrim_of_text hproper ?_, hlayout, ?_, htext⟩
  · rw [hbody]
    by_cases hm : m = 0
    · rw [if_pos hm]
      exact .inl ⟨_, rfl⟩
    · rw [if_neg hm]
      refine text_starts (Nat.pos_of_ne_zero fun hzero => ?_)
      have hreads := Binary64.shortest_reads h (Nat.pos_of_ne_zero hm)
      rw [hzero, Binary64.ofDecimal, if_pos rfl, Binary64.zero] at hreads
      exact hm (Binary64.finite.inj hreads).2.1.symm
  · cases negative with
    | true => rw [ofDecimal_true, hvalue]; rfl
    | false => exact hvalue

/-! Numbers -/

def Stops (rest : List Char) : Prop := ∀ c ∈ rest.head?, c = ',' ∨ c = ']' ∨ c = '\x7d'

def splitMinus (cs : List Char) : Bool × List Char :=
  match cs with
  | '-' :: rest => (true, rest)
  | _ => (false, cs)

def splitFraction (cs : List Char) : Option (List Char) × List Char :=
  match cs with
  | '.' :: d :: rest =>
    if d.isDigit then (some (d :: rest.takeWhile Char.isDigit), rest.dropWhile Char.isDigit)
    else (none, cs)
  | _ => (none, cs)

def splitPowerSign : List Char → Bool × List Char
  | '-' :: r => (true, r)
  | '+' :: r => (false, r)
  | r => (false, r)

def splitPower (cs : List Char) : Option ℤ × List Char :=
  match cs with
  | e :: rest =>
    if e == 'e' || e == 'E' then
      let (negative, rest') := splitPowerSign rest
      let ds := rest'.takeWhile Char.isDigit
      if ds.isEmpty then (none, cs)
      else
        let n : ℤ := digitsValue ds
        (some (if negative then -n else n), rest'.dropWhile Char.isDigit)
    else (none, cs)
  | [] => (none, cs)

/-- The number of these parts: an integer if it has neither fraction nor exponent. -/
def numberOf (negative : Bool) (whole : List Char) (fraction : Option (List Char)) (power : Option ℤ)
    (rest : List Char) : Option (Value × List Char) :=
  match fraction, power with
  | none, none =>
    let n : ℤ := digitsValue whole
    some (.int (if negative then -n else n), rest)
  | _, _ =>
    let ds := fraction.getD []
    some (.float (Binary64.ofDecimal negative (digitsValue (whole ++ ds)) (power.getD 0 - ds.length)), rest)

theorem readNumber_eq (cs : List Char) : readNumber cs =
    let (negative, cs) := splitMinus cs
    let (whole, cs) := (cs.takeWhile Char.isDigit, cs.dropWhile Char.isDigit)
    if whole.isEmpty || (whole.length > 1 && whole.head? == some '0') then none
    else
      let (fraction, cs) := splitFraction cs
      let (power, cs) := splitPower cs
      numberOf negative whole fraction power cs :=
  rfl

theorem splitMinus_signed {d : Char} (hd : d.isDigit = true) (negative : Bool) (cs : List Char) :
    splitMinus (signed negative (d :: cs)) = (negative, d :: cs) := by
  cases negative with
  | true => rfl
  | false =>
    have hne := ne_of_isDigit hd (show '-'.isDigit = false by decide)
    simp [signed, splitMinus, hne]

theorem splitFraction_point {ds : List Char} (hds : IsDigits ds)
    (hrest : ∀ c ∈ rest.head?, c.isDigit = false ∧ c ≠ '.') :
    splitFraction (Numeral.pointText ds ++ rest) = (if ds.isEmpty then none else some ds, rest) := by
  cases ds with
  | nil =>
    unfold splitFraction
    split
    · next d rest' hdot =>
      obtain rfl : rest = '.' :: d :: rest' := hdot
      exact absurd rfl (hrest '.' rfl).2
    · rfl
  | cons d ds =>
    have hspan := span_isDigit (fun c hc => hds c (List.mem_cons_of_mem d hc)) fun c hc => (hrest c hc).1
    change (if d.isDigit then (some (d :: (ds ++ rest).takeWhile Char.isDigit),
      (ds ++ rest).dropWhile Char.isDigit) else _) = _
    rw [if_pos (hds d List.mem_cons_self), hspan.1, hspan.2]
    rfl

theorem splitPower_text (p : Option ℤ) (hrest : ∀ c ∈ rest.head?, c.isDigit = false ∧ c ≠ 'e' ∧ c ≠ 'E') :
    splitPower (Numeral.powerText p ++ rest) = (p, rest) := by
  cases p with
  | none =>
    cases rest with
    | nil => rfl
    | cons c rest =>
      obtain ⟨-, hlower, hupper⟩ := hrest c rfl
      simp [Numeral.powerText, splitPower, hlower, hupper]
  | some n =>
    obtain ⟨ds, hne, hds, hvalue, htext⟩ := Numeral.exponentText_eq n
    have hspan := span_isDigit hds fun c hc => (hrest c hc).1
    have hsign : splitPowerSign ((if n < 0 then '-' else '+') :: (ds ++ rest)) =
        (decide (n < 0), ds ++ rest) := by
      by_cases hn : n < 0 <;> simp [hn, splitPowerSign]
    rw [Numeral.powerText, htext, List.cons_append, List.cons_append]
    simp only [splitPower, hsign, hspan.1, hspan.2, List.isEmpty_eq_false_iff.2 hne, digitsValue_eq hds, hvalue]
    by_cases hn : n < 0
    · simp [hn, abs_of_neg hn]
    · simp [hn, abs_of_nonneg (not_lt.1 hn)]

theorem readNumber_signed {n : Numeral} (h : n.IsProper) (htrim : IsTrim n) (negative : Bool)
    (hrest : Stops rest) : readNumber (signed negative n.text ++ rest) =
      numberOf negative n.whole (if n.fraction.isEmpty then none else some n.fraction) n.power rest := by
  have hstop : ∀ c ∈ rest.head?, c.isDigit = false ∧ c ≠ '.' ∧ c ≠ 'e' ∧ c ≠ 'E' := by
    intro c hc
    rcases hrest c hc with rfl | rfl | rfl <;> decide
  have hpower : ∀ c ∈ (Numeral.powerText n.power ++ rest).head?, c.isDigit = false ∧ c ≠ '.' := by
    intro c hc
    cases hp : n.power with
    | none =>
      rw [hp] at hc
      exact ⟨(hstop c hc).1, (hstop c hc).2.1⟩
    | some p =>
      rw [hp] at hc
      obtain rfl : 'e' = c := by simpa [Numeral.powerText] using hc
      decide
  have hpoint : ∀ c ∈ (Numeral.pointText n.fraction ++ (Numeral.powerText n.power ++ rest)).head?,
      c.isDigit = false := by
    intro c hc
    unfold Numeral.pointText at hc
    split at hc
    · exact (hpower c hc).1
    · obtain rfl : '.' = c := by simpa using hc
      decide
  obtain ⟨d, cs, hd, htext⟩ := h.exists_cons
  have hsplit : splitMinus (signed negative n.text ++ rest) =
      (negative, n.whole ++ (Numeral.pointText n.fraction ++ (Numeral.powerText n.power ++ rest))) := by
    have hassoc : signed negative n.text ++ rest = signed negative (d :: (cs ++ rest)) := by
      rw [htext]
      cases negative <;> rfl
    rw [hassoc, splitMinus_signed hd, ← List.cons_append, ← htext, Numeral.text, List.append_assoc,
      List.append_assoc]
  obtain ⟨htake, hdrop⟩ := span_isDigit h.whole hpoint
  have hlead : (n.whole.isEmpty || (decide (n.whole.length > 1) && n.whole.head? == some '0')) = false := by
    rw [List.isEmpty_eq_false_iff.2 h.ne_nil, Bool.false_or, Bool.and_eq_false_iff]
    rcases htrim with hone | hne
    · exact .inl (by simp [hone])
    · exact .inr (by simpa using hne)
  rw [readNumber_eq, hsplit]
  simp only [htake, hdrop, hlead, Bool.false_eq_true, if_false, splitFraction_point h.fraction hpower,
    splitPower_text n.power fun c hc => ⟨(hstop c hc).1, (hstop c hc).2.2⟩]

theorem readNumber_int (n : ℤ) (hrest : Stops rest) : readNumber (line (.int n) ++ rest) = some (.int n, rest) := by
  have htrim : IsTrim ⟨Nat.toDigits 10 n.natAbs, [], none⟩ := by
    unfold IsTrim
    by_cases hn : n.natAbs = 0
    · rw [hn]
      exact .inl rfl
    · obtain ⟨c, ds, hds, hc, -⟩ := toDigits_head (Nat.pos_of_ne_zero hn)
      rw [hds]
      refine .inr fun hzero => ?_
      obtain rfl : c = '0' := by simpa using hzero
      exact absurd hc (by decide)
  rw [line, toString_int, String.toList_ofList, ← text_toDigits,
    readNumber_signed (isProper_toDigits _) htrim _ hrest]
  simp only [numberOf, List.isEmpty_nil, if_true, digitsValue_eq (isDigits_toDigits _), digitsOf_toDigits]
  by_cases hn : n < 0
  · simp [hn, abs_of_neg hn]
  · simp [hn, abs_of_nonneg (not_lt.1 hn)]

theorem readNumber_float {negative : Bool} {m : ℕ} {e : ℤ} (h : Binary64.IsCanonical m e)
    (hrest : Stops rest) : readNumber (line (.float (.finite negative m e)) ++ rest) =
      some (.float (.finite negative m e), rest) := by
  obtain ⟨n, hproper, htrim, hlayout, hvalue, htext⟩ := exists_trim_numeral h
  have hline : line (.float (.finite negative m e)) = (Binary64.finite negative m e).text.toList := rfl
  have hnumber : numberOf negative n.whole (if n.fraction.isEmpty then none else some n.fraction) n.power rest =
      some (.float (Binary64.ofDecimal negative n.digits n.exponent), rest) := by
    rw [Numeral.digits, Numeral.exponent, ← digitsValue_eq (hproper.whole.append hproper.fraction)]
    by_cases hfraction : n.fraction = []
    · obtain ⟨p, hp⟩ := Option.isSome_iff_exists.1 (hlayout.resolve_left (absurd hfraction))
      simp [numberOf, hfraction, hp]
    · rw [List.isEmpty_eq_false_iff.2 hfraction]
      rfl
  rw [hline, htext, String.toList_ofList, readNumber_signed hproper htrim _ hrest, hnumber, hvalue]

/-! Words -/

theorem readWord_numeral {n : Numeral} (h : n.IsProper) (negative : Bool) :
    readWord (signed negative n.text ++ rest) = none := by
  obtain ⟨d, cs, hd, htext⟩ := h.exists_cons
  have hne {c : Char} (hc : c.isDigit = false) : c ≠ d := (ne_of_isDigit hd hc).symm
  rw [htext]
  cases negative with
  | true => simp [signed, readWord, words, dropWord?, hne (c := 'I') rfl]
  | false =>
    simp [signed, readWord, words, dropWord?, hne (c := 'n') rfl, hne (c := 't') rfl, hne (c := 'f') rfl,
      hne (c := 'N') rfl, hne (c := 'I') rfl, hne (c := '-') rfl]

/-! Values -/

theorem skipSpace_cons {c : Char} (hc : isSpace c = false) (cs : List Char) : skipSpace (c :: cs) = c :: cs :=
  List.dropWhile_cons_of_neg (by simp [hc])

theorem readValue_space (cs : List Char) : readValue fuel (' ' :: cs) = readValue fuel cs := by
  cases fuel <;> rfl

theorem readItems_space (cs : List Char) : readItems fuel (' ' :: cs) = readItems fuel cs := by
  cases fuel with
  | zero => rfl
  | succ fuel => rw [readItems, readItems, readValue_space]

theorem readMembers_space (cs : List Char) : readMembers fuel (' ' :: cs) = readMembers fuel cs := by
  cases fuel <;> rfl

def Begins (cs : List Char) : Prop := ∃ c rest, cs = c :: rest ∧ isSpace c = false ∧ c ≠ ']'

theorem begins_numeral {n : Numeral} (h : n.IsProper) (negative : Bool) : Begins (signed negative n.text) := by
  obtain ⟨d, cs, hd, htext⟩ := h.exists_cons
  rw [htext]
  cases negative with
  | true => exact ⟨'-', d :: cs, rfl, by decide, by decide⟩
  | false =>
    have hne {c : Char} (hc : c.isDigit = false) : d ≠ c := ne_of_isDigit hd hc
    exact ⟨d, cs, rfl, by simp [isSpace, hne], hne (by decide)⟩

theorem begins_line {v : Value} (hv : v.IsWritable) : Begins (line v) := by
  cases hv with
  | null => exact ⟨'n', _, rfl, rfl, by decide⟩
  | bool b =>
    cases b with
    | true => exact ⟨'t', _, rfl, rfl, by decide⟩
    | false => exact ⟨'f', _, rfl, rfl, by decide⟩
  | int n =>
    rw [line, toString_int, String.toList_ofList, ← text_toDigits]
    exact begins_numeral (isProper_toDigits _) _
  | @float negative m e h =>
    obtain ⟨n, hproper, -, -, htext⟩ := @Binary64.exists_numeral negative m e h
    have hline : line (.float (.finite negative m e)) = (Binary64.finite negative m e).text.toList := rfl
    rw [hline, htext, String.toList_ofList]
    exact begins_numeral hproper negative
  | text s => exact ⟨'"', _, rfl, rfl, by decide⟩
  | list _ => exact ⟨'[', _, rfl, rfl, by decide⟩
  | map _ _ => exact ⟨'\x7b', _, rfl, rfl, by decide⟩

/-- The reader takes exactly the text of a value. -/
def Decodes (v : Value) : Prop := ∀ (fuel : ℕ) (rest : List Char), (line v).length ≤ fuel → Stops rest →
  readValue fuel (line v ++ rest) = some (v, rest)

theorem readValue_number {n : Numeral} (h : n.IsProper) (negative : Bool) (fuel : ℕ) (rest : List Char) :
    readValue (fuel + 1) (signed negative n.text ++ rest) = readNumber (signed negative n.text ++ rest) := by
  have hword : readWord (signed negative n.text ++ rest) = none := readWord_numeral h negative
  obtain ⟨d, cs, hd, htext⟩ := h.exists_cons
  have hne {c : Char} (hc : c.isDigit = false) : d ≠ c := ne_of_isDigit hd hc
  rw [htext] at hword ⊢
  cases negative with
  | true =>
    change (readWord (signed true (d :: cs) ++ rest)).or _ = _
    rw [hword, Option.none_or]
    rfl
  | false =>
    have hskip : skipSpace (signed false (d :: cs) ++ rest) = signed false (d :: cs) ++ rest :=
      skipSpace_cons (by simp [isSpace, hne]) _
    rw [readValue, hskip]
    split
    · next heq => exact absurd (List.cons.inj heq).1 (hne rfl)
    · next heq => exact absurd (List.cons.inj heq).1 (hne rfl)
    · next heq => exact absurd (List.cons.inj heq).1 (hne rfl)
    · rw [hword, Option.none_or]

theorem succ_of_begins {cs : List Char} (h : Begins cs) {fuel : ℕ} (hfuel : cs.length ≤ fuel) :
    ∃ k, fuel = k + 1 := by
  obtain ⟨c, cs, rfl, -⟩ := h
  rw [List.length_cons] at hfuel
  exact ⟨fuel - 1, by omega⟩

theorem decodes_number {v : Value} {n : Numeral} {negative : Bool} (hline : line v = signed negative n.text)
    (hproper : n.IsProper) (hread : ∀ rest, Stops rest → readNumber (line v ++ rest) = some (v, rest)) :
    Decodes v := by
  intro fuel rest hfuel hrest
  have hnumber := hread rest hrest
  rw [hline] at hfuel hnumber ⊢
  obtain ⟨k, rfl⟩ := succ_of_begins (begins_numeral hproper negative) hfuel
  rw [readValue_number hproper, hnumber]

theorem decodes_int (n : ℤ) : Decodes (.int n) := by
  have hline : line (.int n) = signed (decide (n < 0)) (Numeral.mk (Nat.toDigits 10 n.natAbs) [] none).text := by
    rw [line, toString_int, String.toList_ofList, text_toDigits]
  exact decodes_number hline (isProper_toDigits _) fun rest hrest => readNumber_int n hrest

theorem decodes_float {negative : Bool} {m : ℕ} {e : ℤ} (h : Binary64.IsCanonical m e) :
    Decodes (.float (.finite negative m e)) := by
  obtain ⟨n, hproper, -, -, htext⟩ := @Binary64.exists_numeral negative m e h
  have hline : line (.float (.finite negative m e)) = signed negative n.text := by
    change (Binary64.finite negative m e).text.toList = _
    rw [htext, String.toList_ofList]
  exact decodes_number hline hproper fun rest hrest => readNumber_float h hrest

theorem string_append (s : String) (rest : List Char) :
    string s ++ rest = '"' :: (s.toList.flatMap escape ++ '"' :: rest) := by
  simp [string]

/-- With as much fuel as there are characters, a string is read to its end. -/
theorem readString_quoted (s : String) (rest : List Char) :
    readString ((s.toList.flatMap escape ++ '"' :: rest).length + 1) (s.toList.flatMap escape ++ '"' :: rest) [] =
      some (s, rest) := by
  have hlength := length_le_escape s.toList
  rw [readString_string s.toList (by rw [List.length_append]; omega), List.reverse_nil, List.nil_append,
    String.ofList_toList]

theorem decodes_text (s : String) : Decodes (.text s) := by
  intro fuel rest hfuel hrest
  obtain ⟨k, rfl⟩ := succ_of_begins (begins_line (.text s)) hfuel
  rw [line, string_append, readValue, skipSpace_cons (by decide)]
  change (readString _ _ []).map _ = _
  rw [readString_quoted]
  rfl

theorem decodes_null : Decodes .null := by
  intro fuel rest hfuel hrest
  obtain ⟨k, rfl⟩ := succ_of_begins (begins_line .null) hfuel
  rfl

theorem decodes_bool (b : Bool) : Decodes (.bool b) := by
  intro fuel rest hfuel hrest
  obtain ⟨k, rfl⟩ := succ_of_begins (begins_line (.bool b)) hfuel
  cases b with
  | true => rfl
  | false => rfl

section

variable {k : ℕ} {cs rest more : List Char} {v : Value}

theorem readItems_last (h : readValue k cs = some (v, ']' :: rest)) :
    readItems (k + 1) cs = some ([v], rest) := by
  rw [readItems, h]
  rfl

theorem readItems_next {xs : List Value} (h : readValue k cs = some (v, ',' :: rest))
    (hmore : readItems k rest = some (xs, more)) : readItems (k + 1) cs = some (v :: xs, more) := by
  rw [readItems, h]
  change (readItems k rest >>= _) = _
  rw [hmore]
  rfl

theorem readMembers_key (s : String) (tail : List Char) :
    ∃ f, readMembers (k + 1) (key (.text s) ++ ':' :: ' ' :: tail) = readValue k tail >>= f ∧
      (∀ v rest, f (v, '\x7d' :: rest) = some ([(.text s, v)], rest)) ∧
      ∀ v rest entries more, readMembers k rest = some (entries, more) →
        f (v, ',' :: rest) = some ((.text s, v) :: entries, more) := by
  rw [key, string_append, readMembers, skipSpace_cons (by decide)]
  change ∃ f, (readString _ _ [] >>= _) = _ ∧ _
  rw [readString_quoted]
  change ∃ f, (readValue k (' ' :: tail) >>= _) = _ ∧ _
  rw [readValue_space]
  refine ⟨_, rfl, fun _ _ => rfl, fun v rest entries more h => ?_⟩
  change (readMembers k rest >>= _) = _
  rw [h]
  rfl

theorem readValue_list {xs : List Value} (hskip : skipSpace cs = cs) (hclose : ∀ rest, cs ≠ ']' :: rest)
    (h : readItems k cs = some (xs, rest)) : readValue (k + 1) ('[' :: cs) = some (.list xs, rest) := by
  rw [readValue, skipSpace_cons (by decide)]
  split
  case h_2 heq =>
    obtain ⟨-, rfl⟩ := List.cons.inj heq
    rw [hskip]
    split
    · exact absurd rfl (hclose _)
    · rw [h]
      rfl
  all_goals simp_all

theorem readValue_map {entries : List (Value × Value)} (hskip : skipSpace cs = cs)
    (hclose : ∀ rest, cs ≠ '\x7d' :: rest) (h : readMembers k cs = some (entries, rest)) :
    readValue (k + 1) ('\x7b' :: cs) = some (.map entries, rest) := by
  rw [readValue, skipSpace_cons (by decide)]
  split
  case h_3 heq =>
    obtain ⟨-, rfl⟩ := List.cons.inj heq
    rw [hskip]
    split
    · exact absurd rfl (hclose _)
    · rw [h]
      rfl
  all_goals simp_all

end

theorem readItems_items {xs : List Value} (hne : xs ≠ []) (h : ∀ x ∈ xs, Decodes x) {fuel : ℕ}
    (hfuel : (items xs).length < fuel) (rest : List Char) :
    readItems fuel (items xs ++ ']' :: rest) = some (xs, rest) := by
  induction xs generalizing fuel with
  | nil => exact absurd rfl hne
  | cons x xs ih =>
    have hx := h x List.mem_cons_self
    cases fuel with
    | zero => omega
    | succ fuel =>
      cases xs with
      | nil =>
        rw [items]
        refine readItems_last (hx fuel (']' :: rest) (by rw [items] at hfuel; omega) fun c hc => ?_)
        obtain rfl : ']' = c := by simpa using hc
        exact .inr (.inl rfl)
      | cons y ys =>
        rw [items_cons_cons, List.length_append, List.length_cons, List.length_cons] at hfuel
        have hmore := ih (List.cons_ne_nil y ys) (fun z hz => h z (List.mem_cons_of_mem _ hz))
          (show (items (y :: ys)).length < fuel by omega)
        rw [items_cons_cons, List.append_assoc, List.cons_append, List.cons_append]
        refine readItems_next (hx fuel _ (by omega) fun c hc => ?_) ((readItems_space _).trans hmore)
        obtain rfl : ',' = c := by simpa using hc
        exact .inl rfl

theorem readMembers_members {entries : List (Value × Value)} (hne : entries ≠ [])
    (hkeys : ∀ e ∈ entries, ∃ key, e.1 = .text key) (h : ∀ e ∈ entries, Decodes e.2) {fuel : ℕ}
    (hfuel : (members entries).length < fuel) (rest : List Char) :
    readMembers fuel (members entries ++ '\x7d' :: rest) = some (entries, rest) := by
  induction entries generalizing fuel with
  | nil => exact absurd rfl hne
  | cons e entries ih =>
    obtain ⟨_, v⟩ := e
    obtain ⟨name, rfl⟩ := hkeys _ List.mem_cons_self
    have hv : Decodes v := h _ List.mem_cons_self
    cases fuel with
    | zero => omega
    | succ fuel =>
      cases entries with
      | nil =>
        rw [members, List.length_append, List.length_cons, List.length_cons] at hfuel
        have hread := hv fuel ('\x7d' :: rest) (by omega) fun c hc => by
          obtain rfl : '\x7d' = c := by simpa using hc
          exact .inr (.inr rfl)
        rw [members, List.append_assoc, List.cons_append, List.cons_append]
        obtain ⟨f, hkey, hlast, -⟩ := readMembers_key (k := fuel) name (line v ++ '\x7d' :: rest)
        rw [hkey, hread]
        exact hlast v rest
      | cons e es =>
        rw [members_cons_cons, List.length_append, List.length_append, List.length_cons, List.length_cons,
          List.length_cons, List.length_cons] at hfuel
        have hread := hv fuel (',' :: ' ' :: (members (e :: es) ++ '\x7d' :: rest)) (by omega) fun c hc => by
          obtain rfl : ',' = c := by simpa using hc
          exact .inl rfl
        have hmore := ih (List.cons_ne_nil e es) (fun e he => hkeys e (List.mem_cons_of_mem _ he))
          (fun e he => h e (List.mem_cons_of_mem _ he)) (show (members (e :: es)).length < fuel by omega)
        rw [members_cons_cons, List.append_assoc, List.append_assoc, List.cons_append, List.cons_append,
          List.cons_append, List.cons_append]
        obtain ⟨f, hkey, -, hnext⟩ := readMembers_key (k := fuel) name
          (line v ++ ',' :: ' ' :: (members (e :: es) ++ '\x7d' :: rest))
        rw [hkey, hread]
        exact hnext v _ _ _ ((readMembers_space _).trans hmore)

theorem decodes_list {xs : List Value} (hxs : ∀ x ∈ xs, x.IsWritable) (h : ∀ x ∈ xs, Decodes x) :
    Decodes (.list xs) := by
  intro fuel rest hfuel hrest
  obtain ⟨k, rfl⟩ := succ_of_begins (begins_line (.list hxs)) hfuel
  have hline : line (.list xs) ++ rest = '[' :: (items xs ++ ']' :: rest) := by simp [line]
  rw [hline]
  cases xs with
  | nil => rfl
  | cons x xs =>
    rw [line, List.length_append, List.length_cons, List.length_singleton] at hfuel
    have hread := readItems_items (List.cons_ne_nil x xs) h
      (show (items (x :: xs)).length < k by omega) rest
    obtain ⟨c, cs, hbegins, hspace, hclose⟩ := begins_line (hxs x List.mem_cons_self)
    obtain ⟨cs', hcons⟩ : ∃ cs', items (x :: xs) ++ ']' :: rest = c :: cs' := by
      cases xs with
      | nil => exact ⟨_, by rw [items, hbegins]; rfl⟩
      | cons y ys => exact ⟨_, by rw [items_cons_cons, hbegins]; rfl⟩
    rw [hcons] at hread ⊢
    exact readValue_list (skipSpace_cons hspace _) (fun rest heq => hclose (List.cons.inj heq).1) hread

theorem decodes_map {entries : List (Value × Value)} (hkeys : ∀ e ∈ entries, ∃ key, e.1 = .text key)
    (hvalues : ∀ e ∈ entries, e.2.IsWritable) (h : ∀ e ∈ entries, Decodes e.2) : Decodes (.map entries) := by
  intro fuel rest hfuel hrest
  obtain ⟨k, rfl⟩ := succ_of_begins (begins_line (.map hkeys hvalues)) hfuel
  have hline : line (.map entries) ++ rest = '\x7b' :: (members entries ++ '\x7d' :: rest) := by simp [line]
  rw [hline]
  cases entries with
  | nil => rfl
  | cons e entries =>
    rw [line, List.length_append, List.length_cons, List.length_singleton] at hfuel
    have hread := readMembers_members (List.cons_ne_nil e entries) hkeys h
      (show (members (e :: entries)).length < k by omega) rest
    obtain ⟨_, v⟩ := e
    obtain ⟨name, rfl⟩ := hkeys _ List.mem_cons_self
    obtain ⟨cs', hcons⟩ : ∃ cs', members ((.text name, v) :: entries) ++ '\x7d' :: rest = '"' :: cs' := by
      cases entries with
      | nil => exact ⟨_, by rw [members, key, List.append_assoc, string_append]⟩
      | cons e es => exact ⟨_, by rw [members_cons_cons, key, List.append_assoc, List.append_assoc, string_append]⟩
    rw [hcons] at hread ⊢
    exact readValue_map (skipSpace_cons (by decide) _)
      (fun rest heq => absurd (List.cons.inj heq).1 (by decide)) hread

theorem decodes {v : Value} (hv : v.IsWritable) : Decodes v := by
  induction hv with
  | null => exact decodes_null
  | bool b => exact decodes_bool b
  | int n => exact decodes_int n
  | float h => exact decodes_float h
  | text s => exact decodes_text s
  | list hxs ih => exact decodes_list hxs ih
  | map hkeys hvalues ih => exact decodes_map hkeys hvalues ih

theorem read?_render {v : Value} (hv : v.IsWritable) : read? (render v) = some v := by
  have hread := decodes hv ((line v).length + 1) [] (Nat.le_succ _) (fun c hc => absurd hc (by simp))
  rw [List.append_nil] at hread
  rw [read?, render, String.toList_ofList, hread]
  rfl

end ReleaseMatch.Json
