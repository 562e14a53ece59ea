import ReleaseMatch.Json.Text
import ReleaseMatch.Proofs.Yaml.Cursor
set_option autoImplicit false

/-!
# JSON strings as quoted scalars

A JSON string is a scalar in double quotes: each escape is read as the character that it was written for.
Inside of the quotes blanks separate words, and the gaps between them are kept as they are.
-/
namespace ReleaseMatch.Yaml

open Json (escape)

/-! Escapes -/

theorem hexDigit?_hexDigit {n : Nat} (hn : n < 16) : hexDigit? (Text.hexDigit n) = some n := by
  have : ∀ n < 16, hexDigit? (Text.hexDigit n) = some n := by decide
  exact this n hn

theorem hexNumber_hex {n : Nat} (hn : n < 0x10000) (rest : List Char) :
    hexNumber 4 0 (Text.hex 4 n ++ rest) = .ok n := by
  simp only [Text.hex, List.nil_append, List.cons_append, hexNumber, List.headD_cons,
    List.tail_cons, hexDigit?_hexDigit (Nat.mod_lt _ (show 0 < 16 by decide)), Except.ok.injEq]
  omega

theorem isPlainAscii_hex (width n : Nat) : ∀ c ∈ Text.hex width n, isPlainAscii c = true := by
  induction width generalizing n with
  | zero => exact fun c hc => absurd hc List.not_mem_nil
  | succ width ih =>
    intro c hc
    have hdigit : ∀ n < 16, isPlainAscii (Text.hexDigit n) = true := by decide
    rcases List.mem_append.1 hc with hc | hc
    · exact ih _ c hc
    · rw [List.mem_singleton.1 hc]
      exact hdigit _ (Nat.mod_lt _ (by decide))

theorem length_hex (width n : Nat) : (Text.hex width n).length = width := by
  induction width generalizing n with
  | zero => rfl
  | succ width ih => rw [Text.hex, List.length_append, ih, List.length_singleton]

structure Escapes (code : List Char) (a : Char) : Prop where
  plain : ∀ c ∈ code, isPlainAscii c = true
  scan (start : Mark) (c : Cursor) (rest : List Char) (h : c.rest = code ++ rest) :
    scanEscape start c = .ok ([a], c.forward code.length)

theorem escapes_letter {l a : Char} (hplain : isPlainAscii l = true) (hl : replacement? l = some a) :
    Escapes [l] a where
  plain c hc := by rwa [List.mem_singleton.1 hc]
  scan start c rest h := by
    rw [List.singleton_append] at h
    rw [scanEscape, Cursor.peek_of_rest h, hl, h]
    rfl

theorem escapes_unit {a : Char} (ha : a.toNat < 0x10000) : Escapes ('u' :: Text.hex 4 a.toNat) a where
  plain c hc := by
    rcases List.mem_cons.1 hc with rfl | hc
    · rfl
    · exact isPlainAscii_hex 4 _ c hc
  scan start c rest h := by
    rw [List.cons_append] at h
    have hadvance : c.advance.rest = Text.hex 4 a.toNat ++ rest := by rw [Cursor.rest_advance, h, List.tail_cons]
    have hlimit : ¬codeLimit ≤ a.toNat := by rw [codeLimit]; omega
    have hchar : codeChar? a.toNat ((c.advance.forward 4).rest) = some (a, 0) := by
      have hvalid : a.toNat < 0xD800 ∨ 0xDFFF < a.toNat ∧ a.toNat < 0x110000 := a.valid
      have hhalf : isHalf a.toNat = false := by
        rw [isHalf, Bool.and_eq_false_iff, decide_eq_false_iff_not, decide_eq_false_iff_not]
        omega
      unfold codeChar?
      rw [hhalf, Bool.not_false, if_pos rfl, Char.ofNat_toNat]
    rw [scanEscape, Cursor.peek_of_rest h]
    simp only [h, replacement?, codeLength?, hadvance, hexNumber_hex ha]
    rw [if_neg hlimit, hchar, List.length_cons, length_hex]
    rfl

theorem escape_cases {a : Char} (ha : a.toNat < 0x10000) :
    (escape a = [a] ∧ isPlainAscii a = true ∧ a ≠ '"' ∧ a ≠ '\\') ∨
      ∃ code, escape a = '\\' :: code ∧ Escapes code a := by
  have hcode {n : Nat} {b : Char} (hn : a.toNat = n) (hb : b.toNat = n) : a = b := by
    rw [← Char.ofNat_toNat a, ← Char.ofNat_toNat b, hn, hb]
  have hletter {l b : Char} (hl : replacement? l = some b) (hplain : isPlainAscii l = true) (h : a = b) :
      Escapes [l] a := escapes_letter hplain (h ▸ hl)
  rw [escape]
  split
  · next h => exact .inr ⟨_, rfl, hletter rfl rfl h⟩
  · next hquote =>
    split
    · next h => exact .inr ⟨_, rfl, hletter rfl rfl h⟩
    · next hslash =>
      split
      · next h => exact .inr ⟨_, rfl, hletter rfl rfl h⟩
      · split
        · next h => exact .inr ⟨_, rfl, hletter rfl rfl h⟩
        · split
          · next h => exact .inr ⟨_, rfl, hletter rfl rfl h⟩
          · split
            · next h => exact .inr ⟨_, rfl, hletter rfl rfl (hcode h (b := '\x0c') rfl)⟩
            · split
              · next h => exact .inr ⟨_, rfl, hletter rfl rfl (hcode h (b := '\x08') rfl)⟩
              · split
                · next h => exact .inl ⟨rfl, h, hquote, hslash⟩
                · exact .inr ⟨_, rfl, escapes_unit ha⟩

/-! Words and gaps -/

def IsBasic (cs : List Char) : Prop := ∀ c ∈ cs, c.toNat < 0x10000

instance (cs : List Char) : Decidable (IsBasic cs) :=
  inferInstanceAs (Decidable (∀ c ∈ cs, c.toNat < 0x10000))

theorem isPlainAscii_unit (n : Nat) : ∀ c ∈ Json.unit n, isPlainAscii c = true := by
  intro c hc
  rw [Json.unit, List.mem_cons, List.mem_cons] at hc
  rcases hc with rfl | rfl | hc
  · rfl
  · rfl
  · exact isPlainAscii_hex 4 n c hc

/-- A character beyond the basic plane has an escape for each half of its pair. -/
theorem escape_pair {a : Char} (ha : 0x10000 ≤ a.toNat) : escape a =
    Json.unit (0xD800 + (a.toNat - 0x10000) / 0x400) ++ Json.unit (0xDC00 + (a.toNat - 0x10000) % 0x400) := by
  have hne {b : Char} (hb : b.toNat < 0x10000) : a ≠ b := by
    rintro rfl
    omega
  have hplain : ¬(decide (32 ≤ a.toNat) && decide (a.toNat < 127)) = true := by
    rw [Bool.and_eq_true, decide_eq_true_eq, decide_eq_true_eq]
    omega
  unfold Json.escape
  dsimp only
  rw [if_neg (hne (by decide)), if_neg (hne (by decide)), if_neg (hne (by decide)), if_neg (hne (by decide)),
    if_neg (hne (by decide)), if_neg (by omega), if_neg (by omega), if_neg hplain, if_neg (by omega)]

theorem isPlainAscii_escape (a : Char) : ∀ c ∈ escape a, isPlainAscii c = true := by
  intro c hc
  by_cases ha : a.toNat < 0x10000
  · rcases escape_cases ha with ⟨heq, hplain, -⟩ | ⟨code, heq, hcode⟩
    · rw [heq] at hc
      rwa [List.mem_singleton.1 hc]
    · rw [heq] at hc
      rcases List.mem_cons.1 hc with rfl | hc
      · rfl
      · exact hcode.plain c hc
  · rw [escape_pair (Nat.not_lt.1 ha), List.mem_append] at hc
    rcases hc with hc | hc
    · exact isPlainAscii_unit _ c hc
    · exact isPlainAscii_unit _ c hc

theorem length_le_escape (cs : List Char) : cs.length ≤ (cs.flatMap escape).length := by
  induction cs with
  | nil => exact Nat.le_refl _
  | cons a cs ih =>
    have hlen : 1 ≤ (escape a).length := by
      by_cases ha : a.toNat < 0x10000
      · rcases escape_cases ha with ⟨heq, -⟩ | ⟨code, heq, -⟩ <;> rw [heq] <;> simp
      · rw [escape_pair (Nat.not_lt.1 ha), Json.unit]
        simp
    rw [List.flatMap_cons, List.length_append, List.length_cons]
    omega

/-- What ends a word: an apostrophe or an escape goes on with it, and all else does not. -/
def wordPart (start : Mark) (c : Cursor) : Except Fault (Option (List Char × Cursor)) :=
  if c.peek = '\'' then .ok (some (['\''], c.advance))
  else if c.peek = '\\' then (scanEscape start c.advance).map some
  else .ok none

def goOn (word : List Char) (behind : Cursor) (next : Cursor → Scanned) :
    Option (List Char × Cursor) → Scanned
  | some (part, c) => (next c).map fun r => (word ++ (part ++ r.1), r.2)
  | none => .ok (word, behind)

theorem goOn_cons (a : Char) (word : List Char) (behind : Cursor) (next : Cursor → Scanned)
    (part : Option (List Char × Cursor)) :
    goOn (a :: word) behind next part = (goOn word behind next part).map fun r => (a :: r.1, r.2) := by
  cases part with
  | none => rfl
  | some p =>
    rw [goOn, goOn]
    cases next p.2 <;> rfl

section

variable {start : Mark} {c : Cursor} {fuel : Nat}

theorem quotedWord_succ {word : List Char} (hword : c.rest.takeWhile (!endsQuotedWord ·) = word) :
    quotedWord true start (fuel + 1) c =
      wordPart start (c.forward word.length) >>=
        goOn word (c.forward word.length) (quotedWord true start fuel) := by
  rw [quotedWord, Cursor.spanWhile_eq, hword, wordPart]
  by_cases happ : (c.forward word.length).peek = '\''
  · simp [happ, goOn, bind, Except.bind, pure, Except.pure]
    cases quotedWord true start fuel (c.forward word.length).advance <;> rfl
  · by_cases hslash : (c.forward word.length).peek = '\\'
    · simp [hslash, bind, Except.bind, pure, Except.pure]
      cases scanEscape start (c.forward word.length).advance with
      | error f => rfl
      | ok r => simp only [Except.map, goOn]
    · simp [happ, hslash, goOn, bind, Except.bind, pure, Except.pure]

theorem quotedWord_of_letter {a : Char} {rest : List Char} (h : c.rest = a :: rest)
    (ha : endsQuotedWord a = false) :
    quotedWord true start (fuel + 1) c =
      (quotedWord true start (fuel + 1) c.advance).map fun r => (a :: r.1, r.2) := by
  have hspan : c.rest.takeWhile (!endsQuotedWord ·) = a :: c.advance.rest.takeWhile (!endsQuotedWord ·) := by
    rw [h, Cursor.rest_advance, h, List.tail_cons, List.takeWhile_cons, ha]
    rfl
  rw [quotedWord_succ hspan, quotedWord_succ rfl, List.length_cons, Cursor.forward_succ]
  cases wordPart start _ with
  | error f => rfl
  | ok part => exact goOn_cons a _ _ _ part

theorem quotedWord_of_apostrophe {rest : List Char} (h : c.rest = '\'' :: rest) :
    quotedWord true start (fuel + 1) c =
      (quotedWord true start fuel c.advance).map fun r => ('\'' :: r.1, r.2) := by
  have hspan : c.rest.takeWhile (!endsQuotedWord ·) = [] := by rw [h]; rfl
  rw [quotedWord_succ hspan, List.length_nil, Cursor.forward, wordPart, Cursor.peek_of_rest h, if_pos rfl]
  rfl

theorem quotedWord_of_escape {a : Char} {code rest : List Char} (hcode : Escapes code a)
    (h : c.rest = '\\' :: (code ++ rest)) :
    quotedWord true start (fuel + 1) c =
      (quotedWord true start fuel (c.forward (code.length + 1))).map fun r => (a :: r.1, r.2) := by
  have hspan : c.rest.takeWhile (!endsQuotedWord ·) = [] := by rw [h]; rfl
  have hadvance : c.advance.rest = code ++ rest := by rw [Cursor.rest_advance, h, List.tail_cons]
  rw [quotedWord_succ hspan, List.length_nil, Cursor.forward, wordPart, Cursor.peek_of_rest h,
    if_neg (by decide), if_pos rfl, hcode.scan start _ _ hadvance, ← Cursor.forward_succ]
  rfl

theorem quotedWord_of_end {a : Char} {rest : List Char} (h : c.rest = a :: rest) (ha : a = '"' ∨ a = ' ') :
    quotedWord true start (fuel + 1) c = .ok ([], c) := by
  have hspan : c.rest.takeWhile (!endsQuotedWord ·) = [] := by
    rw [h]
    rcases ha with rfl | rfl <;> rfl
  rw [quotedWord_succ hspan, List.length_nil, Cursor.forward, wordPart, Cursor.peek_of_rest h]
  rcases ha with rfl | rfl <;> rfl

/-- Up to a blank or to the closing quote the characters are those that were written. -/
theorem quotedWord_eq {cs tail : List Char} (hcs : IsBasic cs)
    (h : c.rest = cs.flatMap escape ++ '"' :: tail) (hfuel : c.rest.length < fuel) :
    quotedWord true start fuel c = .ok (cs.takeWhile (· != ' '),
      c.forward ((cs.takeWhile (· != ' ')).flatMap escape).length) := by
  induction cs generalizing c fuel with
  | nil =>
    obtain ⟨fuel, rfl⟩ := Nat.exists_eq_succ_of_ne_zero (Nat.ne_zero_of_lt hfuel)
    exact quotedWord_of_end h (.inl rfl)
  | cons a cs ih =>
    obtain ⟨fuel, rfl⟩ := Nat.exists_eq_succ_of_ne_zero (Nat.ne_zero_of_lt hfuel)
    have ha := hcs a List.mem_cons_self
    have ih' {n fuel' : Nat} (hrest : (c.forward n).rest = cs.flatMap escape ++ '"' :: tail)
        (hfuel' : (c.forward n).rest.length < fuel') :
        (quotedWord true start fuel' (c.forward n)).map (fun r => (a :: r.1, r.2)) =
          .ok (a :: cs.takeWhile (· != ' '),
            c.forward (n + ((cs.takeWhile (· != ' ')).flatMap escape).length)) := by
      rw [ih (fun b hb => hcs b (List.mem_cons_of_mem _ hb)) hrest hfuel', Cursor.forward_add]
      rfl
    rw [List.flatMap_cons, List.append_assoc] at h
    by_cases hblank : a = ' '
    · subst hblank
      exact quotedWord_of_end h (.inr rfl)
    rw [List.takeWhile_cons_of_pos (by simpa using hblank), List.flatMap_cons, List.length_append]
    have hrest : (c.forward (escape a).length).rest = cs.flatMap escape ++ '"' :: tail := by
      rw [Cursor.rest_forward, h, List.drop_left]
    have hshort : (c.forward (escape a).length).rest.length + (escape a).length < fuel + 1 := by
      rwa [hrest, Nat.add_comm, ← List.length_append, ← h]
    rcases escape_cases ha with ⟨heq, hplain, hquote, hslash⟩ | ⟨code, heq, hcode⟩
    · rw [heq] at h hrest hshort ⊢
      by_cases happ : a = '\''
      · subst happ
        rw [quotedWord_of_apostrophe h]
        exact ih' hrest (by simpa using hshort)
      · have hends : endsQuotedWord a = false := by
          simp [endsQuotedWord, happ, hquote, hslash, isBlankOrEnd_of_isPlainAscii hplain, hblank]
        rw [quotedWord_of_letter h hends]
        exact ih' hrest (by omega)
    · rw [heq] at h hrest hshort ⊢
      rw [quotedWord_of_escape hcode h]
      exact ih' hrest (by rw [List.length_cons] at hshort; omega)

theorem takeWhile_blank {cs tail : List Char} (hcs : IsBasic cs) :
    (cs.flatMap escape ++ '"' :: tail).takeWhile (fun ch => ch == ' ' || ch == '\t') =
      cs.takeWhile (· == ' ') := by
  induction cs with
  | nil => rfl
  | cons a cs ih =>
    rw [List.flatMap_cons, List.append_assoc, List.takeWhile_cons]
    by_cases hblank : a = ' '
    · subst hblank
      exact congrArg (' ' :: ·) (ih fun b hb => hcs b (List.mem_cons_of_mem _ hb))
    · rw [if_neg (by simpa using hblank)]
      rcases escape_cases (hcs a List.mem_cons_self) with ⟨heq, hplain, -⟩ | ⟨code, heq, -⟩
      · have htab : a ≠ '\t' := by
          rintro rfl
          cases hplain
        rw [heq, List.singleton_append, List.takeWhile_cons_of_neg (by simp [hblank, htab])]
      · rw [heq]
        rfl

theorem flatMap_escape_blanks (cs : List Char) :
    (cs.takeWhile (· == ' ')).flatMap escape = cs.takeWhile (· == ' ') := by
  induction cs with
  | nil => rfl
  | cons a cs ih =>
    rw [List.takeWhile_cons]
    split
    · next hblank =>
      rw [List.flatMap_cons, ih, eq_of_beq hblank]
      rfl
    · rfl

theorem flatMap_escape_span (p : Char → Bool) (cs : List Char) :
    cs.flatMap escape = (cs.takeWhile p).flatMap escape ++ (cs.dropWhile p).flatMap escape := by
  rw [← List.flatMap_append, List.takeWhile_append_dropWhile]

theorem rest_forward_span {p : Char → Bool} {cs tail : List Char} (h : c.rest = cs.flatMap escape ++ tail) :
    (c.forward ((cs.takeWhile p).flatMap escape).length).rest = (cs.dropWhile p).flatMap escape ++ tail := by
  rw [Cursor.rest_forward, h, flatMap_escape_span p cs, List.append_assoc, List.drop_left]

variable {size : Nat} {cs tail : List Char} (hcs : IsBasic cs) (h : c.rest = cs.flatMap escape ++ '"' :: tail)

include hcs h

theorem quotedGap_eq (hline : c.OnLine size) : quotedGap start c =
    .ok (cs.takeWhile (· == ' '), c.forward (cs.takeWhile (· == ' ')).length) := by
  have hspan : c.rest.takeWhile (fun ch => ch == ' ' || ch == '\t') = cs.takeWhile (· == ' ') := by
    rw [h, takeWhile_blank hcs]
  have hbehind := hline.forward (cs.takeWhile (· == ' ')).length
  have hne : (c.forward (cs.takeWhile (· == ' ')).length).rest ≠ [] := by
    rw [← flatMap_escape_blanks cs, rest_forward_span h]
    simp
  obtain ⟨ch, rest, hrest⟩ := List.exists_cons_of_ne_nil hne
  have hbreak := isBreak_of_isPlainAscii (hbehind.plain ch (by rw [hrest]; exact List.mem_cons_self))
  rw [quotedGap, Cursor.spanWhile_eq, hspan]
  dsimp only
  rw [if_neg (mt List.isEmpty_iff.1 hne), Cursor.peek_of_rest hrest, hbreak, if_neg Bool.false_ne_true]

omit h in
theorem IsBasic.dropWhile (p : Char → Bool) : IsBasic (cs.dropWhile p) :=
  fun a ha => hcs a ((List.dropWhile_sublist p).subset ha)

/-- Gaps and words by turns give back all characters. -/
theorem quotedRest_eq (hline : c.OnLine size) (hfuel : cs.length < fuel) :
    quotedRest true start fuel c = .ok (cs, c.forward (cs.flatMap escape).length) := by
  -- A gap and the word behind it are several characters, so the induction is on their number.
  induction hlen : cs.length using Nat.strongRecOn generalizing cs c fuel with
  | ind n ih =>
    obtain ⟨fuel, rfl⟩ := Nat.exists_eq_succ_of_ne_zero (Nat.ne_zero_of_lt hfuel)
    rw [quotedRest]
    cases cs with
    | nil =>
      rw [Cursor.peek_of_rest h, if_pos rfl]
      rfl
    | cons a cs =>
      have hquote : c.peek ≠ '"' := by
        rw [List.flatMap_cons, List.append_assoc] at h
        rcases escape_cases (hcs a List.mem_cons_self) with ⟨heq, -, hquote, -⟩ | ⟨code, heq, -⟩
        · rw [heq] at h
          rwa [Cursor.peek_of_rest h]
        · rw [heq] at h
          rw [Cursor.peek_of_rest h]
          decide
      have hshort : (((a :: cs).dropWhile (· == ' ')).dropWhile (· != ' ')).length < (a :: cs).length := by
        have hle {p : Char → Bool} (ds : List Char) := (List.dropWhile_sublist p (l := ds)).length_le
        rw [List.length_cons, Nat.lt_succ_iff, List.dropWhile_cons]
        split
        · exact Nat.le_trans (hle _) (hle _)
        · next hblank =>
          rw [List.dropWhile_cons_of_pos (by simpa using hblank)]
          exact hle _
      have hgap : quotedGap start c = _ := quotedGap_eq hcs h hline
      have hbetween := rest_forward_span (p := (· == ' ')) h
      rw [flatMap_escape_blanks] at hbetween
      have hword : quotedWord true start _ _ = _ :=
        quotedWord_eq (hcs.dropWhile (· == ' ')) hbetween (Nat.lt_add_one _)
      have hbehind := rest_forward_span (p := (· != ' ')) hbetween
      have hmore : quotedRest true start fuel _ = _ :=
        ih _ (hlen ▸ hshort) ((hcs.dropWhile _).dropWhile _) hbehind ((hline.forward _).forward _) (by omega) rfl
      rw [if_neg (by simpa using hquote), hgap]
      simp only [bind, Except.bind, hword, hmore, pure, Except.pure, List.append_assoc,
        List.takeWhile_append_dropWhile]
      rw [← Cursor.forward_add, ← Cursor.forward_add]
      congr 3
      rw [← List.length_append, ← flatMap_escape_span, flatMap_escape_span (· == ' ') (a :: cs),
        flatMap_escape_blanks, List.length_append]

end

theorem scanQuoted_string {size : Nat} {c : Cursor} {s : String} {tail : List Char} (hs : IsBasic s.toList)
    (hline : c.OnLine size) (h : c.rest = Json.string s ++ tail) :
    scanQuoted true c = .ok (s.toList, c.forward (Json.string s).length) := by
  have hinside : (c.forward 1).rest = s.toList.flatMap escape ++ '"' :: tail := by
    rw [Cursor.rest_forward, h, Json.string]
    simp
  have hword : quotedWord true c.mark _ _ = _ := quotedWord_eq hs hinside (Nat.lt_add_one _)
  have hbehind := rest_forward_span (p := (· != ' ')) hinside
  have hfuel := length_le_escape (s.toList.dropWhile (· != ' '))
  have hmore : quotedRest true c.mark
      (((c.forward 1).forward ((s.toList.takeWhile (· != ' ')).flatMap escape).length).rest.length + 1) _ = _ :=
    quotedRest_eq (hs.dropWhile (· != ' ')) hbehind ((hline.forward 1).forward _)
      (by rw [hbehind, List.length_append]; omega)
  rw [scanQuoted]
  simp only [bind, Except.bind, Cursor.advance_eq, hword, hmore, pure, Except.pure,
    List.takeWhile_append_dropWhile]
  rw [← Cursor.forward_add, ← Cursor.forward_add, ← Cursor.forward_add]
  congr 3
  rw [Json.string, flatMap_escape_span (· != ' ') s.toList]
  simp
  omega

end ReleaseMatch.Yaml
