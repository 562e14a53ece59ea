import ReleaseMatch.Proofs.Result
import ReleaseMatch.Toml.Reader
set_option autoImplicit false

/-!
# Integers of too many digits

A configuration text that is not read for a reason other than its form has a decimal integer of more
digits than are read, and its reader stops in front of that integer.
-/
namespace ReleaseMatch.Toml

open Number

/-- The text starts with a decimal integer, of which only the number of digits is wrong. -/
structure StartsOverlong (count : Nat) (ahead : List Char) : Prop where
  tooMany : maxIntDigits < count
  integer : ∃ whole rest, readWhole? (splitSign ahead).2 = some (whole, rest) ∧
    whole.length = count ∧ readDecimals? rest = none ∧ readPower? rest = none

/-- A reader that stops at the number of digits stops in front of the integer. -/
def Blames (cs : List Char) (s : Stop) : Prop :=
  ∀ count, s.fault = .tooManyDigits count → s.ahead <:+ cs ∧ StartsOverlong count s.ahead

/-- Leaves a part of the text, or stops at a fault of its form or in front of such an integer. -/
def Keeps {α : Type} (cs : List Char) : Except Stop (α × List Char) → Prop :=
  Yields (Blames cs) fun r => r.2 <:+ cs

section

variable {α β : Type} {cs cs' : List Char} {x : Except Stop (α × List Char)}

theorem blames_of_ne {s : Stop} (h : ∀ count, s.fault ≠ .tooManyDigits count) : Blames cs s :=
  fun count hcount => absurd hcount (h count)

theorem Blames.mono {s : Stop} (h : Blames cs' s) (hcs : cs' <:+ cs) : Blames cs s :=
  fun count hcount => ⟨(h count hcount).1.trans hcs, (h count hcount).2⟩

theorem Keeps.mono (h : Keeps cs' x) (hcs : cs' <:+ cs) : Keeps cs x :=
  Yields.mono h (fun _ hs => hs.mono hcs) fun _ hrest => hrest.trans hcs

theorem Keeps.done {a : α} (h : cs' <:+ cs) : Keeps cs (.ok (a, cs')) := h

theorem Keeps.bind {f : α × List Char → Except Stop (β × List Char)} (h : Keeps cs x)
    (hf : ∀ a rest, Keeps rest (f (a, rest))) : Keeps cs (x >>= f) :=
  Yields.bind h fun r hrest => (hf r.1 r.2).mono hrest

theorem Keeps.map {f : α → β} (h : Keeps cs x) : Keeps cs (x.map fun r => (f r.1, r.2)) := by
  cases x with
  | error s => exact h
  | ok r => exact h

end

/-! Blanks and comments -/

theorem skipSpace_suffix (cs : List Char) : skipSpace cs <:+ cs := List.dropWhile_suffix _

theorem checkPlain_blames (isBad : Char → Bool) (stretch cs : List Char) :
    Yields (Blames cs) (fun _ => True) (checkPlain isBad stretch cs) := by
  rw [checkPlain]
  split
  · exact trivial
  · exact blames_of_ne (by simp)

theorem skipComment_keeps (cs : List Char) :
    Yields (Blames cs) (fun rest => rest <:+ cs) (skipComment cs) := by
  rw [skipComment.eq_def]
  split
  · next rest =>
    have hrest : rest <:+ '#' :: rest := List.suffix_cons _ _
    exact ((checkPlain_blames isControl _ rest).mono (fun _ h => h.mono hrest) fun _ h => h).bind
      fun _ _ => .done ((List.dropWhile_suffix _).trans hrest)
  · exact List.suffix_refl _

theorem skipLines_keeps (fuel : Nat) (cs : List Char) :
    Yields (Blames cs) (fun rest => rest <:+ cs) (skipLines fuel cs) := by
  induction fuel generalizing cs with
  | zero => exact List.suffix_refl _
  | succ fuel ih =>
    have hdrop : cs.dropWhile isSpaceOrLine <:+ cs := List.dropWhile_suffix _
    rw [skipLines]
    split
    · next rest hrest =>
      rw [hrest] at hdrop
      exact ((skipComment_keeps _).mono (fun _ h => h.mono hdrop) fun _ h => h.trans hdrop).bind
        fun rest' hrest' => (ih rest').mono (fun _ h => h.mono hrest') fun _ h => h.trans hrest'
    · exact hdrop

theorem skipAllLines_keeps (cs : List Char) :
    Yields (Blames cs) (fun rest => rest <:+ cs) (skipAllLines cs) := skipLines_keeps _ _

/-! Texts and keys -/

theorem splitAtMark_suffix {mark cs before from_ : List Char}
    (h : splitAtMark mark cs = some (before, from_)) : from_ <:+ cs := by
  induction cs generalizing before with
  | nil =>
    rw [splitAtMark] at h
    split at h
    · obtain ⟨-, rfl⟩ := Prod.mk.inj (Option.some.inj h)
      exact List.suffix_refl _
    · exact nomatch h
  | cons c rest ih =>
    rw [splitAtMark] at h
    split at h
    · obtain ⟨-, rfl⟩ := Prod.mk.inj (Option.some.inj h)
      exact List.suffix_refl _
    · obtain ⟨⟨before', from'⟩, hsplit, heq⟩ := Option.map_eq_some_iff.1 h
      obtain ⟨-, rfl⟩ := Prod.mk.inj heq
      exact (ih hsplit).trans (List.suffix_cons _ _)

theorem readUntil_keeps (mark : List Char) (isBad : Char → Bool) (cs : List Char) :
    Keeps cs (readUntil mark isBad cs) := by
  rw [readUntil]
  split
  · exact blames_of_ne (by simp)
  · next body rest hsplit =>
    exact (checkPlain_blames isBad body cs).bind fun _ _ =>
      .done ((List.drop_suffix _ _).trans (splitAtMark_suffix hsplit))

theorem readHex_keeps (width : Nat) (cs : List Char) : Keeps cs (readHex width cs) := by
  rw [readHex]
  split
  · exact blames_of_ne (by simp)
  · dsimp only
    split
    · exact List.drop_suffix _ _
    · exact blames_of_ne (by simp)

theorem readEscape_keeps (cs : List Char) : Keeps cs (readEscape cs) := by
  rw [readEscape.eq_def]
  split
  · exact (readHex_keeps 4 _).mono (List.suffix_cons _ _)
  · exact (readHex_keeps 8 _).mono (List.suffix_cons _ _)
  · split
    · exact List.suffix_cons _ _
    · exact blames_of_ne (by simp)
  · exact blames_of_ne (by simp)

theorem readLineEscape_keeps (cs : List Char) : Keeps cs (readLineEscape cs) := by
  rw [readLineEscape.eq_def]
  split
  · exact (List.dropWhile_suffix _).trans (List.suffix_cons _ _)
  · next c rest _ =>
    have hspace : skipSpace rest <:+ c :: rest := (skipSpace_suffix rest).trans (List.suffix_cons _ _)
    split
    · split
      · exact List.nil_suffix
      · next rest' hrest =>
        rw [hrest] at hspace
        exact (List.dropWhile_suffix _).trans ((List.suffix_cons _ _).trans hspace)
      · exact blames_of_ne (by simp)
    · exact readEscape_keeps _
  · exact readEscape_keeps _

theorem readBasic_keeps (fuel : Nat) (cs : List Char) : Keeps cs (readBasic fuel cs) := by
  induction fuel generalizing cs with
  | zero => exact blames_of_ne (by simp)
  | succ fuel ih =>
    rw [readBasic.eq_def]
    dsimp only
    split
    · exact blames_of_ne (by simp)
    · exact List.suffix_cons _ _
    · next rest =>
      refine ((readEscape_keeps rest).mono (List.suffix_cons _ _)).bind fun c rest => ?_
      exact (ih rest).bind fun more rest => .done (List.suffix_refl _)
    · next c rest _ _ =>
      split
      · exact blames_of_ne (by simp)
      · exact ((ih rest).mono (List.suffix_cons _ _)).bind fun more rest =>
          .done (List.suffix_refl _)

theorem readBasicLines_keeps (fuel : Nat) (cs : List Char) : Keeps cs (readBasicLines fuel cs) := by
  induction fuel generalizing cs with
  | zero => exact blames_of_ne (by simp)
  | succ fuel ih =>
    rw [readBasicLines.eq_def]
    dsimp only
    split
    · exact blames_of_ne (by simp)
    · exact List.suffix_append ['"', '"', '"'] _
    · next rest =>
      refine ((readLineEscape_keeps rest).mono (List.suffix_cons _ _)).bind fun c rest => ?_
      exact (ih rest).bind fun more rest => .done (List.suffix_refl _)
    · next c rest _ _ =>
      split
      · exact blames_of_ne (by simp)
      · exact ((ih rest).mono (List.suffix_cons _ _)).bind fun more rest =>
          .done (List.suffix_refl _)

theorem skipFirstLine_suffix (cs : List Char) : skipFirstLine cs <:+ cs := by
  unfold skipFirstLine
  split
  · exact List.suffix_cons _ _
  · exact List.suffix_refl _

theorem readQuoted?_keeps {cs : List Char} {r : Except Stop (List Char × List Char)}
    (h : readQuoted? cs = some r) : Keeps cs r := by
  have hthree {rest : List Char} (a b c : Char) : skipFirstLine rest <:+ a :: b :: c :: rest :=
    (skipFirstLine_suffix rest).trans (List.suffix_append [a, b, c] rest)
  rw [readQuoted?.eq_def] at h
  split at h
  · obtain rfl := Option.some.inj h
    exact ((readBasicLines_keeps _ _).mono (hthree ..)).bind fun body rest =>
      .done (List.drop_suffix _ _)
  · obtain rfl := Option.some.inj h
    exact (readBasic_keeps _ _).mono (List.suffix_cons _ _)
  · obtain rfl := Option.some.inj h
    exact ((readUntil_keeps _ _ _).mono (hthree ..)).bind fun body rest =>
      .done (List.drop_suffix _ _)
  · obtain rfl := Option.some.inj h
    exact (readUntil_keeps _ _ _).mono (List.suffix_cons _ _)
  · exact nomatch h

theorem readName_keeps (cs : List Char) : Keeps cs (readName cs) := by
  rw [readName.eq_def]
  split
  · exact ((readBasic_keeps _ _).mono (List.suffix_cons _ _)).bind fun name rest =>
      .done (List.suffix_refl _)
  · exact ((readUntil_keeps _ _ _).mono (List.suffix_cons _ _)).bind fun name rest =>
      .done (List.suffix_refl _)
  · split
    · exact List.dropWhile_suffix _
    · exact blames_of_ne (by simp)
  · exact blames_of_ne (by simp)

theorem readKeyNames_keeps (fuel : Nat) (cs : List Char) : Keeps cs (readKeyNames fuel cs) := by
  induction fuel generalizing cs with
  | zero => exact blames_of_ne (by simp)
  | succ fuel ih =>
    rw [readKeyNames]
    refine (readName_keeps cs).bind fun name rest => ?_
    have hspace := skipSpace_suffix rest
    dsimp only
    split
    · next rest' hrest =>
      rw [hrest] at hspace
      have hin := (skipSpace_suffix rest').trans ((List.suffix_cons _ _).trans hspace)
      exact ((ih _).mono hin).bind fun names rest => .done (List.suffix_refl _)
    · exact hspace

theorem readKey_keeps (cs : List Char) : Keeps cs (readKey cs) := readKeyNames_keeps _ _

theorem readEquals_keeps (cs : List Char) : Keeps cs (readEquals cs) := by
  rw [readEquals]
  refine (readKey_keeps cs).bind fun key rest => ?_
  dsimp only
  split
  · exact (skipSpace_suffix _).trans (List.suffix_cons _ _)
  · exact blames_of_ne (by simp)

/-! Scalars -/

theorem readFraction_suffix (cs : List Char) : (readFraction cs).2 <:+ cs := by
  unfold readFraction
  split
  · dsimp only
    split
    · exact List.suffix_refl _
    · exact (List.dropWhile_suffix _).trans (List.suffix_cons _ _)
  · exact List.suffix_refl _

theorem readTime?_suffix {cs rest : List Char} {t : Calendar.Time}
    (h : readTime? cs = some (t, rest)) : rest <:+ cs := by
  unfold readTime? at h
  split at h
  · next a b c d e f more =>
    simp only [bind, Option.bind_eq_some_iff] at h
    obtain ⟨hour, -, minute, -, second, -, h⟩ := h
    split at h
    · exact nomatch h
    · obtain ⟨-, rfl⟩ := Prod.mk.inj (Option.some.inj h)
      exact (readFraction_suffix more).trans (List.suffix_append [a, b, ':', c, d, ':', e, f] more)
  · exact nomatch h

theorem readOffset_suffix (cs : List Char) : (readOffset cs).2 <:+ cs := by
  unfold readOffset
  split
  · exact List.suffix_cons _ _
  · exact List.suffix_cons _ _
  · next sign a b c d rest _ _ =>
    have hrest : rest <:+ sign :: a :: b :: ':' :: c :: d :: rest :=
      List.suffix_append [sign, a, b, ':', c, d] rest
    split
    · dsimp only
      split
      · exact List.suffix_refl _
      · split
        · exact hrest
        · split
          · exact hrest
          · exact List.suffix_refl _
    · exact List.suffix_refl _
  · exact List.suffix_refl _

theorem readDate?_suffix {cs rest : List Char} {d : Calendar.Date}
    (h : readDate? cs = some (d, rest)) : rest <:+ cs := by
  unfold readDate? at h
  split at h
  · next a b c d e f g i more =>
    simp only [bind, Option.bind_eq_some_iff] at h
    obtain ⟨century, -, year, -, month, -, day, -, h⟩ := h
    split at h
    · exact nomatch h
    · obtain ⟨-, rfl⟩ := Prod.mk.inj (Option.some.inj h)
      exact List.suffix_append [a, b, c, d, '-', e, f, '-', g, i] more
  · exact nomatch h

theorem readMoment?_keeps {cs : List Char} {r : Except Stop (Calendar.Moment × List Char)}
    (h : readMoment? cs = some r) : Keeps cs r := by
  rw [readMoment?] at h
  split at h
  · next date rest hdate =>
    have hrest := readDate?_suffix hdate
    obtain rfl := Option.some.inj h
    split
    · exact blames_of_ne (by simp)
    · split
      · exact hrest
      · next time rest' htime =>
        have htime' : rest' <:+ rest := by
          unfold readTimeOfDate? at htime
          split at htime
          · split at htime
            · exact (readTime?_suffix htime).trans (List.suffix_cons _ _)
            · exact nomatch htime
          · exact nomatch htime
        exact (readOffset_suffix rest').trans (htime'.trans hrest)
  · obtain ⟨⟨time, rest⟩, htime, rfl⟩ := Option.map_eq_some_iff.1 h
    exact readTime?_suffix htime

theorem moreDigits_suffix (isDigit : Char → Bool) (cs : List Char) :
    (moreDigits isDigit cs).2 <:+ cs := by
  fun_induction moreDigits isDigit cs with
  | case1 | case2 | case4 | case6 => exact List.suffix_refl _
  | case3 c rest hdigit ds rest' heq ih =>
    rw [heq] at ih
    exact ih.trans (List.suffix_append ['_', c] rest)
  | case5 c rest hend hbar hdigit ds rest' heq ih =>
    rw [heq] at ih
    exact ih.trans (List.suffix_cons _ _)

theorem readDigits?_suffix {isDigit : Char → Bool} {cs ds rest : List Char}
    (h : readDigits? isDigit cs = some (ds, rest)) : rest <:+ cs := by
  unfold readDigits? at h
  split at h
  · split at h
    · obtain ⟨-, rfl⟩ := Prod.mk.inj (Option.some.inj h)
      exact (moreDigits_suffix _ _).trans (List.suffix_cons _ _)
    · exact nomatch h
  · exact nomatch h

theorem readBased?_suffix {cs rest : List Char} {n : Int} (h : readBased? cs = some (n, rest)) :
    rest <:+ cs := by
  unfold readBased? at h
  split at h
  · next letter more =>
    simp only [bind, Option.bind_eq_some_iff] at h
    obtain ⟨base, -, ⟨ds, rest'⟩, hdigits, h⟩ := h
    obtain ⟨-, rfl⟩ := Prod.mk.inj (Option.some.inj h)
    exact (readDigits?_suffix hdigits).trans (List.suffix_append ['0', letter] more)
  · exact nomatch h

theorem splitSign_suffix (cs : List Char) : (splitSign cs).2 <:+ cs := by
  unfold splitSign
  split
  · exact List.suffix_cons _ _
  · exact List.suffix_cons _ _
  · exact List.suffix_refl _

theorem readWhole?_suffix {cs ds rest : List Char} (h : readWhole? cs = some (ds, rest)) :
    rest <:+ cs := by
  unfold readWhole? at h
  split at h
  · obtain ⟨-, rfl⟩ := Prod.mk.inj (Option.some.inj h)
    exact List.suffix_cons _ _
  · exact readDigits?_suffix h

theorem readDecimals?_suffix {cs ds rest : List Char} (h : readDecimals? cs = some (ds, rest)) :
    rest <:+ cs := by
  unfold readDecimals? at h
  split at h
  · exact (readDigits?_suffix h).trans (List.suffix_cons _ _)
  · exact nomatch h

theorem readPower?_suffix {cs rest : List Char} {n : Int} (h : readPower? cs = some (n, rest)) :
    rest <:+ cs := by
  unfold readPower? at h
  split at h
  · next e more =>
    split at h
    · simp only [bind, Option.bind_eq_some_iff] at h
      obtain ⟨⟨ds, rest'⟩, hdigits, h⟩ := h
      obtain ⟨-, rfl⟩ := Prod.mk.inj (Option.some.inj h)
      exact (readDigits?_suffix hdigits).trans ((splitSign_suffix more).trans (List.suffix_cons _ _))
    · exact nomatch h
  · exact nomatch h

theorem getD_suffix {α : Type} {read : List Char → Option (α × List Char)}
    (hread : ∀ {cs a rest}, read cs = some (a, rest) → rest <:+ cs) (cs : List Char) :
    ((read cs).map (·.2)).getD cs <:+ cs := by
  cases hcs : read cs with
  | none => exact List.suffix_refl _
  | some r => exact hread hcs

/-- This is where a number of too many digits is found. -/
theorem readDecimal?_keeps {cs : List Char} {r : Except Stop (Value × List Char)}
    (h : readDecimal? cs = some r) : Keeps cs r := by
  simp only [readDecimal?, bind, Option.bind_eq_some_iff] at h
  obtain ⟨⟨whole, rest⟩, hwhole, h⟩ := h
  have hrest : rest <:+ cs := (readWhole?_suffix hwhole).trans (splitSign_suffix cs)
  have hbehind := (getD_suffix readPower?_suffix _).trans
    ((getD_suffix readDecimals?_suffix rest).trans hrest)
  dsimp only at h
  split at h
  · next hinteger =>
    rw [Bool.and_eq_true, Option.isNone_iff_eq_none, Option.isNone_iff_eq_none] at hinteger
    obtain ⟨hdecimals, hpower⟩ := hinteger
    split at h
    · next hlong =>
      obtain rfl := Option.some.inj h
      intro count hcount
      obtain rfl := Fault.tooManyDigits.inj hcount
      rw [hdecimals] at hpower
      exact ⟨List.suffix_refl _, hlong, whole, rest, hwhole, rfl, hdecimals, hpower⟩
    · obtain rfl := Option.some.inj h
      exact hbehind
  · obtain rfl := Option.some.inj h
    exact hbehind

theorem readNumberWord?_suffix {cs rest : List Char} {v : Value}
    (h : readNumberWord? cs = some (v, rest)) : rest <:+ cs := by
  have hsign := splitSign_suffix cs
  simp only [readNumberWord?] at h
  split at h
  · next more heq =>
    obtain ⟨-, rfl⟩ := Prod.mk.inj (Option.some.inj h)
    rw [heq] at hsign
    exact (List.suffix_append ['i', 'n', 'f'] more).trans hsign
  · next more heq =>
    obtain ⟨-, rfl⟩ := Prod.mk.inj (Option.some.inj h)
    rw [heq] at hsign
    exact (List.suffix_append ['n', 'a', 'n'] more).trans hsign
  · exact nomatch h

theorem readScalar_keeps (cs : List Char) : Keeps cs (readScalar cs) := by
  rw [readScalar]
  split
  · next hmoment => exact (readMoment?_keeps hmoment).map
  · split
    · next hbased => exact readBased?_suffix hbased
    · split
      · next hdecimal => exact readDecimal?_keeps hdecimal
      · split
        · next r hword => exact @readNumberWord?_suffix _ r.2 _ hword
        · exact blames_of_ne (by simp)

/-! Tables -/

def IsOfForm (f : Fault) : Prop := ∀ count, f ≠ .tooManyDigits count

theorem stopAt_keeps {α : Type} {cs rest : List Char} {r : Except Fault α}
    (h : Yields IsOfForm (fun _ => True) r) :
    Yields (Blames cs) (fun _ => True) (stopAt rest r) := by
  cases r with
  | error f => exact blames_of_ne h
  | ok a => exact trivial

theorem change_yields {arrays : Bool} {f : Entries → Except Fault Entries}
    (hf : ∀ entries, Yields IsOfForm (fun _ => True) (f entries)) (key : Key) (entries : Entries) :
    Yields IsOfForm (fun _ => True) (entries.change arrays f key) := by
  induction key generalizing entries with
  | nil => exact hf entries
  | cons name key ih =>
    rw [Entries.change.eq_def]
    dsimp only
    split
    · exact (ih _).andPure
    · exact (ih _).andPure
    · split
      · exact (ih _).andPure
      · exact fun count => by simp
    · exact fun count => by simp

theorem add_yields (name : String) (v : Value) {taken : Fault} (h : IsOfForm taken)
    (entries : Entries) : Yields IsOfForm (fun _ => True) (entries.add name v taken) := by
  rw [Entries.add]
  split
  · exact trivial
  · exact h

theorem addTable_yields (name : String) (entries : Entries) :
    Yields IsOfForm (fun _ => True) (entries.addTable name) := by
  rw [Entries.addTable]
  split
  · exact trivial
  · exact trivial
  · exact fun count => by simp

namespace Sheet

theorem openTable_yields (s : Sheet) (key : Key) :
    Yields IsOfForm (fun _ => True) (s.openTable key) := by
  rw [openTable]
  split
  · exact fun count => by simp
  · have hsame (entries : Entries) : Yields IsOfForm (fun _ => True) (.ok entries) := trivial
    exact (change_yields hsame ..).andPure

theorem openArray_yields (s : Sheet) (key : Key) :
    Yields IsOfForm (fun _ => True) (s.openArray key) := by
  rw [openArray]
  split
  · exact fun count => by simp
  · exact (change_yields (addTable_yields _) ..).andPure

theorem add_yields (s : Sheet) (key : Key) (v : Value) :
    Yields IsOfForm (fun _ => True) (s.add key v) := by
  rw [add]
  refine Yields.bind (R := fun _ => True) ?_ fun marks _ => ?_
  · generalize s.marks = marks
    induction properParts key generalizing marks with
    | nil => exact trivial
    | cons part rest ih =>
      rw [List.foldlM_cons]
      refine Yields.bind (R := fun _ => True) ?_ fun m _ => ih m
      split
      · exact fun count => by simp
      · exact trivial
  · dsimp only
    split
    · exact fun count => by simp
    · exact (change_yields (Toml.add_yields _ _ fun count => by simp) ..).andPure

end Sheet

theorem Inline.add_yields (t : Inline) (key : Key) (v : Value) :
    Yields IsOfForm (fun _ => True) (t.add key v) := by
  rw [Inline.add]
  split
  · exact fun count => by simp
  · exact (change_yields (Toml.add_yields _ _ fun count => by simp) ..).andPure

/-! Values and statements -/

mutual

theorem readValue_keeps (fuel : Nat) (cs : List Char) : Keeps cs (readValue fuel cs) := by
  cases fuel with
  | zero => exact blames_of_ne (by simp)
  | succ fuel =>
    rw [readValue.eq_def]
    dsimp only
    split
    · next hquoted => exact (readQuoted?_keeps hquoted).map (f := fun s => Value.text (String.ofList s))
    · split
      · next rest _ => exact List.suffix_append ['t', 'r', 'u', 'e'] rest
      · next rest _ => exact List.suffix_append ['f', 'a', 'l', 's', 'e'] rest
      · next rest _ =>
        exact ((readItems_keeps fuel rest).mono (List.suffix_cons _ _)).bind fun xs rest =>
          .done (List.suffix_refl _)
      · next rest _ =>
        have hspace := (skipSpace_suffix rest).trans (List.suffix_cons '\x7b' rest)
        split
        · next rest' hrest =>
          rw [hrest] at hspace
          exact (List.suffix_cons _ _).trans hspace
        · exact ((readPairs_keeps fuel {} _).mono hspace).bind fun entries rest =>
            .done (List.suffix_refl _)
      · exact readScalar_keeps cs

theorem readItems_keeps (fuel : Nat) (cs : List Char) : Keeps cs (readItems fuel cs) := by
  cases fuel with
  | zero => exact blames_of_ne (by simp)
  | succ fuel =>
    rw [readItems]
    refine (skipAllLines_keeps cs).bind fun rest hrest => ?_
    split
    · exact (List.suffix_cons _ _).trans hrest
    · refine ((readValue_keeps fuel rest).mono hrest).bind fun x rest => ?_
      refine (skipAllLines_keeps rest).bind fun rest' hrest' => ?_
      split
      · exact (List.suffix_cons _ _).trans hrest'
      · exact ((readItems_keeps fuel _).mono ((List.suffix_cons _ _).trans hrest')).bind
          fun xs rest => .done (List.suffix_refl _)
      · exact blames_of_ne (by simp)

theorem readPairs_keeps (fuel : Nat) (table : Inline) (cs : List Char) :
    Keeps cs (readPairs fuel table cs) := by
  cases fuel with
  | zero => exact blames_of_ne (by simp)
  | succ fuel =>
    rw [readPairs]
    refine (readEquals_keeps cs).bind fun key rest => ?_
    refine (readValue_keeps fuel rest).bind fun v rest => ?_
    refine (stopAt_keeps (table.add_yields key v)).bind fun table _ => ?_
    have hspace := skipSpace_suffix rest
    split
    · next rest' hrest =>
      rw [hrest] at hspace
      exact (List.suffix_cons _ _).trans hspace
    · next rest' hrest =>
      rw [hrest] at hspace
      exact (readPairs_keeps fuel table _).mono
        ((skipSpace_suffix rest').trans ((List.suffix_cons _ _).trans hspace))
    · exact blames_of_ne (by simp)

end

theorem readStatement_keeps (s : Sheet) (cs : List Char) : Keeps cs (readStatement s cs) := by
  rw [readStatement.eq_def]
  split
  · next rest =>
    have hspace := (skipSpace_suffix rest).trans (List.suffix_append ['[', '['] rest)
    refine ((readKey_keeps _).mono hspace).bind fun key rest => ?_
    refine (stopAt_keeps (Sheet.openArray_yields ..)).bind fun s _ => ?_
    split
    · exact List.suffix_append [']', ']'] _
    · exact blames_of_ne (by simp)
  · next rest _ =>
    have hspace := (skipSpace_suffix rest).trans (List.suffix_cons '[' rest)
    refine ((readKey_keeps _).mono hspace).bind fun key rest => ?_
    refine (stopAt_keeps (Sheet.openTable_yields ..)).bind fun s _ => ?_
    split
    · exact List.suffix_cons _ _
    · exact blames_of_ne (by simp)
  · exact List.suffix_refl _
  · split
    · refine (readEquals_keeps _).bind fun key rest => ?_
      refine (readValue_keeps _ rest).bind fun v rest => ?_
      exact (stopAt_keeps (s.add_yields key v)).bind fun s _ => .done (List.suffix_refl _)
    · exact blames_of_ne (by simp)
  · exact List.suffix_refl _

theorem readStatements_blames (fuel : Nat) (s : Sheet) (cs : List Char) :
    Yields (Blames cs) (fun _ => True) (readStatements fuel s cs) := by
  induction fuel generalizing s cs with
  | zero => exact trivial
  | succ fuel ih =>
    have hrest {rest cs' : List Char} (h : '\n' :: rest <:+ cs') (s : Sheet) :
        Yields (Blames cs') (fun _ => True) (readStatements fuel s rest) :=
      (ih s rest).mono (fun _ hs => hs.mono ((List.suffix_cons _ _).trans h)) fun _ h => h
    have hspace := skipSpace_suffix cs
    rw [readStatements]
    split
    · exact trivial
    · next rest heq => exact hrest (heq ▸ hspace) s
    · refine Yields.bind ((readStatement_keeps s _).mono hspace) fun r hr => ?_
      refine Yields.bind (R := fun rest => rest <:+ cs) ?_ fun rest hsuffix => ?_
      · exact (skipComment_keeps _).mono (fun _ h => h.mono ((skipSpace_suffix _).trans hr))
          fun _ h => h.trans ((skipSpace_suffix _).trans hr)
      · split
        · exact trivial
        · exact hrest hsuffix r.1
        · exact blames_of_ne (by simp)

/-- A text that is not read for the number of digits in it has an integer of so many digits, which are
too many. -/
theorem startsOverlong_of_read {cs : List Char} {count : Nat}
    (h : read cs = .error (.tooManyDigits count)) :
    ∃ ahead, ahead <:+ joinLineEnds cs ∧ StartsOverlong count ahead := by
  have hblames := readStatements_blames ((joinLineEnds cs).length + 1) {} (joinLineEnds cs)
  rw [read] at h
  split at h
  · exact nomatch h
  · next count' ahead hstop =>
    obtain rfl := ReadFault.tooManyDigits.inj (Except.error.inj h)
    rw [hstop] at hblames
    exact ⟨ahead, hblames count' rfl⟩
  · exact nomatch Except.error.inj h

end ReleaseMatch.Toml
