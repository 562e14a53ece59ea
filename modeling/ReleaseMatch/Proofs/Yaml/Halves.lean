import ReleaseMatch.Proofs.Yaml.Cursor
set_option autoImplicit false

/-!
# Halves of characters

An escape may be for a code that is one half of a pair. Such a half is no character, and a text that holds
one cannot be written out; what becomes of it depends on where in the document it stands. Where there is no
such escape, each escape for a code stands for the character with that code, if there is one.
-/
namespace ReleaseMatch.Yaml

/-- The code in the escape that a text starts with. -/
def escapeCode? : List Char → Option Nat
  | '\\' :: letter :: digits =>
    match codeLength? letter with
    | some count => (hexNumber count 0 digits).toOption
    | none => none
  | _ => none

def hasHalf : List Char → Bool
  | [] => false
  | c :: cs => (escapeCode? (c :: cs)).any isHalf || hasHalf cs

theorem hasHalf_iff {text : List Char} : hasHalf text = true ↔
    ∃ tail code, tail <:+ text ∧ escapeCode? tail = some code ∧ isHalf code = true := by
  induction text with
  | nil =>
    refine iff_of_false (by simp [hasHalf]) ?_
    rintro ⟨tail, code, hsuffix, hcode, -⟩
    rw [List.suffix_nil.1 hsuffix] at hcode
    exact nomatch hcode
  | cons c cs ih =>
    rw [hasHalf, Bool.or_eq_true, ih, Option.any_eq_true]
    constructor
    · rintro (⟨code, hcode, hhalf⟩ | ⟨tail, code, hsuffix, hcode⟩)
      · exact ⟨c :: cs, code, List.suffix_rfl, hcode, hhalf⟩
      · exact ⟨tail, code, hsuffix.trans (List.suffix_cons c cs), hcode⟩
    · rintro ⟨tail, code, hsuffix, hcode, hhalf⟩
      rcases List.suffix_cons_iff.1 hsuffix with rfl | hsuffix
      · exact .inl ⟨code, hcode, hhalf⟩
      · exact .inr ⟨tail, code, hsuffix, hcode, hhalf⟩

theorem codeChar?_of_not_half {code : Nat} (h : isHalf code = false) (following : List Char) :
    codeChar? code following = some (Char.ofNat code, 0) := by
  unfold codeChar?
  rw [h, Bool.not_false, if_pos rfl]

theorem isHalf_of_codeChar? {code : Nat} {following : List Char} (h : codeChar? code following = none) :
    isHalf code = true := by
  cases hhalf : isHalf code with
  | true => rfl
  | false =>
    rw [codeChar?_of_not_half hhalf] at h
    exact nomatch h

theorem escapeCode?_of_rest {c : Cursor} {letters : List Char} {count code : Nat} (hrest : c.rest = '\\' :: letters)
    (hlength : codeLength? c.advance.peek = some count) (hcode : hexNumber count 0 c.advance.advance.rest = .ok code) :
    escapeCode? c.rest = some code := by
  have hletters : c.advance.rest = letters := by rw [Cursor.rest_advance, hrest, List.tail_cons]
  cases letters with
  | nil =>
    rw [Cursor.peek_eq, hletters] at hlength
    exact nomatch hlength
  | cons letter digits =>
    rw [Cursor.peek_of_rest hletters] at hlength
    rw [Cursor.rest_advance, hletters, List.tail_cons] at hcode
    simp [hrest, escapeCode?, hlength, hcode, Except.toOption]

end ReleaseMatch.Yaml
