import ReleaseMatch.Pattern.Match
set_option autoImplicit false

/-!
# Places of a text

A place of a text has a number of characters before it and the rest after it. Reading never leaves
the text, and the characters other than a line feed that follow a place are the ones a dot can pass.
-/
namespace ReleaseMatch.Pattern

open Text

namespace Place

def of (cs : List Char) (i : Nat) : Place := ⟨i, (cs.take i).reverse, cs.drop i⟩

def Within (cs : List Char) (p : Place) : Prop := ∃ i ≤ cs.length, p = of cs i

theorem within_of {cs : List Char} {i : Nat} (h : i ≤ cs.length) : (of cs i).Within cs :=
  ⟨i, h, rfl⟩

theorem start_eq_of (cs : List Char) : start cs = of cs 0 := by simp [start, of]

@[simp] theorem of_offset (cs : List Char) (i : Nat) : (of cs i).offset = i := rfl

@[simp] theorem of_after (cs : List Char) (i : Nat) : (of cs i).after = cs.drop i := rfl

theorem of_inj {cs : List Char} {i j : Nat} : of cs i = of cs j ↔ i = j := by
  constructor
  · intro h
    exact congrArg offset h
  · rintro rfl
    rfl

theorem of_succ {cs : List Char} {i : Nat} (h : i < cs.length) :
    of cs (i + 1) = ⟨i + 1, cs[i] :: (of cs i).before, cs.drop (i + 1)⟩ := by
  rw [of, List.take_succ_eq_append_getElem h, List.reverse_append]
  rfl

theorem forward_of {cs : List Char} {i : Nat} (h : i < cs.length) :
    (of cs i).forward = some (cs[i], of cs (i + 1)) := by
  rw [forward, of_after, List.drop_eq_getElem_cons h, of_succ h]
  rfl

theorem forward_of_length_le {cs : List Char} {i : Nat} (h : cs.length ≤ i) :
    (of cs i).forward = none := by
  simp [forward, of, List.drop_eq_nil_of_le h]

theorem backward_of_succ {cs : List Char} {i : Nat} (h : i < cs.length) :
    (of cs (i + 1)).backward = some (cs[i], of cs i) := by
  simp only [backward, of_succ h, ← List.drop_eq_getElem_cons h]
  rfl

theorem backward_of_zero (cs : List Char) : (of cs 0).backward = none := by
  simp [backward, of]

theorem isStart_of {cs : List Char} {i : Nat} (h : i ≤ cs.length) :
    (of cs i).isStart = true ↔ i = 0 := by
  rw [isStart, of, List.isEmpty_reverse, List.isEmpty_iff, List.take_eq_nil_iff]
  constructor
  · rintro (rfl | rfl)
    · rfl
    · simpa using h
  · exact .inl

theorem isEnd_of {cs : List Char} {i : Nat} (h : i ≤ cs.length) :
    (of cs i).isEnd = true ↔ i = cs.length := by
  rw [isEnd, of_after, List.isEmpty_iff, List.drop_eq_nil_iff]
  omega

theorem lastLineEnd_of {cs : List Char} {i : Nat} (hcs : '\n' ∉ cs) (h : i ≤ cs.length) :
    Anchor.holds (of cs i) .lastLineEnd = true ↔ i = cs.length := by
  have hafter : (of cs i).after ≠ ['\n'] := by
    intro e
    exact hcs (List.mem_of_mem_drop (by rw [← of_after, e]; exact List.mem_singleton_self _))
  rw [Anchor.holds, Bool.or_eq_true, isEnd_of h, beq_iff_eq]
  exact or_iff_left hafter

/-- A place of the text that reading can come to from another one: never an earlier one when the
text is read forwards. -/
structure Leads (text : List Char) (backwards : Bool) (p q : Place) : Prop where
  within : q.Within text
  onward : backwards = false → p.offset ≤ q.offset

namespace Leads

variable {text : List Char} {backwards : Bool} {p q r : Place} {c : Char}

theorem refl (hp : p.Within text) : Leads text backwards p p := ⟨hp, fun _ => Nat.le_refl _⟩

theorem trans (hpq : Leads text backwards p q) (hqr : Leads text backwards q r) :
    Leads text backwards p r :=
  ⟨hqr.within, fun hb => Nat.le_trans (hpq.onward hb) (hqr.onward hb)⟩

theorem of_step (hp : p.Within text) (h : p.step backwards = some (c, q)) :
    Leads text backwards p q := by
  obtain ⟨i, hi, rfl⟩ := hp
  cases backwards with
  | false =>
    by_cases hlt : i < text.length
    · rw [Place.step, if_neg Bool.false_ne_true, forward_of hlt] at h
      obtain ⟨-, rfl⟩ := by simpa using h
      exact ⟨within_of hlt, fun _ => Nat.le_succ i⟩
    · rw [Place.step, if_neg Bool.false_ne_true, forward_of_length_le (by omega)] at h
      exact absurd h (by simp)
  | true =>
    cases i with
    | zero =>
      rw [Place.step, if_pos rfl, backward_of_zero] at h
      exact absurd h (by simp)
    | succ i =>
      rw [Place.step, if_pos rfl, backward_of_succ (by omega)] at h
      obtain ⟨-, rfl⟩ := by simpa using h
      exact ⟨within_of (by omega), fun hb => absurd hb (by simp)⟩

theorem of_readChars {same : Char → Char → Bool} {cs : List Char} (hp : p.Within text)
    (h : readChars same backwards cs p = some q) : Leads text backwards p q := by
  induction cs generalizing p with
  | nil =>
    obtain rfl : p = q := by simpa [readChars] using h
    exact .refl hp
  | cons c cs ih =>
    rw [readChars] at h
    split at h
    · next d r hr =>
      have hstep := of_step hp hr
      split at h
      · exact hstep.trans (ih hstep.within h)
      · exact absurd h (by simp)
    · exact absurd h (by simp)

theorem of_readFolded {cs left : List Char} (hp : p.Within text)
    (h : readFolded backwards cs left p = some q) : Leads text backwards p q := by
  fun_induction readFolded backwards cs left p with
  | case1 p =>
    obtain rfl : p = q := by simpa using h
    exact .refl hp
  | case3 p c cs d left hsame ih => exact ih hp h
  | case7 p c cs e r hr d left hfold hsame ih =>
    have hstep := of_step hp hr
    exact hstep.trans (ih hstep.within h)
  | case2 | case4 | case5 | case6 | case8 => exact absurd h (by simp)

theorem of_readLiteral {mode : CaseMode} {cs : List Char} (hp : p.Within text)
    (h : readLiteral mode backwards cs p = some q) : Leads text backwards p q := by
  cases mode with
  | exact => exact of_readChars hp h
  | simple => exact of_readChars hp h
  | full => exact of_readFolded hp h

theorem of_mem_reach {test : Char → Bool} {ahead : List Char} {most : Option Nat}
    {found : List Place} (hp : p.Within text) (hfound : ∀ r ∈ found, Leads text backwards r p)
    (h : q ∈ reach test backwards ahead most p found) :
    Leads text backwards p q ∨ q ∈ found := by
  induction ahead generalizing most p found with
  | nil =>
    refine (List.mem_cons.1 h).imp_left ?_
    rintro rfl
    exact .refl hp
  | cons c ahead ih =>
    have hall : q ∈ p :: found → Leads text backwards p q ∨ q ∈ found := by
      intro hq
      refine (List.mem_cons.1 hq).imp_left ?_
      rintro rfl
      exact .refl hp
    rw [reach] at h
    split at h
    · exact hall h
    · split at h
      · next d r hr =>
        split at h
        · have hstep := of_step hp hr
          have hfound' : ∀ p' ∈ p :: found, Leads text backwards p' r := by
            intro p' hp'
            rcases List.mem_cons.1 hp' with rfl | hp'
            · exact hstep
            · exact (hfound p' hp').trans hstep
          exact (ih hstep.within hfound' h).elim (fun hq => .inl (hstep.trans hq)) hall
        · exact hall h
      · exact hall h

end Leads
end Place
end ReleaseMatch.Pattern
