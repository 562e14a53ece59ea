import ReleaseMatch.Pattern.Class
import ReleaseMatch.Proofs.Text.Case
set_option autoImplicit false

/-!
# Case in ASCII

Within ASCII two characters are the same letter exactly when they are lowered to the same one, and no
character is folded to more than one.
-/
namespace ReleaseMatch.Text

theorem of_isAscii {p : Char → Prop} (h : ∀ n < 128, p (Char.ofNat n)) {c : Char}
    (hc : isAscii c = true) : p c := by
  have hp := h c.toNat (of_decide_eq_true hc)
  rwa [Char.ofNat_toNat] at hp

section

variable {c d : Char}

/-- What a character is folded to for matching, as long as it is one character. -/
def foldOne (c : Char) : Char := if c = 'I' then c else simpleFold c

/-- A character is folded as lowering does, to a small letter or nowhere, and stays in words. -/
def FoldsPlainly (c : Char) : Prop :=
  (lower c = [simpleFold c] ∧ matchFold c = [foldOne c]) ∧
    (simpleFold (simpleFold c) = simpleFold c ∧ isAscii (simpleFold c) = true) ∧
    Pattern.isWord (simpleFold c) = Pattern.isWord c ∧
    (simpleFold c = c ∨ (simpleFold c).isLower = true) ∧
    (c.isLower = true → hasCase c = true)

instance : Decidable (FoldsPlainly c) := inferInstanceAs (Decidable (_ ∧ _))

theorem foldsPlainly_of_isAscii (hc : isAscii c = true) : FoldsPlainly c :=
  of_isAscii (p := FoldsPlainly) (by decide +kernel) hc

theorem lower_of_isAscii (hc : isAscii c = true) : lower c = [simpleFold c] :=
  (foldsPlainly_of_isAscii hc).1.1

theorem matchFold_of_isAscii (hc : isAscii c = true) : matchFold c = [foldOne c] :=
  (foldsPlainly_of_isAscii hc).1.2

theorem simpleFold_simpleFold_of_isAscii (hc : isAscii c = true) :
    simpleFold (simpleFold c) = simpleFold c :=
  (foldsPlainly_of_isAscii hc).2.1.1

theorem isAscii_simpleFold (hc : isAscii c = true) : isAscii (simpleFold c) = true :=
  (foldsPlainly_of_isAscii hc).2.1.2

theorem isWord_simpleFold (hc : isAscii c = true) :
    Pattern.isWord (simpleFold c) = Pattern.isWord c :=
  (foldsPlainly_of_isAscii hc).2.2.1

theorem simpleFold_cases (hc : isAscii c = true) :
    simpleFold c = c ∨ (simpleFold c).isLower = true :=
  (foldsPlainly_of_isAscii hc).2.2.2.1

theorem hasCase_of_isLower (hc : isAscii c = true) : c.isLower = true → hasCase c = true :=
  (foldsPlainly_of_isAscii hc).2.2.2.2

theorem sameDot_of_isAscii (hd : isAscii d = true) (hc : isAscii c = true) : sameDot c d = false := by
  have hno {a b : Char} (ha : isAscii a = true) (hb : isAscii b = false) : (a == b) = false := by
    rw [beq_eq_false_iff_ne]
    rintro rfl
    rw [ha] at hb
    exact nomatch hb
  have hdotted : isAscii 'İ' = false := by decide
  have hdotless : isAscii 'ı' = false := by decide
  simp [sameDot, hno hc hdotted, hno hc hdotless, hno hd hdotted, hno hd hdotless]

theorem sameLetter_of_isAscii (hc : isAscii c = true) (hd : isAscii d = true) :
    sameLetter c d = decide (simpleFold c = simpleFold d) := by
  by_cases h : simpleFold c = simpleFold d
  · simp [sameLetter, h]
  · have hne : c ≠ d := fun heq => h (congrArg simpleFold heq)
    simp [sameLetter, h, hne, sameDot_of_isAscii hd hc]

theorem isAscii_foldOne (hc : isAscii c = true) : isAscii (foldOne c) = true := by
  rw [foldOne]
  split
  · exact hc
  · exact isAscii_simpleFold hc

theorem simpleFold_foldOne (hc : isAscii c = true) : simpleFold (foldOne c) = simpleFold c := by
  rw [foldOne]
  split
  · rfl
  · exact simpleFold_simpleFold_of_isAscii hc

theorem hasCase_of_simpleFold_ne (h : simpleFold c ≠ c) : hasCase c = true := by
  have hmem : simpleFold c ∈ (variants c).tail := by
    simp [variants, h]
  have hlen := List.length_pos_of_mem hmem
  rw [List.length_tail] at hlen
  rw [hasCase, decide_eq_true_eq]
  omega

/-- A character without case is the only one of its letter. -/
theorem eq_of_simpleFold_eq (hc : isAscii c = true) (hd : isAscii d = true) (hcase : hasCase c = false)
    (h : simpleFold c = simpleFold d) : c = d := by
  have hfold : simpleFold c = c := Decidable.byContradiction fun hne => by
    rw [hasCase_of_simpleFold_ne hne] at hcase
    exact nomatch hcase
  rw [hfold] at h
  rcases simpleFold_cases hd with hself | hsmall
  · rw [h, hself]
  · rw [← h] at hsmall
    rw [hasCase_of_isLower hc hsmall] at hcase
    exact nomatch hcase

end

theorem toList_lowered_of_isAscii {s : String} (h : s.toList.all isAscii = true) :
    (lowered s).toList = s.toList.map simpleFold := by
  rw [List.all_eq_true] at h
  rw [lowered, String.toList_ofList, List.flatMap_def,
    List.map_congr_left fun c hc => lower_of_isAscii (h c hc), ← List.flatMap_def]
  exact List.map_eq_flatMap.symm

end ReleaseMatch.Text
