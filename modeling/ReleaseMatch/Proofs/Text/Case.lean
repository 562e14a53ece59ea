import ReleaseMatch.Text.Case
set_option autoImplicit false

/-!
# Lower case and folding

Lowering a text and folding it differ, but not where lowering leaves ASCII alone: the only characters
that become ASCII by it are the capitals of ASCII and the sign for kelvin, and folding does the same to
these.
-/
namespace ReleaseMatch.Text

namespace Case

theorem mapped_cases (n : Nat) (runs : List Run) :
    mapped n runs = n ∨ ∃ run ∈ runs, run.image? n = some (mapped n runs) := by
  induction runs with
  | nil => exact .inl rfl
  | cons run rest ih =>
    rw [mapped]
    split
    · exact .inl rfl
    · cases himage : run.image? n with
      | some image => exact .inr ⟨run, by simp, himage⟩
      | none =>
        obtain h | ⟨run', hmem, himage'⟩ := ih
        · exact .inl h
        · exact .inr ⟨run', by simp [hmem], himage'⟩

theorem Run.of_image? {run : Run} {n image : Nat} (h : run.image? n = some image) :
    run.first ≤ n ∧ n ≤ run.last ∧ image = run.image + (n - run.first) := by
  rw [Run.image?] at h
  split at h
  · next hin =>
    simp only [Bool.and_eq_true, decide_eq_true_eq] at hin
    exact ⟨hin.1.1, hin.1.2, (Option.some.inj h).symm⟩
  · exact absurd h (by simp)

/-- The images of a run are code points of characters, none of them that of the dotted capital `I`, and
beyond ASCII unless the run is in it or is that of the sign for kelvin. -/
theorem mem_lowerRuns : ∀ run ∈ lowerRuns,
    (run.image + (run.last - run.first) < 0xD800 ∨
      0xDFFF < run.image ∧ run.image + (run.last - run.first) < 0x110000) ∧
    (0x130 < run.image ∨ run.image + (run.last - run.first) < 0x130) ∧
    (127 < run.image ∨ run.last < 128 ∨ run.first = 8490 ∧ run.last = 8490) := by
  decide +kernel

theorem mapped_lowerRuns {n : Nat} (hn : n.isValidChar) :
    (mapped n lowerRuns).isValidChar ∧ (mapped n lowerRuns < 128 → n < 128 ∨ n = 8490) := by
  obtain heq | ⟨run, hmem, himage⟩ := mapped_cases n lowerRuns
  · rw [heq]
    exact ⟨hn, .inl⟩
  · obtain ⟨hfirst, hlast, heq⟩ := Run.of_image? himage
    obtain ⟨hvalid, -, hascii⟩ := mem_lowerRuns run hmem
    refine ⟨?_, fun h => ?_⟩
    · rw [Nat.isValidChar]
      omega
    · omega

end Case

def isAscii (c : Char) : Bool := c.toNat < 128

theorem toNat_ofNat {n : Nat} (h : n.isValidChar) : (Char.ofNat n).toNat = n := by
  rw [Char.ofNat, dif_pos h]
  rfl

theorem not_mem_lower (c : Char) : 'İ' ∉ lower c := by
  rw [lower]
  split
  · decide
  · next hc =>
    rw [List.mem_singleton]
    intro heq
    have hvalid := (Case.mapped_lowerRuns (n := c.toNat) c.valid).1
    have hcode : Case.mapped c.toNat Case.lowerRuns = 0x130 := by
      rw [← toNat_ofNat hvalid, ← heq]
      rfl
    obtain hsame | ⟨run, hmem, hrun⟩ := Case.mapped_cases c.toNat Case.lowerRuns
    · exact hc (Char.toNat_inj.1 (hsame.symm.trans hcode))
    · obtain ⟨hfirst, hlast, hsent⟩ := Case.Run.of_image? hrun
      have := (Case.mem_lowerRuns run hmem).2.1
      omega

theorem fold_eq_lower_of_lt :
    (∀ n < 128, fold (Char.ofNat n) = lower (Char.ofNat n)) ∧ fold '\u212A' = lower '\u212A' := by
  decide +kernel

theorem fold_eq_lower {c : Char} (h : ∀ d ∈ lower c, isAscii d = true) : fold c = lower c := by
  have hc : c = Char.ofNat c.toNat := (Char.ofNat_toNat c).symm
  rw [lower] at h
  split at h
  · exact absurd (h '\u0307' (by simp)) (by decide)
  · obtain ⟨hvalid, hascii⟩ := Case.mapped_lowerRuns (n := c.toNat) c.valid
    have hlt := h _ (List.mem_singleton_self _)
    rw [isAscii, decide_eq_true_eq, toNat_ofNat hvalid] at hlt
    obtain hsmall | hkelvin := hascii hlt
    · rw [hc]
      exact fold_eq_lower_of_lt.1 _ hsmall
    · obtain rfl : c = '\u212A' := by rw [hc, hkelvin]
      exact fold_eq_lower_of_lt.2

theorem folded_eq_lowered {s : String} (h : (lowered s).toList.all isAscii = true) :
    folded s = lowered s := by
  rw [lowered, String.toList_ofList, List.all_eq_true] at h
  have hmap : s.toList.map fold = s.toList.map lower := List.map_congr_left fun c hc =>
    fold_eq_lower fun d hd => h d (List.mem_flatMap.2 ⟨c, hc, hd⟩)
  rw [folded, lowered, List.flatMap_def, List.flatMap_def, hmap]

end ReleaseMatch.Text
