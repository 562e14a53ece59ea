import ReleaseMatch.Proofs.Text.Case
set_option autoImplicit false

/-!
# Lengths of foldings

Every character is folded to something, and characters that are the same letter are folded to equally
many. So a text that differs from another one at most in case, letter by letter, is folded to as many
characters.
-/
namespace ReleaseMatch.Text

namespace Case

theorem mem_of_listed {n : Nat} {rows : List (Nat × List Nat)} {image : List Nat}
    (h : listed n rows = some image) : (n, image) ∈ rows := by
  induction rows with
  | nil => exact absurd h (by simp [listed])
  | cons row rest ih =>
    obtain ⟨m, found⟩ := row
    rw [listed] at h
    split at h
    · next heq =>
      obtain rfl := Option.some.inj h
      exact heq ▸ List.mem_cons_self
    · exact List.mem_cons_of_mem _ (ih h)

/-- How many characters a code point is folded to for matching. -/
def spread (n : Nat) : Nat :=
  if n = 0x130 then 1
  else match listed n longFolds with
    | some image => image.length
    | none => 1

/-- Whether a run sends a code point to one that is folded to equally many, if it sends it anywhere. -/
def Run.isEven (run : Run) (n : Nat) : Bool :=
  (run.image? n).all fun image => spread image == spread n

/-- Stretches of code points outside of which nothing is folded to several characters. -/
def bands : List (Nat × Nat) :=
  [(0xDF, 0xDF), (0x130, 0x130), (0x149, 0x149), (0x1F0, 0x1F0), (0x390, 0x3B0), (0x587, 0x587),
    (0x1E96, 0x1FFC), (0xFB00, 0xFB17)]

def Run.meets (run : Run) (band : Nat × Nat) : Bool :=
  band.1 ≤ run.last && run.first ≤ band.2 ||
    band.1 ≤ run.image + (run.last - run.first) && run.image ≤ band.2

theorem mem_longFolds : ∀ row ∈ longFolds,
    row.2 ≠ [] ∧ ∃ band ∈ bands, band.1 ≤ row.1 ∧ row.1 ≤ band.2 := by
  decide +kernel

theorem spread_of_not_listed {n : Nat} (h : ∀ row ∈ longFolds, row.1 ≠ n) : spread n = 1 := by
  rw [spread]
  split
  · rfl
  · split
    · next image himage => exact absurd rfl (h _ (mem_of_listed himage))
    · rfl

theorem spread_of_outside {n : Nat} (h : ∀ band ∈ bands, n < band.1 ∨ band.2 < n) : spread n = 1 :=
  spread_of_not_listed fun row hrow heq => by
    obtain ⟨band, hband, hlow, hhigh⟩ := (mem_longFolds row hrow).2
    have := h band hband
    omega

/-- Whether the images of a run are code points of characters, and the run is even at all code points
listed and at those that it sends there. Only a run that meets a band has to be looked at for this. -/
def Run.isSound (run : Run) : Bool :=
  (run.image + (run.last - run.first) < 0xD800 ||
    0xDFFF < run.image && run.image + (run.last - run.first) < 0x110000) &&
  bands.all fun band => !run.meets band || longFolds.all fun row =>
    run.isEven row.1 && (row.1 < run.image || run.isEven (run.first + (row.1 - run.image)))

theorem isSound_of_mem : ∀ run ∈ foldRuns, run.isSound = true := by
  decide +kernel

theorem mapped_foldRuns {n : Nat} (hn : n.isValidChar) : (mapped n foldRuns).isValidChar := by
  obtain heq | ⟨run, hmem, himage⟩ := mapped_cases n foldRuns
  · rwa [heq]
  · obtain ⟨hfirst, hlast, heq⟩ := Run.of_image? himage
    have hsound := isSound_of_mem run hmem
    simp only [Run.isSound, Bool.and_eq_true, Bool.or_eq_true, decide_eq_true_eq] at hsound
    have hvalid := hsound.1
    rw [Nat.isValidChar]
    omega

theorem isEven_of_meets {run : Run} (hrun : run ∈ foldRuns) {band : Nat × Nat} (hband : band ∈ bands)
    (hmeets : run.meets band = true) {row : Nat × List Nat} (hrow : row ∈ longFolds) :
    run.isEven row.1 = true ∧
      (run.image ≤ row.1 → run.isEven (run.first + (row.1 - run.image)) = true) := by
  have hsound := (Bool.and_eq_true_iff.1 (isSound_of_mem run hrun)).2
  have heven := List.all_eq_true.1 hsound band hband
  rw [hmeets, Bool.not_true, Bool.false_or] at heven
  have hboth := Bool.and_eq_true_iff.1 (List.all_eq_true.1 heven row hrow)
  refine ⟨hboth.1, fun hle => ?_⟩
  simpa [Nat.not_lt.2 hle] using hboth.2

theorem spread_image {run : Run} (hrun : run ∈ foldRuns) {n image : Nat}
    (h : run.image? n = some image) : spread image = spread n := by
  obtain ⟨hfirst, hlast, himage⟩ := Run.of_image? h
  have heven (heven : run.isEven n = true) : spread image = spread n := by
    rw [Run.isEven, h] at heven
    exact eq_of_beq heven
  by_cases hlisted : ∃ row ∈ longFolds, row.1 = n ∨ row.1 = image
  · obtain ⟨row, hrow, hor⟩ := hlisted
    obtain ⟨band, hband, hlow, hhigh⟩ := (mem_longFolds row hrow).2
    have hmeets : run.meets band = true := by
      simp only [Run.meets, Bool.or_eq_true, Bool.and_eq_true, decide_eq_true_eq]
      omega
    obtain ⟨hsource, hsent⟩ := isEven_of_meets hrun hband hmeets hrow
    rcases hor with rfl | heq
    · exact heven hsource
    · have hn : run.first + (row.1 - run.image) = n := by omega
      exact heven (hn ▸ hsent (by omega))
  · have hnone := not_exists.1 hlisted
    rw [spread_of_not_listed fun row hrow heq => hnone row ⟨hrow, .inl heq⟩,
      spread_of_not_listed fun row hrow heq => hnone row ⟨hrow, .inr heq⟩]

theorem spread_mapped (n : Nat) : spread (mapped n foldRuns) = spread n := by
  obtain heq | ⟨run, hrun, himage⟩ := mapped_cases n foldRuns
  · rw [heq]
  · exact spread_image hrun himage

end Case

theorem length_matchFold (c : Char) : (matchFold c).length = Case.spread c.toNat := by
  rw [matchFold, Case.spread]
  by_cases hdot : c = 'İ'
  · rw [hdot]
    rfl
  · rw [if_neg fun h : c.toNat = 0x130 => hdot (Char.toNat_inj.1 h)]
    split
    · next hc =>
      obtain rfl : c = 'I' := by simpa [hdot] using hc
      exact (Case.spread_of_outside (n := 0x49) (by decide)).symm
    · rw [fold]
      split <;> simp [*]

theorem length_matchFold_of_simpleFold {a b : Char} (h : simpleFold a = simpleFold b) :
    (matchFold a).length = (matchFold b).length := by
  have hroot (c : Char) : (matchFold c).length = Case.spread (simpleFold c).toNat := by
    have hvalid := Case.mapped_foldRuns (n := c.toNat) c.valid
    rw [simpleFold, toNat_ofNat hvalid, Case.spread_mapped, length_matchFold]
  rw [hroot a, hroot b, h]

theorem length_matchFold_of_sameLetter {a b : Char} (h : sameLetter a b = true) :
    (matchFold a).length = (matchFold b).length := by
  simp only [sameLetter, Bool.or_eq_true, beq_iff_eq] at h
  rcases h with (rfl | h) | h
  · rfl
  · exact length_matchFold_of_simpleFold h
  · simp only [sameDot, Bool.or_eq_true, Bool.and_eq_true, beq_iff_eq] at h
    have hdotted : (matchFold 'i').length = 1 :=
      (length_matchFold 'i').trans (Case.spread_of_outside (n := 0x69) (by decide))
    have hdotless : (matchFold 'ı').length = 1 :=
      (length_matchFold 'ı').trans (Case.spread_of_outside (n := 0x131) (by decide))
    rcases h with ((⟨rfl, rfl⟩ | ⟨rfl, rfl⟩) | ⟨rfl, rfl⟩) | ⟨rfl, rfl⟩
    · exact hdotless.symm
    · exact hdotless
    · exact hdotted
    · exact hdotted.symm

theorem matchFold_ne_nil (c : Char) : matchFold c ≠ [] := by
  rw [matchFold]
  split
  · simp
  · rw [fold]
    split
    · next image himage =>
      rw [ne_eq, List.map_eq_nil_iff]
      exact (Case.mem_longFolds _ (Case.mem_of_listed himage)).1
    · simp

/-! Texts -/

def foldedLength (cs : List Char) : Nat := (cs.flatMap matchFold).length

theorem foldedLength_append (cs ds : List Char) :
    foldedLength (cs ++ ds) = foldedLength cs + foldedLength ds := by
  rw [foldedLength, List.flatMap_append, List.length_append]
  rfl

theorem foldedLength_cons (c : Char) (cs : List Char) :
    foldedLength (c :: cs) = (matchFold c).length + foldedLength cs := by
  rw [foldedLength, List.flatMap_cons, List.length_append]
  rfl

theorem foldedLength_eq_zero {cs : List Char} : foldedLength cs = 0 ↔ cs = [] := by
  cases cs with
  | nil => exact iff_of_true rfl rfl
  | cons c cs =>
    have hpos := List.length_pos_iff.2 (matchFold_ne_nil c)
    rw [foldedLength_cons]
    exact iff_of_false (by omega) (List.cons_ne_nil _ _)

end ReleaseMatch.Text
