import ReleaseMatch.Proofs.Document.Own
import ReleaseMatch.Proofs.Files.Paths
import ReleaseMatch.Proofs.Text.Utf8
import ReleaseMatch.Proofs.Yaml.Misread
set_option autoImplicit false

/-!
# What is not told as a refusal

A condition file that cannot be loaded is refused, with three exceptions that come through as they are:
a null character in the path, bytes that no text is written as, and a text that is misread.
-/
namespace ReleaseMatch.Document

open Text

/-- The file at a path fails otherwise than by a refusal. -/
inductive ComesThrough (tree : Files.Tree) (path : String) : Prop
  | nullCharacter (h : Files.HasNull path)
  | undecodable {bytes : List UInt8} (hread : tree.read path = .ok bytes)
      (h : ∀ cs, Utf8.encode cs ≠ bytes)
  | misread {cs : List Char} (hread : tree.read path = .ok (Utf8.encode cs))
      (h : Yaml.Misread (unifyLines cs))

/-- No escape in the text at a path is for one half of a character. -/
def IsWhole (tree : Files.Tree) (path : String) : Prop :=
  ∀ text ∈ (readFile tree path).toOption, Yaml.hasHalf text = false

instance (tree : Files.Tree) (path : String) : Decidable (IsWhole tree path) :=
  inferInstanceAs (Decidable (∀ text ∈ (readFile tree path).toOption, Yaml.hasHalf text = false))

variable {tree : Files.Tree} {path : String}

theorem comesThrough_iff_of_read {cs : List Char} (hread : tree.read path = .ok (Utf8.encode cs)) :
    ComesThrough tree path ↔ Yaml.Misread (unifyLines cs) := by
  constructor
  · rintro (hnull | ⟨hread', h⟩ | ⟨hread', h⟩)
    · exact absurd (hread.symm.trans (Files.Tree.read_eq_nullCharacter_iff.2 hnull)) (by simp)
    · exact absurd (Except.ok.inj (hread.symm.trans hread')) (h cs)
    · rwa [Utf8.encode_injective (Except.ok.inj (hread.symm.trans hread'))]
  · exact .misread hread

theorem not_comesThrough_of_system {e : Files.Errno} {p : String}
    (hread : tree.read path = .error (.system e p)) : ¬ComesThrough tree path := by
  rintro (hnull | ⟨hread', -⟩ | ⟨hread', -⟩)
  · exact absurd (hread.symm.trans (Files.Tree.read_eq_nullCharacter_iff.2 hnull)) (by simp)
  · exact absurd (hread.symm.trans hread') (by simp)
  · exact absurd (hread.symm.trans hread') (by simp)

theorem readFile_cases (tree : Files.Tree) (path : String) :
    (∃ cs, tree.read path = .ok (Utf8.encode cs) ∧ readFile tree path = .ok (unifyLines cs)) ∨
      ∃ f, readFile tree path = .error f ∧ (f.otherKind.isSome = true ↔ ComesThrough tree path) := by
  rw [readFile]
  cases hread : tree.read path with
  | ok bytes =>
    dsimp only
    cases hdecode : Utf8.decode bytes with
    | ok cs => exact .inl ⟨cs, by rw [Utf8.decode_eq_ok_iff.1 hdecode], rfl⟩
    | error f =>
      have hbytes : ∀ cs, Utf8.encode cs ≠ bytes := by
        intro cs h
        rw [Utf8.decode_eq_ok_iff.2 h] at hdecode
        exact absurd hdecode (by simp)
      exact .inr ⟨_, rfl, iff_of_true rfl (.undecodable hread hbytes)⟩
  | error f =>
    refine .inr ?_
    cases f with
    | nullCharacter =>
      have hnull := Files.Tree.read_eq_nullCharacter_iff.1 hread
      exact ⟨_, rfl, iff_of_true rfl (.nullCharacter hnull)⟩
    | system e p =>
      have hnone := not_comesThrough_of_system hread
      cases e <;> exact ⟨_, rfl, iff_of_false (by simp [FileFault.otherKind]) hnone⟩

theorem readData_otherKind_iff (hwhole : IsWhole tree path) :
    (∃ f, readData tree path = .error f ∧ f.otherKind.isSome = true) ↔ ComesThrough tree path := by
  rw [readData]
  obtain ⟨cs, hread, hfile⟩ | ⟨f, hfile, hkind⟩ := readFile_cases tree path
  · have hhalf : Yaml.hasHalf (unifyLines cs) = false := hwhole _ (toOption_eq_some.2 hfile)
    rw [comesThrough_iff_of_read hread, hfile, ← Yaml.load_otherKind_iff hhalf]
    dsimp only [bind, Except.bind]
    cases Yaml.load (unifyLines cs) with
    | ok v => cases v <;> exact iff_of_false (by rintro ⟨_, h, -⟩; exact nomatch h) (by simp)
    | error g =>
      constructor
      · rintro ⟨f, hf, hkind⟩
        obtain rfl := Except.error.inj hf
        refine ⟨g, rfl, ?_⟩
        by_contra hnone
        rw [if_neg hnone] at hkind
        exact absurd hkind (by simp [FileFault.otherKind])
      · rintro ⟨_, hg, hkind⟩
        obtain rfl := Except.error.inj hg
        exact ⟨_, rfl, by rw [if_pos hkind]; rfl⟩
  · rw [hfile, ← hkind]
    simp [bind, Except.bind]

/-- A condition file without halves fails otherwise than by a refusal exactly in these cases. -/
theorem loadFile_otherKind_iff (hwhole : IsWhole tree path) (defaults : Defaults) :
    (∃ f, (loadFile tree path defaults).result = .error f ∧ f.otherKind.isSome = true) ↔
      ComesThrough tree path := by
  rw [← readData_otherKind_iff hwhole, loadFile]
  cases readData tree path with
  | error f => simp
  | ok data =>
    refine iff_of_false ?_ (by simp)
    rintro ⟨f, hf, hkind⟩
    change (load data defaults).result.mapError FileFault.refused = .error f at hf
    cases hload : (load data defaults).result with
    | ok set =>
      rw [hload] at hf
      cases hf
    | error g =>
      rw [hload] at hf
      obtain rfl := Except.error.inj hf
      exact absurd hkind (by simp [FileFault.otherKind])

end ReleaseMatch.Document
