import ReleaseMatch.Proofs.Files.Paths
set_option autoImplicit false

/-!
# Names that are too long

Whether there is something at a path can be told, unless the path is too long, or a name in it is that can
be reached. What can be read at a path is what is found there.
-/
namespace ReleaseMatch.Files

def Entry.content (path : String) : Entry → Except Fault (List UInt8)
  | .file bytes => .ok bytes
  | .dir => .error (.system .isDirectory path)

namespace Tree

/-- Each name is short enough, and leads further down to a directory. -/
inductive Descends (t : Tree) : Location → List String → Prop
  | nil (l : Location) : Descends t l []
  | cons {l : Location} {name : String} {rest : List String}
      (hshort : name.utf8ByteSize ≤ maxNameBytes) (hdir : t.entry? (stepTo l name) = some .dir)
      (h : Descends t (stepTo l name) rest) : Descends t l (name :: rest)

def origin (t : Tree) (path : String) : Location :=
  if path.toList.head? == some '/' then [] else t.base

/-- The path is too long, or one of its names is that comes behind directories alone. -/
structure TooLong (t : Tree) (path : String) : Prop where
  noNull : ¬HasNull path
  long : maxPathBytes < path.utf8ByteSize ∨ ∃ before name after,
    splitNames path.toList = before ++ name :: after ∧ t.Descends (t.origin path) before ∧
      maxNameBytes < name.utf8ByteSize

theorem walk_eq_nameTooLong_iff {t : Tree} {l : Location} {names : List String} :
    t.walk l names = .error .nameTooLong ↔ ∃ before name after, names = before ++ name :: after ∧
      t.Descends l before ∧ maxNameBytes < name.utf8ByteSize := by
  induction names generalizing l with
  | nil =>
    refine iff_of_false (by simp [walk]) ?_
    rintro ⟨before, name, after, hnames, -⟩
    exact absurd hnames (by simp)
  | cons name rest ih =>
    rw [walk]
    by_cases hlong : maxNameBytes < name.utf8ByteSize
    · rw [if_pos hlong]
      exact iff_of_true rfl ⟨[], name, rest, rfl, .nil l, hlong⟩
    · -- The long name comes later, behind this one.
      have hbehind : (∃ before name' after, name :: rest = before ++ name' :: after ∧
          t.Descends l before ∧ maxNameBytes < name'.utf8ByteSize) ↔
          t.entry? (stepTo l name) = some .dir ∧ ∃ before name' after,
            rest = before ++ name' :: after ∧ t.Descends (stepTo l name) before ∧
              maxNameBytes < name'.utf8ByteSize := by
        constructor
        · rintro ⟨before, name', after, hnames, hdown, hname'⟩
          cases hdown with
          | nil =>
            obtain ⟨rfl, -⟩ := List.cons.inj hnames
            exact absurd hname' hlong
          | cons hshort hdir h =>
            obtain ⟨rfl, hrest⟩ := List.cons.inj hnames
            exact ⟨hdir, _, name', after, hrest, h, hname'⟩
        · rintro ⟨hdir, before, name', after, rfl, hdown, hname'⟩
          exact ⟨name :: before, name', after, rfl, .cons (Nat.le_of_not_lt hlong) hdir hdown, hname'⟩
      rw [if_neg hlong, hbehind, ← ih]
      cases rest with
      | nil => simp [walk]
      | cons next more =>
        dsimp only
        cases t.entry? (stepTo l name) with
        | none => simp
        | some e => cases e <;> simp

theorem splitNames_nil : splitNames [] = [] := rfl

theorem locate_eq_nameTooLong_iff {t : Tree} {path : String} :
    t.locate path = .error .nameTooLong ↔ maxPathBytes < path.utf8ByteSize ∨
      ∃ before name after, splitNames path.toList = before ++ name :: after ∧
        t.Descends (t.origin path) before ∧ maxNameBytes < name.utf8ByteSize := by
  rw [← walk_eq_nameTooLong_iff, locate]
  by_cases hempty : path = ""
  · subst hempty
    simp [splitNames_nil, walk, maxPathBytes]
  · rw [if_neg hempty]
    by_cases hlong : maxPathBytes < path.utf8ByteSize
    · rw [if_pos hlong]
      exact iff_of_true rfl (.inl hlong)
    · rw [if_neg hlong, or_iff_right hlong]
      rw [origin]
      cases t.walk (if path.toList.head? == some '/' then [] else t.base)
        (splitNames path.toList) with
      | error e => rfl
      | ok l =>
        refine iff_of_false ?_ (by simp)
        dsimp only
        split
        · split <;> simp
        · simp

section

variable {t : Tree} {path : String}

theorem holds_of_tooLong (h : t.TooLong path) :
    t.holds path = .error (.system .nameTooLong path) := by
  have hlocate := locate_eq_nameTooLong_iff.2 h.long
  rw [holds, find, onPath_of_not_hasNull h.noNull, hlocate]
  rfl

theorem holds_of_not_tooLong (h : ¬t.TooLong path) :
    t.holds path = .ok (t.find path).toOption.isSome := by
  cases hfind : t.find path with
  | ok e => rw [holds, hfind]; rfl
  | error f =>
    rw [holds, hfind]
    cases f with
    | nullCharacter => rfl
    | system e p =>
      have hnull : ¬HasNull path := by
        intro hnull
        rw [find, onPath_of_hasNull hnull] at hfind
        cases hfind
      cases e with
      | nameTooLong =>
        refine absurd ⟨hnull, locate_eq_nameTooLong_iff.1 ?_⟩ h
        rw [find, onPath_of_not_hasNull hnull] at hfind
        cases hlocate : t.locate path with
        | error e =>
          rw [hlocate] at hfind
          obtain ⟨rfl, -⟩ := Fault.system.inj (Except.error.inj hfind)
          rfl
        | ok l =>
          rw [hlocate] at hfind
          cases hentry : t.entry? l <;> simp [bind, Except.bind, hentry] at hfind <;> cases hfind
      | _ => rfl

theorem read_of_find {e : Entry} (h : t.find path = .ok e) : t.read path = e.content path := by
  have hnull : ¬HasNull path := by
    intro hnull
    rw [find, onPath_of_hasNull hnull] at h
    cases h
  rw [find, onPath_of_not_hasNull hnull] at h
  rw [read, onPath_of_not_hasNull hnull]
  cases hlocate : t.locate path with
  | error e =>
    rw [hlocate] at h
    cases h
  | ok l =>
    rw [hlocate] at h
    cases hentry : t.entry? l with
    | none =>
      simp only [bind, Except.bind, hentry] at h
      cases h
    | some e' =>
      simp only [bind, Except.bind, hentry] at h ⊢
      obtain rfl := Except.ok.inj h
      cases e' <;> rfl

end

end Tree
end ReleaseMatch.Files
