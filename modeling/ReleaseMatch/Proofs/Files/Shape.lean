import ReleaseMatch.Files.Tree
set_option autoImplicit false

/-!
# The shape of a tree

Where a path leads depends on what is a file and what is a directory, and not on what is in the files.
So trees of one shape answer alike, and they stay of one shape when the same is made in both.
-/
namespace ReleaseMatch.Files

def Entry.emptied : Entry → Entry
  | .file _ => .file []
  | .dir => .dir

namespace Tree

def outlineAt (t : Tree) (l : Location) : Option Entry :=
  match t.entry? l with
  | some e => some e.emptied
  | none => none

/-- The same files and directories; what is in the files may differ. -/
structure SameShape (t t' : Tree) : Prop where
  base : t'.base = t.base
  baseText : t'.baseText = t.baseText
  outline (l : Location) : t'.outlineAt l = t.outlineAt l

/-! Making entries -/

section

variable {entries : List (Location × Entry)} {l l' : Location} (e : Entry)

theorem lookup_replace_of_ne (h : l' ≠ l) :
    (entries.map fun row => if row.1 = l then (l, e) else row).lookup l' = entries.lookup l' := by
  induction entries with
  | nil => rfl
  | cons row rest ih =>
    obtain ⟨key, value⟩ := row
    rw [List.map_cons]
    by_cases hkey : key = l
    · subst hkey
      rw [if_pos rfl, List.lookup_cons, List.lookup_cons, beq_eq_false_iff_ne.2 h]
      exact ih
    · rw [if_neg hkey, List.lookup_cons, List.lookup_cons, ih]

theorem lookup_replace_self (h : entries.any (·.1 = l) = true) :
    (entries.map fun row => if row.1 = l then (l, e) else row).lookup l = some e := by
  induction entries with
  | nil => simp at h
  | cons row rest ih =>
    obtain ⟨key, value⟩ := row
    rw [List.map_cons]
    by_cases hkey : key = l
    · rw [if_pos hkey, List.lookup_cons, beq_self_eq_true]
    · rw [List.any_cons, decide_eq_false hkey, Bool.false_or] at h
      rw [if_neg hkey, List.lookup_cons, beq_eq_false_iff_ne.2 fun heq => hkey heq.symm]
      exact ih h

theorem lookup_eq_none_of_any (h : entries.any (·.1 = l) = false) : entries.lookup l = none := by
  rw [List.lookup_eq_none_iff]
  intro row hrow
  have hne : ¬row.1 = l := of_decide_eq_false (Bool.eq_false_iff.2 (List.any_eq_false.1 h row hrow))
  exact bne_iff_ne.2 fun heq => hne heq.symm

end

theorem lookup_put (t : Tree) (l l' : Location) (e : Entry) : (t.put l e).entries.lookup l' =
    if l' = l then some e else t.entries.lookup l' := by
  rw [put]
  cases hany : t.entries.any (·.1 = l) with
  | true =>
    rw [if_pos rfl]
    split
    · next heq => rw [heq, lookup_replace_self e hany]
    · next hne => exact lookup_replace_of_ne e hne
  | false =>
    rw [if_neg (by simp), List.lookup_append]
    split
    · next heq => simp [heq, lookup_eq_none_of_any hany]
    · next hne => simp [List.lookup_cons, beq_eq_false_iff_ne.2 hne]

theorem base_put (t : Tree) (l : Location) (e : Entry) : (t.put l e).base = t.base := by
  rw [put]
  split <;> rfl

theorem entry_put_of_ne (t : Tree) {l l' : Location} (e : Entry) (h : l' ≠ l) :
    entry? (t.put l e) l' = t.entry? l' := by
  unfold entry?
  rw [base_put, lookup_put, if_neg h]

theorem entry_put_self {t : Tree} {l : Location} (h : t.entry? l ≠ some .dir) (e : Entry) :
    entry? (t.put l e) l = some e := by
  unfold entry? at h ⊢
  rw [base_put]
  split at h
  · exact absurd rfl h
  · next hprefix => rw [if_neg hprefix, lookup_put, if_pos rfl]

theorem baseText_put (t : Tree) (l : Location) (e : Entry) :
    (t.put l e).baseText = t.baseText := by
  rw [put]
  split <;> rfl

theorem outlineAt_eq (t : Tree) (l : Location) : t.outlineAt l =
    if l.isPrefixOf t.base then some .dir else (t.entries.lookup l).map Entry.emptied := by
  unfold outlineAt entry?
  cases l.isPrefixOf t.base with
  | true => rfl
  | false => cases t.entries.lookup l <;> rfl

theorem outlineAt_put (t : Tree) (l l' : Location) (e : Entry) : (t.put l e).outlineAt l' =
    if l'.isPrefixOf t.base then some .dir
    else if l' = l then some e.emptied else t.outlineAt l' := by
  rw [outlineAt_eq, base_put, lookup_put, outlineAt_eq]
  cases l'.isPrefixOf t.base with
  | true => rfl
  | false => by_cases hl : l' = l <;> simp [hl]

namespace SameShape

theorem of_lookup {t t' : Tree} (hbase : t'.base = t.base) (htext : t'.baseText = t.baseText)
    (h : ∀ l, (t'.entries.lookup l).map Entry.emptied = (t.entries.lookup l).map Entry.emptied) :
    t.SameShape t' where
  base := hbase
  baseText := htext
  outline l := by rw [outlineAt_eq, outlineAt_eq, hbase, h l]

variable {t t' : Tree} (h : t.SameShape t')

include h

theorem put (l : Location) (e : Entry) : (t.put l e).SameShape (t'.put l e) where
  base := by rw [base_put, base_put, h.base]
  baseText := by rw [baseText_put, baseText_put, h.baseText]
  outline l' := by rw [outlineAt_put, outlineAt_put, h.base, h.outline l']

theorem entry_cases (l : Location) : t.entry? l = none ∧ t'.entry? l = none ∨
    t.entry? l = some .dir ∧ t'.entry? l = some .dir ∨
    ∃ bytes bytes', t.entry? l = some (.file bytes) ∧ t'.entry? l = some (.file bytes') := by
  have houtline := h.outline l
  unfold outlineAt at houtline
  cases he : t.entry? l with
  | none =>
    cases he' : t'.entry? l with
    | none => exact .inl ⟨rfl, rfl⟩
    | some e' => simp [he, he'] at houtline
  | some e =>
    cases he' : t'.entry? l with
    | none => simp [he, he'] at houtline
    | some e' =>
      simp only [he, he', Option.some.injEq] at houtline
      cases e <;> cases e'
      case file.file bytes bytes' => exact .inr (.inr ⟨bytes, bytes', rfl, rfl⟩)
      case dir.dir => exact .inr (.inl ⟨rfl, rfl⟩)
      all_goals simp [Entry.emptied] at houtline

/-! Paths -/

theorem walk_eq (l : Location) (names : List String) : t'.walk l names = t.walk l names := by
  induction names generalizing l with
  | nil => rfl
  | cons name rest ih =>
    rw [walk, walk]
    cases rest with
    | nil => rfl
    | cons next rest =>
      split
      · rfl
      · rcases h.entry_cases (stepTo l name) with
          ⟨heq, heq'⟩ | ⟨heq, heq'⟩ | ⟨bytes, bytes', heq, heq'⟩
        · simp only [heq, heq']
        · simp only [heq, heq', ih]
        · simp only [heq, heq']

theorem locate_eq (path : String) : t'.locate path = t.locate path := by
  rw [locate, locate, h.base, h.walk_eq]
  split
  · rfl
  · split
    · rfl
    · cases t.walk (if path.toList.head? == some '/' then [] else t.base)
          (splitNames path.toList) with
      | error e => rfl
      | ok l =>
        rcases h.entry_cases l with ⟨heq, heq'⟩ | ⟨heq, heq'⟩ | ⟨bytes, bytes', heq, heq'⟩
        · simp only [heq, heq']
        · simp only [heq, heq']
        · simp only [heq, heq']

theorem isDir_eq (path : String) : t'.isDir path = t.isDir path := by
  rw [isDir, isDir, find, find, onPath, onPath, h.locate_eq]
  by_cases hnull : path.toList.contains '\x00' = true
  · rw [if_pos hnull, if_pos hnull]
  · rw [if_neg hnull, if_neg hnull]
    cases t.locate path with
    | error e => rfl
    | ok l =>
      simp only [bind, Except.bind]
      rcases h.entry_cases l with ⟨heq, heq'⟩ | ⟨heq, heq'⟩ | ⟨bytes, bytes', heq, heq'⟩
      · simp only [heq, heq']
      · simp only [heq, heq']
      · simp only [heq, heq']
        rfl

theorem absoluteNames_eq (p : Path) : t'.absoluteNames p = t.absoluteNames p := by
  rw [absoluteNames, absoluteNames, h.base]

theorem absoluteText_eq (p : Path) : t'.absoluteText p = t.absoluteText p := by
  rw [absoluteText, absoluteText, h.absoluteNames_eq, h.base, h.baseText]

/-! Directories and files -/

theorem makeDir (path : String) :
    (∃ f, t.makeDir path = .error f ∧ t'.makeDir path = .error f) ∨
      ∃ s s', t.makeDir path = .ok s ∧ t'.makeDir path = .ok s' ∧ s.SameShape s' := by
  rw [Tree.makeDir, Tree.makeDir, onPath, onPath, h.locate_eq]
  split
  · exact .inl ⟨_, rfl, rfl⟩
  · cases t.locate path with
    | error e => exact .inl ⟨_, rfl, rfl⟩
    | ok l =>
      simp only [bind, Except.bind]
      rcases h.entry_cases l with ⟨heq, heq'⟩ | ⟨heq, heq'⟩ | ⟨bytes, bytes', heq, heq'⟩
      · simp only [heq, heq']
        exact .inr ⟨_, _, rfl, rfl, h.put l .dir⟩
      · simp only [heq, heq']
        exact .inl ⟨_, rfl, rfl⟩
      · simp only [heq, heq']
        exact .inl ⟨_, rfl, rfl⟩

theorem excused (f : Fault) (path : String) :
    let r := if t.isDir path then (t, none) else (t, some f)
    let r' := if t'.isDir path then (t', none) else (t', some f)
    r.1.SameShape r'.1 ∧ r'.2 = r.2 := by
  rw [h.isDir_eq]
  split
  · exact ⟨h, rfl⟩
  · exact ⟨h, rfl⟩

omit h in
/-- What goes wrong on the way to a directory goes wrong in both, and what is made is made in both. -/
theorem makeDirs (h : t.SameShape t') (fuel : Nat) (p : Path) :
    (t.makeDirs fuel p).1.SameShape (t'.makeDirs fuel p).1 ∧
      (t'.makeDirs fuel p).2 = (t.makeDirs fuel p).2 := by
  induction fuel generalizing p with
  | zero =>
    rw [Tree.makeDirs.eq_def, Tree.makeDirs.eq_def t']
    rcases h.makeDir p.text with ⟨f, heq, heq'⟩ | ⟨s, s', heq, heq', hshape⟩
    · simp only [heq, heq']
      split
      · next hok => exact absurd hok (by simp)
      · exact ⟨h, rfl⟩
      · next hf =>
        obtain rfl := Except.error.inj hf
        exact h.excused _ _
    · simp only [heq, heq', and_true]
      exact hshape
  | succ fuel ih =>
    rw [Tree.makeDirs.eq_def, Tree.makeDirs.eq_def t']
    rcases h.makeDir p.text with ⟨f, heq, heq'⟩ | ⟨s, s', heq, heq', hshape⟩
    · simp only [heq, heq']
      split
      · next hok => exact absurd hok (by simp)
      · obtain ⟨habove, hfault⟩ := ih p.parent
        generalize t.makeDirs fuel p.parent = r, t'.makeDirs fuel p.parent = r' at habove hfault
        obtain ⟨s, fault⟩ := r
        obtain ⟨s', fault'⟩ := r'
        dsimp only at habove hfault
        subst hfault
        cases fault' with
        | some f => exact ⟨habove, rfl⟩
        | none =>
          dsimp only
          rcases habove.makeDir p.text with ⟨f, heq, heq'⟩ | ⟨u, u', heq, heq', hshape⟩
          · simp only [heq, heq']
            exact habove.excused f _
          · simp only [heq, heq', and_true]
            exact hshape
      · next hf =>
        obtain rfl := Except.error.inj hf
        exact h.excused _ _
    · simp only [heq, heq', and_true]
      exact hshape

theorem openEnd (names : List String) (shown : String) :
    (∃ f, t.openEnd names shown = .error f ∧ t'.openEnd names shown = .error f) ∨
      ∃ l s s', t.openEnd names shown = .ok (l, s) ∧ t'.openEnd names shown = .ok (l, s') ∧
        s.SameShape s' := by
  rw [Tree.openEnd, Tree.openEnd, onPath, onPath, h.walk_eq]
  split
  · exact .inl ⟨_, rfl, rfl⟩
  · by_cases hlong : maxPathBytes < shown.utf8ByteSize
    · rw [if_pos hlong, if_pos hlong]
      exact .inl ⟨_, rfl, rfl⟩
    · rw [if_neg hlong, if_neg hlong]
      cases t.walk [] names with
      | error e => exact .inl ⟨_, rfl, rfl⟩
      | ok l =>
        simp only [bind, Except.bind, pure, Except.pure]
        rcases h.entry_cases l with ⟨heq, heq'⟩ | ⟨heq, heq'⟩ | ⟨bytes, bytes', heq, heq'⟩
        · simp only [heq, heq']
          exact .inr ⟨l, _, _, rfl, rfl, h.put l (.file [])⟩
        · simp only [heq, heq']
          exact .inl ⟨_, rfl, rfl⟩
        · simp only [heq, heq']
          exact .inr ⟨l, _, _, rfl, rfl, h⟩

end SameShape
end Tree
end ReleaseMatch.Files
