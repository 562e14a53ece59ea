import Mathlib.Logic.Basic
import ReleaseMatch.Proofs.Files.Shape
set_option autoImplicit false

/-!
# What paths lead to

What is done at a path with a null character in it ends in a fault of its own, before anything else is
looked at. Without one there are only faults of the system. So making directories ends in that fault
exactly if there is a null character in the path. A file that is opened to write at its end is the one
that the path leads to once the dots in it are taken back.
-/
namespace ReleaseMatch.Files

section

variable {c : Char}

theorem mem_intercalate (sep : List Char) (hsep : c ∉ sep) (parts : List (List Char)) :
    c ∈ sep.intercalate parts ↔ ∃ part ∈ parts, c ∈ part := by
  induction parts with
  | nil => simp
  | cons part rest ih =>
    cases rest with
    | nil => simp
    | cons next rest =>
      rw [List.intercalate_cons_cons, List.mem_append, List.mem_append, ih]
      simp [hsep]

theorem Path.mem_text (hslash : c ≠ '/') (hdot : c ≠ '.') (p : Path) :
    c ∈ p.text.toList ↔ c ∈ p.root.toList ∨ ∃ name ∈ p.names, c ∈ name.toList := by
  have hjoined : c ∈ (p.root ++ "/".intercalate p.names).toList ↔
      c ∈ p.root.toList ∨ ∃ name ∈ p.names, c ∈ name.toList := by
    rw [String.toList_append, List.mem_append, String.toList_intercalate,
      mem_intercalate _ (by simpa using hslash)]
    simp only [List.mem_map, exists_exists_and_eq_and]
  rw [← hjoined, text]
  split
  · next hempty =>
    rw [hempty]
    simp [hdot]
  · rfl

theorem Path.mem_text_of_parent (hslash : c ≠ '/') (hdot : c ≠ '.') {p : Path}
    (h : c ∈ p.parent.text.toList) : c ∈ p.text.toList := by
  rw [mem_text hslash hdot] at h ⊢
  exact h.imp_right fun ⟨name, hname, hc⟩ => ⟨name, List.dropLast_subset _ hname, hc⟩

end

def HasNull (s : String) : Prop := '\x00' ∈ s.toList

namespace Tree

section

variable {α : Type} {path : String} {r : Except Errno α}

theorem onPath_of_hasNull (h : HasNull path) : onPath path r = .error .nullCharacter := by
  rw [onPath, if_pos (List.contains_iff_mem.2 h)]

theorem onPath_of_not_hasNull (h : ¬HasNull path) :
    onPath path r = r.mapError (Fault.system · path) := by
  rw [onPath, if_neg fun hnull => h (List.contains_iff_mem.1 hnull)]

theorem onPath_eq_nullCharacter_iff : onPath path r = .error .nullCharacter ↔ HasNull path := by
  by_cases hnull : HasNull path
  · exact iff_of_true (onPath_of_hasNull hnull) hnull
  · refine iff_of_false (fun h => ?_) hnull
    rw [onPath_of_not_hasNull hnull] at h
    cases r with
    | error e => exact absurd (Except.error.inj h) (by simp)
    | ok a => cases h

end

theorem read_eq_nullCharacter_iff {t : Tree} {path : String} :
    t.read path = .error .nullCharacter ↔ HasNull path := onPath_eq_nullCharacter_iff

theorem isDir_of_hasNull {path : String} (h : HasNull path) (t : Tree) : t.isDir path = false := by
  rw [isDir, find, onPath_of_hasNull h]

theorem makeDir_cases (t : Tree) (path : String) :
    (∃ l, t.makeDir path = .ok (t.put l .dir) ∧ ¬HasNull path) ∨
      (∃ e, t.makeDir path = .error (.system e path) ∧ ¬HasNull path) ∨
      t.makeDir path = .error .nullCharacter ∧ HasNull path := by
  by_cases hnull : HasNull path
  · exact .inr (.inr ⟨onPath_of_hasNull hnull, hnull⟩)
  · rw [makeDir, onPath_of_not_hasNull hnull]
    cases t.locate path with
    | error e => exact .inr (.inl ⟨e, rfl, hnull⟩)
    | ok l =>
      cases hentry : t.entry? l with
      | none => exact .inl ⟨l, by simp [hentry, bind, Except.bind]; rfl, hnull⟩
      | some e => exact .inr (.inl ⟨.exists_, by simp [hentry, bind, Except.bind]; rfl, hnull⟩)

theorem not_hasNull_of_missing {t : Tree} {path : String} {e : Errno}
    (h : t.makeDir path = .error (.system e path)) : ¬HasNull path := by
  intro hnull
  rw [makeDir, onPath_of_hasNull hnull] at h
  exact absurd h (by simp)

/-- What making directories comes to: the working directory is the same as before, and the fault is about
a null character exactly if there is one in the path. -/
structure MadeDirs (t : Tree) (p : Path) (r : Tree × Option Fault) : Prop where
  base : r.1.base = t.base
  baseText : r.1.baseText = t.baseText
  fault : r.2 = some .nullCharacter ↔ HasNull p.text

section

variable {t t' : Tree} {p : Path} (hbase : t'.base = t.base) (htext : t'.baseText = t.baseText)

include hbase htext

theorem madeDirs_made (hnull : ¬HasNull p.text) : MadeDirs t p (t', none) :=
  ⟨hbase, htext, iff_of_false (by simp) hnull⟩

theorem madeDirs_excused {f : Fault} (hfault : f = .nullCharacter ↔ HasNull p.text) :
    MadeDirs t p (if t'.isDir p.text then (t', none) else (t', some f)) := by
  split
  · next hdir =>
    refine madeDirs_made hbase htext fun hnull => ?_
    rw [isDir_of_hasNull hnull] at hdir
    exact absurd hdir (by simp)
  · exact ⟨hbase, htext, by simpa using hfault⟩

end

theorem madeDirs_here {t : Tree} {p : Path} (fuel : Nat)
    (h : t.makeDir p.text ≠ .error (.system .notFound p.text)) : MadeDirs t p (t.makeDirs fuel p) := by
  rw [makeDirs.eq_def]
  obtain ⟨l, hmade, hnull⟩ | ⟨e, hfault, hnull⟩ | ⟨hfault, hnull⟩ := t.makeDir_cases p.text
  · simp only [hmade]
    exact madeDirs_made (base_put ..) (baseText_put ..) hnull
  · have hsystem (e : Errno) : Fault.system e p.text = .nullCharacter ↔ HasNull p.text :=
      iff_of_false (by simp) hnull
    cases e with
    | notFound => exact absurd hfault h
    | _ =>
      simp only [hfault]
      exact madeDirs_excused rfl rfl (hsystem _)
  · simp only [hfault]
    exact madeDirs_excused rfl rfl (iff_of_true rfl hnull)

theorem madeDirs (t : Tree) (fuel : Nat) (p : Path) : MadeDirs t p (t.makeDirs fuel p) := by
  induction fuel generalizing p with
  | zero =>
    by_cases hmissing : t.makeDir p.text = .error (.system .notFound p.text)
    · rw [makeDirs.eq_def]
      simp only [hmissing]
      exact ⟨rfl, rfl, iff_of_false (by simp) (not_hasNull_of_missing hmissing)⟩
    · exact madeDirs_here 0 hmissing
  | succ fuel ih =>
    by_cases hmissing : t.makeDir p.text = .error (.system .notFound p.text)
    · have hnull := not_hasNull_of_missing hmissing
      obtain ⟨hbase, htext, hfault⟩ := ih p.parent
      rw [makeDirs.eq_def]
      simp only [hmissing]
      generalize t.makeDirs fuel p.parent = r at hbase htext hfault
      obtain ⟨t', f⟩ := r
      cases f with
      | some f =>
        refine ⟨hbase, htext, iff_of_false (fun heq => hnull ?_) hnull⟩
        exact Path.mem_text_of_parent (by decide) (by decide) (hfault.1 heq)
      | none =>
        dsimp only
        obtain ⟨l, hmade, -⟩ | ⟨e, hfault, -⟩ | ⟨-, hnull'⟩ := t'.makeDir_cases p.text
        · simp only [hmade]
          exact madeDirs_made ((base_put ..).trans hbase) ((baseText_put ..).trans htext) hnull
        · simp only [hfault]
          exact madeDirs_excused hbase htext (iff_of_false (by simp) hnull)
        · exact absurd hnull' hnull
    · exact madeDirs_here _ hmissing

theorem absoluteNames_makeDirs (t : Tree) (fuel : Nat) (p q : Path) :
    (t.makeDirs fuel p).1.absoluteNames q = t.absoluteNames q := by
  rw [absoluteNames, absoluteNames, (t.madeDirs fuel p).base]

theorem absoluteText_makeDirs (t : Tree) (fuel : Nat) (p q : Path) :
    (t.makeDirs fuel p).1.absoluteText q = t.absoluteText q := by
  obtain ⟨hbase, htext, -⟩ := t.madeDirs fuel p
  rw [absoluteText, absoluteText, absoluteNames_makeDirs, hbase, htext]

end Tree

/-! Where an open file is -/

theorem Path.dots_not_mem_foldDots (names : List String) : ".." ∉ foldDots names := by
  have hdone (done : List String) (h : ".." ∉ done) : ".." ∉ names.foldl (fun done name =>
      if name = ".." then done.tail else name :: done) done := by
    induction names generalizing done with
    | nil => exact h
    | cons name rest ih =>
      rw [List.foldl_cons]
      refine ih _ ?_
      split
      · exact fun hmem => h (List.mem_of_mem_tail hmem)
      · next hname => simpa [Ne.symm hname] using h
  rw [foldDots, List.mem_reverse]
  exact hdone [] (by simp)

namespace Tree

variable {t : Tree}

theorem walk_eq_ok {l l' : Location} {names : List String} (hdots : ".." ∉ names)
    (h : t.walk l names = .ok l') : l' = l ++ names := by
  induction names generalizing l with
  | nil => simpa [walk] using h.symm
  | cons name rest ih =>
    have hname : ".." ≠ name := fun heq => hdots (heq ▸ List.mem_cons_self)
    rw [walk, stepTo, if_neg (Ne.symm hname)] at h
    split at h
    · exact absurd h (by simp)
    · cases rest with
      | nil => exact (Except.ok.inj h).symm
      | cons next rest =>
        dsimp only at h
        split at h
        · rw [ih (fun hmem => hdots (List.mem_cons_of_mem _ hmem)) h, List.append_assoc]
          rfl
        · exact absurd h (by simp)
        · exact absurd h (by simp)

theorem short_of_walk {l l' : Location} {names : List String} (h : t.walk l names = .ok l') :
    ∀ name ∈ names, name.utf8ByteSize ≤ maxNameBytes := by
  induction names generalizing l with
  | nil => exact fun name hname => absurd hname List.not_mem_nil
  | cons name rest ih =>
    rw [walk] at h
    split at h
    · exact absurd h (by simp)
    · next hlong =>
      refine List.forall_mem_cons.2 ⟨Nat.le_of_not_lt hlong, ?_⟩
      cases rest with
      | nil => exact fun name hname => absurd hname List.not_mem_nil
      | cons next rest =>
        dsimp only at h
        split at h
        · exact ih h
        · exact absurd h (by simp)
        · exact absurd h (by simp)

/-- An open file is where its path leads, and no part of the path is too long. -/
structure OpensEnd (t : Tree) (p : Path) (shown : String) (l : Location) (t' : Tree) : Prop where
  location : l = t.absoluteNames p
  file : ∃ bytes, t'.entry? l = some (.file bytes)
  shortPath : shown.utf8ByteSize ≤ maxPathBytes
  shortNames : ∀ name ∈ l, name.utf8ByteSize ≤ maxNameBytes

theorem opensEnd_of_openEnd {l : Location} {t' : Tree} {p : Path} {shown : String}
    (h : t.openEnd (t.absoluteNames p) shown = .ok (l, t')) : t.OpensEnd p shown l t' := by
  by_cases hnull : HasNull shown
  · rw [openEnd, onPath_of_hasNull hnull] at h
    exact absurd h (by simp)
  · rw [openEnd, onPath_of_not_hasNull hnull] at h
    split at h
    · cases h
    next hlong =>
    cases hwalk : t.walk [] (t.absoluteNames p) with
    | error e =>
      rw [hwalk] at h
      cases h
    | ok l' =>
      obtain rfl : l' = t.absoluteNames p := walk_eq_ok (Path.dots_not_mem_foldDots _) hwalk
      have hshort := short_of_walk hwalk
      rw [hwalk] at h
      simp only [bind, Except.bind, pure, Except.pure] at h
      cases hentry : t.entry? (t.absoluteNames p) with
      | none =>
        rw [hentry] at h
        obtain ⟨rfl, rfl⟩ := Prod.mk.inj (Except.ok.inj h)
        exact ⟨rfl, ⟨[], entry_put_self (by simp [hentry]) _⟩, Nat.le_of_not_lt hlong, hshort⟩
      | some e =>
        rw [hentry] at h
        cases e with
        | dir => cases h
        | file bytes =>
          obtain ⟨rfl, rfl⟩ := Prod.mk.inj (Except.ok.inj h)
          exact ⟨rfl, ⟨bytes, hentry⟩, Nat.le_of_not_lt hlong, hshort⟩

end Tree
end ReleaseMatch.Files
