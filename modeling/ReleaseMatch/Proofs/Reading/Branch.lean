import ReleaseMatch.Proofs.Reading.Ahead
import ReleaseMatch.Proofs.Reading.Joining
set_option autoImplicit false

/-!
# Alternatives with flags of their own

Texts with bars between them are read as alternatives. A flag in front of one of them is no part of it
alone: it goes on to hold in the alternatives behind it.
-/
namespace ReleaseMatch.Pattern

/-- An alternative: a body, with a flag in front if it ignores case, and what the body is read as where
letters are compared as they are and where they are not. -/
structure Branch where
  ignoresCase : Bool
  body : List Char
  nodes : Bool → List Node
  spells : ∀ sensitive, Spells sensitive body (nodes sensitive)

theorem Reader.steps_bar {r : Reader} {rest : List Char} (hv : r.isVerbose = false)
    (hr : r.rest = '|' :: rest) (hg : r.groups = []) :
    PlainSteps r { r with rest, level := r.level.split } := by
  refine .of_cons hv hr ?_ (Nat.le_refl _) rfl
  simp only [readChar, bar, hg]

namespace Branch

def text (b : Branch) : List Char := (flagOf !b.ignoresCase).toList ++ b.body

def textOf (bs : List Branch) : List Char := ['|'].intercalate (bs.map text)

def nodesOf : Bool → List Branch → List Node
  | _, [] => []
  | outer, b :: bs =>
    let sensitive := outer && !b.ignoresCase
    .ofList (b.nodes sensitive) :: nodesOf sensitive bs

variable {outer : Bool} {flags : Flags} {rest : List Char}

theorem textOf_cons_cons (b c : Branch) (bs : List Branch) :
    textOf (b :: c :: bs) = b.text ++ '|' :: textOf (c :: bs) := by
  rw [textOf, List.map_cons, List.map_cons, List.intercalate_cons_cons, List.append_assoc]
  rfl

theorem exists_steps (b : Branch) (hflags : flags.Alike (caseFlags outer)) (as : List Node)
    (hrest : IsPlainEnd rest) :
    ∃ flags' : Flags, flags'.Alike (caseFlags (outer && !b.ignoresCase)) ∧ ∃ l : Level,
      l.alternatives = as ∧ l.sequence.join = .ofList (b.nodes (outer && !b.ignoresCase)) ∧
      Reader.PlainSteps { rest := b.text ++ rest, flags, level := { alternatives := as } }
        { rest, flags := flags', level := l } := by
  obtain ⟨items, hread, hjoins⟩ := b.spells (outer && !b.ignoresCase)
  obtain ⟨flags', hflags', hsteps⟩ := hread.behind
    { rest := b.text ++ rest, flags, level := { alternatives := as } } rest hflags rfl hrest
  refine ⟨flags', hflags', _, rfl, ?_, hsteps⟩
  have hsequence : (Level.gain { alternatives := as } items).sequence =
      .ofList (items.filterMap id) := by
    simp [Level.gain, Level.sequence]
  rw [Reader.gain, hsequence, join_ofList hjoins]

theorem exists_steps_textOf {bs : List Branch} (hne : bs ≠ []) :
    ∀ {outer : Bool} {flags : Flags} (as : List Node), flags.Alike (caseFlags outer) →
      ∃ (flags' : Flags) (sensitive : Bool) (l : Level), flags'.Alike (caseFlags sensitive) ∧
        l.branches = as.reverse.map Node.join ++ nodesOf outer bs ∧
        Reader.PlainSteps { rest := textOf bs, flags, level := { alternatives := as } }
          { rest := [], flags := flags', level := l } := by
  -- A flag goes on to hold behind the bar, so flags and alternatives before are free in the induction.
  induction bs with
  | nil => exact absurd rfl hne
  | cons b bs ih =>
    intro outer flags as hflags
    cases bs with
    | nil =>
      obtain ⟨flags', hflags', l, has, hsequence, hsteps⟩ := b.exists_steps hflags as isPlainEnd_nil
      refine ⟨flags', _, l, hflags', ?_, by simpa [textOf] using hsteps⟩
      rw [Level.branches, has, List.map_append, List.map_singleton, hsequence]
      rfl
    | cons c bs =>
      have hplain : IsPlainEnd ('|' :: textOf (c :: bs)) := isPlainEnd_cons (by decide)
      obtain ⟨flags', hflags', l, has, hsequence, hsteps⟩ := b.exists_steps hflags as hplain
      obtain ⟨flags'', sensitive, l', hflags'', hbranches, hrest⟩ :=
        ih (List.cons_ne_nil c bs) (l.sequence :: as) hflags'
      have hbar : Reader.PlainSteps { rest := '|' :: textOf (c :: bs), flags := flags', level := l } _ :=
        Reader.steps_bar (Reader.isVerbose_of_flags hflags') rfl rfl
      refine ⟨flags'', sensitive, l', hflags'', ?_, ?_⟩
      · rw [hbranches, List.reverse_cons, List.map_append, List.map_singleton, hsequence,
          List.append_assoc]
        rfl
      · rw [textOf_cons_cons]
        subst has
        exact (hsteps.trans hbar).trans hrest

theorem read_textOf {bs : List Branch} (hne : bs ≠ []) :
    Regex.read (textOf bs) = .ok (.ofNodes [.alternatives (nodesOf true bs)]) := by
  have hstandard : Flags.standard.Alike (caseFlags true) := .of_eq rfl
  obtain ⟨flags, sensitive, l, hflags, hbranches, hsteps⟩ := exists_steps_textOf hne [] hstandard
  rw [Regex.read_of_steps hsteps.toSteps rfl rfl rfl List.not_mem_nil (mixesEncodings_of_alike hflags),
    Level.join_node, hbranches]
  rfl

theorem mem_nodesOf_iff {bs : List Branch} {n : Node} :
    n ∈ nodesOf outer bs ↔ ∃ before b after, bs = before ++ b :: after ∧
      n = .ofList (b.nodes (outer && before.all (!·.ignoresCase) && !b.ignoresCase)) := by
  induction bs generalizing outer with
  | nil => simp [nodesOf]
  | cons b bs ih =>
    rw [nodesOf, List.mem_cons, ih]
    constructor
    · rintro (rfl | ⟨before, c, after, rfl, rfl⟩)
      · exact ⟨[], b, bs, rfl, by simp⟩
      · exact ⟨b :: before, c, after, rfl, by simp [Bool.and_assoc]⟩
    · rintro ⟨before, c, after, hbs, rfl⟩
      cases before with
      | nil =>
        obtain ⟨rfl, rfl⟩ := List.cons.inj hbs
        exact .inl (by simp)
      | cons first before =>
        obtain ⟨rfl, rfl⟩ := List.cons.inj hbs
        exact .inr ⟨before, c, after, rfl, by simp [Bool.and_assoc]⟩

end Branch
end ReleaseMatch.Pattern
