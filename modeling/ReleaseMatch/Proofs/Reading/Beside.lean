import Mathlib.Data.List.Forall2
import ReleaseMatch.Proofs.Reading.Ahead
import ReleaseMatch.Proofs.Reading.Outline
set_option autoImplicit false

/-!
# A pattern among others

A pattern is read by itself and among others in the same steps. The flags around it may lead to other
nodes, which are empty where they would be by themselves. The numbers of its groups go on from those
before it, which matters only where groups are referred to.
-/
namespace ReleaseMatch.Pattern

/-! Levels up to emptiness -/

namespace Node

theorem isEmpty_times (n : Node) (counts : Counts) (greed : Greed) :
    (n.times counts greed).isEmpty = n.isEmpty := by
  rw [times]
  split <;> rfl

end Node

namespace Level

variable {l m l' : Level} {n k : Node}

/-- Which items there are, and which of them are empty. -/
def gaps (l : Level) : List (Option Bool) := l.items.map (·.map Node.isEmpty)

/-- The same in all but the nodes that are not empty. -/
structure SameShape (l m : Level) : Prop where
  alternatives : m.alternatives.map Node.isEmpty = l.alternatives.map Node.isEmpty
  gaps : m.gaps = l.gaps

theorem isEmpty_sequence (l : Level) : l.sequence.isEmpty = l.gaps.all (·.getD true) := by
  rw [sequence, Node.isEmpty_ofList, gaps, List.all_filterMap, List.all_reverse, List.all_map]
  congr 1
  funext item
  cases item <;> rfl

theorem gaps_push (l : Level) (n : Node) : (l.push n).gaps = some n.isEmpty :: l.gaps := rfl

theorem exists_amend_of_gaps {f g : Node → Node} {more : List (Option Bool)}
    (hfg : ∀ n m : Node, m.isEmpty = n.isEmpty → (g m).isEmpty = (f n).isEmpty)
    (hgaps : m.gaps = l.gaps ++ more) (ha : l.amend f = some l') :
    ∃ m', m.amend g = some m' ∧ m'.alternatives = m.alternatives ∧ m'.gaps = l'.gaps ++ more :=
  exists_amend_of_view (fun n _ k => hfg n k) hgaps ha

namespace SameShape

theorem default : SameShape {} {} := ⟨rfl, rfl⟩

theorem sequence (h : l.SameShape m) : m.sequence.isEmpty = l.sequence.isEmpty := by
  rw [isEmpty_sequence, isEmpty_sequence, h.gaps]

theorem node (h : l.SameShape m) : m.node.isEmpty = l.node.isEmpty := by
  have hall (ns : List Node) : ns.all Node.isEmpty = (ns.map Node.isEmpty).all id := by
    rw [List.all_map]
    rfl
  rw [Level.node, Level.node, Node.isEmpty_alternatives, Node.isEmpty_alternatives, hall, hall]
  simp only [List.map_append, List.map_reverse, h.alternatives, List.map_cons, List.map_nil,
    h.sequence]

theorem push (h : l.SameShape m) (hn : k.isEmpty = n.isEmpty) : (l.push n).SameShape (m.push k) where
  alternatives := h.alternatives
  gaps := by rw [gaps_push, gaps_push, hn, h.gaps]

theorem split (h : l.SameShape m) : l.split.SameShape m.split where
  alternatives := by simp [Level.split, h.sequence, h.alternatives]
  gaps := rfl

theorem isEmpty_alternatives (h : l.SameShape m) :
    m.alternatives.isEmpty = l.alternatives.isEmpty := by
  rw [← List.isEmpty_map (f := Node.isEmpty), h.alternatives, List.isEmpty_map]

theorem latest (h : l.SameShape m) :
    l.alternatives = [] ∧ m.alternatives = [] ∨
      ∃ n as k bs, l.alternatives = n :: as ∧ m.alternatives = k :: bs ∧ k.isEmpty = n.isEmpty := by
  have halts := h.alternatives
  cases hl : l.alternatives with
  | nil => exact .inl ⟨rfl, by simpa [hl] using halts⟩
  | cons n as =>
    cases hm : m.alternatives with
    | nil => simp [hl, hm] at halts
    | cons k bs =>
      rw [hl, hm] at halts
      exact .inr ⟨n, as, k, bs, rfl, rfl, (List.cons.inj halts).1⟩

theorem amend {f g : Node → Node}
    (hfg : ∀ n m : Node, m.isEmpty = n.isEmpty → (g m).isEmpty = (f n).isEmpty)
    (h : l.SameShape m) (ha : l.amend f = some l') : ∃ m', m.amend g = some m' ∧ l'.SameShape m' := by
  obtain ⟨m', hm', halts, hgaps⟩ :=
    exists_amend_of_gaps hfg (by rw [h.gaps, List.append_nil]) ha
  refine ⟨m', hm', ?_, by rw [hgaps, List.append_nil]⟩
  rw [halts, alternatives_amend ha, h.alternatives]

end SameShape
end Level

/-! Flags, references and numbers -/

/-- The same flags up to those of an outer place, and the same about layout. -/
structure Flags.Beside (outer flags others : Flags) : Prop where
  verbose : others.isVerbose = flags.isVerbose
  subset : ∀ f ∈ others, f ∈ flags ∨ f ∈ outer

theorem Flags.isVerbose_change (flags on off : Flags) :
    (flags.change on off).isVerbose =
      ((on.contains .verbose || flags.isVerbose) && !off.contains .verbose) := by
  rw [Bool.eq_iff_iff]
  simp [isVerbose, change, or_and_right]

theorem Flags.Beside.change {outer flags others : Flags} (h : Flags.Beside outer flags others)
    (on off : Flags) : Flags.Beside outer (flags.change on off) (others.change on off) where
  verbose := by rw [isVerbose_change, isVerbose_change, h.verbose]
  subset f hf := by
    obtain ⟨hmem, hoff⟩ := List.mem_filter.1 hf
    rcases List.mem_append.1 hmem with hon | hother
    · exact .inl (List.mem_filter.2 ⟨List.mem_append_left _ hon, hoff⟩)
    · rcases h.subset f hother with hflag | houter
      · exact .inl (List.mem_filter.2 ⟨List.mem_append_right _ hflag, hoff⟩)
      · exact .inr houter

/-- The same reference. What is counted from its place goes on from the groups before. -/
inductive Reference.Beside (base : Nat) : Reference → Reference → Prop
  | back (ref : GroupName) (left left' : Nat) : Beside base (.back ref left) (.back ref left')
  | condition (ref : GroupName) (left left' : Nat) :
    Beside base (.condition ref left) (.condition ref left')
  | call (ref : GroupName) (left left' : Nat) : Beside base (.call ref left) (.call ref left')
  | relative {n : Nat} (h : n ≠ 0) (left left' : Nat) :
    Beside base (.call (.number n) left) (.call (.number (n + base)) left')

def BesideReferences (start : Reader) (refs others : List Reference) : Prop :=
  ∃ own, others = own ++ start.references ∧
    List.Forall₂ (Reference.Beside start.groupCount) refs own

theorem BesideReferences.cons {start : Reader} {refs others : List Reference}
    {ref other : Reference} (hrefs : BesideReferences start refs others)
    (href : ref.Beside start.groupCount other) :
    BesideReferences start (ref :: refs) (other :: others) := by
  obtain ⟨own, rfl, hown⟩ := hrefs
  exact ⟨other :: own, rfl, .cons href hown⟩

/-! Groups -/

/-- The same purpose. A reset that is to be exact counts from the groups before. -/
inductive Purpose.Beside (exact : Prop) (base : Nat) : Purpose → Purpose → Prop
  | plain : Beside exact base .plain .plain
  | capture (i j : Nat) : Beside exact base (.capture i) (.capture j)
  | look (behind positive : Bool) :
    Beside exact base (.look behind positive) (.look behind positive)
  | atomic : Beside exact base .atomic .atomic
  | reset (first highest first' highest' : Nat)
      (h : exact → first' = first + base ∧ highest' = highest + base) :
    Beside exact base (.reset first highest) (.reset first' highest')
  | ifGroup (ref : GroupName) : Beside exact base (.ifGroup ref) (.ifGroup ref)
  | test (behind positive : Bool) :
    Beside exact base (.test behind positive) (.test behind positive)
  | ifLook (behind positive : Bool) (n m : Node) :
    Beside exact base (.ifLook behind positive n) (.ifLook behind positive m)

/-- A level and its groups by themselves, and on top of those where the pattern starts. -/
inductive Stacked (exact : Prop) (start : Reader) :
    Level → List OpenGroup → Level → List OpenGroup → Prop
  | bottom {l m : Level} {more : List (Option Bool)} (gaps : m.gaps = l.gaps ++ more) :
    Stacked exact start l [] m start.groups
  | inner {l m : Level} {g k : OpenGroup} {gs ks : List OpenGroup} (shape : l.SameShape m)
      (purpose : g.purpose.Beside exact start.groupCount k.purpose)
      (flags : Flags.Beside start.flags g.flags k.flags)
      (earlier : ∀ ref, g.purpose = .ifGroup ref → BesideReferences start g.earlier k.earlier)
      (outer : Stacked exact start g.outer gs k.outer ks) :
    Stacked exact start l (g :: gs) m (k :: ks)

namespace Stacked

variable {exact : Prop} {start : Reader} {l m l' : Level} {gs ks : List OpenGroup} {n k : Node}

theorem push (h : Stacked exact start l gs m ks) (hn : k.isEmpty = n.isEmpty) :
    Stacked exact start (l.push n) gs (m.push k) ks := by
  cases h with
  | @bottom _ _ more gaps =>
    have hgaps : (m.push k).gaps = (l.push n).gaps ++ more := by
      rw [Level.gaps_push, Level.gaps_push, hn, gaps]
      rfl
    exact .bottom hgaps
  | inner shape purpose flags earlier outer => exact .inner (shape.push hn) purpose flags earlier outer

theorem split (h : Stacked exact start l gs m ks) : Stacked exact start l.split gs m.split ks := by
  cases h with
  | bottom gaps => exact .bottom (List.append_nil _).symm
  | inner shape purpose flags earlier outer => exact .inner shape.split purpose flags earlier outer

theorem amend {f g : Node → Node} (h : Stacked exact start l gs m ks)
    (hfg : ∀ n m : Node, m.isEmpty = n.isEmpty → (g m).isEmpty = (f n).isEmpty)
    (ha : l.amend f = some l') :
    ∃ m', m.amend g = some m' ∧ Stacked exact start l' gs m' ks := by
  cases h with
  | bottom gaps =>
    obtain ⟨m', hm', -, hgaps⟩ := Level.exists_amend_of_gaps hfg gaps ha
    exact ⟨m', hm', .bottom hgaps⟩
  | inner shape purpose flags earlier outer =>
    obtain ⟨m', hm', hshape⟩ := shape.amend hfg ha
    exact ⟨m', hm', .inner hshape purpose flags earlier outer⟩

theorem groups_eq (h : Stacked exact start l [] m ks) : ks = start.groups := by
  cases h
  rfl

end Stacked

/-- A reader by itself, and one among others that started there and has more ahead. -/
structure Beside (exact : Prop) (more : List Char) (start r s : Reader) : Prop where
  rest : s.rest = r.rest ++ more
  flags : Flags.Beside start.flags r.flags s.flags
  stacked : Stacked exact start r.level r.groups s.level s.groups
  references : BesideReferences start r.references s.references
  globals : s.globals = r.globals ++ start.globals
  groupCount : exact → s.groupCount = r.groupCount + start.groupCount
  names : exact → s.names = start.names ++ shifted start.groupCount r.names
  opened : exact → s.opened = r.opened.map (· + start.groupCount) ++ start.opened

/-- Stands where a pattern can start: at the top or in a group like a lookahead, with all names given
to the groups before. -/
structure Reader.IsReady (exact : Prop) (start : Reader) : Prop where
  groups : ∀ g ∈ start.groups.head?, ∃ behind positive, g.purpose = .look behind positive
  names : exact → ∀ p ∈ start.names, p.2 ≤ start.groupCount

theorem Reader.IsReady.bar {exact : Prop} {start : Reader} (hstart : start.IsReady exact) (s : Reader)
    (hs : s.groups = start.groups) (rest : List Char) :
    s.bar rest = .ok { s with rest, level := s.level.split } := by
  rw [Reader.bar, hs]
  have hgroups := hstart.groups
  cases hbelow : start.groups with
  | nil => rfl
  | cons g groups =>
    obtain ⟨behind, positive, hpurpose⟩ := hgroups g (by simp [hbelow])
    simp only [hpurpose]

/-- Nothing stands behind a text, or a stop that no comment of the text runs on to. -/
inductive Followed (verbose : Bool) (cs : List Char) : List Char → Prop
  | nothing : Followed verbose cs []
  | stop (c : Char) [IsStop c] (tail : List Char) (h : Settled verbose cs) :
    Followed verbose cs (c :: tail)

namespace Followed

variable {verbose : Bool} {cs rest more : List Char} {c : Char}

theorem suffix (h : Followed verbose cs more) (hrest : rest <:+ cs) : Followed verbose rest more := by
  cases h with
  | nothing => exact .nothing
  | stop c tail h => exact .stop c tail (h.suffix hrest)

theorem next (h : Followed verbose cs more) (hn : Pattern.next verbose cs = some (c, rest)) :
    Pattern.next verbose (cs ++ more) = some (c, rest ++ more) := by
  cases h with
  | nothing => rwa [List.append_nil, List.append_nil]
  | stop c tail h => exact next_append_some h hn tail

theorem next_none (h : Followed verbose cs more) (hn : Pattern.next verbose cs = none) :
    Pattern.next verbose (cs ++ more) = Pattern.next false more := by
  cases h with
  | nothing => rwa [List.append_nil]
  | stop c tail h => exact next_append_none h hn tail

theorem scan {flags : Flags} (h : Followed flags.isVerbose cs more) {action : Action}
    (hscan : Pattern.scan flags c cs = .ok (action, rest)) :
    Pattern.scan flags c (cs ++ more) = .ok (action, rest ++ more) := by
  cases h with
  | nothing => rwa [List.append_nil, List.append_nil]
  | stop d tail h => exact (scan_tame flags c).append h hscan tail

end Followed

def StopsAt (more : List Char) : Prop := ∃ c tail, c ∈ stops ∧ more = c :: tail

namespace Reader

variable {r : Reader}

def isSettled (r : Reader) : Bool := !r.isVerbose || closesComments r.rest

def mentionsNone (r : Reader) : Bool := r.references.isEmpty

theorem isSettled_iff : r.isSettled = true ↔ Settled r.isVerbose r.rest := by
  rw [isSettled]
  cases r.isVerbose <;> simp [Settled]

theorem mentionsNone_iff : r.mentionsNone = true ↔ r.references = [] := List.isEmpty_iff

end Reader

namespace Reader

variable {r s e : Reader} {c : Char} {rest : List Char} {fuel : Nat}

/-- At the end of a pattern nothing is left that counts, no group is open, and what is passed at each
step is passed. -/
theorem end_of_readAll (hfuel : r.rest.length < fuel) (h : readAll fuel r = .ok e) :
    next e.isVerbose e.rest = none ∧ e.groups = [] ∧
      ∀ test : Reader → Bool, r.passes test fuel = true → test e = true := by
  induction fuel generalizing r with
  | zero => omega
  | succ fuel ih =>
    rw [readAll] at h
    cases hn : next r.isVerbose r.rest with
    | none =>
      simp only [hn] at h
      split at h
      · next hgroups =>
        obtain rfl := Except.ok.inj h
        exact ⟨hn, List.isEmpty_iff.1 hgroups, fun _ => test_of_passes⟩
      · cases h
    | some found =>
      simp only [hn] at h
      obtain ⟨r1, hr1, h⟩ := bind_eq_ok.1 h
      have hlt := next_length hn
      have hle := length_readChar hr1
      obtain ⟨hend, hgroups, hpasses⟩ := ih (by omega) h
      exact ⟨hend, hgroups, fun test htest => hpasses test (passes_of_readChar htest hn hr1)⟩

end Reader

theorem followed_of_isSettled {r : Reader} {more : List Char}
    (h : more = [] ∨ StopsAt more ∧ r.isSettled = true) : Followed r.isVerbose r.rest more := by
  rcases h with rfl | ⟨⟨c, tail, hc, rfl⟩, hsettled⟩
  · exact .nothing
  · have : IsStop c := ⟨hc⟩
    exact .stop c tail (Reader.isSettled_iff.1 hsettled)

namespace Beside

variable {exact : Prop} {more rest : List Char} {start r s r' : Reader} {c : Char}

theorem push (h : Beside exact more start r s) {n k : Node} (hn : k.isEmpty = n.isEmpty) :
    Beside exact more start (r.push n rest) (s.push k (rest ++ more)) :=
  { h with rest := rfl, stacked := h.stacked.push hn }

theorem mention (h : Beside exact more start r s) {n k : Node} (hn : n.isEmpty = false)
    (hk : k.isEmpty = false) {ref other : Reference} (href : ref.Beside start.groupCount other) :
    Beside exact more start (r.mention n ref rest) (s.mention k other (rest ++ more)) :=
  { h.push (hk.trans hn.symm) with references := h.references.cons href }

theorem enter (h : Beside exact more start r s) {p q : Purpose}
    (hp : p.Beside exact start.groupCount q) (hno : ∀ ref, p ≠ .ifGroup ref) :
    Beside exact more start (r.open_ p rest) (s.open_ q (rest ++ more)) :=
  { h with
    rest := rfl
    stacked := .inner .default hp h.flags (fun ref heq => absurd heq (hno ref)) h.stacked }

theorem openCapture_numbers (hstart : start.IsReady exact) (h : Beside exact more start r s)
    (hexact : exact) (name : Option String)
    (hnames : ∀ p ∈ (r.openCapture name rest).names, start.names.lookup p.1 = none) :
    let r' := r.openCapture name rest
    let s' := s.openCapture name (rest ++ more)
    s'.groupCount = r'.groupCount + start.groupCount ∧
      s'.names = start.names ++ shifted start.groupCount r'.names ∧
      s'.opened = r'.opened.map (· + start.groupCount) ++ start.opened := by
  have hcount := h.groupCount hexact
  have hsnames := h.names hexact
  have hopened := h.opened hexact
  cases name with
  | none =>
    rw [Reader.openCapture_bare, Reader.openCapture_bare]
    refine ⟨?_, hsnames, ?_⟩
    · change s.groupCount + 1 = r.groupCount + 1 + start.groupCount
      omega
    · change (s.groupCount + 1) :: s.opened = _
      rw [hopened, hcount, Nat.add_right_comm]
      rfl
  | some key =>
    have hlookup (hstart : start.names.lookup key = none) :
        s.names.lookup key = (r.names.lookup key).map (· + start.groupCount) := by
      rw [hsnames, List.lookup_append, hstart, lookup_shifted]
      rfl
    cases hkey : r.names.lookup key with
    | some n =>
      -- The group shares the number of its name, which is not one of the names before.
      rw [Reader.openCapture_known hkey] at hnames ⊢
      have hnone : start.names.lookup key = none := hnames (key, n) (mem_of_lookup hkey)
      have hkey' : s.names.lookup key = some (n + start.groupCount) := by
        rw [hlookup hnone, hkey]
        rfl
      rw [Reader.openCapture_known hkey']
      refine ⟨hcount, hsnames, ?_⟩
      change (n + start.groupCount) :: s.opened = _
      rw [hopened]
      rfl
    | none =>
      rw [Reader.openCapture_fresh hkey] at hnames ⊢
      have hnone : start.names.lookup key = none :=
        hnames _ (List.mem_append_right r.names (List.mem_singleton.2 rfl))
      have hkey' : s.names.lookup key = none := by
        rw [hlookup hnone, hkey]
        rfl
      -- Numbers of the names before are too small to be met on the way to a fresh one.
      have hfresh : Reader.freshNumber s.names s.names.length (s.groupCount + 1) =
          Reader.freshNumber r.names r.names.length (r.groupCount + 1) + start.groupCount := by
        rw [hcount, Nat.add_right_comm, hsnames]
        exact Reader.freshNumber_shifted (hstart.names hexact) (Nat.succ_le_succ (Nat.zero_le _))
      rw [Reader.openCapture_fresh hkey', hfresh]
      refine ⟨rfl, ?_, ?_⟩
      · change s.names ++ [(key, _)] = _
        rw [hsnames, List.append_assoc, ← shifted_concat]
        rfl
      · change _ :: s.opened = _
        rw [hopened]
        rfl

theorem capture (hstart : start.IsReady exact) (h : Beside exact more start r s) (name : Option String)
    (hnames : exact → ∀ p ∈ (r.openCapture name rest).names, start.names.lookup p.1 = none) :
    Beside exact more start (r.openCapture name rest) (s.openCapture name (rest ++ more)) := by
  have hnumbers (hexact : exact) := openCapture_numbers hstart h hexact name (hnames hexact)
  exact {
    rest := rfl, flags := h.flags, references := h.references, globals := h.globals
    stacked := .inner .default (.capture _ _) h.flags (by simp) h.stacked
    groupCount := fun hexact => (hnumbers hexact).1
    names := fun hexact => (hnumbers hexact).2.1
    opened := fun hexact => (hnumbers hexact).2.2 }

theorem change (h : Beside exact more start r s) (on off : Flags) (ownGroup : Bool)
    (hact : r.act (.change on off ownGroup) rest = some r') :
    ∃ s', s.act (.change on off ownGroup) (rest ++ more) = some s' ∧ Beside exact more start r' s' := by
  obtain rfl := Option.some.inj hact
  refine ⟨_, rfl, ?_⟩
  have hglobals : on.filter Flag.isGlobal ++ s.globals =
      on.filter Flag.isGlobal ++ r.globals ++ start.globals := by
    rw [h.globals, List.append_assoc]
  cases ownGroup with
  | true =>
    exact { h with
      rest := rfl, flags := h.flags.change _ off, globals := hglobals
      stacked := .inner .default .plain h.flags (by simp) h.stacked }
  | false => exact { h with rest := rfl, flags := h.flags.change _ off, globals := hglobals }

theorem amend (h : Beside exact more start r s) {f g : Node → Node} {level : Level}
    (hfg : ∀ n m : Node, m.isEmpty = n.isEmpty → (g m).isEmpty = (f n).isEmpty)
    (ha : r.level.amend f = some level) :
    ∃ level', s.level.amend g = some level' ∧
      Beside exact more start { r with rest, level }
        { s with rest := rest ++ more, level := level' } := by
  obtain ⟨level', hlevel, hstacked⟩ := h.stacked.amend hfg ha
  exact ⟨level', hlevel, { h with rest := rfl, stacked := hstacked }⟩

theorem split (h : Beside exact more start r s) (rest : List Char) :
    Beside exact more start { r with rest, level := r.level.split }
      { s with rest := rest ++ more, level := s.level.split } :=
  { h with rest := rfl, stacked := h.stacked.split }

theorem bar (hstart : start.IsReady exact) (h : Beside exact more start r s)
    (hbar : r.bar rest = .ok r') :
    ∃ s', s.bar (rest ++ more) = .ok s' ∧ Beside exact more start r' s' := by
  have hsplit := h.split rest
  -- With their fields in sight the readers can be computed with.
  obtain ⟨restR, flagsR, levelR, groupsR, countR, namesR, openedR, referencesR, globalsR⟩ := r
  obtain ⟨restS, flagsS, levelS, groupsS, countS, namesS, openedS, referencesS, globalsS⟩ := s
  cases h.stacked with
  | bottom gaps =>
    obtain rfl := Except.ok.inj hbar
    refine ⟨_, hstart.bar _ ?_ _, hsplit⟩
    rfl
  | @inner _ _ g k gs ks shape purpose flags earlier outer =>
    obtain ⟨p, f, outerR, earlierR⟩ := g
    obtain ⟨q, f', outerS, earlierS⟩ := k
    have hempty : levelS.alternatives.isEmpty = levelR.alternatives.isEmpty :=
      shape.isEmpty_alternatives
    cases purpose with
    | plain | capture i j | look behind positive | atomic | test behind positive =>
      obtain rfl := Except.ok.inj hbar
      exact ⟨_, rfl, hsplit⟩
    | reset first highest first' highest' hreset =>
      obtain rfl := Except.ok.inj hbar
      have hmore (hexact : exact) :
          first' = first + start.groupCount ∧
            max highest' countS = max highest countR + start.groupCount := by
        obtain ⟨hfirst, hhighest⟩ := hreset hexact
        have hcount : countS = countR + start.groupCount := h.groupCount hexact
        refine ⟨hfirst, ?_⟩
        rw [hhighest, hcount, Nat.add_max_add_right]
      exact ⟨_, rfl, { hsplit with
        stacked := .inner shape.split (.reset _ _ _ _ hmore) flags (by simp) outer
        groupCount := fun hexact => (hreset hexact).1 }⟩
    | ifGroup | ifLook =>
      -- A condition has two alternatives at most.
      simp only [Reader.bar] at hbar ⊢
      rw [hempty]
      split at hbar
      · next hcond =>
        obtain rfl := Except.ok.inj hbar
        exact ⟨_, if_pos hcond, hsplit⟩
      · cases hbar

/-- A group is closed on both sides: what it stands for is pushed in the level around it. -/
theorem back (h : Beside exact more start r s) {n m : Node} (hn : m.isEmpty = n.isEmpty) {l k : Level}
    {gs ks : List OpenGroup} (hstacked : Stacked exact start l gs k ks) {f f' : Flags}
    (hf : Flags.Beside start.flags f f') :
    Beside exact more start
      { r with rest, flags := f, level := l.push n, groups := gs }
      { s with rest := rest ++ more, flags := f', level := k.push m, groups := ks } :=
  { h with rest := rfl, flags := hf, stacked := hstacked.push hn }

theorem closing (h : Beside exact more start r s) (hclosing : r.closing rest = .ok r') :
    ∃ s', s.closing (rest ++ more) = .ok s' ∧ Beside exact more start r' s' := by
  obtain ⟨restR, flagsR, levelR, groupsR, countR, namesR, openedR, referencesR, globalsR⟩ := r
  obtain ⟨restS, flagsS, levelS, groupsS, countS, namesS, openedS, referencesS, globalsS⟩ := s
  cases h.stacked with
  | bottom gaps => cases hclosing
  | @inner _ _ g k gs ks shape purpose flags earlier outer =>
    obtain rfl := Except.ok.inj hclosing
    refine ⟨_, rfl, ?_⟩
    obtain ⟨p, f, outerR, earlierR⟩ := g
    obtain ⟨q, f', outerS, earlierS⟩ := k
    have hshape : levelR.SameShape levelS := shape
    have hnode := hshape.node
    cases purpose with
    | plain => exact h.back hnode outer flags
    | capture i j =>
      exact h.back (n := .group i levelR.node) (m := .group j levelS.node) hnode outer flags
    | look behind positive =>
      exact h.back (n := .look behind positive levelR.node) (m := .look behind positive levelS.node)
        hnode outer flags
    | atomic => exact h.back (n := .atomic levelR.node) (m := .atomic levelS.node) hnode outer flags
    | reset first highest first' highest' hreset =>
      refine { h.back hnode outer h.flags with groupCount := fun hexact => ?_ }
      have hcount : countS = countR + start.groupCount := h.groupCount hexact
      change max highest' countS = max highest countR + start.groupCount
      rw [(hreset hexact).2, hcount, Nat.add_max_add_right]
    | test behind positive =>
      exact { h with
        rest := rfl, flags := flags
        stacked :=
          .inner .default (.ifLook behind positive _ _) flags (by simp) outer }
    | ifGroup ref =>
      have hconditional {yes no yes' no' : Node} (hyes : yes'.isEmpty = yes.isEmpty)
          (hno : no'.isEmpty = no.isEmpty) :
          let backR (n : Node) : Reader :=
            ⟨rest, f, outerR.push n, gs, countR, namesR, openedR, referencesR, globalsR⟩
          let backS (n : Node) : Reader :=
            ⟨rest ++ more, f', outerS.push n, ks, countS, namesS, openedS, referencesS, globalsS⟩
          Beside exact more start
            (Reader.close.conditional ⟨.ifGroup ref, f, outerR, earlierR⟩ backR ref yes no)
            (Reader.close.conditional ⟨.ifGroup ref, f', outerS, earlierS⟩ backS ref yes' no') := by
        simp only [Reader.close.conditional, hyes, hno]
        split
        · exact { h.back (n := .empty) rfl outer flags with references := earlier ref rfl }
        · exact h.back (n := .ifGroup ref yes no) (m := .ifGroup ref yes' no')
            (by simp [Node.isEmpty, hyes, hno]) outer flags
      -- Without a bar there is nothing for the other case.
      rcases hshape.latest with ⟨hl, hm⟩ | ⟨yes, as, yes', bs, hl, hm, hyes⟩
      · simp only [Reader.close, hl, hm]
        exact hconditional hshape.sequence rfl
      · simp only [Reader.close, hl, hm]
        exact hconditional hyes hshape.sequence
    | ifLook behind positive test test' =>
      rcases hshape.latest with ⟨hl, hm⟩ | ⟨yes, as, yes', bs, hl, hm, hyes⟩
      · simp only [Reader.close, hl, hm]
        refine h.back ?_ outer h.flags
        simp [Node.isEmpty, hshape.sequence]
      · simp only [Reader.close, hl, hm]
        refine h.back ?_ outer h.flags
        simp [Node.isEmpty, hshape.sequence, hyes]

/-- What an action does to a pattern by itself, one with the same outline does to it among others. -/
theorem act (hstart : start.IsReady exact) (h : Beside exact more start r s) {action action' : Action}
    (houtline : action'.outline = action.outline) (hrefs : exact ∨ r'.references = [])
    (hnames : exact → ∀ p ∈ r'.names, start.names.lookup p.1 = none)
    (hact : r.act action rest = some r') :
    ∃ s', s.act action' (rest ++ more) = some s' ∧ Beside exact more start r' s' := by
  rcases Action.eq_or_push houtline with ⟨n, n', rfl, rfl, hn⟩ | rfl
  · obtain rfl := Option.some.inj hact
    exact ⟨_, rfl, h.push hn⟩
  cases action' with
  | pass =>
    obtain rfl := Option.some.inj hact
    exact ⟨_, rfl, { h with rest := rfl }⟩
  | push n =>
    obtain rfl := Option.some.inj hact
    exact ⟨_, rfl, h.push rfl⟩
  | split =>
    obtain ⟨s', hs', h'⟩ := h.bar hstart (toOption_eq_some.1 hact)
    exact ⟨s', toOption_eq_some.2 hs', h'⟩
  | close =>
    obtain ⟨s', hs', h'⟩ := h.closing (toOption_eq_some.1 hact)
    exact ⟨s', toOption_eq_some.2 hs', h'⟩
  | quantify counts greed =>
    obtain ⟨level, ha, rfl⟩ := Option.map_eq_some_iff.1 hact
    obtain ⟨level', ha', h'⟩ :=
      h.amend (g := (·.times counts greed)) (fun n m hnm => by simp [Node.isEmpty_times, hnm]) ha
    exact ⟨_, Option.map_eq_some_iff.2 ⟨level', ha', rfl⟩, h'⟩
  | constrain =>
    obtain ⟨level, ha, rfl⟩ := Option.map_eq_some_iff.1 hact
    obtain ⟨level', ha', h'⟩ := h.amend (g := id) (fun n m hnm => hnm) ha
    exact ⟨_, Option.map_eq_some_iff.2 ⟨level', ha', rfl⟩, h'⟩
  | look behind positive =>
    obtain rfl := Option.some.inj hact
    exact ⟨_, rfl, h.enter (.look behind positive) (by simp)⟩
  | test behind positive =>
    obtain rfl := Option.some.inj hact
    exact ⟨_, rfl, h.enter (.test behind positive) (by simp)⟩
  | atomic =>
    obtain rfl := Option.some.inj hact
    exact ⟨_, rfl, h.enter .atomic (by simp)⟩
  | reset =>
    obtain rfl := Option.some.inj hact
    have hcount (hexact : exact) := h.groupCount hexact
    exact ⟨_, rfl, h.enter (.reset _ _ _ _ fun hexact => ⟨hcount hexact, hcount hexact⟩) (by simp)⟩
  | capture name =>
    obtain rfl := Option.some.inj hact
    exact ⟨_, rfl, h.capture hstart name hnames⟩
  | change on off ownGroup => exact h.change on off ownGroup hact
  | back ref used =>
    obtain rfl := Option.some.inj hact
    exact ⟨_, rfl, h.mention rfl rfl (.back ref _ _)⟩
  | call ref used =>
    obtain rfl := Option.some.inj hact
    exact ⟨_, rfl, h.mention rfl rfl (.call ref _ _)⟩
  | condition ref used =>
    obtain rfl := Option.some.inj hact
    have href : (Reference.condition ref (rest.length + used)).Beside start.groupCount
        (.condition ref ((rest ++ more).length + used)) := .condition ref _ _
    exact ⟨_, rfl, { h with
      rest := rfl
      stacked := .inner .default (.ifGroup ref) h.flags (fun _ _ => h.references) h.stacked
      references := h.references.cons href }⟩
  | relative forward offset used =>
    simp only [Reader.act] at hact
    split at hact
    · cases hact
    · next hzero =>
      obtain rfl := Option.some.inj hact
      -- A call that counts from its place mentions a group, so that numbers have to be exact.
      have hexact : exact := hrefs.resolve_right (List.cons_ne_nil _ _)
      have hnumber : s.numberFrom forward offset = r.numberFrom forward offset + start.groupCount := by
        have hcount := h.groupCount hexact
        cases forward with
        | true =>
          change s.groupCount + offset = r.groupCount + offset + start.groupCount
          omega
        | false =>
          have hpositive : r.groupCount + 1 - offset ≠ 0 := hzero
          change s.groupCount + 1 - offset = r.groupCount + 1 - offset + start.groupCount
          omega
      have hnonzero : s.numberFrom forward offset ≠ 0 := by omega
      simp only [Reader.act, if_neg hnonzero]
      rw [hnumber]
      exact ⟨_, rfl, h.mention rfl rfl (.relative hzero _ _)⟩

theorem step (hstart : start.IsReady exact) (h : Beside exact more start r s)
    (hmore : Followed r.isVerbose r.rest more) (hn : next r.isVerbose r.rest = some (c, rest))
    (hread : r.readChar c rest = .ok r') (hrefs : exact ∨ r'.references = [])
    (hnames : exact → ∀ p ∈ r'.names, start.names.lookup p.1 = none) :
    ∃ s', s.Steps s' ∧ Beside exact more start r' s' := by
  have hverbose : s.isVerbose = r.isVerbose := h.flags.verbose
  have hnext : next s.isVerbose s.rest = some (c, rest ++ more) := by
    rw [hverbose, h.rest]
    exact hmore.next hn
  obtain ⟨action, beyond, hscan, hact⟩ := Reader.readChar_eq_ok_iff.1 hread
  obtain ⟨action', hscan', houtline⟩ := exists_scan_of_outline hverbose.symm hscan
  have hbeyond : Followed s.flags.isVerbose rest more :=
    h.flags.verbose ▸ hmore.suffix (next_rest_suffix hn)
  obtain ⟨s', hs', h'⟩ := h.act hstart houtline hrefs hnames hact
  have hread' : s.readChar c (rest ++ more) = .ok s' :=
    Reader.readChar_eq_ok_iff.2 ⟨action', _, hbeyond.scan hscan', hs'⟩
  exact ⟨s', .of_readChar hnext hread' (Reader.length_readChar hread'), h'⟩

/-- Reading goes on among others up to the end of the pattern. -/
theorem run (hstart : start.IsReady exact) (h : Beside exact more start r s) {fuel : Nat}
    {e : Reader} (hread : Reader.readAll fuel r = .ok e)
    (hmore : more = [] ∨ StopsAt more ∧ r.passes Reader.isSettled fuel = true)
    (hrefs : exact ∨ r.passes Reader.mentionsNone fuel = true)
    (hnames : exact → ∀ p ∈ e.names, start.names.lookup p.1 = none) :
    ∃ s', s.Steps s' ∧ Beside exact more start e s' := by
  induction fuel generalizing r s with
  | zero =>
    obtain rfl := Except.ok.inj hread
    exact ⟨s, .refl, h⟩
  | succ fuel ih =>
    rw [Reader.readAll] at hread
    cases hn : next r.isVerbose r.rest with
    | none =>
      simp only [hn] at hread
      split at hread
      · obtain rfl := Except.ok.inj hread
        exact ⟨s, .refl, h⟩
      · cases hread
    | some found =>
      obtain ⟨c, rest⟩ := found
      simp only [hn] at hread
      obtain ⟨r1, hr1, hread⟩ := bind_eq_ok.1 hread
      have hrefs1 := hrefs.imp_right (Reader.passes_of_readChar · hn hr1)
      have hmentions : exact ∨ r1.references = [] := hrefs1.imp_right fun hpasses =>
        Reader.mentionsNone_iff.1 (Reader.test_of_passes hpasses)
      have hnames1 (hexact : exact) (p : String × Nat) (hp : p ∈ r1.names) :
          start.names.lookup p.1 = none :=
        hnames hexact p ((Reader.names_readAll hread).subset hp)
      have hfollowed : Followed r.isVerbose r.rest more :=
        followed_of_isSettled (hmore.imp_right (And.imp_right Reader.test_of_passes))
      obtain ⟨s1, hs1, h1⟩ := h.step hstart hfollowed hn hr1 hmentions hnames1
      obtain ⟨s', hs', hend⟩ :=
        ih h1 hread (hmore.imp_right (And.imp_right (Reader.passes_of_readChar · hn hr1))) hrefs1
      exact ⟨s', hs1.trans hs', hend⟩

theorem of_start (s : Reader) (hv : s.isVerbose = false) (word : List Char)
    (hrest : s.rest = word ++ more) {gaps : List (Option Bool)} (hgaps : s.level.gaps = none :: gaps) :
    Beside exact more s { rest := word } s where
  rest := hrest
  flags := ⟨hv, fun _ hf => .inr hf⟩
  stacked := .bottom hgaps
  references := ⟨[], rfl, .nil⟩
  globals := rfl
  groupCount _ := (Nat.zero_add _).symm
  names _ := (List.append_nil _).symm
  opened _ := rfl

end Beside
end ReleaseMatch.Pattern
