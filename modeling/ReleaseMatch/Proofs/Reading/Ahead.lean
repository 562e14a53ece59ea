import ReleaseMatch.Proofs.Engine.Look
import ReleaseMatch.Proofs.Reading.Inside
import ReleaseMatch.Proofs.Reading.Ledger
import ReleaseMatch.Proofs.Reading.Steps
set_option autoImplicit false

/-!
# Patterns that can stand in a lookahead

A pattern can be put in a lookahead if it refers to no group, does not ask to be read backwards and
ends its comments. Then the lookahead is over where the pattern is, and it asks for the alternatives of
the pattern: the first one behind any characters, the others at the place itself.
-/
namespace ReleaseMatch.Pattern

namespace Reader

variable {r s : Reader} {rest : List Char} {c : Char}

/-- Refers to no group so far, is not to be read backwards, and can leave no comment open. -/
def isApart (r : Reader) : Bool :=
  r.references.isEmpty && !r.globals.contains .backwards &&
    (!r.isVerbose || closesComments r.rest)

def staysApart : Nat → Reader → Bool
  | 0, r => r.isApart
  | fuel + 1, r =>
    r.isApart &&
      match next r.isVerbose r.rest with
      | none => true
      | some (c, rest) =>
        match r.readChar c rest with
        | .ok s => staysApart fuel s
        | .error _ => true

theorem isApart_iff : r.isApart = true ↔
    r.references = [] ∧ Flag.backwards ∉ r.globals ∧ Settled r.isVerbose r.rest := by
  rw [isApart, Bool.and_eq_true, Bool.and_eq_true, List.isEmpty_iff, and_assoc]
  refine and_congr_right fun _ => and_congr (by simp) ?_
  cases h : r.isVerbose with
  | false => simp [Settled]
  | true => simp [Settled]

theorem isApart_of_staysApart {fuel : Nat} (h : r.staysApart fuel = true) : r.isApart = true := by
  cases fuel with
  | zero => exact h
  | succ fuel => exact (Bool.and_eq_true_iff.1 h).1

theorem staysApart_of_readChar {fuel : Nat} (h : r.staysApart (fuel + 1) = true)
    (hn : next r.isVerbose r.rest = some (c, rest)) (hread : r.readChar c rest = .ok s) :
    s.staysApart fuel = true := by
  rw [staysApart, hn, Bool.and_eq_true] at h
  simpa [hread] using h.2

theorem rest_close (g : OpenGroup) (groups : List OpenGroup) :
    (r.close rest g groups).rest = rest := by
  rw [close]
  split
  all_goals try rfl
  · split
    all_goals
      rw [close.conditional]
      split <;> rfl

theorem rest_bar (h : r.bar rest = .ok s) : s.rest = rest := by
  rcases bar_cases h with rfl | ⟨g, groups, first, highest, -, -, rfl⟩
  · rfl
  · rfl

theorem rest_act {action : Action} (h : r.act action rest = some s) : s.rest = rest := by
  cases action with
  | split => exact rest_bar (toOption_eq_some.1 h)
  | close =>
    obtain ⟨g, groups, -, rfl⟩ := closing_cases (toOption_eq_some.1 h)
    exact rest_close g groups
  | quantify counts greed =>
    obtain ⟨level, -, rfl⟩ := Option.map_eq_some_iff.1 h
    rfl
  | constrain =>
    obtain ⟨level, -, rfl⟩ := Option.map_eq_some_iff.1 h
    rfl
  | change on off ownGroup =>
    obtain rfl := Option.some.inj h
    cases ownGroup <;> rfl
  | relative forward offset used =>
    simp only [act] at h
    split at h
    · cases h
    · obtain rfl := Option.some.inj h
      rfl
  | _ =>
    obtain rfl := Option.some.inj h
    rfl

theorem length_readChar (h : r.readChar c rest = .ok s) : s.rest.length ≤ rest.length := by
  obtain ⟨action, beyond, hscan, hact⟩ := readChar_eq_ok_iff.1 h
  rw [rest_act hact]
  exact ((scan_tame r.flags c).suffix hscan).length_le

end Reader

namespace Inside

variable {below : List OpenGroup} {outside : Flags} {tail rest : List Char} {r s r' : Reader}
  {c : Char}

/-- What a step comes to by itself it comes to inside the lookahead. -/
theorem step (h : Inside below outside tail r s) (hapart : r.isApart = true)
    (hn : next r.isVerbose r.rest = some (c, rest)) (hread : r.readChar c rest = .ok r')
    (hrefs : r'.references = []) : ∃ s', s.Steps s' ∧ Inside below outside tail r' s' := by
  obtain ⟨-, -, hsettled⟩ := Reader.isApart_iff.1 hapart
  have hverbose : s.isVerbose = r.isVerbose := congrArg Flags.isVerbose h.flags
  have hnext : next s.isVerbose s.rest = some (c, rest ++ ')' :: tail) := by
    rw [hverbose, h.rest]
    exact next_append_some hsettled hn tail
  obtain ⟨action, beyond, hscan, hact⟩ := Reader.readChar_eq_ok_iff.1 hread
  have htame := scan_tame r.flags c
  obtain ⟨s', hs', hinside⟩ := h.act (htame.free hscan) hrefs hact
  have happend : scan s.flags c (rest ++ ')' :: tail) = .ok (action, beyond ++ ')' :: tail) := by
    rw [h.flags]
    exact htame.append (hsettled.suffix (next_rest_suffix hn)) hscan tail
  have hread' : s.readChar c (rest ++ ')' :: tail) = .ok s' :=
    Reader.readChar_eq_ok_iff.2 ⟨action, _, happend, hs'⟩
  exact ⟨s', .of_readChar hnext hread' (Reader.length_readChar hread'), hinside⟩

theorem run (h : Inside below outside tail r s) {fuel : Nat} (hfuel : r.rest.length < fuel)
    (hapart : r.staysApart fuel = true) {e : Reader} (hread : Reader.readAll fuel r = .ok e) :
    ∃ s', s.Steps s' ∧ Inside below outside tail e s' ∧ e.isApart = true ∧
      next e.isVerbose e.rest = none ∧ e.groups = [] := by
  induction fuel generalizing r s with
  | zero => omega
  | succ fuel ih =>
    rw [Reader.readAll] at hread
    cases hn : next r.isVerbose r.rest with
    | none =>
      simp only [hn] at hread
      split at hread
      · next hgroups =>
        obtain rfl := Except.ok.inj hread
        exact ⟨s, .refl, h, Reader.isApart_of_staysApart hapart, hn, List.isEmpty_iff.1 hgroups⟩
      · cases hread
    | some found =>
      obtain ⟨c, rest⟩ := found
      simp only [hn] at hread
      obtain ⟨r1, hr1, hread⟩ := bind_eq_ok.1 hread
      have hstays := Reader.staysApart_of_readChar hapart hn hr1
      obtain ⟨hrefs, -⟩ := Reader.isApart_iff.1 (Reader.isApart_of_staysApart hstays)
      obtain ⟨s1, hs1, h1⟩ := h.step (Reader.isApart_of_staysApart hapart) hn hr1 hrefs
      have hlength := Reader.length_readChar hr1
      have hlt := next_length hn
      obtain ⟨s', hs', hend⟩ := ih h1 (by omega) hstays hread
      exact ⟨s', hs1.trans hs', hend⟩

end Inside

/-! What a lookahead asks for -/

/-- The alternatives at the top of a level, the earliest first, as they are run. -/
def Level.branches (l : Level) : List Node :=
  (l.alternatives.reverse ++ [l.sequence]).map Node.join

theorem Level.join_node (l : Level) : l.node.join = .alternatives l.branches := by
  rw [node, Node.join_alternatives, branches]

namespace Node

variable {n a b : Node} {ns : List Node} {cs : List Char} {i : Nat}

theorem startsAt_unnumbered (hn : n.isFree = true) :
    n.unnumbered.startsAt cs i = n.startsAt cs i :=
  (agreeRun_unnumbered hn .none .none false _ _ rfl _ _ agreeNext_some).isSome_eq.symm

theorem startsAt_join_unnumbered (hn : n.isFree = true) :
    n.unnumbered.join.startsAt cs i = n.join.startsAt cs i := by
  rw [join_unnumbered, startsAt_unnumbered (isFree_join hn)]

theorem startsAt_alternatives (h : ns ≠ []) :
    (alternatives ns).startsAt cs i = true ↔ ∃ n ∈ ns, n.startsAt cs i = true := by
  induction ns with
  | nil => exact absurd rfl h
  | cons n ns ih =>
    cases ns with
    | nil => simp [alternatives]
    | cons m ns =>
      have hor : (alternatives (n :: m :: ns)).startsAt cs i =
          (n.startsAt cs i || (alternatives (m :: ns)).startsAt cs i) :=
        Option.isSome_or
      rw [hor, Bool.or_eq_true, ih (List.cons_ne_nil m ns)]
      simp only [List.mem_cons, exists_eq_or_imp]

/-- With any characters in front of its parts, a node begins wherever it begins later on. -/
theorem isFree_of_parts (ha : a.isFree = true)
    (h : b.unnumbered.parts = anything :: a.unnumbered.parts) : b.join.isFree = true := by
  rw [← isFree_unnumbered, ← join_unnumbered, join, h]
  refine isFree_joined (List.forall_mem_cons.2 ⟨rfl, isFree_parts ?_⟩)
  rwa [isFree_unnumbered]

theorem startsAt_join_of_parts (hcs : '\n' ∉ cs) (hi : i ≤ cs.length) (ha : a.isFree = true)
    (h : b.unnumbered.parts = anything :: a.unnumbered.parts) :
    b.join.startsAt cs i = true ↔
      ∃ j, i ≤ j ∧ j ≤ cs.length ∧ a.join.startsAt cs j = true := by
  have hjoined : joined (anything :: a.unnumbered.parts) =
      ofList (anything :: joinCharacters a.unnumbered.parts .exact []) := by
    rw [joined, isWhole_anything]
    rfl
  rw [← startsAt_unnumbered (isFree_of_parts ha h), ← join_unnumbered, join, h, hjoined,
    startsAt_anything hcs hi]
  simp only [← startsAt_join_unnumbered ha]
  rfl

end Node

/-- A lookahead for the branches begins at the place: the first of them behind any characters, or
another one at the place itself. -/
def StartsFrom (branches : List Node) (cs : List Char) (i : Nat) : Prop :=
  match branches with
  | [] => False
  | first :: others =>
    (∃ j, i ≤ j ∧ j ≤ cs.length ∧ first.startsAt cs j = true) ∨
      ∃ n ∈ others, n.startsAt cs i = true

theorem isFree_of_map_unnumbered {ns ms : List Node} (hns : ∀ n ∈ ns, n.isFree = true)
    (h : ms.map Node.unnumbered = ns.map Node.unnumbered) : ∀ m ∈ ms, m.isFree = true := by
  intro m hm
  have hmem : m.unnumbered ∈ ns.map Node.unnumbered := h ▸ List.mem_map_of_mem hm
  obtain ⟨n, hn, hsame⟩ := List.mem_map.1 hmem
  rw [← m.isFree_unnumbered, ← hsame, n.isFree_unnumbered]
  exact hns n hn

theorem exists_startsAt_join {ns ms : List Node} (cs : List Char) (i : Nat)
    (hns : ∀ n ∈ ns, n.isFree = true) (h : ms.map Node.unnumbered = ns.map Node.unnumbered) :
    (∃ m ∈ ms.map Node.join, m.startsAt cs i = true) ↔
      ∃ n ∈ ns.map Node.join, n.startsAt cs i = true := by
  have hbare {ks : List Node} (hks : ∀ k ∈ ks, k.isFree = true) :
      (∃ k ∈ ks.map Node.join, k.startsAt cs i = true) ↔
        ∃ k ∈ ks.map Node.unnumbered, k.join.startsAt cs i = true := by
    constructor
    · rintro ⟨_, hk, hstarts⟩
      obtain ⟨k, hmem, rfl⟩ := List.mem_map.1 hk
      exact ⟨_, List.mem_map_of_mem hmem,
        (Node.startsAt_join_unnumbered (hks k hmem)).trans hstarts⟩
    · rintro ⟨_, hk, hstarts⟩
      obtain ⟨k, hmem, rfl⟩ := List.mem_map.1 hk
      exact ⟨_, List.mem_map_of_mem hmem,
        (Node.startsAt_join_unnumbered (hks k hmem)).symm.trans hstarts⟩
  rw [hbare hns, hbare (isFree_of_map_unnumbered hns h), h]

namespace Level.Behind

variable {l m : Level} {cs : List Char} {i : Nat}

theorem exists_branches (h : l.Behind m) : ∃ a as b bs,
    l.alternatives.reverse ++ [l.sequence] = a :: as ∧
      m.alternatives.reverse ++ [m.sequence] = b :: bs ∧
      b.unnumbered.parts = Node.anything :: a.unnumbered.parts ∧
      bs.map Node.unnumbered = as.map Node.unnumbered := by
  cases h with
  | first free hl hm items =>
    exact ⟨l.sequence, [], m.sequence, [], by simp [hl], by simp [hm], parts_sequence items, rfl⟩
  | @later as bs a b free hl hm others start items =>
    have hsequence : m.sequence.unnumbered = l.sequence.unnumbered := by
      rw [sequence_unnumbered, sequence_unnumbered, items]
    exact ⟨a, as.reverse ++ [l.sequence], b, bs.reverse ++ [m.sequence], by simp [hl], by simp [hm],
      start, by simp [others, hsequence]⟩

theorem startsAt_iff (h : l.Behind m) (hcs : '\n' ∉ cs) (hi : i ≤ cs.length) :
    m.node.join.startsAt cs i = true ↔ StartsFrom l.branches cs i := by
  obtain ⟨a, as, b, bs, hl, hm, hparts, hothers⟩ := h.exists_branches
  have hfree : ∀ n ∈ a :: as, n.isFree = true := hl ▸ h.free.branches
  rw [List.forall_mem_cons] at hfree
  have hfirst := Node.startsAt_join_of_parts hcs hi hfree.1 hparts
  have hrest := exists_startsAt_join cs i hfree.2 hothers
  rw [join_node, branches, branches, hl, hm, List.map_cons, List.map_cons,
    Node.startsAt_alternatives (List.cons_ne_nil _ _)]
  simp only [List.mem_cons, exists_eq_or_imp]
  exact or_congr hfirst hrest

theorem isFree_join (h : l.Behind m) : m.node.join.isFree = true := by
  obtain ⟨a, as, b, bs, hl, hm, hparts, hothers⟩ := h.exists_branches
  have hfree : ∀ n ∈ a :: as, n.isFree = true := hl ▸ h.free.branches
  rw [List.forall_mem_cons] at hfree
  rw [join_node, branches, hm]
  refine isFree_alternatives (List.forall_mem_cons.2 ⟨Node.isFree_of_parts hfree.1 hparts, ?_⟩)
  intro n hn
  obtain ⟨k, hk, rfl⟩ := List.mem_map.1 hn
  exact Node.isFree_join (isFree_of_map_unnumbered hfree.2 hothers k hk)

end Level.Behind

/-! Patterns in lookaheads -/

def branchesOf (word : List Char) : List Node :=
  match Reader.readAll (word.length + 1) { rest := word } with
  | .ok e => e.level.branches
  | .error _ => []

/-- Refers to no group, is not to be read backwards, and ends its comments. -/
def IsApart (word : List Char) : Prop :=
  Reader.staysApart (word.length + 1) { rest := word } = true

instance (word : List Char) : Decidable (IsApart word) := inferInstanceAs (Decidable (_ = true))

/-- Stands where a fragment can begin: outside other flags, with nothing asked of all the pattern. -/
structure Reader.IsClear (r : Reader) : Prop where
  flags : r.flags = .standard
  references : r.references = []
  forwards : Flag.backwards ∉ r.globals
  version : Flag.oldVersion ∉ r.globals

/-- Wherever a fragment can begin, a lookahead for the word behind any characters asks for one of the
branches. -/
def LooksFor (word : List Char) (branches : List Node) : Prop :=
  ∀ (r : Reader) (tail : List Char), r.IsClear → IsPlainEnd tail →
    r.rest = "(?=.*".toList ++ (word ++ ')' :: tail) →
    ∃ (n body : Node) (s : Reader), r.Steps s ∧ s.rest = tail ∧ s.IsClear ∧ s.groups = r.groups ∧
      s.level = r.level.gain [some n] ∧ n.parts = [body.ahead] ∧ body.isFree = true ∧
      ∀ cs i, '\n' ∉ cs → i ≤ cs.length →
        (body.startsAt cs i = true ↔ StartsFrom branches cs i)

section

variable {word : List Char} {e : Reader}

theorem isPlainEnd_of_readAll {fuel : Nat}
    (h : Reader.readAll (fuel + 1) { rest := word } = .ok e) : IsPlainEnd word := by
  cases word with
  | nil => exact isPlainEnd_nil
  | cons c word =>
    refine isPlainEnd_cons ⟨?_, ?_⟩
    all_goals
      rintro rfl
      cases h

theorem Reader.steps_lookahead {fuel : Nat}
    (hread : Reader.readAll (fuel + 1) { rest := word } = .ok e) {r : Reader}
    (hflags : r.flags.Alike (caseFlags true)) {tail : List Char}
    (hrest : r.rest = "(?=.*".toList ++ (word ++ ')' :: tail)) :
    r.PlainSteps ((r.open_ (.look false true) ('.' :: '*' :: (word ++ ')' :: tail))).gain
      [some Node.anything, none] (word ++ ')' :: tail)) := by
  have hplain : IsPlainEnd (word ++ ')' :: tail) := by
    cases word with
    | nil => exact isPlainEnd_cons (by decide)
    | cons c word => exact isPlainEnd_cons (by simpa [IsPlainEnd] using isPlainEnd_of_readAll hread)
  let inner := r.open_ (.look false true) ('.' :: '*' :: (word ++ ')' :: tail))
  have hopen : r.PlainSteps inner :=
    Reader.steps_look (Reader.isVerbose_of_flags hflags) (by simpa using hrest)
  have hany : inner.PlainSteps (inner.gain [some Node.anything, none] (word ++ ')' :: tail)) :=
    Reader.steps_anything hflags rfl hplain
  exact hopen.trans hany

theorem Inside.start (r : Reader) (hr : r.flags = .standard) (hrefs : r.references = [])
    (word tail : List Char) :
    Inside (⟨.look false true, r.flags, r.level, []⟩ :: r.groups) r.globals tail { rest := word }
      ((r.open_ (.look false true) ('.' :: '*' :: (word ++ ')' :: tail))).gain
        [some Node.anything, none] (word ++ ')' :: tail)) where
  rest := rfl
  flags := hr
  nested := .bottom (.first .default rfl rfl rfl)
  look := rfl
  references := hrefs
  globals := rfl

theorem Nested.behind {below ks : List OpenGroup} {l m : Level} (h : Nested below l [] m ks) :
    l.Behind m ∧ ks = below := by
  cases h with
  | bottom h => exact ⟨h, rfl⟩

theorem exists_inside (hread : Reader.readAll (word.length + 1) { rest := word } = .ok e)
    (hapart : IsApart word) (r : Reader) (hr : r.flags = .standard) (hrefs : r.references = [])
    (tail : List Char) (hrest : r.rest = "(?=.*".toList ++ (word ++ ')' :: tail)) :
    ∃ s, r.Steps s ∧ e.level.Behind s.level ∧ Flag.backwards ∉ e.globals ∧
      s.groups = ⟨.look false true, r.flags, r.level, []⟩ :: r.groups ∧
      s.references = [] ∧ s.globals = e.globals ++ r.globals ∧
      next s.isVerbose s.rest = some (')', tail) := by
  have hstart := Reader.steps_lookahead hread (.of_eq hr : r.flags.Alike (caseFlags true)) hrest
  obtain ⟨s, hsteps, hinside, hend, hn, hgroups⟩ :=
    (Inside.start r hr hrefs word tail).run (Nat.lt_succ_self _) hapart hread
  obtain ⟨-, hforwards, hsettled⟩ := Reader.isApart_iff.1 hend
  have hnested := hinside.nested
  rw [hgroups] at hnested
  obtain ⟨hbehind, hbelow⟩ := hnested.behind
  have hverbose : s.isVerbose = e.isVerbose := congrArg Flags.isVerbose hinside.flags
  refine ⟨s, hstart.toSteps.trans hsteps, hbehind, hforwards, hbelow, hinside.references,
    hinside.globals, ?_⟩
  rw [hverbose, hinside.rest]
  exact next_append_none hsettled hn tail

theorem looksFor_of_isApart (hread : Reader.readAll (word.length + 1) { rest := word } = .ok e)
    (hapart : IsApart word) (hversion : Flag.oldVersion ∉ e.globals) :
    LooksFor word e.level.branches := by
  intro r tail hclear _ hrest
  obtain ⟨s, hsteps, hbehind, hforwards, hgroups, hrefs, hglobals, hn⟩ :=
    exists_inside hread hapart r hclear.flags hclear.references tail hrest
  have hclose : s.readChar ')' tail =
      .ok (s.close tail ⟨.look false true, r.flags, r.level, []⟩ r.groups) := by
    simp only [Reader.readChar, Reader.closing, hgroups]
  refine ⟨_, s.level.node.join, _, hsteps.trans (.of_readChar hn hclose (Nat.le_refl _)), rfl, ?_,
    rfl, rfl, rfl, hbehind.isFree_join, fun cs i hcs hi => hbehind.startsAt_iff hcs hi⟩
  refine ⟨hclear.flags, hrefs, ?_, ?_⟩
  · change Flag.backwards ∉ s.globals
    rw [hglobals, List.mem_append, not_or]
    exact ⟨hforwards, hclear.forwards⟩
  · change Flag.oldVersion ∉ s.globals
    rw [hglobals, List.mem_append, not_or]
    exact ⟨hversion, hclear.version⟩

theorem isFree_of_isApart (hread : Reader.readAll (word.length + 1) { rest := word } = .ok e)
    (hapart : IsApart word) : e.level.IsFree ∧ Flag.backwards ∉ e.globals := by
  obtain ⟨s, -, hbehind, hforwards, -⟩ := exists_inside hread hapart
    { rest := "(?=.*".toList ++ (word ++ [')']) } rfl rfl [] rfl
  exact ⟨hbehind.free, hforwards⟩

theorem startsFrom_single {n : Node} {cs : List Char} {i : Nat} :
    StartsFrom [n] cs i ↔ ∃ j, i ≤ j ∧ j ≤ cs.length ∧ n.startsAt cs j = true := by
  simp [StartsFrom]

theorem StandsFor.branchesOf {nodes : List Node} (h : StandsFor word nodes) :
    branchesOf word = [.ofList nodes] := by
  obtain ⟨sensitive, items, hread, hjoins⟩ := h
  obtain ⟨flags, hflags, hsteps⟩ :=
    hread.steps { rest := word } [] (.of_eq rfl) (by simp) isPlainEnd_nil
  have hend : next (Reader.isVerbose { rest := [], flags }) [] = none := by
    rw [Reader.isVerbose_of_flags hflags]
    rfl
  have hall := Reader.readAll_of_steps hsteps.toSteps hend rfl (Nat.lt_succ_self word.length)
  have hbranch : (Level.gain {} items).branches = [.ofList nodes] := by
    rw [Level.branches, Level.sequence_gain]
    exact congrArg (fun n => [n]) (join_ofList hjoins)
  rw [Pattern.branchesOf, hall]
  exact hbranch

theorem StandsFor.looksFor {nodes : List Node} (h : StandsFor word nodes)
    (hfree : ∀ n ∈ nodes, n.isFree = true) : LooksFor word (Pattern.branchesOf word) := by
  obtain ⟨n, hread, hparts⟩ := h.look
  intro r tail hclear htail hrest
  have hsteps := hread.steps r tail (.of_eq hclear.flags) (by simpa using hrest) htail
  refine ⟨n, .ofList (Node.anything :: nodes), _, hsteps.toSteps, rfl,
    ⟨hclear.flags, hclear.references, hclear.forwards, hclear.version⟩, rfl, rfl, hparts,
    Node.isFree_ofList (List.forall_mem_cons.2 ⟨rfl, hfree⟩), fun cs i hcs hi => ?_⟩
  rw [h.branchesOf, startsFrom_single, Node.startsAt_anything hcs hi]

end
end ReleaseMatch.Pattern
