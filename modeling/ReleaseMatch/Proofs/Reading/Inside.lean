import ReleaseMatch.Proofs.Reading.Follow
import ReleaseMatch.Proofs.Reading.Numbering
import ReleaseMatch.Proofs.Reading.Tame
set_option autoImplicit false

/-!
# A pattern inside a lookahead

A pattern that is read by itself and the same pattern behind the start of a lookahead are read step by
step in the same way. What is read differs in the numbers of groups, and in the first alternative,
which has any characters in front of it inside the lookahead.
-/
namespace ReleaseMatch.Pattern

/-- The same node up to the numbers of its groups, which nothing in it refers to. -/
structure Node.Alike (n m : Node) : Prop where
  free : n.isFree = true
  same : m.unnumbered = n.unnumbered

theorem Node.Alike.refl {n : Node} (h : n.isFree = true) : n.Alike n := ⟨h, rfl⟩

theorem Node.Alike.group {n m : Node} (h : n.Alike m) (i j : Nat) :
    (Node.group i n).Alike (.group j m) :=
  ⟨h.free, congrArg (Node.group 0) h.same⟩

theorem Node.Alike.look {n m : Node} (h : n.Alike m) (behind positive : Bool) :
    (Node.look behind positive n).Alike (.look behind positive m) :=
  ⟨h.free, congrArg (Node.look behind positive) h.same⟩

theorem Node.Alike.atomic {n m : Node} (h : n.Alike m) : (Node.atomic n).Alike (.atomic m) :=
  ⟨h.free, congrArg Node.atomic h.same⟩

theorem Node.Alike.ifLook {n m yes yes' no no' : Node} (h : n.Alike m) (hyes : yes.Alike yes')
    (hno : no.Alike no') (behind positive : Bool) :
    (Node.ifLook behind positive n yes no).Alike (.ifLook behind positive m yes' no') where
  free := by simp [Node.isFree, h.free, hyes.free, hno.free]
  same := by simp [Node.unnumbered, h.same, hyes.same, hno.same]

theorem Node.Alike.times {n m : Node} (h : n.Alike m) (counts : Counts) (greed : Greed) :
    (n.times counts greed).Alike (m.times counts greed) := by
  have hempty : m.isEmpty = n.isEmpty := by
    rw [← m.isEmpty_unnumbered, h.same, n.isEmpty_unnumbered]
  rw [Node.times, Node.times, hempty]
  split
  · exact h
  · exact ⟨h.free, congrArg (Node.repeated · _ _ _) h.same⟩

/-! Levels -/

namespace Level

variable {l m l' : Level} {n k : Node}

structure IsFree (l : Level) : Prop where
  alternatives : ∀ n ∈ l.alternatives, n.isFree = true
  items : ∀ n, some n ∈ l.items → n.isFree = true

def bareItems (l : Level) : List (Option Node) := l.items.map (·.map Node.unnumbered)

theorem sequence_unnumbered (l : Level) :
    l.sequence.unnumbered = .ofList (l.bareItems.reverse.filterMap id) := by
  rw [sequence, Node.unnumbered_ofList, bareItems, ← List.map_reverse, List.filterMap_map,
    List.map_filterMap]
  rfl

namespace IsFree

theorem default : IsFree {} := ⟨by simp, by simp⟩

theorem sequence (h : l.IsFree) : l.sequence.isFree = true := by
  refine Node.isFree_ofList fun n hn => h.items n ?_
  simpa using hn

theorem branches (h : l.IsFree) : ∀ n ∈ l.alternatives.reverse ++ [l.sequence], n.isFree = true := by
  intro n hn
  rcases List.mem_append.1 hn with hn | hn
  · exact h.alternatives n (List.mem_reverse.1 hn)
  · rw [List.mem_singleton.1 hn]
    exact h.sequence

theorem node (h : l.IsFree) : l.node.isFree = true := isFree_alternatives h.branches

theorem push (h : l.IsFree) (hn : n.isFree = true) : (l.push n).IsFree where
  alternatives := h.alternatives
  items k hk := by
    rcases List.mem_cons.1 hk with hk | hk
    · rwa [Option.some.inj hk]
    · exact h.items k hk

theorem split (h : l.IsFree) : l.split.IsFree where
  alternatives := List.forall_mem_cons.2 ⟨h.sequence, h.alternatives⟩
  items k hk := by simp [Level.split] at hk

theorem amend {f : Node → Node} (h : l.IsFree) (hf : ∀ n, n.isFree = true → (f n).isFree = true)
    (ha : l.amend f = some l') : l'.IsFree := by
  rw [Level.amend] at ha
  split at ha
  · next n items hitems =>
    obtain rfl := Option.some.inj ha
    refine ⟨h.alternatives, fun k hk => ?_⟩
    have hmem (j : Node) (hj : some j ∈ some n :: items) := h.items j (hitems ▸ hj)
    rcases List.mem_cons.1 hk with hk | hk
    · cases hk
    · rcases List.mem_cons.1 hk with hk | hk
      · rw [Option.some.inj hk]
        exact hf n (hmem n List.mem_cons_self)
      · exact hmem k (List.mem_cons_of_mem _ hk)
  · cases ha

end IsFree

structure Alike (l m : Level) : Prop where
  free : l.IsFree
  alternatives : m.alternatives.map Node.unnumbered = l.alternatives.map Node.unnumbered
  items : m.bareItems = l.bareItems

/-- Any characters stand in front of what has been read first. -/
inductive Behind : Level → Level → Prop
  | first {l m : Level} (free : l.IsFree) (hl : l.alternatives = []) (hm : m.alternatives = [])
      (items : m.bareItems = l.bareItems ++ [some Node.anything, none]) : Behind l m
  | later {l m : Level} {as bs : List Node} {a b : Node} (free : l.IsFree)
      (hl : l.alternatives = as ++ [a]) (hm : m.alternatives = bs ++ [b])
      (others : bs.map Node.unnumbered = as.map Node.unnumbered)
      (start : b.unnumbered.parts = Node.anything :: a.unnumbered.parts)
      (items : m.bareItems = l.bareItems) : Behind l m

theorem exists_amend_of_view {α : Type} {view : Node → α} {f g : Node → Node}
    {more : List (Option α)}
    (hfg : ∀ n ∈ l.items.filterMap id, ∀ m, view m = view n → view (g m) = view (f n))
    (hitems : m.items.map (·.map view) = l.items.map (·.map view) ++ more)
    (ha : l.amend f = some l') :
    ∃ m', m.amend g = some m' ∧ m'.alternatives = m.alternatives ∧
      m'.items.map (·.map view) = l'.items.map (·.map view) ++ more := by
  rw [amend] at ha
  split at ha
  · next n items hl =>
    obtain rfl := Option.some.inj ha
    rw [hl] at hitems hfg
    cases hm : m.items with
    | nil => simp [hm] at hitems
    | cons item rest =>
      cases item with
      | none => simp [hm] at hitems
      | some k =>
        simp only [hm, List.map_cons, Option.map_some, List.cons_append, List.cons.injEq,
          Option.some.injEq] at hitems
        refine ⟨{ m with items := none :: some (g k) :: rest }, by rw [amend, hm], rfl, ?_⟩
        simp [hfg n (by simp) k hitems.1, hitems.2]
  · cases ha

theorem exists_amend {f : Node → Node} {more : List (Option Node)}
    (hf : ∀ n m : Node, n.Alike m → (f n).Alike (f m)) (hfree : l.IsFree)
    (hitems : m.bareItems = l.bareItems ++ more) (ha : l.amend f = some l') :
    ∃ m', m.amend f = some m' ∧ m'.alternatives = m.alternatives ∧
      m'.bareItems = l'.bareItems ++ more :=
  exists_amend_of_view
    (fun n hn k hk => (hf n k ⟨hfree.items n (by simpa using hn), hk⟩).same) hitems ha

theorem alternatives_amend {f : Node → Node} (ha : l.amend f = some l') :
    l'.alternatives = l.alternatives := by
  rw [amend] at ha
  split at ha
  · obtain rfl := Option.some.inj ha
    rfl
  · cases ha

namespace Alike

theorem default : Alike {} {} := ⟨.default, rfl, rfl⟩

theorem sequence (h : l.Alike m) : m.sequence.unnumbered = l.sequence.unnumbered := by
  rw [sequence_unnumbered, sequence_unnumbered, h.items]

theorem node (h : l.Alike m) : l.node.Alike m.node where
  free := h.free.node
  same := by
    simp only [Level.node, Node.unnumbered_alternatives, List.map_append, List.map_reverse,
      h.alternatives, List.map_cons, List.map_nil, h.sequence]

theorem push (h : l.Alike m) (hn : n.Alike k) : (l.push n).Alike (m.push k) where
  free := h.free.push hn.free
  alternatives := h.alternatives
  items := by
    have hitems := h.items
    simp only [bareItems] at hitems ⊢
    simp [Level.push, hn.same, hitems]

theorem split (h : l.Alike m) : l.split.Alike m.split where
  free := h.free.split
  alternatives := by simp [Level.split, h.sequence, h.alternatives]
  items := rfl

theorem amend {f : Node → Node} (h : l.Alike m) (hf : ∀ n m : Node, n.Alike m → (f n).Alike (f m))
    (ha : l.amend f = some l') : ∃ m', m.amend f = some m' ∧ l'.Alike m' := by
  obtain ⟨m', hm', halts, hitems⟩ := exists_amend hf h.free (by rw [h.items, List.append_nil]) ha
  refine ⟨m', hm', h.free.amend (fun n hn => (hf n n (.refl hn)).free) ha, ?_, ?_⟩
  · rw [halts, alternatives_amend ha, h.alternatives]
  · rw [hitems, List.append_nil]

end Alike

namespace Behind

theorem free (h : l.Behind m) : l.IsFree := by
  cases h <;> assumption

theorem push (h : l.Behind m) (hn : n.Alike k) : (l.push n).Behind (m.push k) := by
  have hpush (more : List (Option Node)) (hitems : m.bareItems = l.bareItems ++ more) :
      (m.push k).bareItems = (l.push n).bareItems ++ more := by
    simp only [bareItems] at hitems ⊢
    simp [Level.push, hn.same, hitems]
  cases h with
  | first free hl hm items => exact .first (free.push hn.free) hl hm (hpush _ items)
  | later free hl hm others start items =>
    refine .later (free.push hn.free) hl hm others start ?_
    rw [hpush [] (by rw [items, List.append_nil]), List.append_nil]

theorem parts_sequence (items : m.bareItems = l.bareItems ++ [some Node.anything, none]) :
    m.sequence.unnumbered.parts = Node.anything :: l.sequence.unnumbered.parts := by
  rw [sequence_unnumbered, sequence_unnumbered, items, parts_ofList, parts_ofList]
  simp [Node.anything, Node.parts, joined, joinCharacters, Node.ofList]

theorem split (h : l.Behind m) : l.split.Behind m.split := by
  cases h with
  | first free hl hm items =>
    have hl' : l.split.alternatives = [] ++ [l.sequence] := by simp [Level.split, hl]
    have hm' : m.split.alternatives = [] ++ [m.sequence] := by simp [Level.split, hm]
    exact .later free.split hl' hm' rfl (parts_sequence items) rfl
  | @later as bs a b free hl hm others start items =>
    have hsequence : m.sequence.unnumbered = l.sequence.unnumbered := by
      rw [sequence_unnumbered, sequence_unnumbered, items]
    have hl' : l.split.alternatives = l.sequence :: as ++ [a] := by simp [Level.split, hl]
    have hm' : m.split.alternatives = m.sequence :: bs ++ [b] := by simp [Level.split, hm]
    refine .later free.split hl' hm' ?_ start rfl
    rw [List.map_cons, List.map_cons, others, hsequence]

theorem amend {f : Node → Node} (h : l.Behind m)
    (hf : ∀ n m : Node, n.Alike m → (f n).Alike (f m)) (ha : l.amend f = some l') :
    ∃ m', m.amend f = some m' ∧ l'.Behind m' := by
  have hfree := h.free.amend (fun n hn => (hf n n (.refl hn)).free) ha
  cases h with
  | first free hl hm items =>
    obtain ⟨m', hm', halts, hitems⟩ := exists_amend hf free items ha
    exact ⟨m', hm', .first hfree (by rw [alternatives_amend ha, hl]) (by rw [halts, hm]) hitems⟩
  | later free hl hm others start items =>
    obtain ⟨m', hm', halts, hitems⟩ := exists_amend hf free (by rw [items, List.append_nil]) ha
    exact ⟨m', hm', .later hfree (by rw [alternatives_amend ha, hl]) (by rw [halts, hm]) others start
      (by rw [hitems, List.append_nil])⟩

end Behind
end Level

/-! Groups -/

inductive Purpose.Alike : Purpose → Purpose → Prop
  | plain : Alike .plain .plain
  | capture (i j : Nat) : Alike (.capture i) (.capture j)
  | look (behind positive : Bool) : Alike (.look behind positive) (.look behind positive)
  | atomic : Alike .atomic .atomic
  | reset (i j k l : Nat) : Alike (.reset i j) (.reset k l)
  | test (behind positive : Bool) : Alike (.test behind positive) (.test behind positive)
  | ifLook (behind positive : Bool) {n m : Node} (h : n.Alike m) :
    Alike (.ifLook behind positive n) (.ifLook behind positive m)

/-- A level and its groups by themselves, and inside a lookahead on top of the groups below it. -/
inductive Nested (below : List OpenGroup) :
    Level → List OpenGroup → Level → List OpenGroup → Prop
  | bottom {l m : Level} (h : l.Behind m) : Nested below l [] m below
  | inner {l m : Level} {g k : OpenGroup} {gs ks : List OpenGroup} (h : l.Alike m)
      (purpose : g.purpose.Alike k.purpose) (flags : k.flags = g.flags)
      (outer : Nested below g.outer gs k.outer ks) : Nested below l (g :: gs) m (k :: ks)

namespace Nested

variable {below gs ks : List OpenGroup} {l m l' m' : Level} {n k : Node}

theorem change (h : Nested below l gs m ks) (halike : l.Alike m → l'.Alike m')
    (hbehind : l.Behind m → l'.Behind m') : Nested below l' gs m' ks := by
  cases h with
  | bottom h => exact .bottom (hbehind h)
  | inner h purpose flags outer => exact .inner (halike h) purpose flags outer

theorem push (h : Nested below l gs m ks) (hn : n.Alike k) :
    Nested below (l.push n) gs (m.push k) ks :=
  h.change (·.push hn) (·.push hn)

theorem amend {f : Node → Node} (h : Nested below l gs m ks)
    (hf : ∀ n m : Node, n.Alike m → (f n).Alike (f m)) (ha : l.amend f = some l') :
    ∃ m', m.amend f = some m' ∧ Nested below l' gs m' ks := by
  cases h with
  | bottom h =>
    obtain ⟨m', hm', h⟩ := h.amend hf ha
    exact ⟨m', hm', .bottom h⟩
  | inner h purpose flags outer =>
    obtain ⟨m', hm', h⟩ := h.amend hf ha
    exact ⟨m', hm', .inner h purpose flags outer⟩

theorem enter (h : Nested below l gs m ks) {p q : Purpose} (hp : p.Alike q) {f f' : Flags}
    (hf : f' = f) : Nested below {} (⟨p, f, l, []⟩ :: gs) {} (⟨q, f', m, []⟩ :: ks) :=
  .inner .default hp hf h

end Nested

/-- A reader by itself, and one inside a lookahead that has a closing parenthesis and more ahead. -/
structure Inside (below : List OpenGroup) (outside : Flags) (tail : List Char) (r s : Reader) :
    Prop where
  rest : s.rest = r.rest ++ ')' :: tail
  flags : s.flags = r.flags
  nested : Nested below r.level r.groups s.level s.groups
  look : below.head?.map (·.purpose) = some (.look false true)
  references : s.references = []
  globals : s.globals = r.globals ++ outside

namespace Inside

variable {below : List OpenGroup} {outside : Flags} {tail rest : List Char} {r s r' : Reader}

theorem push (h : Inside below outside tail r s) {n : Node} (hn : n.isFree = true) :
    Inside below outside tail (r.push n rest) (s.push n (rest ++ ')' :: tail)) :=
  { h with rest := rfl, nested := h.nested.push (.refl hn) }

theorem enter (h : Inside below outside tail r s) {p q : Purpose} (hp : p.Alike q) :
    Inside below outside tail (r.open_ p rest) (s.open_ q (rest ++ ')' :: tail)) :=
  { h with rest := rfl, nested := h.nested.enter hp h.flags }

theorem capture (h : Inside below outside tail r s) (name : Option String) :
    Inside below outside tail (r.openCapture name rest)
      (s.openCapture name (rest ++ ')' :: tail)) where
  rest := rfl
  flags := h.flags
  nested := h.nested.enter (.capture _ _) h.flags
  look := h.look
  references := h.references
  globals := h.globals

theorem change (h : Inside below outside tail r s) (on off : Flags) (ownGroup : Bool)
    (hact : r.act (.change on off ownGroup) rest = some r') :
    ∃ s', s.act (.change on off ownGroup) (rest ++ ')' :: tail) = some s' ∧
      Inside below outside tail r' s' := by
  obtain rfl := Option.some.inj hact
  refine ⟨_, rfl, ?_⟩
  have hglobals : on.filter Flag.isGlobal ++ s.globals =
      on.filter Flag.isGlobal ++ r.globals ++ outside := by
    rw [h.globals, List.append_assoc]
  cases ownGroup with
  | true =>
    exact ⟨rfl, congrArg (Flags.change · _ off) h.flags, h.nested.enter .plain h.flags, h.look,
      h.references, hglobals⟩
  | false =>
    exact ⟨rfl, congrArg (Flags.change · _ off) h.flags, h.nested, h.look, h.references, hglobals⟩

theorem amend (h : Inside below outside tail r s) {f : Node → Node} {level : Level}
    (hf : ∀ n m : Node, n.Alike m → (f n).Alike (f m)) (ha : r.level.amend f = some level) :
    ∃ level', s.level.amend f = some level' ∧
      Inside below outside tail { r with rest, level }
        { s with rest := rest ++ ')' :: tail, level := level' } := by
  obtain ⟨level', hlevel, hnested⟩ := h.nested.amend hf ha
  exact ⟨level', hlevel, { h with rest := rfl, nested := hnested }⟩

theorem split (h : Inside below outside tail r s) (rest : List Char) :
    Inside below outside tail { r with rest, level := r.level.split }
      { s with rest := rest ++ ')' :: tail, level := s.level.split } :=
  { h with rest := rfl, nested := h.nested.change (·.split) (·.split) }

theorem bar (h : Inside below outside tail r s) (hbar : r.bar rest = .ok r') :
    ∃ s', s.bar (rest ++ ')' :: tail) = .ok s' ∧ Inside below outside tail r' s' := by
  have hsplit := h.split rest
  obtain ⟨restR, flagsR, levelR, groupsR, countR, namesR, openedR, referencesR, globalsR⟩ := r
  obtain ⟨restS, flagsS, levelS, groupsS, countS, namesS, openedS, referencesS, globalsS⟩ := s
  cases h.nested with
  | bottom hbehind =>
    obtain rfl := Except.ok.inj hbar
    refine ⟨_, ?_, hsplit⟩
    cases groupsS with
    | nil => rfl
    | cons g groups =>
      have hpurpose : g.purpose = .look false true := by simpa using h.look
      simp only [Reader.bar, hpurpose]
  | @inner _ _ g k gs ks halike purpose flags outer =>
    obtain ⟨p, f, outerR, earlierR⟩ := g
    obtain ⟨q, f', outerS, earlierS⟩ := k
    cases purpose with
    | plain | capture i j | look behind positive | atomic | test behind positive =>
      obtain rfl := Except.ok.inj hbar
      exact ⟨_, rfl, hsplit⟩
    | reset i j k l =>
      obtain rfl := Except.ok.inj hbar
      exact ⟨_, rfl, hsplit.rest, h.flags, .inner halike.split (.reset _ _ _ _) flags outer, h.look,
        h.references, h.globals⟩
    | ifLook behind positive htest =>
      have hempty : levelS.alternatives.isEmpty = levelR.alternatives.isEmpty := by
        rw [← List.isEmpty_map (f := Node.unnumbered), halike.alternatives, List.isEmpty_map]
      simp only [Reader.bar] at hbar ⊢
      rw [hempty]
      split at hbar
      · next hcond =>
        obtain rfl := Except.ok.inj hbar
        exact ⟨_, if_pos hcond, hsplit⟩
      · cases hbar

/-- A group is closed on both sides: what it stands for is pushed in the level around it. -/
theorem back (h : Inside below outside tail r s) {n m : Node} (hn : n.Alike m) {l k : Level}
    {gs ks : List OpenGroup} (hnested : Nested below l gs k ks) {f f' : Flags} (hf : f' = f)
    (i j : Nat) :
    Inside below outside tail
      { r with rest, flags := f, level := l.push n, groups := gs, groupCount := i }
      { s with
        rest := rest ++ ')' :: tail, flags := f', level := k.push m, groups := ks
        groupCount := j } :=
  ⟨rfl, hf, hnested.push hn, h.look, h.references, h.globals⟩

theorem closing (h : Inside below outside tail r s) (hclosing : r.closing rest = .ok r') :
    ∃ s', s.closing (rest ++ ')' :: tail) = .ok s' ∧ Inside below outside tail r' s' := by
  obtain ⟨restR, flagsR, levelR, groupsR, countR, namesR, openedR, referencesR, globalsR⟩ := r
  obtain ⟨restS, flagsS, levelS, groupsS, countS, namesS, openedS, referencesS, globalsS⟩ := s
  cases h.nested with
  | bottom hbehind => cases hclosing
  | @inner _ _ g k gs ks halike purpose flags outer =>
    obtain rfl := Except.ok.inj hclosing
    refine ⟨_, rfl, ?_⟩
    obtain ⟨p, f, outerR, earlierR⟩ := g
    obtain ⟨q, f', outerS, earlierS⟩ := k
    have hnode := halike.node
    cases purpose with
    | plain => exact h.back hnode outer flags _ _
    | capture i j => exact h.back (hnode.group i j) outer flags _ _
    | look behind positive => exact h.back (hnode.look behind positive) outer flags _ _
    | atomic => exact h.back hnode.atomic outer flags _ _
    | reset i j k l => exact h.back hnode outer h.flags _ _
    | test behind positive =>
      exact ⟨rfl, flags, .inner .default (.ifLook behind positive hnode) flags outer, h.look,
        h.references, h.globals⟩
    | ifLook behind positive htest =>
      obtain ⟨altsR, itemsR⟩ := levelR
      obtain ⟨altsS, itemsS⟩ := levelS
      have halts : altsS.map Node.unnumbered = altsR.map Node.unnumbered := halike.alternatives
      have hsequence : Node.Alike _ _ := ⟨halike.free.sequence, halike.sequence⟩
      cases altsR with
      | nil =>
        obtain rfl : altsS = [] := by simpa using halts
        exact h.back (htest.ifLook hsequence (.refl rfl) behind positive) outer h.flags _ _
      | cons yes altsR =>
        cases altsS with
        | nil => simp at halts
        | cons yes' altsS =>
          have hyes : yes.Alike yes' :=
            ⟨halike.free.alternatives yes List.mem_cons_self, (List.cons.inj halts).1⟩
          exact h.back (htest.ifLook hyes hsequence behind positive) outer h.flags _ _

theorem act (h : Inside below outside tail r s) {action : Action} (hfree : action.IsFree)
    (hrefs : r'.references = []) (hact : r.act action rest = some r') :
    ∃ s', s.act action (rest ++ ')' :: tail) = some s' ∧ Inside below outside tail r' s' := by
  cases action with
  | pass =>
    obtain rfl := Option.some.inj hact
    exact ⟨_, rfl, { h with rest := rfl }⟩
  | push n =>
    obtain rfl := Option.some.inj hact
    exact ⟨_, rfl, h.push hfree⟩
  | split =>
    obtain ⟨s', hs', h'⟩ := h.bar (toOption_eq_some.1 hact)
    exact ⟨s', toOption_eq_some.2 hs', h'⟩
  | close =>
    obtain ⟨s', hs', h'⟩ := h.closing (toOption_eq_some.1 hact)
    exact ⟨s', toOption_eq_some.2 hs', h'⟩
  | quantify counts greed =>
    obtain ⟨level, ha, rfl⟩ := Option.map_eq_some_iff.1 hact
    obtain ⟨level', ha', h'⟩ := h.amend (fun n m hnm => hnm.times counts greed) ha
    exact ⟨_, Option.map_eq_some_iff.2 ⟨level', ha', rfl⟩, h'⟩
  | constrain =>
    obtain ⟨level, ha, rfl⟩ := Option.map_eq_some_iff.1 hact
    obtain ⟨level', ha', h'⟩ := h.amend (fun n m hnm => hnm) ha
    exact ⟨_, Option.map_eq_some_iff.2 ⟨level', ha', rfl⟩, h'⟩
  | look behind positive =>
    obtain rfl := Option.some.inj hact
    exact ⟨_, rfl, h.enter (.look behind positive)⟩
  | test behind positive =>
    obtain rfl := Option.some.inj hact
    exact ⟨_, rfl, h.enter (.test behind positive)⟩
  | atomic =>
    obtain rfl := Option.some.inj hact
    exact ⟨_, rfl, h.enter .atomic⟩
  | reset =>
    obtain rfl := Option.some.inj hact
    exact ⟨_, rfl, h.enter (.reset _ _ _ _)⟩
  | capture name =>
    obtain rfl := Option.some.inj hact
    exact ⟨_, rfl, h.capture name⟩
  | change on off ownGroup => exact h.change on off ownGroup hact
  | back | call | condition =>
    obtain rfl := Option.some.inj hact
    cases hrefs
  | relative forward offset used =>
    simp only [Reader.act] at hact
    split at hact
    · cases hact
    · obtain rfl := Option.some.inj hact
      cases hrefs

end Inside
end ReleaseMatch.Pattern
