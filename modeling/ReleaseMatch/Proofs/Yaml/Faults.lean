import ReleaseMatch.Proofs.Yaml.Onward
import ReleaseMatch.Yaml.Reader
set_option autoImplicit false

/-!
# Where faults of documents come from

A reader of tokens fails with a fault of the markup, or passes on the one behind the tokens. So a fault of a
document that is about the code of a character is about one that an escape in its text is for.
-/
namespace ReleaseMatch.Yaml

open Read

/-- A reader keeps the fault behind the tokens, and fails with that one or with one of the markup. -/
def PassesOn {α : Type} (x : Read α) : Prop :=
  ∀ r, Yields (fun f => IsOfMarkup f ∨ r.fault = some f) (fun p => p.2.fault = r.fault) (x r)

variable {α β : Type} {x : Read α}

theorem PassesOn.pure (a : α) : PassesOn (Pure.pure a : Read α) := fun _ => rfl

theorem PassesOn.bind {f : α → Read β} (h : PassesOn x) (hf : ∀ a, PassesOn (f a)) : PassesOn (x >>= f) := by
  intro r
  refine Yields.bind (h r) fun p hp => ?_
  have hnext := hf p.1 p.2
  rwa [hp] at hnext

theorem PassesOn.ite {p : Prop} [Decidable p] {y : Read α} (hx : PassesOn x) (hy : PassesOn y) :
    PassesOn (if p then x else y) := by
  split
  · exact hx
  · exact hy

theorem PassesOn.failAt {context : Option (Context × Mark)} {problem : Problem} {mark : Mark}
    (h : ∀ code, problem ≠ .noCharacter code) : PassesOn (Read.failAt (α := α) context problem mark) :=
  fun _ => .inl h

theorem PassesOn.modify {f : NodeReader → NodeReader} (h : ∀ r, (f r).fault = r.fault) :
    PassesOn (modify f : Read PUnit) := h

theorem PassesOn.get : PassesOn (get : Read NodeReader) := fun _ => rfl

theorem passesOn_peek : PassesOn peek := by
  intro r
  rw [peek]
  split
  · exact rfl
  · split
    · next heq => exact .inr heq
    · exact rfl

theorem passesOn_take : PassesOn take :=
  passesOn_peek.bind fun t => (PassesOn.modify fun _ => rfl).bind fun _ => .pure t

theorem passesOn_nextIs (test : TokenKind → Bool) : PassesOn (nextIs test) := passesOn_peek.bind fun _ => .pure _

theorem passesOn_takeIf (test : TokenKind → Bool) : PassesOn (takeIf test) := by
  refine (passesOn_nextIs test).bind fun found => .ite ?_ (.pure none)
  exact passesOn_take.bind fun t => .pure (some t)

theorem passesOn_readAnchor (p : Properties) : PassesOn (readAnchor p) := by
  refine passesOn_peek.bind fun t => ?_
  split
  · exact passesOn_take.bind fun _ => .pure _
  · exact .pure p

theorem passesOn_readTag (p : Properties) : PassesOn (readTag p) := by
  refine passesOn_peek.bind fun t => ?_
  split
  · exact passesOn_take.bind fun _ => .pure _
  · exact .pure p

theorem passesOn_readProperties : PassesOn readProperties := by
  refine (passesOn_readAnchor {}).bind fun p => ?_
  refine (passesOn_readTag p).bind fun p => ?_
  exact .ite (passesOn_readAnchor p) (.pure p)

theorem passesOn_resolveTag (p : Properties) (start : Mark) : PassesOn (resolveTag p start) := by
  rw [resolveTag]
  split
  · exact .pure none
  · exact .pure _
  · refine PassesOn.get.bind fun r => ?_
    split
    · exact .pure _
    · exact .failAt (by simp)

theorem passesOn_setAnchor (anchor : Option String) (n : Node) : PassesOn (setAnchor anchor n) := by
  cases anchor with
  | none => exact .pure _
  | some name => exact .modify fun _ => rfl

theorem passesOn_checkAnchor (anchor : Option String) (start : Mark) : PassesOn (checkAnchor anchor start) := by
  cases anchor with
  | none => exact .pure _
  | some name =>
    refine PassesOn.get.bind fun r => ?_
    split
    · exact .failAt (by simp)
    · exact .pure _

theorem PassesOn.collection {content : Read (List α)} (h : PassesOn content) (anchor : Option String) (start : Mark)
    (tag : Tag) (node : Tag → List α → Mark → Node) : PassesOn (collection anchor start tag node content) := by
  refine (passesOn_checkAnchor anchor start).bind fun _ => ?_
  refine (passesOn_setAnchor anchor _).bind fun _ => ?_
  refine h.bind fun items => ?_
  exact (passesOn_setAnchor anchor _).bind fun _ => .pure _

theorem passesOn_readComma (context : Context) (start : Mark) (expected : String) :
    PassesOn (readComma context start expected) := by
  refine (passesOn_takeIf _).bind fun found => .ite ?_ (.pure _)
  exact passesOn_peek.bind fun t => .failAt (by simp)

theorem behindComma {first : Bool} {context : Context} {start : Mark} {expected : String} {next : PUnit → Read α}
    (hnext : ∀ u, PassesOn (next u)) :
    PassesOn (if first then next ⟨⟩ else readComma context start expected >>= next) :=
  .ite (hnext _) ((passesOn_readComma context start expected).bind hnext)

/-! Nodes -/

/-- Nodes and what is in collections, with so much fuel. -/
structure PassesWith (fuel : Nat) : Prop where
  node (style : Style) : PassesOn (readNode style fuel)
  blockSequence (start : Mark) (indentless : Bool) : PassesOn (readBlockSequence start indentless fuel)
  blockMapping (start : Mark) : PassesOn (readBlockMapping start fuel)
  flowSequence (start : Mark) (first : Bool) : PassesOn (readFlowSequence start first fuel)
  flowMapping (start : Mark) (first : Bool) : PassesOn (readFlowMapping start first fuel)

theorem PassesWith.zero : PassesWith 0 where
  node style := by
    rw [readNode]
    exact passesOn_peek.bind fun t => .failAt (by simp)
  blockSequence start indentless := by
    rw [readBlockSequence]
    exact .pure []
  blockMapping start := by
    rw [readBlockMapping]
    exact .pure []
  flowSequence start first := by
    rw [readFlowSequence]
    exact .pure []
  flowMapping start first := by
    rw [readFlowMapping]
    exact .pure []

variable {fuel : Nat}

namespace PassesWith

/-- A node that may have been left out, and what is done with it. -/
theorem optional (h : PassesWith fuel) {test : TokenKind → Bool} {mark : Mark} {style : Style}
    {next : Node → Read β} (hnext : ∀ n, PassesOn (next n)) : PassesOn (nextIs test >>= fun ends =>
      if ends then Pure.pure (leftOut mark) >>= next else readNode style fuel >>= next) :=
  (passesOn_nextIs test).bind fun _ => .ite ((PassesOn.pure _).bind hnext) ((h.node style).bind hnext)

/-- The value behind a key, if there is a colon. -/
theorem value (h : PassesWith fuel) {test : TokenKind → Bool} {style : Style} {next : Node → Read β}
    (hnext : ∀ n, PassesOn (next n)) : PassesOn (takeIf (· == .value) >>= fun found =>
      match found with
      | some v => nextIs test >>= fun ends =>
        if ends then Pure.pure (leftOut v.stop) >>= next else readNode style fuel >>= next
      | none => peek >>= fun t => Pure.pure (leftOut t.start) >>= next) := by
  refine (passesOn_takeIf _).bind fun found => ?_
  cases found with
  | none => exact passesOn_peek.bind fun t => (PassesOn.pure _).bind hnext
  | some v => exact h.optional hnext

theorem scalar (anchor : Option String) (start : Mark) (n : Node) : PassesOn (do
    checkAnchor anchor start
    setAnchor anchor n
    return n) :=
  (passesOn_checkAnchor anchor start).bind fun _ => (passesOn_setAnchor anchor n).bind fun _ => .pure n

theorem node_succ (h : PassesWith fuel) (style : Style) : PassesOn (readNode style (fuel + 1)) := by
  rw [readNode]
  refine passesOn_peek.bind fun t => ?_
  split
  · refine passesOn_take.bind fun _ => PassesOn.get.bind fun r => ?_
    split
    · exact .pure _
    · exact .failAt (by simp)
  · refine passesOn_readProperties.bind fun p => passesOn_peek.bind fun t => ?_
    refine (passesOn_resolveTag p _).bind fun tag => ?_
    split
    · exact passesOn_take.bind fun _ => scalar _ _ _
    · exact passesOn_take.bind fun _ => (h.flowSequence _ _).collection _ _ _ _
    · exact passesOn_take.bind fun _ => (h.flowMapping _ _).collection _ _ _ _
    · refine .ite ((h.blockSequence _ _).collection _ _ _ _) ?_
      refine .ite (passesOn_take.bind fun _ => (h.blockSequence _ _).collection _ _ _ _) ?_
      refine .ite (passesOn_take.bind fun _ => (h.blockMapping _).collection _ _ _ _) ?_
      refine .ite (scalar _ _ _) ?_
      exact .failAt (by simp)

theorem blockSequence_succ (h : PassesWith fuel) (start : Mark) (indentless : Bool) :
    PassesOn (readBlockSequence start indentless (fuel + 1)) := by
  rw [readBlockSequence]
  refine (passesOn_takeIf _).bind fun found => ?_
  split
  · refine h.optional fun item => ?_
    exact (h.blockSequence start indentless).bind fun items => .pure _
  · refine .ite (.pure _) (passesOn_peek.bind fun t => .ite ?_ (.failAt (by simp)))
    exact passesOn_take.bind fun _ => .pure _

theorem blockMapping_succ (h : PassesWith fuel) (start : Mark) : PassesOn (readBlockMapping start (fuel + 1)) := by
  rw [readBlockMapping]
  refine passesOn_peek.bind fun t => .ite (passesOn_take.bind fun _ => .pure _) (.ite ?_ (.failAt (by simp)))
  refine passesOn_take.bind fun k => h.optional fun key => h.value fun value => ?_
  exact (h.blockMapping start).bind fun entries => .pure _

theorem flowSequence_succ (h : PassesWith fuel) (start : Mark) (first : Bool) :
    PassesOn (readFlowSequence start first (fuel + 1)) := by
  rw [readFlowSequence]
  refine (passesOn_takeIf _).bind fun found => .ite (.pure _) (behindComma fun _ => ?_)
  refine (passesOn_takeIf _).bind fun found => ?_
  split
  · refine h.optional fun key => h.value fun value => ?_
    exact (h.flowSequence start false).bind fun items => .pure _
  · refine (passesOn_takeIf _).bind fun found => .ite (.pure _) ?_
    exact (h.node {}).bind fun item => (h.flowSequence start false).bind fun items => .pure _

theorem flowMapping_succ (h : PassesWith fuel) (start : Mark) (first : Bool) :
    PassesOn (readFlowMapping start first (fuel + 1)) := by
  rw [readFlowMapping]
  refine (passesOn_takeIf _).bind fun found => .ite (.pure _) (behindComma fun _ => ?_)
  refine (passesOn_takeIf _).bind fun found => ?_
  split
  · refine h.optional fun key => h.value fun value => ?_
    exact (h.flowMapping start false).bind fun entries => .pure _
  · refine (passesOn_takeIf _).bind fun found => .ite (.pure _) ?_
    refine (h.node {}).bind fun key => passesOn_peek.bind fun t => ?_
    exact (h.flowMapping start false).bind fun entries => .pure _

end PassesWith

theorem passesWith (fuel : Nat) : PassesWith fuel := by
  induction fuel with
  | zero => exact .zero
  | succ fuel ih =>
    exact ⟨ih.node_succ, ih.blockSequence_succ, ih.blockMapping_succ, ih.flowSequence_succ, ih.flowMapping_succ⟩

/-! Documents -/

theorem passesOn_readDirectives (versionSeen : Bool) (handles : List (String × String)) (fuel : Nat) :
    PassesOn (readDirectives versionSeen handles fuel) := by
  induction fuel generalizing versionSeen handles with
  | zero => exact .pure handles
  | succ fuel ih =>
    rw [readDirectives]
    refine passesOn_peek.bind fun t => ?_
    split
    · refine passesOn_take.bind fun _ => ?_
      split
      · exact .ite (.failAt (by simp)) (.ite (.failAt (by simp)) (ih _ _))
      · exact .ite (.failAt (by simp)) (ih _ _)
      · exact ih _ _
    · exact .pure handles

theorem passesOn_readHead (fuel : Nat) : PassesOn (readHead fuel) := by
  refine (passesOn_readDirectives _ _ _).bind fun handles => passesOn_peek.bind fun t => ?_
  refine .ite (passesOn_take.bind fun _ => .modify fun _ => rfl) (.failAt (by simp))

theorem passesOn_skipDocumentEnds (fuel : Nat) : PassesOn (skipDocumentEnds fuel) := by
  induction fuel with
  | zero => exact .pure _
  | succ fuel ih =>
    rw [skipDocumentEnds]
    exact (passesOn_takeIf _).bind fun _ => .ite ih (.pure _)

theorem passesOn_readDocument (fuel : Nat) : PassesOn (readDocument fuel) := by
  have hnode := (passesWith fuel).node { block := true }
  refine passesOn_take.bind fun _ => passesOn_peek.bind fun t => .ite (.pure none) ?_
  have hrest (root : Node) : PassesOn (do
      skipDocumentEnds fuel
      let t ← peek
      if t.kind == .streamEnd then return some root
      else
        readHead fuel
        Read.failAt (some (.singleDocument, root.mark)) .secondDocument t.start) := by
    refine (passesOn_skipDocumentEnds fuel).bind fun _ => passesOn_peek.bind fun t => .ite (.pure _) ?_
    exact (passesOn_readHead fuel).bind fun _ => .failAt (by simp)
  refine .ite ((passesOn_readHead fuel).bind fun _ => passesOn_peek.bind fun t => ?_) ?_
  · exact .ite ((PassesOn.pure _).bind hrest) (hnode.bind hrest)
  · refine PassesOn.bind (.modify ?_) fun _ => hnode.bind hrest
    exact fun _ => rfl

theorem isOfMarkup_or_fault_of_ofText? {text : List Char} {f : Fault} (h : Node.ofText? text = .error f) :
    IsOfMarkup f ∨ (Tokens.ofText text).fault = some f := by
  rw [Node.ofText?] at h
  generalize Tokens.ofText text = tokens at h ⊢
  have hread := passesOn_readDocument (4 * tokens.list.length + 4) { tokens := tokens.list, fault := tokens.fault }
  dsimp only [StateT.run] at h
  generalize readDocument (4 * tokens.list.length + 4) { tokens := tokens.list, fault := tokens.fault } = r at h hread
  cases r with
  | ok p => exact nomatch h
  | error g =>
    obtain rfl := Except.error.inj h
    exact hread

theorem cites_of_ofText? {text : List Char} {f : Fault} (h : Node.ofText? text = .error f) : Cites text f := by
  obtain hmarkup | hfault := isOfMarkup_or_fault_of_ofText? h
  · exact hmarkup.cites
  · exact cites_of_ofText text f hfault

theorem codeLimit_le_of_ofText? {text : List Char} {f : Fault} {code : Nat} (hwhole : hasHalf text = false)
    (h : Node.ofText? text = .error f) (hcode : f.problem = .noCharacter code) : codeLimit ≤ code := by
  obtain ⟨hlimit | hhalf, tail, hsuffix, hescape⟩ := cites_of_ofText? h code hcode
  · exact hlimit
  · rw [hasHalf_iff.2 ⟨tail, code, hsuffix, hescape, hhalf⟩] at hwhole
    exact nomatch hwhole

end ReleaseMatch.Yaml
