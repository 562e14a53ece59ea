import ReleaseMatch.Condition.Basic
import ReleaseMatch.Proofs.Engine.Look
import ReleaseMatch.Proofs.Reading.Joining
set_option autoImplicit false

/-!
# Single conditions

What the fragments of conditions stand for: the literals of the value, with the anchors that the
operator puts around them.
-/
namespace ReleaseMatch

open Pattern Literal

theorem fragment_eq {op : Operator} (h : op.honoursCase = true) (value : String)
    (sensitive : Bool) :
    op.fragment value sensitive = flagOf sensitive ++ op.template (escape value) := by
  have hop : op ≠ .matches := by
    rintro rfl
    exact absurd h (by decide)
  cases sensitive with
  | true => simp [Operator.fragment, Operator.fragmentOf, h, hop, flagOf]
  | false => simp [Operator.fragment, Operator.fragmentOf, h, hop, flagOf]

def valueNodes (value : String) (sensitive : Bool) : List Node :=
  literals (caseModeOf sensitive) value.toList

def Operator.templateNodes (op : Operator) (literal : List Node) : List Node :=
  match op with
  | .contains | .matches => literal
  | .notContains =>
    [.anchor .textStart, .look false false (.ofList (Node.anything :: literal)), Node.anything,
      .anchor .lastLineEnd]
  | .startsWith => .anchor .textStart :: literal
  | .endsWith => literal ++ [.anchor .lastLineEnd]
  | .equals => .anchor .textStart :: (literal ++ [.anchor .lastLineEnd])
  | .wordBoundary => .anchor (.boundary .word) :: (literal ++ [.anchor (.boundary .word)])
  | .isEmpty => [.anchor .textStart, .anchor .lastLineEnd]
  | .isNotEmpty => [Node.something]

theorem isBare_templateNodes (op : Operator) {literal : List Node} (h : ∀ n ∈ literal, n.IsBare) :
    ∀ n ∈ op.templateNodes literal, n.IsBare := by
  have hanchor (a : Anchor) : (Node.anchor a).IsBare := ⟨rfl, rfl⟩
  have hanything : Node.anything.IsBare := ⟨rfl, rfl⟩
  have hend (a : Anchor) : ∀ n ∈ literal ++ [.anchor a], n.IsBare :=
    List.forall_mem_append.2 ⟨h, List.forall_mem_singleton.2 (hanchor a)⟩
  cases op with
  | contains | «matches» => exact h
  | notContains =>
    have hbody := isBare_ofList (List.forall_mem_cons.2 ⟨hanything, h⟩)
    have hlook : (Node.look false false (.ofList (Node.anything :: literal))).IsBare := hbody
    simp [Operator.templateNodes, hanchor, hlook, hanything]
  | startsWith => exact List.forall_mem_cons.2 ⟨hanchor _, h⟩
  | endsWith => exact hend _
  | equals | wordBoundary => exact List.forall_mem_cons.2 ⟨hanchor _, hend _⟩
  | isEmpty => simp [Operator.templateNodes, hanchor]
  | isNotEmpty => exact List.forall_mem_singleton.2 ⟨rfl, rfl⟩

section

variable (value : String) (sensitive : Bool)

theorem spells_escape :
    Spells sensitive (escapeChars value.toList) (valueNodes value sensitive) := by
  have hspells : Spells sensitive _ _ := SpellsApart.nil.literal value.toList
  rwa [List.append_nil, List.append_nil] at hspells

theorem spells_template (op : Operator) :
    Spells sensitive (op.template (escape value)).toList
      (op.templateNodes (valueNodes value sensitive)) := by
  have hend : SpellsApart sensitive ['$'] [.anchor .lastLineEnd] := SpellsApart.nil.spells.dollar
  have hvalue := spells_escape value sensitive
  have hvalueEnd : Spells sensitive (escapeChars value.toList ++ ['$'])
      (valueNodes value sensitive ++ [.anchor .lastLineEnd]) := hend.literal value.toList
  cases op with
  | contains | «matches» => simpa [Operator.template, Operator.templateNodes, toList_escape]
  | notContains =>
    have hnot := hend.spells.anything.spells.without hvalue.anything.spells
    simpa [Operator.template, Operator.templateNodes, toList_escape] using hnot.spells.caret.spells
  | startsWith =>
    simpa [Operator.template, Operator.templateNodes, toList_escape] using hvalue.caret.spells
  | endsWith => simpa [Operator.template, Operator.templateNodes, toList_escape]
  | equals =>
    simpa [Operator.template, Operator.templateNodes, toList_escape] using hvalueEnd.caret.spells
  | wordBoundary =>
    have hword : Spells sensitive (escapeChars value.toList ++ ['\\', 'b'])
        (valueNodes value sensitive ++ [.anchor (.boundary .word)]) :=
      SpellsApart.nil.spells.boundary.literal value.toList
    simpa [Operator.template, Operator.templateNodes, toList_escape] using hword.boundary.spells
  | isEmpty => simpa [Operator.template, Operator.templateNodes] using hend.spells.caret.spells
  | isNotEmpty =>
    simpa [Operator.template, Operator.templateNodes] using SpellsApart.nil.spells.something.spells

theorem standsFor_fragment {op : Operator} (h : op ≠ .matches) :
    StandsFor (op.fragment value sensitive).toList
      (op.templateNodes (valueNodes value sensitive)) := by
  cases hcase : op.honoursCase with
  | true =>
    rw [fragment_eq hcase, String.toList_append]
    exact (spells_template value sensitive op).standsFor
  | false =>
    have hplain := (spells_template value true op).standsFor
    cases op with
    | isEmpty | isNotEmpty => exact hplain
    | «matches» => exact absurd rfl h
    | _ => exact absurd hcase (by decide)

end

def Condition.nodes (c : Condition) (sensitive : Bool) : List Node :=
  c.operator.templateNodes (valueNodes c.value sensitive)

theorem Condition.isBare_nodes (c : Condition) (sensitive : Bool) :
    ∀ n ∈ c.nodes sensitive, n.IsBare :=
  isBare_templateNodes _ (isBare_literals _ _)

theorem Condition.standsFor {c : Condition} (h : c.operator ≠ .matches) :
    StandsFor c.fragment.toList (c.nodes c.caseSensitive.isSet) :=
  standsFor_fragment _ _ h

/-! Testers -/

theorem exists_accepts_iff {pattern text : String} {b : Bool} :
    (∃ t, Tester.read pattern = .ok t ∧ t.accepts text = b) ↔
      (Tester.read pattern).toOption.map (·.accepts text) = some b := by
  cases Tester.read pattern with
  | error e => simp [Except.toOption]
  | ok t => simp [Except.toOption]

section

variable {pattern : String} {nodes : List Node} {text : String}

abbrev seqSurroundings (nodes : List Node) (text : String) : Surroundings :=
  (Regex.ofNodes nodes).surroundings ((Regex.ofNodes nodes).depth text.toList)

theorem accepts_ofNodes_iff :
    (Tester.mk pattern (.ofNodes nodes)).accepts text = true ↔
      ∃ i ≤ text.toList.length, ((Node.ofList nodes).run (seqSurroundings nodes text) false
        (.fresh text.toList i) some).isSome := by
  rw [Tester.accepts_eq, Regex.search?_isSome_iff rfl]
  simp only [Regex.matchesAt, Regex.matchAt?_eq (r := .ofNodes nodes) rfl]
  rfl

theorem accepts_ofNodes_iff_startsAt (hfree : (Node.ofList nodes).isFree = true) :
    (Tester.mk pattern (.ofNodes nodes)).accepts text = true ↔
      ∃ i ≤ text.toList.length, (Node.ofList nodes).startsAt text.toList i = true := by
  rw [accepts_ofNodes_iff]
  refine exists_congr fun i => and_congr_right fun _ => ?_
  rw [Node.startsAt_eq _ hfree (State.fresh_place _ _)]

theorem match?_ofNodes (h : (Node.ofList nodes).run (seqSurroundings nodes text) false
      (.fresh text.toList 0) some = some (.fresh text.toList text.toList.length)) :
    (Tester.mk pattern (.ofNodes nodes)).match? text = some text := by
  have hmatch := (Regex.matchAt?_eq (r := .ofNodes nodes) rfl _ _ _).trans h
  rw [Tester.match?, Regex.search?_of_matchAt? rfl hmatch, Regex.matchText_fresh]
  simp

end

/-- The pattern of the condition by itself matches somewhere in the text. -/
def Condition.Finds (c : Condition) (text : String) : Prop :=
  ∃ t, Tester.read c.fragment = .ok t ∧ t.accepts text = true

theorem finds_iff_accepts {c : Condition} {t : Tester} {text : String}
    (h : Tester.read c.fragment = .ok t) : c.Finds text ↔ t.accepts text = true := by
  constructor
  · rintro ⟨t', ht', haccepts⟩
    obtain rfl := Except.ok.inj (h.symm.trans ht')
    exact haccepts
  · exact fun haccepts => ⟨t, h, haccepts⟩

theorem finds_iff_of_standsFor {c : Condition} {nodes : List Node} {text : String}
    (h : StandsFor c.fragment.toList nodes) (hbare : ∀ n ∈ nodes, n.IsBare) :
    c.Finds text ↔
      ∃ i ≤ text.toList.length, (Node.ofList nodes).startsAt text.toList i = true :=
  (finds_iff_accepts h.tester).trans (accepts_ofNodes_iff_startsAt (isBare_ofList hbare).2)

theorem finds_of_fragment {c : Condition} {text : String} (fragment : String)
    (hc : c.fragment = fragment)
    (h : (Tester.read fragment).toOption.map (·.accepts text) = some true) : c.Finds text := by
  subst hc
  exact exists_accepts_iff.2 h

theorem not_finds_of_fragment {c : Condition} {text : String} (fragment : String)
    (hc : c.fragment = fragment)
    (h : (Tester.read fragment).toOption.map (·.accepts text) = some false) : ¬c.Finds text := by
  subst hc
  obtain ⟨t, ht, haccepts⟩ := exists_accepts_iff.2 h
  rw [finds_iff_accepts ht, haccepts]
  exact Bool.false_ne_true

end ReleaseMatch
