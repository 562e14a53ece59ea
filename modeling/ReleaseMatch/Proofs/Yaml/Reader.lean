import ReleaseMatch.Yaml.Reader
set_option autoImplicit false

/-!
# Reading nodes in flow style

One step of the reader for each kind of node in flow style: which node comes from the kinds of the tokens in
front of it, and which tokens are left. A document is what is read of its tokens, in whatever style.
-/
namespace ReleaseMatch.Yaml

open Read

variable {r : NodeReader} {kind : TokenKind} {kinds : List TokenKind}

/-! Readers of tokens -/

theorem bind_of_ok {α β : Type} {x : Read α} {f : α → Read β} {r' : NodeReader} {a : α} (h : x r = .ok (a, r')) :
    (x >>= f) r = f a r' := by
  change (x r >>= fun p => f p.1 p.2) = _
  rw [h]
  rfl

theorem bind_of_error {α β : Type} {x : Read α} {g : α → Read β} {f : Fault} (h : x r = .error f) :
    (x >>= g) r = .error f := by
  change (x r >>= fun p => g p.1 p.2) = _
  rw [h]
  rfl

theorem peek_of_kinds (h : r.tokens.map (·.kind) = kind :: kinds) : ∃ t, t.kind = kind ∧ peek r = .ok (t, r) := by
  cases htokens : r.tokens with
  | nil => rw [htokens] at h; cases h
  | cons t ts =>
    rw [htokens] at h
    refine ⟨t, (List.cons.inj h).1, ?_⟩
    rw [peek, htokens]

theorem take_of_kinds (h : r.tokens.map (·.kind) = kind :: kinds) :
    ∃ t r', t.kind = kind ∧ take r = .ok (t, r') ∧ r'.tokens.map (·.kind) = kinds := by
  obtain ⟨t, hkind, hpeek⟩ := peek_of_kinds h
  refine ⟨t, { r with tokens := r.tokens.tail, last := t.stop }, hkind, ?_, ?_⟩
  · rw [take, bind_of_ok hpeek]
    rfl
  · exact List.map_tail.trans (congrArg List.tail h)

theorem nextIs_of_kinds (h : r.tokens.map (·.kind) = kind :: kinds) (test : TokenKind → Bool) :
    nextIs test r = .ok (test kind, r) := by
  obtain ⟨t, rfl, hpeek⟩ := peek_of_kinds h
  rw [nextIs, bind_of_ok hpeek]
  rfl

theorem takeIf_of_true (test : TokenKind → Bool) (h : r.tokens.map (·.kind) = kind :: kinds) (htest : test kind = true) :
    ∃ t r', takeIf test r = .ok (some t, r') ∧ r'.tokens.map (·.kind) = kinds := by
  obtain ⟨t, r', -, htake, hrest⟩ := take_of_kinds h
  refine ⟨t, r', ?_, hrest⟩
  rw [takeIf, bind_of_ok (nextIs_of_kinds h test), htest, if_pos rfl, bind_of_ok htake]
  rfl

theorem takeIf_of_false {test : TokenKind → Bool} (h : r.tokens.map (·.kind) = kind :: kinds) (htest : test kind = false) :
    takeIf test r = .ok (none, r) := by
  rw [takeIf, bind_of_ok (nextIs_of_kinds h test), htest, if_neg Bool.false_ne_true]
  rfl

/-! Nodes -/

/-- What a node in flow style begins with, when nothing stands in front of it. -/
inductive Begins : TokenKind → Prop
  | scalar (text : String) (plain : Bool) : Begins (.scalar text plain)
  | sequence : Begins .flowSequenceStart
  | mapping : Begins .flowMappingStart

theorem readProperties_of_kinds (h : r.tokens.map (·.kind) = kind :: kinds) (hanchor : ∀ name, kind ≠ .anchor name)
    (htag : ∀ handle rest, kind ≠ .tag handle rest) : readProperties r = .ok ({}, r) := by
  obtain ⟨t, htoken, hpeek⟩ := peek_of_kinds h
  have hanchor (p : Properties) : readAnchor p r = .ok (p, r) := by
    rw [readAnchor, bind_of_ok hpeek, htoken]
    cases kind with
    | anchor name => exact absurd rfl (hanchor name)
    | _ => rfl
  have htag (p : Properties) : readTag p r = .ok (p, r) := by
    rw [readTag, bind_of_ok hpeek, htoken]
    cases kind with
    | tag handle rest => exact absurd rfl (htag handle rest)
    | _ => rfl
  rw [readProperties, bind_of_ok (hanchor _), bind_of_ok (htag _)]
  exact hanchor _

theorem readProperties_of_begins (h : r.tokens.map (·.kind) = kind :: kinds) (hkind : Begins kind) :
    readProperties r = .ok ({}, r) := by
  refine readProperties_of_kinds h (fun name => ?_) fun handle rest => ?_ <;> cases hkind <;> simp

theorem resolveTag_none (start : Mark) : resolveTag {} start r = .ok (none, r) := rfl

theorem readNode_scalar {text : String} {plain : Bool} (h : r.tokens.map (·.kind) = .scalar text plain :: kinds)
    (style : Style) (fuel : Nat) :
    ∃ mark r', readNode style (fuel + 1) r = .ok (.scalar (scalarTag none text plain) text mark, r') ∧
      r'.tokens.map (·.kind) = kinds := by
  obtain ⟨t, htoken, hpeek⟩ := peek_of_kinds h
  obtain ⟨t', r', -, htake, hrest⟩ := take_of_kinds h
  refine ⟨t.start, r', ?_, hrest⟩
  rw [readNode, bind_of_ok hpeek]
  simp only [htoken]
  rw [bind_of_ok (readProperties_of_begins h (.scalar text plain)), bind_of_ok hpeek]
  simp only [htoken]
  rw [bind_of_ok (resolveTag_none _), bind_of_ok htake]
  rfl

theorem collection_of_ok {α : Type} {content : Read (List α)} {items : List α} {r' : NodeReader} (start : Mark)
    (tag : Tag) (node : Tag → List α → Mark → Node) (h : content r = .ok (items, r')) :
    collection none start tag node content r = .ok (node tag items start, r') := by
  have hnone : checkAnchor none start r = .ok ((), r) := rfl
  have hset (n : Node) : setAnchor none n r = .ok ((), r) := rfl
  rw [collection, bind_of_ok hnone, bind_of_ok (hset _), bind_of_ok h]
  rfl

theorem readNode_sequence (h : r.tokens.map (·.kind) = .flowSequenceStart :: kinds) (style : Style) (fuel : Nat) :
    ∃ start r₁, r₁.tokens.map (·.kind) = kinds ∧ ∀ items r',
      readFlowSequence start true fuel r₁ = .ok (items, r') →
        readNode style (fuel + 1) r = .ok (.sequence .seq items start, r') := by
  obtain ⟨t, htoken, hpeek⟩ := peek_of_kinds h
  obtain ⟨t', r₁, -, htake, hrest⟩ := take_of_kinds h
  refine ⟨t.start, r₁, hrest, fun items r' hitems => ?_⟩
  rw [readNode, bind_of_ok hpeek]
  simp only [htoken]
  rw [bind_of_ok (readProperties_of_begins h .sequence), bind_of_ok hpeek]
  simp only [htoken]
  rw [bind_of_ok (resolveTag_none _), bind_of_ok htake]
  exact collection_of_ok t.start .seq .sequence hitems

theorem readNode_mapping (h : r.tokens.map (·.kind) = .flowMappingStart :: kinds) (style : Style) (fuel : Nat) :
    ∃ start r₁, r₁.tokens.map (·.kind) = kinds ∧ ∀ entries r',
      readFlowMapping start true fuel r₁ = .ok (entries, r') →
        readNode style (fuel + 1) r = .ok (.mapping .map entries start, r') := by
  obtain ⟨t, htoken, hpeek⟩ := peek_of_kinds h
  obtain ⟨t', r₁, -, htake, hrest⟩ := take_of_kinds h
  refine ⟨t.start, r₁, hrest, fun entries r' hentries => ?_⟩
  rw [readNode, bind_of_ok hpeek]
  simp only [htoken]
  rw [bind_of_ok (readProperties_of_begins h .mapping), bind_of_ok hpeek]
  simp only [htoken]
  rw [bind_of_ok (resolveTag_none _), bind_of_ok htake]
  exact collection_of_ok t.start .map .mapping hentries

/-! Collections -/

def separator (first : Bool) : List TokenKind := if first then [] else [.flowEntry]

variable {first : Bool} {start : Mark} {fuel : Nat}

theorem readFlowSequence_end (h : r.tokens.map (·.kind) = .flowSequenceEnd :: kinds) :
    ∃ r', readFlowSequence start first (fuel + 1) r = .ok ([], r') ∧ r'.tokens.map (·.kind) = kinds := by
  obtain ⟨t, r', htake, hrest⟩ := takeIf_of_true (· == .flowSequenceEnd) h rfl
  refine ⟨r', ?_, hrest⟩
  rw [readFlowSequence, bind_of_ok htake]
  rfl

theorem readFlowMapping_end (h : r.tokens.map (·.kind) = .flowMappingEnd :: kinds) :
    ∃ r', readFlowMapping start first (fuel + 1) r = .ok ([], r') ∧ r'.tokens.map (·.kind) = kinds := by
  obtain ⟨t, r', htake, hrest⟩ := takeIf_of_true (· == .flowMappingEnd) h rfl
  refine ⟨r', ?_, hrest⟩
  rw [readFlowMapping, bind_of_ok htake]
  rfl

theorem readComma_of_kinds (h : r.tokens.map (·.kind) = .flowEntry :: kinds) (context : Context) (expected : String) :
    ∃ r', readComma context start expected r = .ok ((), r') ∧ r'.tokens.map (·.kind) = kinds := by
  obtain ⟨t, r', htake, hrest⟩ := takeIf_of_true (· == .flowEntry) h rfl
  refine ⟨r', ?_, hrest⟩
  rw [readComma, bind_of_ok htake]
  rfl

theorem separator_passed {α : Type} (h : r.tokens.map (·.kind) = separator first ++ kinds) (context : Context)
    (start : Mark) (expected : String) : ∃ r', r'.tokens.map (·.kind) = kinds ∧ ∀ x : Read α,
      (if first = true then x else readComma context start expected >>= fun _ => x) r = x r' := by
  cases first with
  | true => exact ⟨r, h, fun x => rfl⟩
  | false =>
    obtain ⟨r', hcomma, hrest⟩ := readComma_of_kinds h context expected
    exact ⟨r', hrest, fun x => bind_of_ok hcomma⟩

theorem takeIf_close (h : r.tokens.map (·.kind) = separator first ++ kind :: kinds) {close : TokenKind}
    (hkind : kind ≠ close) (hclose : close ≠ .flowEntry) : takeIf (· == close) r = .ok (none, r) := by
  cases first with
  | true => exact takeIf_of_false h (beq_false_of_ne hkind)
  | false => exact takeIf_of_false h (beq_false_of_ne hclose.symm)

theorem readFlowSequence_item (hkind : Begins kind) (h : r.tokens.map (·.kind) = separator first ++ kind :: kinds) :
    ∃ r₁, r₁.tokens.map (·.kind) = kind :: kinds ∧ ∀ {n r₂ items r₃}, readNode {} fuel r₁ = .ok (n, r₂) →
      readFlowSequence start false fuel r₂ = .ok (items, r₃) →
        readFlowSequence start first (fuel + 1) r = .ok (n :: items, r₃) := by
  have hne {other : TokenKind} (hother : ¬Begins other) : kind ≠ other := fun heq => hother (heq ▸ hkind)
  have hend : kind ≠ .flowSequenceEnd := hne fun h => by cases h
  obtain ⟨r₁, hrest, hsep⟩ := separator_passed h (.parsing "a flow sequence") start "',' or ']', but got"
  refine ⟨r₁, hrest, fun hnode hitems => ?_⟩
  rw [readFlowSequence, bind_of_ok (takeIf_close h hend (by simp))]
  simp only [Option.isSome_none, Bool.false_eq_true, if_false]
  rw [hsep]
  have hkey : takeIf (· == .key) r₁ = .ok (none, r₁) := takeIf_of_false hrest (beq_false_of_ne (hne fun h => by cases h))
  rw [bind_of_ok hkey]
  dsimp only
  have hclose : takeIf (· == .flowSequenceEnd) r₁ = .ok (none, r₁) := takeIf_of_false hrest (beq_false_of_ne hend)
  rw [bind_of_ok hclose]
  simp only [Option.isSome_none, Bool.false_eq_true, if_false]
  rw [bind_of_ok hnode, bind_of_ok hitems]
  rfl

theorem readFlowMapping_entry {key : String} (hkind : Begins kind)
    (h : r.tokens.map (·.kind) = separator first ++ .key :: .scalar key false :: .value :: kind :: kinds) :
    ∃ mark r₁, r₁.tokens.map (·.kind) = kind :: kinds ∧ ∀ {n r₂ entries r₃}, readNode {} (fuel + 1) r₁ = .ok (n, r₂) →
      readFlowMapping start false (fuel + 1) r₂ = .ok (entries, r₃) →
        readFlowMapping start first (fuel + 2) r = .ok ((.scalar .str key mark, n) :: entries, r₃) := by
  obtain ⟨r₁, hrest₁, hsep⟩ := separator_passed h (.parsing "a flow mapping") start "',' or '\x7d', but got"
  obtain ⟨k, r₂, hkey, hrest₂⟩ := takeIf_of_true (· == .key) hrest₁ rfl
  obtain ⟨mark, r₃, hscalar, hrest₃⟩ := readNode_scalar hrest₂ {} fuel
  obtain ⟨v, r₄, hvalue, hrest₄⟩ := takeIf_of_true (· == .value) hrest₃ rfl
  refine ⟨mark, r₄, hrest₄, fun hnode hentries => ?_⟩
  rw [readFlowMapping, bind_of_ok (takeIf_close h (by simp) (by simp))]
  simp only [Option.isSome_none, Bool.false_eq_true, if_false]
  rw [hsep, bind_of_ok hkey]
  dsimp only
  have hends : endsFlowEntry .flowMappingEnd true (.scalar key false) = false := rfl
  rw [bind_of_ok (nextIs_of_kinds hrest₂ _), hends]
  simp only [Bool.false_eq_true, if_false]
  rw [bind_of_ok hscalar, bind_of_ok hvalue]
  dsimp only
  have hends' : endsFlowEntry .flowMappingEnd false kind = false := by cases hkind <;> rfl
  rw [bind_of_ok (nextIs_of_kinds hrest₄ _), hends']
  simp only [Bool.false_eq_true, if_false]
  rw [bind_of_ok hnode, bind_of_ok hentries]
  rfl

theorem readNode_comma (h : r.tokens.map (·.kind) = .flowEntry :: kinds) (fuel : Nat) :
    ∃ f, readNode {} (fuel + 1) r = .error f ∧ f.problem = .expectedToken "the node content, but found" "," := by
  obtain ⟨t, htoken, hpeek⟩ := peek_of_kinds h
  have hproperties := readProperties_of_kinds h (by simp) (by simp)
  refine ⟨⟨some (.parsing "a flow node"), some t.start, .expectedToken "the node content, but found" ",", t.start⟩, ?_, rfl⟩
  rw [readNode, bind_of_ok hpeek]
  simp only [htoken]
  rw [bind_of_ok hproperties, bind_of_ok hpeek]
  simp only [htoken]
  rw [bind_of_ok (resolveTag_none _)]
  rfl

theorem takeIf_of_comma (h : r.tokens.map (·.kind) = .flowEntry :: kinds) {other : TokenKind} (hother : other ≠ .flowEntry) :
    takeIf (· == other) r = .ok (none, r) :=
  takeIf_of_false h (beq_false_of_ne hother.symm)

theorem readFlowSequence_comma (h : r.tokens.map (·.kind) = .flowEntry :: kinds) :
    ∃ f, readFlowSequence start true (fuel + 2) r = .error f ∧
      f.problem = .expectedToken "the node content, but found" "," := by
  obtain ⟨f, hnode, hproblem⟩ := readNode_comma h fuel
  refine ⟨f, ?_, hproblem⟩
  rw [readFlowSequence, bind_of_ok (takeIf_of_comma h (by simp))]
  simp only [Option.isSome_none, Bool.false_eq_true, if_false, if_true]
  rw [bind_of_ok (takeIf_of_comma h (by simp))]
  dsimp only
  rw [bind_of_ok (takeIf_of_comma h (by simp))]
  exact bind_of_error hnode

theorem readFlowMapping_comma (h : r.tokens.map (·.kind) = .flowEntry :: kinds) :
    ∃ f, readFlowMapping start true (fuel + 2) r = .error f ∧
      f.problem = .expectedToken "the node content, but found" "," := by
  obtain ⟨f, hnode, hproblem⟩ := readNode_comma h fuel
  refine ⟨f, ?_, hproblem⟩
  rw [readFlowMapping, bind_of_ok (takeIf_of_comma h (by simp))]
  simp only [Option.isSome_none, Bool.false_eq_true, if_false, if_true]
  rw [bind_of_ok (takeIf_of_comma h (by simp))]
  dsimp only
  rw [bind_of_ok (takeIf_of_comma h (by simp))]
  exact bind_of_error hnode

/-! Documents -/

theorem skipDocumentEnds_of_end (h : r.tokens.map (·.kind) = .streamEnd :: kinds) (fuel : Nat) :
    skipDocumentEnds fuel r = .ok ((), r) := by
  cases fuel with
  | zero => rfl
  | succ fuel =>
    have hnone : takeIf (· == .documentEnd) r = .ok (none, r) := takeIf_of_false h rfl
    rw [skipDocumentEnds, bind_of_ok hnone]
    rfl

theorem readDocument_of_node (fuel : Nat) (h : r.tokens.map (·.kind) = .streamStart :: kind :: kinds)
    (hkind : endsDocument kind = false) : ∃ r₁, r₁.tokens.map (·.kind) = kind :: kinds ∧
      ∀ {n r₂}, readNode { block := true } fuel r₁ = .ok (n, r₂) → r₂.tokens.map (·.kind) = [.streamEnd] →
        readDocument fuel r = .ok (some n, r₂) := by
  obtain ⟨t₀, r₀, -, htake, hrest₀⟩ := take_of_kinds h
  obtain ⟨t, rfl, hpeek⟩ := peek_of_kinds hrest₀
  simp only [endsDocument, Bool.or_eq_false_iff] at hkind
  obtain ⟨⟨⟨hdirective, hstart⟩, -⟩, hend⟩ := hkind
  have hmodify : (modify fun r => { r with handles := standardHandles } : Read Unit) r₀ =
      .ok ((), { r₀ with handles := standardHandles }) := rfl
  refine ⟨{ r₀ with handles := standardHandles }, hrest₀, fun {n r₂} hnode hrest₂ => ?_⟩
  obtain ⟨t₂, htoken₂, hpeek₂⟩ := peek_of_kinds hrest₂
  rw [readDocument, bind_of_ok htake, bind_of_ok hpeek, hend, hdirective, hstart]
  change ((modify fun r => { r with handles := standardHandles } : Read Unit) >>= _) r₀ = _
  rw [bind_of_ok hmodify, bind_of_ok hnode]
  dsimp only
  rw [bind_of_ok (skipDocumentEnds_of_end hrest₂ fuel), bind_of_ok hpeek₂, htoken₂]
  rfl

theorem ofText?_of_kinds {text : List Char} {content : List TokenKind}
    (hkinds : (Tokens.ofText text).list.map (·.kind) = .streamStart :: (content ++ [.streamEnd]))
    (hcontent : content = kind :: kinds) (hkind : endsDocument kind = false) {p : Node → Prop}
    (hnode : ∀ {r : NodeReader} (fuel : Nat), r.tokens.map (·.kind) = content ++ [.streamEnd] →
      4 * content.length ≤ fuel →
        ∃ n r', readNode { block := true } fuel r = .ok (n, r') ∧ p n ∧ r'.tokens.map (·.kind) = [.streamEnd]) :
    ∃ n, Node.ofText? text = .ok (some n) ∧ p n := by
  subst hcontent
  have hlength := congrArg List.length hkinds
  rw [List.length_map, List.length_cons, List.length_append] at hlength
  rw [Node.ofText?]
  generalize Tokens.ofText text = tokens at hkinds hlength
  obtain ⟨r₁, hrest, hdocument⟩ := readDocument_of_node (4 * tokens.list.length + 4)
    (r := { tokens := tokens.list, fault := tokens.fault }) hkinds hkind
  obtain ⟨n, r', hread, hp, hend⟩ := hnode (4 * tokens.list.length + 4) hrest (by omega)
  exact ⟨n, congrArg (Except.map (·.1)) (hdocument hread hend), hp⟩

end ReleaseMatch.Yaml
