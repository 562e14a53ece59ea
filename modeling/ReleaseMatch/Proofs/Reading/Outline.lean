import ReleaseMatch.Proofs.Reading.Action
import ReleaseMatch.Proofs.Reading.Bracket
import ReleaseMatch.Proofs.Reading.Quantifier
set_option autoImplicit false

/-!
# Scanning under other flags

Flags that agree on whether layout counts lead scanning through a text in the same way. What is found
differs in its nodes alone, and not in whether they are empty.
-/
namespace ReleaseMatch.Pattern

open Text

/-- Stands for all nodes that are empty, or for all that are not. -/
def Node.outline (n : Node) : Node := if n.isEmpty then .empty else .fail

theorem Node.outline_of_not_isEmpty {n : Node} (h : n.isEmpty = false) : n.outline = .fail := by
  rw [outline, h]
  rfl

theorem Node.isEmpty_of_outline {n m : Node} (h : n.outline = m.outline) : n.isEmpty = m.isEmpty := by
  cases hn : n.isEmpty <;> cases hm : m.isEmpty <;> simp_all [outline]

namespace Node

theorem isEmpty_ofList (ns : List Node) : (ofList ns).isEmpty = ns.all isEmpty := by
  induction ns with
  | nil => rfl
  | cons n ns ih =>
    cases ns with
    | nil => simp [ofList]
    | cons m ns =>
      change (n.isEmpty && (ofList (m :: ns)).isEmpty) = (n.isEmpty && (m :: ns).all isEmpty)
      rw [ih]

theorem isEmpty_alternatives (ns : List Node) : (alternatives ns).isEmpty = ns.all isEmpty := by
  induction ns with
  | nil => rfl
  | cons n ns ih =>
    cases ns with
    | nil => simp [alternatives]
    | cons m ns =>
      change (n.isEmpty && (alternatives (m :: ns)).isEmpty) = (n.isEmpty && (m :: ns).all isEmpty)
      rw [ih]

end Node

def Escape.outline : Escape → Escape
  | .cls _ => .cls .none
  | .node n => .node n.outline
  | e => e

def Member.outline : Member → Member
  | .code n => .code n
  | .cls _ => .cls .none

def Action.outline : Action → Action
  | .push n => .push n.outline
  | action => action

/-- Actions with the same outline are the same, or put down nodes of which both or none are empty. -/
theorem Action.eq_or_push {action action' : Action} (h : action'.outline = action.outline) :
    (∃ n n', action = .push n ∧ action' = .push n' ∧ n'.isEmpty = n.isEmpty) ∨ action' = action := by
  cases action with
  | push n =>
    cases action' with
    | push n' => exact .inl ⟨n, n', rfl, rfl, Node.isEmpty_of_outline (Action.push.inj h)⟩
    | _ => cases h
  | _ =>
    cases action' with
    | push n' => cases h
    | _ => exact .inr h

/-! What is found, without what depends on flags -/

def outlined (found : Action × List Char) : Action × List Char := (found.1.outline, found.2)

def outlinedEscape (found : Escape × List Char) : Escape × List Char := (found.1.outline, found.2)

def outlinedMember (found : Member × List Char) : Member × List Char := (found.1.outline, found.2)

/-- Two computations that come to the same, seen in one way, and go on to the same, seen in another. -/
theorem map_bind_congr {ε α β α' β' : Type} {x y : Except ε α} {p : α → α'}
    {f g : α → Except ε β} {q : β → β'} (hxy : x.map p = y.map p)
    (hfg : ∀ a b, p a = p b → (f a).map q = (g b).map q) : (x >>= f).map q = (y >>= g).map q := by
  cases x with
  | error e =>
    cases y with
    | error e' =>
      obtain rfl := Except.error.inj hxy
      rfl
    | ok b => cases hxy
  | ok a =>
    cases y with
    | error e' => cases hxy
    | ok b => exact hfg a b (Except.ok.inj hxy)

theorem map_bind_same {ε α β β' : Type} (x : Except ε α) {f g : α → Except ε β} {q : β → β'}
    (hfg : ∀ a, (f a).map q = (g a).map q) : (x >>= f).map q = (x >>= g).map q := by
  cases x with
  | error e => rfl
  | ok a => exact hfg a

theorem map_congr_of {ε α α' β : Type} {x y : Except ε α} {p : α → α'} {q : α → β}
    (hxy : x.map p = y.map p) (hpq : ∀ a b, p a = p b → q a = q b) : x.map q = y.map q := by
  cases x with
  | error e =>
    cases y with
    | error e' =>
      obtain rfl := Except.error.inj hxy
      rfl
    | ok b => cases hxy
  | ok a =>
    cases y with
    | error e' => cases hxy
    | ok b => exact congrArg Except.ok (hpq a b (Except.ok.inj hxy))

section

variable {flags others : Flags}

/-! Escapes -/

theorem classEscape?_outline (c : Char) :
    (classEscape? flags c).isSome = (classEscape? others c).isSome := by
  unfold classEscape?
  split <;> simp_all

theorem anchorEscape?_outline (c : Char) :
    (anchorEscape? flags c).map Node.outline = (anchorEscape? others c).map Node.outline := by
  unfold anchorEscape?
  split <;> simp_all <;> rfl

theorem letterEscape_outline (inSet : Bool) (c : Char) (rest : List Char) :
    (letterEscape flags inSet c rest).map outlinedEscape =
      (letterEscape others inSet c rest).map outlinedEscape := by
  have hclass : (classEscape? flags c).isSome = (classEscape? others c).isSome :=
    classEscape?_outline c
  have hanchor : (if inSet then none else anchorEscape? flags c).map Node.outline =
      (if inSet then none else anchorEscape? others c).map Node.outline := by
    cases inSet with
    | true => rfl
    | false => exact anchorEscape?_outline c
  rw [letterEscape, letterEscape]
  cases hn : if inSet then none else anchorEscape? flags c with
  | some n =>
    cases hm : if inSet then none else anchorEscape? others c with
    | some m =>
      rw [hn, hm] at hanchor
      simp only [Except.map, outlinedEscape, Escape.outline, Option.some.inj hanchor]
    | none => rw [hn, hm] at hanchor; cases hanchor
  | none =>
    cases hm : if inSet then none else anchorEscape? others c with
    | some m => rw [hn, hm] at hanchor; cases hanchor
    | none =>
      cases hk : classEscape? flags c with
      | some k =>
        cases hj : classEscape? others c with
        | some j => rfl
        | none => rw [hk, hj] at hclass; cases hclass
      | none =>
        cases hj : classEscape? others c with
        | some j => rw [hk, hj] at hclass; cases hclass
        | none => rfl

theorem readEscape_outline {inSet : Bool}
    (h : (flags.isVerbose && !inSet) = (others.isVerbose && !inSet)) (cs : List Char) :
    (readEscape flags inSet cs).map outlinedEscape =
      (readEscape others inSet cs).map outlinedEscape := by
  cases cs with
  | nil => rfl
  | cons c rest =>
    have hletter : (letterEscape flags inSet c rest).map outlinedEscape =
        (letterEscape others inSet c rest).map outlinedEscape := letterEscape_outline inSet c rest
    simp only [readEscape, h, apply_ite (Except.map outlinedEscape), hletter]

/-! Sets -/

abbrev SameRest {α : Type} (x y : Except Fault (α × List Char)) : Prop :=
  x.map Prod.snd = y.map Prod.snd

theorem readNested_outline {fuel : Nat}
    (h : ∀ cs, SameRest (readTerms flags .union fuel cs) (readTerms others .union fuel cs))
    (cs : List Char) :
    (readNested flags fuel cs).map outlinedMember = (readNested others fuel cs).map outlinedMember := by
  refine map_bind_congr (h _) fun a b hab => ?_
  obtain ⟨terms, rest⟩ := a
  obtain rfl : rest = b.2 := hab
  exact map_bind_same _ fun _ => rfl

theorem toMember_outline (e : Escape) : e.toMember.outline = e.outline.toMember.outline := by
  cases e <;> rfl

theorem readItem_outline {fuel : Nat}
    (h : ∀ cs, SameRest (readTerms flags .union fuel cs) (readTerms others .union fuel cs))
    (cs : List Char) :
    (readItem flags (fuel + 1) cs).map outlinedMember =
      (readItem others (fuel + 1) cs).map outlinedMember := by
  cases cs with
  | nil => rfl
  | cons c cs =>
    rw [readItem_cons, readItem_cons]
    split
    · have hescape : (readEscape flags true cs).map outlinedEscape =
          (readEscape others true cs).map outlinedEscape := readEscape_outline (by simp) cs
      have hmap (x : Except Fault (Escape × List Char)) :
          (x.map fun found => (found.1.toMember, found.2)).map outlinedMember =
            x.map fun found => (found.1.toMember.outline, found.2) := by
        cases x <;> rfl
      rw [hmap, hmap]
      refine map_congr_of hescape fun a b hab => ?_
      obtain ⟨he, hrest⟩ := Prod.mk.inj hab
      rw [toMember_outline, he, ← toMember_outline, hrest]
    · split
      · refine map_bind_same _ fun a => ?_
        cases a with
        | some found => rfl
        | none => exact readNested_outline h cs
      · rfl

theorem closeRange_outline (low : Nat) {a b : Member × List Char}
    (h : outlinedMember a = outlinedMember b) :
    SameRest (closeRange low a.1 a.2) (closeRange low b.1 b.2) := by
  obtain ⟨m, rest⟩ := a
  obtain ⟨m', rest'⟩ := b
  obtain ⟨hm, rfl⟩ := Prod.mk.inj h
  cases m with
  | code n =>
    cases m' with
    | code n' =>
      obtain rfl := Member.code.inj hm
      rfl
    | cls k => cases hm
  | cls k =>
    cases m' with
    | code n => cases hm
    | cls k' => rfl

theorem readStop_outline {fuel low : Nat}
    (h : ∀ cs, (readItem flags fuel cs).map outlinedMember =
      (readItem others fuel cs).map outlinedMember) (beyond : List Char) :
    SameRest (readStop flags fuel low beyond) (readStop others fuel low beyond) := by
  rw [readStop.eq_def, readStop.eq_def]
  split
  · rfl
  · rfl
  · exact map_bind_congr (h beyond) fun a b hab => closeRange_outline low hab

theorem readMember_outline {fuel : Nat}
    (h : ∀ cs, (readItem flags fuel cs).map outlinedMember =
      (readItem others fuel cs).map outlinedMember) (cs : List Char) :
    SameRest (readMember flags (fuel + 1) cs) (readMember others (fuel + 1) cs) := by
  rw [readMember_succ, readMember_succ]
  refine map_bind_congr (h cs) fun a b hab => ?_
  obtain ⟨m, rest⟩ := a
  obtain ⟨m', rest'⟩ := b
  obtain ⟨hm, rfl⟩ := Prod.mk.inj hab
  cases m with
  | code n =>
    cases m' with
    | code n' =>
      obtain rfl := Member.code.inj hm
      dsimp only
      rw [readFrom.eq_def, readFrom.eq_def]
      split
      · exact readStop_outline h _
      · rfl
    | cls k => cases hm
  | cls k =>
    cases m' with
    | code n => cases hm
    | cls k' => rfl

theorem readMembers_outline {fuel : Nat}
    (hmember : ∀ cs, SameRest (readMember flags fuel cs) (readMember others fuel cs))
    (hmembers : ∀ cs, SameRest (readMembers flags fuel cs) (readMembers others fuel cs))
    (cs : List Char) :
    SameRest (readMembers flags (fuel + 1) cs) (readMembers others (fuel + 1) cs) := by
  rw [readMembers_succ, readMembers_succ]
  refine map_bind_congr (hmember cs) fun a b hab => ?_
  rw [hab]
  split
  · exact congrArg Except.ok hab
  · exact map_bind_congr (hmembers b.2) fun c d hcd => congrArg Except.ok hcd

theorem readTerms_outline {fuel : Nat}
    (hmembers : ∀ cs, SameRest (readMembers flags fuel cs) (readMembers others fuel cs))
    (hterms : ∀ op cs, SameRest (readTerms flags op fuel cs) (readTerms others op fuel cs))
    (op : SetOperator) (cs : List Char) :
    SameRest (readTerms flags op (fuel + 1) cs) (readTerms others op (fuel + 1) cs) := by
  rw [readTerms, readTerms]
  refine map_bind_congr (hmembers cs) fun a b hab => ?_
  obtain ⟨members, rest⟩ := a
  obtain rfl : rest = b.2 := hab
  dsimp only
  split
  · exact map_bind_congr (hterms _ _) fun c d hcd => congrArg Except.ok hcd
  · rfl

/-- The four readers of a set go through a text in the same way, each by one step of another. -/
theorem set_outline (flags others : Flags) (fuel : Nat) :
    (∀ cs, (readItem flags fuel cs).map outlinedMember =
      (readItem others fuel cs).map outlinedMember) ∧
      (∀ cs, SameRest (readMember flags fuel cs) (readMember others fuel cs)) ∧
      (∀ cs, SameRest (readMembers flags fuel cs) (readMembers others fuel cs)) ∧
      ∀ op cs, SameRest (readTerms flags op fuel cs) (readTerms others op fuel cs) := by
  induction fuel with
  | zero => exact ⟨fun _ => rfl, fun _ => rfl, fun _ => rfl, fun _ _ => rfl⟩
  | succ fuel ih =>
    obtain ⟨hitem, hmember, hmembers, hterms⟩ := ih
    exact ⟨readItem_outline (hterms .union), readMember_outline hitem,
      readMembers_outline hmember hmembers, readTerms_outline hmembers hterms⟩

theorem readSet_sameRest (cs : List Char) : SameRest (readSet flags cs) (readSet others cs) := by
  rw [readSet_eq, readSet_eq]
  refine map_bind_congr ((set_outline flags others _).2.2.2 _ _) fun a b hab => ?_
  rw [hab]
  exact map_bind_same _ fun _ => rfl

/-! Nodes -/

theorem isEmpty_codeNode (n : Nat) : (codeNode flags n).isEmpty = false := by
  rw [codeNode]
  split <;> rfl

theorem isEmpty_classNode (k : Class) : (classNode flags k).isEmpty = false := by
  unfold classNode
  dsimp only
  split <;> rfl

theorem isEmpty_setNode (negated : Bool) (k : Class) : (setNode flags negated k).isEmpty = false := by
  unfold setNode
  dsimp only
  split
  · rfl
  · exact isEmpty_classNode _
  · exact isEmpty_classNode _
  · rfl
  · split
    · rw [Node.isEmpty_alternatives]
      rfl
    · rfl

theorem isEmpty_dot : (Reader.dot flags).isEmpty = false := by
  rw [Reader.dot]
  split
  · rfl
  · split <;> rfl

theorem outline_toNode {e e' : Escape} (h : e.outline = e'.outline) :
    (e.toNode flags).outline = (e'.toNode others).outline := by
  cases e with
  | code n =>
    cases e' <;> cases h
    exact (Node.outline_of_not_isEmpty (isEmpty_codeNode n)).trans
      (Node.outline_of_not_isEmpty (isEmpty_codeNode n)).symm
  | plain c =>
    cases e' <;> cases h
    rfl
  | cls k =>
    cases e' <;> cases h
    exact (Node.outline_of_not_isEmpty (isEmpty_classNode k)).trans
      (Node.outline_of_not_isEmpty (isEmpty_classNode _)).symm
  | node n =>
    cases e' with
    | node m => exact Escape.node.inj h
    | _ => cases h
  | reference ref =>
    cases e' <;> cases h
    rfl

/-! Scans -/

theorem pushEscape_outline {a b : Escape × List Char} (h : outlinedEscape a = outlinedEscape b) :
    (pushEscape flags a.1 a.2).map outlined = (pushEscape others b.1 b.2).map outlined := by
  obtain ⟨e, rest⟩ := a
  obtain ⟨e', rest'⟩ := b
  obtain ⟨he, rfl⟩ := Prod.mk.inj h
  have hnode : (e.toNode flags).outline = (e'.toNode others).outline := outline_toNode he
  have hpush : (done (.push (e.toNode flags)) rest).map outlined =
      (done (.push (e'.toNode others)) rest).map outlined := by
    simp only [done, Except.map, outlined, Action.outline, hnode]
  cases e <;> cases e' <;> first
    | exact hpush
    | cases he
  rfl

theorem scanEscape_outline (h : flags.isVerbose = others.isVerbose) (cs : List Char) :
    (scanEscape flags cs).map outlined = (scanEscape others cs).map outlined :=
  map_bind_congr (readEscape_outline (by rw [h]) cs) fun _ _ => pushEscape_outline

theorem isEmpty_of_readSet {cs rest : List Char} {n : Node}
    (h : readSet flags cs = .ok (n, rest)) : n.isEmpty = false := by
  rw [readSet_eq] at h
  obtain ⟨found, -, h⟩ := bind_eq_ok.1 h
  obtain ⟨beyond, -, h⟩ := bind_eq_ok.1 h
  obtain ⟨rfl, -⟩ := Prod.mk.inj (Except.ok.inj h)
  exact isEmpty_setNode _ _

theorem scanSet_outline (cs : List Char) :
    ((readSet flags cs).map fun found => (Action.push found.1, found.2)).map outlined =
      ((readSet others cs).map fun found => (Action.push found.1, found.2)).map outlined := by
  have hrest : SameRest (readSet flags cs) (readSet others cs) := readSet_sameRest cs
  cases hn : readSet flags cs with
  | error e =>
    cases hm : readSet others cs with
    | error e' => rw [hn, hm] at hrest; exact congrArg Except.error (Except.error.inj hrest)
    | ok found => rw [hn, hm] at hrest; cases hrest
  | ok found =>
    cases hm : readSet others cs with
    | error e' => rw [hn, hm] at hrest; cases hrest
    | ok found' =>
      rw [hn, hm] at hrest
      have hnode : found.1.outline = found'.1.outline :=
        (Node.outline_of_not_isEmpty (isEmpty_of_readSet hn)).trans
          (Node.outline_of_not_isEmpty (isEmpty_of_readSet hm)).symm
      simp only [Except.map, outlined, Action.outline, hnode, (Except.ok.inj hrest : found.2 = found'.2)]

theorem readSubstitutes_congr (h : flags.isVerbose = others.isVerbose) (cs : List Char) :
    readSubstitutes flags cs = readSubstitutes others cs := by
  have hescape (rest : List Char) :
      (readEscape flags false rest).map (·.2) = (readEscape others false rest).map (·.2) :=
    map_congr_of (readEscape_outline (by rw [h]) rest) fun a b hab => (Prod.mk.inj hab).2
  have hset (rest : List Char) : (readSet flags rest).map (·.2) = (readSet others rest).map (·.2) :=
    readSet_sameRest rest
  rw [readSubstitutes, readSubstitutes, h]
  split
  · rfl
  · rw [hescape, hset]

theorem readConstraint_congr (h : flags.isVerbose = others.isVerbose) (cs : List Char) :
    readConstraint flags cs = readConstraint others cs := by
  have hclose (rest : List Char) : closeConstraint flags rest = closeConstraint others rest := by
    simp only [closeConstraint, h, readSubstitutes_congr h]
  rw [readConstraint_eq, readConstraint_eq, h]
  simp only [hclose]

theorem scanBrace_outline (h : flags.isVerbose = others.isVerbose) (cs : List Char) :
    (scanBrace flags cs).map outlined = (scanBrace others cs).map outlined := by
  rw [scanBrace, scanBrace, h, readConstraint_congr h]
  refine map_bind_same _ fun found => ?_
  cases found with
  | some found => rfl
  | none =>
    refine map_bind_same _ fun found => ?_
    cases found <;> rfl

/-- What is scanned depends on flags in its nodes alone, as long as the flags agree about layout. -/
theorem scan_outline (h : flags.isVerbose = others.isVerbose) (c : Char) (cs : List Char) :
    (scan flags c cs).map outlined = (scan others c cs).map outlined := by
  unfold scan
  split
  · rfl
  · rfl
  · rw [h]
  · exact scanEscape_outline h cs
  · exact scanSet_outline cs
  · change Except.ok _ = Except.ok _
    simp only [outlined, Action.outline, Node.outline_of_not_isEmpty isEmpty_dot]
  · rfl
  · rfl
  · rw [h]
  · rw [h]
  · rw [h]
  · exact scanBrace_outline h cs
  · rfl

/-- Under other flags a scan finds the same, up to the nodes it puts down. -/
theorem exists_scan_of_outline (h : flags.isVerbose = others.isVerbose) {c : Char}
    {cs rest : List Char} {action : Action} (hscan : scan flags c cs = .ok (action, rest)) :
    ∃ action', scan others c cs = .ok (action', rest) ∧ action'.outline = action.outline := by
  have hsame := scan_outline h c cs
  rw [hscan] at hsame
  cases hother : scan others c cs with
  | error e => rw [hother] at hsame; cases hsame
  | ok found =>
    rw [hother] at hsame
    obtain ⟨haction, hrest⟩ := Prod.mk.inj (Except.ok.inj hsame)
    exact ⟨found.1, by rw [show rest = found.2 from hrest], haction.symm⟩

end
end ReleaseMatch.Pattern
