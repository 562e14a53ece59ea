import ReleaseMatch.Proofs.Engine.Free
import ReleaseMatch.Proofs.Reading.Bracket
set_option autoImplicit false

/-!
# What is read refers to no group

Apart from references, the nodes that escapes and sets stand for refer to no group.
-/
namespace ReleaseMatch.Pattern

def Escape.IsFree : Escape → Prop
  | .node n => n.isFree = true
  | _ => True

/-- Nothing is found that refers to a group, references apart. -/
def FreeEscape : Except Fault (Escape × List Char) → Prop
  | .ok (e, _) => e.IsFree
  | .error _ => True

section

variable {verbose inSet positive isPosix : Bool} {cs rest : List Char} {flags : Flags}

theorem FreeEscape.ite {p : Prop} [Decidable p] {x y : Except Fault (Escape × List Char)}
    (hx : FreeEscape x) (hy : FreeEscape y) : FreeEscape (if p then x else y) := by
  split
  · exact hx
  · exact hy

theorem readHex_free (letter : Char) (count : Nat) :
    FreeEscape (readHex verbose letter count cs) := by
  rw [readHex]
  split
  · trivial
  · exact .ite trivial trivial

theorem readGroupReference_free : (readGroupReference verbose cs).1.IsFree := by
  rw [readGroupReference_eq]
  cases readBracketed verbose cs <;> trivial

theorem readNamedList_free : FreeEscape (readNamedList verbose cs) := by
  cases h : readNamedList verbose cs with
  | error e => trivial
  | ok x => exact absurd h (readNamedList_error x)

theorem readNamedCharacter_free : FreeEscape (readNamedCharacter verbose cs) := by
  rw [readNamedCharacter]
  split
  · trivial
  · dsimp only
    split <;> trivial

theorem lookupIn_free (name : Option String × String) :
    FreeEscape ((lookupIn isPosix positive name rest).map fun (k, r) => (.cls k, r)) := by
  cases lookupIn isPosix positive name rest <;> trivial

theorem readProperty_free : FreeEscape (readProperty verbose positive cs) := by
  rw [readProperty_eq]
  split
  · refine .ite ?_ (.ite (lookupIn_free _) trivial)
    split
    · exact lookupIn_free _
    · trivial
  · trivial

theorem anchorEscape?_free {c : Char} {n : Node} (h : anchorEscape? flags c = some n) :
    n.isFree = true := by
  unfold anchorEscape? at h
  split at h <;> simp at h
  all_goals
    subst h
    rfl

theorem letterEscape_free (c : Char) : FreeEscape (letterEscape flags inSet c rest) := by
  unfold letterEscape
  split
  · next n hn =>
    cases inSet with
    | true => cases hn
    | false => exact anchorEscape?_free hn
  · split
    · trivial
    · split <;> trivial

theorem readNumeric_free (first : Char) : FreeEscape (readNumeric verbose inSet first cs) := by
  unfold readNumeric
  refine .ite ?_ ?_
  · rw [readOctal]
    exact .ite trivial trivial
  · split
    · refine .ite ?_ trivial
      split
      · exact .ite trivial trivial
      · trivial
    · trivial

theorem readEscape_free : FreeEscape (readEscape flags inSet cs) := by
  cases cs with
  | nil => trivial
  | cons c cs =>
    refine .ite (readHex_free c 2) (.ite (readHex_free c 4) (.ite (readHex_free c 8) ?_))
    refine .ite readGroupReference_free (.ite rfl (.ite readNamedList_free ?_))
    refine .ite readNamedCharacter_free (.ite readProperty_free (.ite rfl (.ite rfl ?_)))
    exact .ite (letterEscape_free c) (.ite (readNumeric_free c) trivial)

theorem codeNode_free (n : Nat) : (codeNode flags n).isFree = true := by
  rw [codeNode]
  split <;> rfl

theorem classNode_free (cls : Class) : (classNode flags cls).isFree = true := by
  unfold classNode
  dsimp only
  split <;> rfl

theorem isFree_alternatives {ns : List Node} (h : ∀ n ∈ ns, n.isFree = true) :
    (Node.alternatives ns).isFree = true := by
  induction ns with
  | nil => rfl
  | cons n ns ih =>
    have hn := h n List.mem_cons_self
    cases ns with
    | nil => exact hn
    | cons m ns =>
      exact Bool.and_eq_true_iff.2 ⟨hn, ih fun k hk => h k (List.mem_cons_of_mem n hk)⟩

theorem setNode_free (negated : Bool) (cls : Class) : (setNode flags negated cls).isFree = true := by
  unfold setNode
  split
  · rfl
  · exact classNode_free _
  · exact classNode_free _
  · rfl
  · dsimp only
    split
    · refine isFree_alternatives fun n hn => ?_
      rcases List.mem_cons.1 hn with rfl | hn
      · rfl
      · obtain ⟨fold, -, rfl⟩ := List.mem_map.1 hn
        rfl
    · rfl

theorem readSet_free {n : Node} (h : readSet flags cs = .ok (n, rest)) : n.isFree = true := by
  rw [readSet_eq] at h
  obtain ⟨found, -, h⟩ := bind_eq_ok.1 h
  obtain ⟨past, -, h⟩ := bind_eq_ok.1 h
  obtain ⟨rfl, -⟩ := Prod.mk.inj (Except.ok.inj h)
  exact setNode_free _ _

theorem toNode_free {e : Escape} (h : readEscape flags inSet cs = .ok (e, rest))
    (hnot : ∀ ref, e ≠ .reference ref) : (e.toNode flags).isFree = true := by
  have hfree : FreeEscape (readEscape flags inSet cs) := readEscape_free
  rw [h] at hfree
  cases e with
  | code n => exact codeNode_free n
  | plain c => rfl
  | cls k => exact classNode_free k
  | node n => exact hfree
  | reference ref => exact absurd rfl (hnot ref)

end
end ReleaseMatch.Pattern
