import ReleaseMatch.Proofs.Reading.Joining
set_option autoImplicit false

/-!
# Nodes up to the numbers of their groups

Putting nodes together, asking whether they are empty and joining their characters have nothing to do
with the numbers of groups, and neither makes up references.
-/
namespace ReleaseMatch.Pattern

namespace Node

theorem isEmpty_unnumbered (n : Node) : n.unnumbered.isEmpty = n.isEmpty := by
  induction n <;> simp_all [unnumbered, isEmpty]

theorem isFree_unnumbered (n : Node) : n.unnumbered.isFree = n.isFree := by
  induction n <;> simp_all [unnumbered, isFree]

theorem unnumbered_ofList (ns : List Node) : (ofList ns).unnumbered = ofList (ns.map unnumbered) := by
  induction ns with
  | nil => rfl
  | cons n ns ih =>
    cases ns with
    | nil => rfl
    | cons m ns => exact congrArg (Node.seq n.unnumbered) ih

theorem unnumbered_alternatives (ns : List Node) :
    (alternatives ns).unnumbered = alternatives (ns.map unnumbered) := by
  induction ns with
  | nil => rfl
  | cons n ns ih =>
    cases ns with
    | nil => rfl
    | cons m ns => exact congrArg (Node.alt n.unnumbered) ih

theorem isFree_ofList {ns : List Node} (h : ∀ n ∈ ns, n.isFree = true) :
    (ofList ns).isFree = true := by
  induction ns with
  | nil => rfl
  | cons n ns ih =>
    have hn := h n List.mem_cons_self
    cases ns with
    | nil => exact hn
    | cons m ns =>
      exact Bool.and_eq_true_iff.2 ⟨hn, ih fun k hk => h k (List.mem_cons_of_mem n hk)⟩

end Node

/-! Literals -/

theorem unnumbered_of_isBare {n : Node} (h : n.IsBare) : n.unnumbered = n := by
  induction n <;> simp_all [Node.IsBare, Node.isQuiet, Node.isFree, Node.unnumbered]

theorem map_unnumbered_literals (mode : CaseMode) (cs : List Char) :
    (literals mode cs).map Node.unnumbered = literals mode cs := by
  refine (List.map_congr_left fun n hn => ?_).trans (List.map_id _)
  exact unnumbered_of_isBare (isBare_literals mode cs n hn)

theorem isWhole_unnumbered {n : Node} (h : ∀ c mode, n ≠ .char c mode) : n.unnumbered.IsWhole := by
  cases n with
  | char c mode => exact absurd rfl (h c mode)
  | _ => exact isWhole_of_ne_char fun _ _ => Node.noConfusion

theorem joinCharacters_unnumbered (parts : List Node) (mode : CaseMode) (run : List Char) :
    joinCharacters (parts.map Node.unnumbered) mode run =
      (joinCharacters parts mode run).map Node.unnumbered := by
  induction parts generalizing mode run with
  | nil => exact (map_unnumbered_literals mode run.reverse).symm
  | cons n parts ih =>
    by_cases hn : ∃ c m, n = .char c m
    · obtain ⟨c, m, rfl⟩ := hn
      simp only [List.map_cons, Node.unnumbered, joinCharacters]
      split
      · rw [List.map_append, map_unnumbered_literals, ih]
      · exact ih mode (c :: run)
    · have hchar : ∀ c m, n ≠ .char c m := fun c m h => hn ⟨c, m, h⟩
      rw [List.map_cons, isWhole_unnumbered hchar, isWhole_of_ne_char hchar, List.map_append,
        List.map_cons, map_unnumbered_literals, ih]

theorem joined_unnumbered (parts : List Node) :
    joined (parts.map Node.unnumbered) = (joined parts).unnumbered := by
  rw [joined, joined, joinCharacters_unnumbered, Node.unnumbered_ofList]

theorem Node.parts_unnumbered (n : Node) : n.unnumbered.parts = n.parts.map Node.unnumbered := by
  induction n <;> simp_all [Node.unnumbered, Node.parts, joined_unnumbered]

theorem Node.join_unnumbered (n : Node) : n.unnumbered.join = n.join.unnumbered := by
  rw [Node.join, Node.join, Node.parts_unnumbered, joined_unnumbered]

/-! References -/

theorem isFree_joinCharacters {parts : List Node} (h : ∀ n ∈ parts, n.isFree = true)
    (mode : CaseMode) (run : List Char) : ∀ n ∈ joinCharacters parts mode run, n.isFree = true := by
  have hliterals (mode : CaseMode) (cs : List Char) : ∀ n ∈ literals mode cs, n.isFree = true :=
    fun n hn => (isBare_literals mode cs n hn).2
  induction parts generalizing mode run with
  | nil => exact hliterals mode run.reverse
  | cons p parts ih =>
    have hrest := ih fun n hn => h n (List.mem_cons_of_mem p hn)
    by_cases hp : ∃ c m, p = .char c m
    · obtain ⟨c, m, rfl⟩ := hp
      rw [joinCharacters]
      split
      · intro n hn
        rcases List.mem_append.1 hn with hn | hn
        · exact hliterals mode _ n hn
        · exact hrest m [c] n hn
      · exact hrest mode (c :: run)
    · intro n hn
      rw [isWhole_of_ne_char fun c m hc => hp ⟨c, m, hc⟩] at hn
      rcases List.mem_append.1 hn with hn | hn
      · exact hliterals mode _ n hn
      · rcases List.mem_cons.1 hn with rfl | hn
        · exact h n List.mem_cons_self
        · exact hrest mode [] n hn

theorem isFree_joined {parts : List Node} (h : ∀ n ∈ parts, n.isFree = true) :
    (joined parts).isFree = true :=
  Node.isFree_ofList (isFree_joinCharacters h .exact [])

theorem Node.isFree_parts {n : Node} (h : n.isFree = true) : ∀ p ∈ n.parts, p.isFree = true := by
  induction n with
  | seq a b iha ihb =>
    rw [isFree, Bool.and_eq_true] at h
    intro p hp
    rcases List.mem_append.1 hp with hp | hp
    · exact iha h.1 p hp
    · exact ihb h.2 p hp
  | alt a b iha ihb =>
    rw [isFree, Bool.and_eq_true] at h
    simpa [parts, isFree] using ⟨isFree_joined (iha h.1), isFree_joined (ihb h.2)⟩
  | ifLook behind positive test yes no iht ihy ihn =>
    rw [isFree, Bool.and_eq_true, Bool.and_eq_true] at h
    simpa [parts, isFree] using
      ⟨⟨isFree_joined (iht h.1.1), isFree_joined (ihy h.1.2)⟩, isFree_joined (ihn h.2)⟩
  | group i body ih | repeated body least most greed ih | look behind positive body ih
  | atomic body ih => simpa [parts, isFree] using isFree_joined (ih h)
  | backref ref mode | ifGroup ref yes no | call ref => exact absurd h (by simp [isFree])
  | empty => exact List.forall_mem_nil _
  | _ => simpa [parts] using h

theorem Node.isFree_join {n : Node} (h : n.isFree = true) : n.join.isFree = true :=
  isFree_joined (isFree_parts h)

theorem Node.join_alternatives (ns : List Node) :
    (alternatives ns).join = alternatives (ns.map Node.join) := by
  induction ns with
  | nil => rfl
  | cons n ns ih =>
    cases ns with
    | nil => rfl
    | cons m ns => exact congrArg (Node.alt n.join) ih

end ReleaseMatch.Pattern
