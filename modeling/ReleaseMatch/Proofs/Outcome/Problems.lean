import ReleaseMatch.Proofs.Conjunction.Compile
set_option autoImplicit false

/-!
# The problems of conditions joined by AND

Which problems there are is told by how often each operator occurs and by whether the case flags agree.
Exactly these are reported, each of them once: repetitions first, then an exact value among other
conditions, then single operators in order of their first appearance, and the case flags last.
-/
namespace ReleaseMatch

/-- Operators for which AND has no single pattern: two that pin the same end of the text, an exact
value beside other values, one that pins both ends by itself, or one that has no place in an anchored
expression beside one that asks for it. -/
def Clash (ops : List Operator) : Prop :=
  (1 < ops.count .startsWith ∨ 1 < ops.count .endsWith ∨ 1 < ops.count .equals) ∨
  (.equals ∈ ops ∧ (.startsWith ∈ ops ∨ .endsWith ∈ ops ∨ .contains ∈ ops)) ∨
  (.notContains ∈ ops ∨ .isEmpty ∈ ops) ∨
  ((.wordBoundary ∈ ops ∨ .matches ∈ ops ∨ .isNotEmpty ∈ ops) ∧
    (.startsWith ∈ ops ∨ .endsWith ∈ ops ∨ .equals ∈ ops))

def CaseDisagrees (cs : List Condition) : Prop :=
  ∃ c ∈ cs, ∃ d ∈ cs, c.honoursCase = true ∧ d.honoursCase = true ∧
    c.caseSensitive ≠ d.caseSensitive

namespace Problem

def ArisesFrom (ops : List Operator) : Problem → Prop
  | .repeated op => (op = .startsWith ∨ op = .endsWith ∨ op = .equals) ∧ 1 < ops.count op
  | .equalsAmongOthers =>
    .equals ∈ ops ∧ (.startsWith ∈ ops ∨ .endsWith ∈ ops ∨ .contains ∈ ops)
  | .anchored op => (op = .notContains ∨ op = .isEmpty) ∧ op ∈ ops
  | .besidePositional op =>
    (op = .wordBoundary ∨ op = .matches ∨ op = .isNotEmpty) ∧ op ∈ ops ∧
      (.startsWith ∈ ops ∨ .endsWith ∈ ops ∨ .equals ∈ ops)
  | .mixedCase => False

def Arises (cs : List Condition) (p : Problem) : Prop :=
  p.ArisesFrom (cs.map (·.operator)) ∨ p = .mixedCase ∧ CaseDisagrees cs

def rank (ops : List Operator) : Problem → Nat
  | .repeated .startsWith => 0
  | .repeated .endsWith => 1
  | .repeated _ => 2
  | .equalsAmongOthers => 3
  | .anchored op | .besidePositional op => 4 + ops.idxOf op
  | .mixedCase => 4 + ops.length

def Before (ops : List Operator) (p q : Problem) : Prop := p.rank ops < q.rank ops

def all : List Problem :=
  .equalsAmongOthers :: .mixedCase ::
    (Operator.all.map .repeated ++ Operator.all.map .anchored ++ Operator.all.map .besidePositional)

theorem mem_all (p : Problem) : p ∈ all := by
  cases p <;> simp [all, Operator.mem_all]

/-- No two problems are reported in the same words. -/
theorem message_injective : Function.Injective message := by
  have hall : ∀ p ∈ all, ∀ q ∈ all, p.message = q.message → p = q := by decide +kernel
  intro p q h
  exact hall p (mem_all p) q (mem_all q) h

end Problem

/-! Which problems there are -/

section

variable {ops : List Operator} {p : Problem}

theorem any_isPositional_iff :
    ops.any (·.isPositional) = true ↔ .startsWith ∈ ops ∨ .endsWith ∈ ops ∨ .equals ∈ ops := by
  rw [List.any_eq_true]
  constructor
  · rintro ⟨op, hop, hpositional⟩
    cases op with
    | startsWith => exact .inl hop
    | endsWith => exact .inr (.inl hop)
    | equals => exact .inr (.inr hop)
    | _ => exact absurd hpositional (by decide)
  · rintro (hop | hop | hop) <;> exact ⟨_, hop, rfl⟩

theorem ownProblem_eq_some_iff {positional : Bool} {op : Operator} :
    ownProblem positional op = some p ↔
      ((op = .notContains ∨ op = .isEmpty) ∧ .anchored op = p) ∨
      ((op = .wordBoundary ∨ op = .matches ∨ op = .isNotEmpty) ∧ positional = true ∧
        .besidePositional op = p) := by
  cases op <;> cases positional <;>
    simp [ownProblem, Operator.isAnchoring, Operator.isComposable, Operator.isPositional]

theorem mem_positionalProblems_iff : p ∈ positionalProblems ops ↔ p.ArisesFrom ops := by
  simp only [positionalProblems, List.mem_append, List.mem_map, List.mem_filter,
    List.mem_filterMap, List.mem_eraseDups, ownProblem_eq_some_iff, any_isPositional_iff]
  cases p with
  | repeated op => simp [Problem.ArisesFrom]
  | equalsAmongOthers => simp [Problem.ArisesFrom]
  | anchored op => simpa [Problem.ArisesFrom] using and_comm
  | besidePositional op =>
    simp only [Problem.ArisesFrom, List.mem_ite_nil_right, List.mem_singleton, reduceCtorEq,
      and_false, exists_false, false_or, Problem.besidePositional.injEq]
    constructor
    · rintro ⟨_, hop, hkind, hpositional, rfl⟩
      exact ⟨hkind, hop, hpositional⟩
    · rintro ⟨hkind, hop, hpositional⟩
      exact ⟨op, hop, hkind, hpositional, rfl⟩
  | mixedCase => simp [Problem.ArisesFrom]

theorem clash_iff_exists_arisesFrom : Clash ops ↔ ∃ p : Problem, p.ArisesFrom ops := by
  constructor
  · rintro ((h | h | h) | h | (h | h) | ⟨h | h | h, hpositional⟩)
    · exact ⟨.repeated .startsWith, .inl rfl, h⟩
    · exact ⟨.repeated .endsWith, .inr (.inl rfl), h⟩
    · exact ⟨.repeated .equals, .inr (.inr rfl), h⟩
    · exact ⟨.equalsAmongOthers, h⟩
    · exact ⟨.anchored .notContains, .inl rfl, h⟩
    · exact ⟨.anchored .isEmpty, .inr rfl, h⟩
    · exact ⟨.besidePositional .wordBoundary, .inl rfl, h, hpositional⟩
    · exact ⟨.besidePositional .matches, .inr (.inl rfl), h, hpositional⟩
    · exact ⟨.besidePositional .isNotEmpty, .inr (.inr rfl), h, hpositional⟩
  · rintro ⟨p, h⟩
    cases p with
    | repeated op =>
      obtain ⟨rfl | rfl | rfl, hcount⟩ := h
      · exact .inl (.inl hcount)
      · exact .inl (.inr (.inl hcount))
      · exact .inl (.inr (.inr hcount))
    | equalsAmongOthers => exact .inr (.inl h)
    | anchored op =>
      obtain ⟨rfl | rfl, hop⟩ := h
      · exact .inr (.inr (.inl (.inl hop)))
      · exact .inr (.inr (.inl (.inr hop)))
    | besidePositional op =>
      obtain ⟨rfl | rfl | rfl, hop, hpositional⟩ := h
      · exact .inr (.inr (.inr ⟨.inl hop, hpositional⟩))
      · exact .inr (.inr (.inr ⟨.inr (.inl hop), hpositional⟩))
      · exact .inr (.inr (.inr ⟨.inr (.inr hop), hpositional⟩))
    | mixedCase => exact h.elim

theorem positionalProblems_ne_nil_iff : positionalProblems ops ≠ [] ↔ Clash ops := by
  rw [clash_iff_exists_arisesFrom, ne_eq, List.eq_nil_iff_forall_not_mem, Classical.not_forall_not]
  exact exists_congr fun p => mem_positionalProblems_iff

end

/-! In which order they are reported -/

section

variable {ops : List Operator}

theorem idxOf_lt_of_filter {test : Operator → Bool} {a b : Operator} (ha : test a = true)
    (hb : test b = true) (h : (ops.filter test).idxOf a < (ops.filter test).idxOf b) :
    ops.idxOf a < ops.idxOf b := by
  induction ops with
  | nil => simp at h
  | cons op ops ih =>
    have hne {c : Operator} (hc : test c = true) (hop : test op = false) : (op == c) = false := by
      rw [beq_eq_false_iff_ne]
      rintro rfl
      simp [hc] at hop
    cases hop : test op with
    | true =>
      rw [List.filter_cons_of_pos hop, List.idxOf_cons, List.idxOf_cons] at h
      rw [List.idxOf_cons, List.idxOf_cons]
      cases hb' : op == b with
      | true => simp [hb'] at h
      | false =>
        cases ha' : op == a with
        | true => simp
        | false =>
          have hrest := ih (by simpa [ha', hb'] using h)
          simpa using hrest
    | false =>
      rw [List.filter_cons_of_neg (by simp [hop])] at h
      have hrest := ih h
      simpa [List.idxOf_cons, hne ha hop, hne hb hop] using hrest

/-- Operators without their repetitions stand in order of their first appearance. -/
theorem pairwise_idxOf_eraseDups (ops : List Operator) :
    ops.eraseDups.Pairwise fun a b => ops.idxOf a < ops.idxOf b := by
  induction hlen : ops.length using Nat.strongRecOn generalizing ops with
  | ind len ih =>
    cases ops with
    | nil => exact .nil
    | cons op ops =>
      have hlt : (ops.filter fun a => !a == op).length < len := by
        have hle := List.length_filter_le (fun a => !a == op) ops
        simp only [List.length_cons] at hlen
        omega
      have hne {a : Operator} (ha : a ∈ (ops.filter fun a => !a == op).eraseDups) :
          (op == a) = false := by
        rw [BEq.comm]
        simpa using (List.mem_filter.1 (List.mem_eraseDups.1 ha)).2
      rw [List.eraseDups_cons, List.pairwise_cons]
      refine ⟨fun a ha => ?_, (ih _ hlt _ rfl).imp_of_mem fun {a b} ha hb h => ?_⟩
      · simp [List.idxOf_cons, hne ha]
      · have hrest := idxOf_lt_of_filter (List.mem_filter.1 (List.mem_eraseDups.1 ha)).2
          (List.mem_filter.1 (List.mem_eraseDups.1 hb)).2 h
        simpa [List.idxOf_cons, hne ha, hne hb] using hrest

theorem rank_repeated (ops : List Operator) (op : Operator) : (Problem.repeated op).rank ops < 3 := by
  cases op <;> simp [Problem.rank]

theorem rank_ownProblem {positional : Bool} {op : Operator} {p : Problem}
    (h : ownProblem positional op = some p) : p.rank ops = 4 + ops.idxOf op := by
  rcases ownProblem_eq_some_iff.1 h with ⟨-, rfl⟩ | ⟨-, -, rfl⟩ <;> rfl

theorem pairwise_positionalProblems (ops : List Operator) :
    (positionalProblems ops).Pairwise (Problem.Before ops) := by
  have hrepetitions : (([Operator.startsWith, .endsWith, .equals].filter
      fun op => 1 < ops.count op).map Problem.repeated).Pairwise (Problem.Before ops) := by
    refine List.Pairwise.sublist (List.filter_sublist.map Problem.repeated) ?_
    simp [Problem.Before, Problem.rank]
  have hown : (ops.eraseDups.filterMap (ownProblem (ops.any (·.isPositional)))).Pairwise
      (Problem.Before ops) := by
    refine (pairwise_idxOf_eraseDups ops).filterMap _ fun a b hab p hp q hq => ?_
    rw [Problem.Before, rank_ownProblem hp, rank_ownProblem hq]
    omega
  have hclash {clash : Bool} {p : Problem}
      (hp : p ∈ if clash then [Problem.equalsAmongOthers] else []) : p.rank ops = 3 := by
    rw [(List.mem_ite_nil_right.1 hp).2 |> List.mem_singleton.1]
    rfl
  rw [positionalProblems, List.pairwise_append, List.pairwise_append]
  refine ⟨⟨hrepetitions, ?_, fun p hp q hq => ?_⟩, hown, fun p hp q hq => ?_⟩
  · split
    · exact List.pairwise_singleton _ _
    · exact .nil
  · obtain ⟨op, -, rfl⟩ := List.mem_map.1 hp
    rw [Problem.Before, hclash hq]
    exact rank_repeated ops op
  · obtain ⟨a, -, ha⟩ := List.mem_filterMap.1 hq
    rw [Problem.Before, rank_ownProblem ha]
    rcases List.mem_append.1 hp with hp | hp
    · obtain ⟨op, -, rfl⟩ := List.mem_map.1 hp
      have hlt := rank_repeated ops op
      omega
    · rw [hclash hp]
      omega

theorem before_mixedCase {p : Problem} (h : p.ArisesFrom ops) : p.Before ops .mixedCase := by
  have hlt {op : Operator} (hop : op ∈ ops) : 4 + ops.idxOf op < 4 + ops.length :=
    Nat.add_lt_add_left (List.idxOf_lt_length_of_mem hop) 4
  cases p with
  | repeated op =>
    have hrank := rank_repeated ops op
    exact Nat.lt_of_lt_of_le hrank (Nat.le_add_right_of_le (by decide))
  | equalsAmongOthers => exact Nat.lt_of_lt_of_le (Nat.lt_succ_self 3) (Nat.le_add_right 4 _)
  | anchored op => exact hlt h.2
  | besidePositional op => exact hlt h.2.1
  | mixedCase => exact h.elim

end
end ReleaseMatch
