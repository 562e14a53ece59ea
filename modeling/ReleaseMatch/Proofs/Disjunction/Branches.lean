import ReleaseMatch.Proofs.Conjunction.Compile
import ReleaseMatch.Proofs.Conjunction.Single
import ReleaseMatch.Proofs.Reading.Branch
set_option autoImplicit false

/-!
# Rows of alternatives

A disjunction puts the fragments of its conditions side by side, with bars between them. Each keeps
its own anchors but not its own case: behind one that ignores case, all others do so as well. Hence a
disjunction matches what one of its conditions finds as long as those that tell letters apart by case
come first.
-/
namespace ReleaseMatch

open Pattern Literal

namespace Condition

/-- Has the flag in front of its fragment. -/
def ignoresCase (c : Condition) : Bool := c.honoursCase && !c.caseSensitive.isSet

def branch (c : Condition) : Branch where
  ignoresCase := c.ignoresCase
  body := (c.operator.template (escape c.value)).toList
  nodes := c.nodes
  spells sensitive := spells_template c.value sensitive c.operator

/-- What becomes of the condition where it comes after others: it ignores case if one of them does. -/
def behind (before : List Condition) (c : Condition) : Condition :=
  if before.any (·.ignoresCase) then { c with caseSensitive := .bool false } else c

section

variable {c : Condition} {before : List Condition} {text : String}

theorem toList_fragment (h : c.operator ≠ .matches) : c.fragment.toList = c.branch.text := by
  change c.fragment.toList =
    (flagOf !c.ignoresCase).toList ++ (c.operator.template (escape c.value)).toList
  rw [fragment, ← String.toList_append]
  cases hcase : c.operator.honoursCase with
  | true => simp [fragment_eq hcase, ignoresCase, honoursCase, hcase]
  | false => simp [Operator.fragment, Operator.fragmentOf, h, ignoresCase, honoursCase, hcase, flagOf]

theorem finds_iff_startsAt (h : c.operator ≠ .matches) :
    c.Finds text ↔ ∃ i ≤ text.toList.length,
      (Node.ofList (c.nodes c.caseSensitive.isSet)).startsAt text.toList i = true :=
  finds_iff_of_standsFor (standsFor h) (c.isBare_nodes _)

theorem nodes_eq_of_not_honoursCase (h : c.operator ≠ .matches) (hcase : c.honoursCase = false)
    (sensitive sensitive' : Bool) : c.nodes sensitive = c.nodes sensitive' := by
  rw [honoursCase] at hcase
  rw [nodes, nodes]
  -- Only the operators without a value are left, and what they stand for is fixed.
  cases hop : c.operator with
  | isEmpty | isNotEmpty => rfl
  | «matches» => exact absurd hop h
  | _ => exact absurd hcase (by simp [hop, Operator.honoursCase])

@[simp] theorem behind_operator : (c.behind before).operator = c.operator := by
  rw [behind]
  split <;> rfl

theorem nodes_behind (h : c.operator ≠ .matches) :
    (c.behind before).nodes (c.behind before).caseSensitive.isSet =
      c.nodes (before.all (!·.ignoresCase) && !c.ignoresCase) := by
  have hall : before.all (!·.ignoresCase) = !before.any (·.ignoresCase) :=
    List.not_any_eq_all_not.symm
  cases hcase : c.honoursCase with
  | false =>
    rw [behind, hall]
    split
    · exact nodes_eq_of_not_honoursCase h hcase _ _
    · exact nodes_eq_of_not_honoursCase h hcase _ _
  | true =>
    rw [behind, hall]
    cases before.any (·.ignoresCase) with
    | true => rfl
    | false => simp [ignoresCase, hcase]

theorem finds_behind_iff (h : c.operator ≠ .matches)
    (hbefore : ∀ b ∈ before, b.ignoresCase = true → c.honoursCase = true → c.ignoresCase = true) :
    (c.behind before).Finds text ↔ c.Finds text := by
  have hop : (c.behind before).operator ≠ .matches := by simpa using h
  have hnodes : (c.behind before).nodes (c.behind before).caseSensitive.isSet =
      c.nodes c.caseSensitive.isSet := by
    rw [behind]
    split
    · next hany =>
      obtain ⟨b, hb, hignores⟩ := List.any_eq_true.1 hany
      cases hcase : c.honoursCase with
      | false => exact nodes_eq_of_not_honoursCase h hcase _ _
      | true =>
        have hset : c.caseSensitive.isSet = false := by
          simpa [ignoresCase, hcase] using hbefore b hb hignores hcase
        rw [hset]
        rfl
    · rfl
  rw [finds_iff_startsAt hop, finds_iff_startsAt h, hnodes]

end
end Condition

/-! Disjunctions -/

section

variable {cs : List Condition}

theorem toList_combineOr (h : ∀ c ∈ cs, c.operator ≠ .matches) :
    (combineOr (cs.map (·.fragment))).toList = Branch.textOf (cs.map (·.branch)) := by
  rw [combineOr, String.toList_intercalate, Branch.textOf, List.map_map, List.map_map]
  congr 1
  exact List.map_congr_left fun c hc => Condition.toList_fragment (h c hc)

theorem mem_nodesOf_branch_iff (h : ∀ c ∈ cs, c.operator ≠ .matches) {n : Node} :
    n ∈ Branch.nodesOf true (cs.map (·.branch)) ↔
      ∃ before c after, cs = before ++ c :: after ∧
        n = .ofList ((c.behind before).nodes (c.behind before).caseSensitive.isSet) := by
  rw [Branch.mem_nodesOf_iff]
  constructor
  · rintro ⟨_, _, _, hsplit, rfl⟩
    obtain ⟨before, rest, rfl, rfl, hrest⟩ := List.map_eq_append_iff.1 hsplit
    obtain ⟨c, after, rfl, rfl, rfl⟩ := List.map_eq_cons_iff.1 hrest
    refine ⟨before, c, after, rfl, ?_⟩
    rw [Condition.nodes_behind (h c (by simp)), List.all_map]
    rfl
  · rintro ⟨before, c, after, rfl, rfl⟩
    refine ⟨before.map (·.branch), c.branch, after.map (·.branch), by simp, ?_⟩
    rw [Condition.nodes_behind (h c (by simp)), List.all_map]
    rfl

theorem exists_read_combineOr (hne : cs ≠ []) (h : ∀ c ∈ cs, c.operator ≠ .matches) :
    ∃ t, Tester.read (combineOr (cs.map (·.fragment))) = .ok t ∧ ∀ text : String,
      t.accepts text = true ↔
        ∃ before c after, cs = before ++ c :: after ∧ (c.behind before).Finds text := by
  have hbranches : cs.map (·.branch) ≠ [] := by simpa using hne
  have hread := Branch.read_textOf hbranches
  have hfree : ∀ n ∈ Branch.nodesOf true (cs.map (·.branch)), n.isFree = true := by
    intro n hn
    obtain ⟨before, c, after, -, rfl⟩ := (mem_nodesOf_branch_iff h).1 hn
    exact (isBare_ofList (Condition.isBare_nodes _ _)).2
  have hnodes : Branch.nodesOf true (cs.map (·.branch)) ≠ [] := by
    cases cs with
    | nil => exact absurd rfl hne
    | cons c cs => simp [Branch.nodesOf]
  refine ⟨_, by rw [Tester.read, toList_combineOr h, hread]; rfl, fun text => ?_⟩
  have hnode : (Node.ofList [.alternatives (Branch.nodesOf true (cs.map (·.branch)))]).isFree = true :=
    isFree_alternatives hfree
  rw [accepts_ofNodes_iff_startsAt hnode]
  simp only [Node.ofList, Node.startsAt_alternatives hnodes, mem_nodesOf_branch_iff h]
  constructor
  · rintro ⟨i, hi, _, ⟨before, c, after, rfl, rfl⟩, hstarts⟩
    have hop : (c.behind before).operator ≠ .matches := by simpa using h c (by simp)
    exact ⟨before, c, after, rfl, (Condition.finds_iff_startsAt hop).2 ⟨i, hi, hstarts⟩⟩
  · rintro ⟨before, c, after, rfl, hfinds⟩
    have hop : (c.behind before).operator ≠ .matches := by simpa using h c (by simp)
    obtain ⟨i, hi, hstarts⟩ := (Condition.finds_iff_startsAt hop).1 hfinds
    exact ⟨i, hi, _, ⟨before, c, after, rfl, rfl⟩, hstarts⟩

/-- No condition that tells letters apart by case comes after one that ignores it. -/
def SensitiveFirst (cs : List Condition) : Prop :=
  cs.Pairwise fun c d => c.ignoresCase = true → d.honoursCase = true → d.ignoresCase = true

theorem sensitiveFirst_of_same
    (h : ∃ b, ∀ c ∈ cs, c.operator.honoursCase = true → c.caseSensitive = .bool b) :
    SensitiveFirst cs := by
  obtain ⟨b, hb⟩ := h
  refine List.pairwise_of_forall_mem_list fun c hc d hd hignores hcase => ?_
  obtain ⟨hcase', hset⟩ := Bool.and_eq_true_iff.1 hignores
  rw [hb c hc hcase'] at hset
  rw [Condition.ignoresCase, hcase, hb d hd hcase, hset]
  rfl

theorem exists_behind_iff (h : ∀ c ∈ cs, c.operator ≠ .matches) (hfirst : SensitiveFirst cs)
    (text : String) :
    (∃ before c after, cs = before ++ c :: after ∧ (c.behind before).Finds text) ↔
      ∃ c ∈ cs, c.Finds text := by
  -- Each is found in its place as by itself, since none before it has a flag that it does not have.
  have hbehind {before : List Condition} {c : Condition} {after : List Condition}
      (hcs : cs = before ++ c :: after) : (c.behind before).Finds text ↔ c.Finds text := by
    subst hcs
    refine Condition.finds_behind_iff (h c (by simp)) fun b hb => ?_
    exact (List.pairwise_append.1 hfirst).2.2 b hb c List.mem_cons_self
  constructor
  · rintro ⟨before, c, after, hcs, hfinds⟩
    exact ⟨c, by simp [hcs], (hbehind hcs).1 hfinds⟩
  · rintro ⟨c, hc, hfinds⟩
    obtain ⟨before, after, hcs⟩ := List.append_of_mem hc
    exact ⟨before, c, after, hcs, (hbehind hcs).2 hfinds⟩

/-- Two or more conditions that agree about case have a pattern under OR, in any order. It matches the
texts in which one of the conditions is found. -/
theorem disjunction_exact (htwo : 2 ≤ (validOf cs).length)
    (hops : ∀ c ∈ validOf cs, c.operator ≠ .matches)
    (hcase : ∃ b, ∀ c ∈ validOf cs, c.operator.honoursCase = true → c.caseSensitive = .bool b) :
    ∀ ds : List Condition, ds.Perm cs → ∃ pattern t, compile ds .or = .ok (.compiled pattern) ∧
      Tester.read pattern = .ok t ∧ ∀ text : String,
        t.accepts text = true ↔ ∃ c ∈ validOf cs, c.Finds text := by
  intro ds hperm
  have hvalid := validOf_perm hperm
  have hops' : ∀ c ∈ validOf ds, c.operator ≠ .matches := fun c hc => hops c (hvalid.mem_iff.1 hc)
  have htwo' : 2 ≤ (validOf ds).length := by rwa [hvalid.length_eq]
  have hfirst : SensitiveFirst (validOf ds) := by
    obtain ⟨b, hb⟩ := hcase
    exact sensitiveFirst_of_same ⟨b, fun c hc => hb c (hvalid.mem_iff.1 hc)⟩
  obtain ⟨t, ht, hall⟩ := exists_read_combineOr (List.ne_nil_of_length_pos (by omega)) hops'
  refine ⟨_, t, compile_or htwo', ht, fun text => ?_⟩
  rw [hall, exists_behind_iff hops' hfirst]
  exact exists_congr fun c => by rw [hvalid.mem_iff]

/-- Values with syntax in them, and no text at all. -/
def barOrNothing : List Condition :=
  [{ id := "1", operator := .isEmpty },
    { id := "2", operator := .contains, value := "a|b(", caseSensitive := .bool false },
    { id := "3", operator := .notContains, value := "\\", caseSensitive := .bool false }]

theorem disjunction_of_bar_and_nothing :
    ∃ pattern t, compile barOrNothing.reverse .or = .ok (.compiled pattern) ∧
      Tester.read pattern = .ok t ∧ t.accepts "\\ first\nthen A|B(" = true ∧
      t.accepts "\\ first\nthen AB" = false := by
  have htwo : 2 ≤ (validOf barOrNothing).length := by decide
  obtain ⟨pattern, t, hcompile, ht, hall⟩ := disjunction_exact htwo (by decide)
    ⟨false, by simp [validOf, barOrNothing]⟩ barOrNothing.reverse (List.reverse_perm _)
  refine ⟨pattern, t, hcompile, ht, (hall _).2 ?_, ?_⟩
  · have hmem : barOrNothing.get ⟨1, by decide⟩ ∈ validOf barOrNothing :=
      List.mem_filter.2 ⟨List.get_mem _ _, by decide⟩
    exact ⟨_, hmem, finds_of_fragment "(?i)a\\|b\\(" (by decide +kernel) (by decide +kernel)⟩
  · rw [← Bool.not_eq_true, hall]
    rintro ⟨c, hc, hfinds⟩
    have hmem : c ∈ barOrNothing := (List.mem_filter.1 hc).1
    simp only [barOrNothing, List.mem_cons, List.not_mem_nil, or_false] at hmem
    revert hfinds
    rcases hmem with rfl | rfl | rfl
    · exact not_finds_of_fragment "^$" (by decide +kernel) (by decide +kernel)
    · exact not_finds_of_fragment "(?i)a\\|b\\(" (by decide +kernel) (by decide +kernel)
    · exact not_finds_of_fragment "(?i)^(?!.*\\\\).*$" (by decide +kernel) (by decide +kernel)

/-- Two or more conditions have a pattern under OR. It matches the texts in which one of them is found
as it is after those before it, so it matches where one of them is found by itself as long as those
that tell letters apart by case come first. -/
theorem disjunction_accepts_iff_behind (htwo : 2 ≤ (validOf cs).length)
    (hops : ∀ c ∈ validOf cs, c.operator ≠ .matches) :
    ∃ pattern t, compile cs .or = .ok (.compiled pattern) ∧ Tester.read pattern = .ok t ∧
      ∀ text : String,
        (t.accepts text = true ↔
          ∃ before c after, validOf cs = before ++ c :: after ∧ (c.behind before).Finds text) ∧
        (SensitiveFirst (validOf cs) →
          (t.accepts text = true ↔ ∃ c ∈ validOf cs, c.Finds text)) := by
  obtain ⟨t, ht, hall⟩ := exists_read_combineOr (List.ne_nil_of_length_pos (by omega)) hops
  refine ⟨_, t, compile_or htwo, ht, fun text => ⟨hall text, fun hfirst => ?_⟩⟩
  rw [hall, exists_behind_iff hops hfirst]

end

def looseAndStrict : List Condition :=
  [{ id := "1", operator := .contains, value := "a", caseSensitive := .bool false },
    { id := "2", operator := .contains, value := "B", caseSensitive := .bool true }]

theorem not_finds_looseAndStrict : ∀ c ∈ looseAndStrict, ¬c.Finds "b" := by
  intro c hc
  simp only [looseAndStrict, List.mem_cons, List.not_mem_nil, or_false] at hc
  rcases hc with rfl | rfl
  · exact not_finds_of_fragment "(?i)a" (by decide +kernel) (by decide +kernel)
  · exact not_finds_of_fragment "B" (by decide +kernel) (by decide +kernel)

theorem disjunction_of_strict_and_loose :
    ∃ pattern t, compile looseAndStrict.reverse .or = .ok (.compiled pattern) ∧
      Tester.read pattern = .ok t ∧ t.accepts "b" = false := by
  have htwo : 2 ≤ (validOf looseAndStrict.reverse).length := by decide
  obtain ⟨pattern, t, hcompile, ht, hall⟩ := disjunction_accepts_iff_behind htwo (by decide)
  have hvalid : validOf looseAndStrict.reverse = looseAndStrict.reverse :=
    List.filter_eq_self.2 (by decide)
  have hfirst : SensitiveFirst looseAndStrict.reverse := by
    simp [SensitiveFirst, looseAndStrict, Condition.ignoresCase, Value.isSet]
  obtain ⟨-, hiff⟩ := hall "b"
  rw [hvalid] at hiff
  refine ⟨pattern, t, hcompile, ht, ?_⟩
  rw [← Bool.not_eq_true, hiff hfirst]
  rintro ⟨c, hc, hfinds⟩
  exact not_finds_looseAndStrict c (List.mem_reverse.1 hc) hfinds

/-- Neither value is found in the text, but the second one ignores case after the first. -/
theorem strict_value_behind_loose :
    compile looseAndStrict .or = .ok (.compiled "(?i)a|B") ∧
      (∀ c ∈ validOf looseAndStrict, ¬c.Finds "b") ∧
      ∃ t, Tester.read "(?i)a|B" = .ok t ∧ t.accepts "b" = true := by
  refine ⟨?_, fun c hc => ?_, exists_accepts_iff.2 (by decide +kernel)⟩
  · have hpattern : combineOr ((validOf looseAndStrict).map (·.fragment)) = "(?i)a|B" := by
      decide +kernel
    rw [compile_or (by decide), hpattern]
  · exact not_finds_looseAndStrict c (List.mem_filter.1 hc).1

end ReleaseMatch
