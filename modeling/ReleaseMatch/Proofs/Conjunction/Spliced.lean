import ReleaseMatch.Proofs.Conjunction.Lookahead
import ReleaseMatch.Proofs.Reading.Ahead
set_option autoImplicit false

/-!
# Patterns spliced into lookaheads

A conjunction in which a pattern takes part puts it into its lookahead as it stands, without a group
around it. Hence what stands in front of it in the lookahead belongs to its first alternative alone,
and the other alternatives are asked for at the place at which the whole row of lookaheads is tried.
-/
namespace ReleaseMatch

open Pattern

/-! Operators -/

theorem operators_of_matches {ops : List Operator} (h : positionalProblems ops = [])
    (hmatches : .matches ∈ ops) :
    ops.any (·.isPositional) = false ∧ ∀ op ∈ ops, op = .matches ∨ op.isPlain = true := by
  cases hany : ops.any (·.isPositional) with
  | true => exact absurd (isComposable_of_any_isPositional h hany _ hmatches) (by decide)
  | false => exact ⟨rfl, isPlain_of_not_any_isPositional h hany⟩

theorem compile_matches {cs : List Condition} {pattern : String} (htwo : 2 ≤ (validOf cs).length)
    (hmatches : ∃ c ∈ validOf cs, c.operator = .matches)
    (hcompile : compile cs .and = .ok (.compiled pattern)) :
    pattern = composeLookaheads ((validOf cs).map (·.fragment)) ∧
      ∀ c ∈ validOf cs, c.operator = .matches ∨ c.operator.isPlain = true := by
  rw [compile_and htwo, combineAnd_eq_compiled_iff] at hcompile
  obtain ⟨hproblems, -, hpattern⟩ := hcompile
  obtain ⟨c, hc, hop⟩ := hmatches
  obtain ⟨hany, hops⟩ := operators_of_matches hproblems (List.mem_map.2 ⟨c, hc, hop⟩)
  rw [hany] at hpattern
  exact ⟨hpattern.symm, fun c hc => hops _ (List.mem_map_of_mem hc)⟩

theorem fragment_matches {c : Condition} (h : c.operator = .matches) : c.fragment = c.value := by
  simp [Condition.fragment, h, Operator.fragment, Operator.fragmentOf, Operator.honoursCase,
    Operator.template]

/-! Rows -/

theorem joins_whole {ns : List Node} (h : ∀ n ∈ ns, n.IsWhole) : Joins .exact ns ns := by
  induction ns with
  | nil => exact .nil
  | cons n ns ih =>
    exact .cons (h n List.mem_cons_self) (ih fun m hm => h m (List.mem_cons_of_mem n hm))

theorem isPlainEnd_composeLookaheads (fragments : List String) :
    IsPlainEnd (composeLookaheads fragments).toList := by
  cases fragments with
  | nil => exact isPlainEnd_cons (by decide)
  | cons f fragments =>
    rw [toList_composeLookaheads_cons]
    exact isPlainEnd_cons (by decide)

theorem exists_steps_lookaheads {fragments : List String}
    (h : ∀ f ∈ fragments, LooksFor f.toList (branchesOf f.toList)) (r : Reader) (hr : r.IsClear)
    (hrest : r.rest = (composeLookaheads fragments).toList) :
    ∃ (ns bodies : List Node) (s : Reader), r.Steps s ∧ s.rest = [] ∧ s.IsClear ∧
      s.groups = r.groups ∧ s.level = r.level.gain (ns.map some ++ [some Node.anything, none]) ∧
      ns.flatMap Node.parts = bodies.map Node.ahead ∧ (∀ b ∈ bodies, b.isFree = true) ∧
      ∀ cs i, '\n' ∉ cs → i ≤ cs.length →
        ((∀ b ∈ bodies, b.startsAt cs i = true) ↔
          ∀ f ∈ fragments, StartsFrom (branchesOf f.toList) cs i) := by
  induction fragments generalizing r with
  | nil =>
    have hflags : r.flags.Alike (caseFlags true) := .of_eq hr.flags
    have hsteps := (Reader.steps_anything hflags hrest isPlainEnd_nil).toSteps
    exact ⟨[], [], _, hsteps, rfl, ⟨hr.flags, hr.references, hr.forwards, hr.version⟩, rfl, rfl, rfl,
      by simp, by simp⟩
  | cons f fragments ih =>
    rw [toList_composeLookaheads_cons] at hrest
    obtain ⟨n, b, s, hsteps, hs, hclear, hgroups, hlevel, hparts, hfree, hstarts⟩ :=
      h f List.mem_cons_self r _ hr (isPlainEnd_composeLookaheads fragments) (by simpa using hrest)
    obtain ⟨ns, bodies, t, hsteps', ht, hclear', hgroups', hlevel', hparts', hfree', hstarts'⟩ :=
      ih (fun f' hf' => h f' (List.mem_cons_of_mem f hf')) s hclear hs
    refine ⟨n :: ns, b :: bodies, t, hsteps.trans hsteps', ht, hclear', hgroups'.trans hgroups, ?_, ?_,
      List.forall_mem_cons.2 ⟨hfree, hfree'⟩, fun cs i hcs hi => ?_⟩
    · rw [hlevel', hlevel, ← Level.gain_append]
      rfl
    · rw [List.flatMap_cons, hparts, hparts']
      rfl
    · rw [List.forall_mem_cons, List.forall_mem_cons, hstarts cs i hcs hi, hstarts' cs i hcs hi]

theorem exists_read_lookaheads {fragments : List String}
    (h : ∀ f ∈ fragments, LooksFor f.toList (branchesOf f.toList)) :
    ∃ t, Tester.read (composeLookaheads fragments) = .ok t ∧ ∀ text : String, '\n' ∉ text.toList →
      (t.accepts text = true ↔ ∃ i ≤ text.toList.length,
        ∀ f ∈ fragments, StartsFrom (branchesOf f.toList) text.toList i) := by
  obtain ⟨ns, bodies, s, hsteps, hs, hclear, hgroups, hlevel, hparts, hfree, hstarts⟩ :=
    exists_steps_lookaheads h { rest := (composeLookaheads fragments).toList }
      ⟨rfl, rfl, List.not_mem_nil, List.not_mem_nil⟩ rfl
  have hmix : s.mixesEncodings = false := by
    rw [Reader.mixesEncodings, hclear.flags]
    rfl
  have hread := Regex.read_of_steps hsteps hs hgroups hclear.references hclear.version hmix
  have hnode : s.level.node.join = .ofList (bodies.map Node.ahead ++ [Node.anything]) := by
    rw [hlevel, Level.node_gain]
    have hwhole : ∀ n ∈ bodies.map Node.ahead ++ [Node.anything], n.IsWhole := by
      intro n hn
      rcases List.mem_append.1 hn with hn | hn
      · obtain ⟨b, -, rfl⟩ := List.mem_map.1 hn
        exact isWhole_of_ne_char fun _ _ => Node.noConfusion
      · rw [List.mem_singleton.1 hn]
        exact isWhole_anything
    have hjoins : Joins .exact (itemParts (ns.map some ++ [some Node.anything, none]))
        (bodies.map Node.ahead ++ [Node.anything]) := by
      rw [itemParts_append, show itemParts (ns.map some) = bodies.map Node.ahead by
        rw [← hparts]
        simp [itemParts]]
      exact joins_whole hwhole
    exact join_ofList hjoins
  refine ⟨_, by rw [Tester.read, hread]; rfl, fun text htext => ?_⟩
  rw [Tester.accepts_eq, Regex.search?_ahead_isSome_iff hnode
    (by simpa using hclear.forwards) hfree htext]
  exact exists_congr fun i => and_congr_right fun hi => hstarts _ i htext hi

/-! Conditions -/

def Condition.branches (c : Condition) : List Node := branchesOf c.fragment.toList

theorem exists_readAll {word : List Char} {r : Regex} (h : Regex.read word = .ok r) :
    ∃ e, Reader.readAll (word.length + 1) { rest := word } = .ok e ∧ Flag.oldVersion ∉ e.globals ∧
      r.node = e.level.node.join ∧ r.backwards = e.globals.contains .backwards := by
  obtain ⟨e, he, hsound, rfl⟩ := Regex.read_eq_ok_iff.1 h
  exact ⟨e, he, hsound.version, rfl, rfl⟩

/-- Found by itself wherever one of the branches begins, and looked for by them in a lookahead. -/
structure Condition.IsLookedFor (c : Condition) : Prop where
  looksFor : LooksFor c.fragment.toList c.branches
  finds_iff : ∀ text : String, c.Finds text ↔
    ∃ i ≤ text.toList.length, ∃ n ∈ c.branches, n.startsAt text.toList i = true

theorem isLookedFor_of_plain {c : Condition} (h : c.operator.isPlain = true) : c.IsLookedFor := by
  have hstands := standsFor_plain h
  refine ⟨hstands.looksFor fun n hn => (isBare_plainNodes c n hn).2, fun text => ?_⟩
  rw [finds_plain_iff h, Condition.branches, hstands.branchesOf]
  simp only [List.mem_singleton, exists_eq_left]

theorem isLookedFor_of_matches {c : Condition} (h : c.operator = .matches)
    (hread : ∃ t, Tester.read c.value = .ok t) (hapart : IsApart c.value.toList) :
    c.IsLookedFor := by
  obtain ⟨t, ht⟩ := hread
  obtain ⟨r, hr, -⟩ := map_eq_ok_iff.1 ht
  have hfragment := fragment_matches h
  obtain ⟨e, hall, hversion, hnode, hbackwards⟩ := exists_readAll hr
  obtain ⟨hfree, hforwards⟩ := isFree_of_isApart hall hapart
  have hbranches : c.branches = e.level.branches := by
    rw [Condition.branches, branchesOf, hfragment, hall]
  have hforwards' : r.backwards = false := by rw [hbackwards]; simpa using hforwards
  have hnodeFree : r.node.isFree = true := by rw [hnode]; exact Node.isFree_join hfree.node
  refine ⟨?_, fun text => ?_⟩
  · rw [hfragment, hbranches]
    exact looksFor_of_isApart hall hapart hversion
  · have htester : Tester.read c.fragment = .ok ⟨c.fragment, r⟩ := by
      rw [hfragment, Tester.read, hr]
      rfl
    have hsearch : (Tester.mk c.fragment r).accepts text = true ↔
        ∃ i ≤ text.toList.length, r.node.startsAt text.toList i = true := by
      rw [Tester.accepts_eq, Regex.search?_isSome_iff hforwards']
      refine exists_congr fun i => and_congr_right fun _ => ?_
      rw [Regex.matchesAt, Regex.matchAt?_eq hforwards',
        Node.startsAt_eq _ hnodeFree (State.fresh_place _ _)]
    rw [finds_iff_accepts htester, hsearch, hnode, Level.join_node, hbranches]
    refine exists_congr fun i => and_congr_right fun _ => ?_
    exact Node.startsAt_alternatives (by simp [Level.branches])

section

variable {c : Condition} {text : String} {i : Nat}

theorem finds_of_startsFrom (h : c.IsLookedFor) (hi : i ≤ text.toList.length)
    (hstarts : StartsFrom c.branches text.toList i) : c.Finds text := by
  rw [h.finds_iff]
  cases hc : c.branches with
  | nil => exact absurd hstarts (by simp [hc, StartsFrom])
  | cons first others =>
    rw [hc] at hstarts
    rcases hstarts with ⟨j, -, hj, hstarts⟩ | ⟨n, hn, hstarts⟩
    · exact ⟨j, hj, first, List.mem_cons_self, hstarts⟩
    · exact ⟨i, hi, n, List.mem_cons_of_mem first hn, hstarts⟩

theorem startsFrom_of_finds (h : c.IsLookedFor) (hsingle : c.branches.length = 1)
    (hfinds : c.Finds text) : StartsFrom c.branches text.toList 0 := by
  rw [h.finds_iff] at hfinds
  obtain ⟨n, hn⟩ := List.length_eq_one_iff.1 hsingle
  rw [hn] at hfinds ⊢
  obtain ⟨j, hj, m, hm, hstarts⟩ := hfinds
  rw [List.mem_singleton.1 hm] at hstarts
  exact startsFrom_single.2 ⟨j, Nat.zero_le j, hj, hstarts⟩

end

def patternAndValue (pattern value : String) : List Condition :=
  [{ id := "1", operator := .matches, value := pattern, caseSensitive := .bool true },
    { id := "2", operator := .contains, value := value, caseSensitive := .bool true }]

section

variable {pattern value : String}

theorem validOf_patternAndValue (h : ∀ c ∈ patternAndValue pattern value, c.isValid = true) :
    validOf (patternAndValue pattern value) = patternAndValue pattern value :=
  List.filter_eq_self.2 h

theorem compile_patternAndValue (h : ∀ c ∈ patternAndValue pattern value, c.isValid = true) :
    compile (patternAndValue pattern value) .and = .ok (.compiled
      (composeLookaheads ((patternAndValue pattern value).map (·.fragment)))) := by
  rw [compile_and (by rw [validOf_patternAndValue h]; exact Nat.le_refl 2),
    combineAnd_eq_compiled_iff, validOf_patternAndValue h]
  exact ⟨rfl, rfl, rfl⟩

end

theorem finds_group : Condition.Finds
    { id := "1", operator := .matches, value := "HDR10(Plus|\\+)", caseSensitive := .bool true }
    "x264 HDR10+" :=
  finds_of_fragment "HDR10(Plus|\\+)" (by decide) (by decide +kernel)

end ReleaseMatch
