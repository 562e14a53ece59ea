import ReleaseMatch.Proofs.Conjunction.Single
set_option autoImplicit false

/-!
# Layouts of conditions in a text

A start, values in between and an end take up parts of a text one after the other. The parts are given
by what the values match, or else by what the patterns of the single conditions match.
-/
namespace ReleaseMatch

open Pattern Literal

def withOperator (op : Operator) (cs : List Condition) : List Condition :=
  cs.filter (·.operator == op)

/-! Occurrences -/

/-- The value of the condition, as the pattern of a condition that only asks for it, matches exactly
the characters of the text between two places. -/
def Condition.Fills (c : Condition) (text : List Char) (first last : Nat) : Prop :=
  ∃ t, Tester.read (Operator.contains.fragment c.value c.caseSensitive.isSet) = .ok t ∧
    t.regex.spans text first last = true

structure Occurrence where
  condition : Condition
  first : Nat
  last : Nat

namespace Occurrence

structure Holds (text : List Char) (o : Occurrence) : Prop where
  le : o.first ≤ o.last
  le_length : o.last ≤ text.length
  fills : o.condition.Fills text o.first o.last

def Before (o o' : Occurrence) : Prop := o.last ≤ o'.first

/-- Occurrences of the conditions one after the other, between two places. -/
structure Row (text : List Char) (cs : List Condition) (start stop : Nat) (os : List Occurrence) :
    Prop where
  conditions : os.map (·.condition) = cs
  holds : ∀ o ∈ os, o.Holds text
  apart : os.Pairwise Before
  after : ∀ o ∈ os, start ≤ o.first
  before : ∀ o ∈ os, o.last ≤ stop

namespace Row

variable {text : List Char} {cs : List Condition} {i j k : Nat} {os : List Occurrence}

theorem nil : Row text [] i j [] := ⟨rfl, by simp, .nil, by simp, by simp⟩

theorem cons {o : Occurrence} (h : Row text cs o.last j os) (ho : o.Holds text)
    (hi : i ≤ o.first) (hj : o.last ≤ j) : Row text (o.condition :: cs) i j (o :: os) where
  conditions := by simp [h.conditions]
  holds := List.forall_mem_cons.2 ⟨ho, h.holds⟩
  apart := List.pairwise_cons.2 ⟨h.after, h.apart⟩
  after := List.forall_mem_cons.2
    ⟨hi, fun o' ho' => Nat.le_trans (Nat.le_trans hi ho.le) (h.after o' ho')⟩
  before := List.forall_mem_cons.2 ⟨hj, h.before⟩

theorem of_cons {c : Condition} (h : Row text (c :: cs) i j os) :
    ∃ o os', os = o :: os' ∧ o.condition = c ∧ o.Holds text ∧ i ≤ o.first ∧ o.last ≤ j ∧
      Row text cs o.last j os' := by
  obtain ⟨hcond, hholds, hapart, hafter, hbefore⟩ := h
  match os, hcond with
  | o :: os', hcond =>
    obtain ⟨hc, hcs⟩ := by simpa using hcond
    rw [List.forall_mem_cons] at hholds hafter hbefore
    rw [List.pairwise_cons] at hapart
    exact ⟨o, os', rfl, hc, hholds.1, hafter.1, hbefore.1,
      ⟨hcs, hholds.2, hapart.2, hapart.1, hbefore.2⟩⟩

theorem append {cs' : List Condition} {os' : List Occurrence} (h : Row text cs i j os)
    (h' : Row text cs' j k os') (hij : i ≤ j) (hjk : j ≤ k) :
    Row text (cs ++ cs') i k (os ++ os') where
  conditions := by rw [List.map_append, h.conditions, h'.conditions]
  holds := List.forall_mem_append.2 ⟨h.holds, h'.holds⟩
  apart := List.pairwise_append.2
    ⟨h.apart, h'.apart, fun o ho o' ho' => Nat.le_trans (h.before o ho) (h'.after o' ho')⟩
  after := List.forall_mem_append.2 ⟨h.after, fun o ho => Nat.le_trans hij (h'.after o ho)⟩
  before := List.forall_mem_append.2 ⟨fun o ho => Nat.le_trans (h.before o ho) hjk, h'.before⟩

theorem of_append {cs' : List Condition} (h : Row text (cs ++ cs') i k os) (hik : i ≤ k) :
    ∃ j os₁ os₂, os = os₁ ++ os₂ ∧ i ≤ j ∧ j ≤ k ∧ Row text cs i j os₁ ∧ Row text cs' j k os₂ := by
  induction cs generalizing i os with
  | nil => exact ⟨i, [], os, rfl, Nat.le_refl i, hik, .nil, h⟩
  | cons c cs ih =>
    obtain ⟨o, os', rfl, rfl, ho, hi, hk, hrow⟩ := h.of_cons
    obtain ⟨j, os₁, os₂, rfl, hj, hjk, h₁, h₂⟩ := ih hrow hk
    have hij : i ≤ j := Nat.le_trans hi (Nat.le_trans ho.le hj)
    exact ⟨j, o :: os₁, os₂, rfl, hij, hjk, h₁.cons ho hi hj, h₂⟩

theorem mono {i' j' : Nat} (h : Row text cs i j os) (hi : i' ≤ i) (hj : j ≤ j') :
    Row text cs i' j' os where
  conditions := h.conditions
  holds := h.holds
  apart := h.apart
  after o ho := Nat.le_trans hi (h.after o ho)
  before o ho := Nat.le_trans (h.before o ho) hj

end Row
end Occurrence

theorem isBare_valueNodes (value : String) (sensitive : Bool) :
    (Node.ofList (valueNodes value sensitive)).IsBare :=
  isBare_ofList (isBare_literals _ _)

theorem exists_spans_iff {word : String} {nodes : List Node} (h : StandsFor word.toList nodes)
    (hbare : ∀ n ∈ nodes, n.IsBare) (env : Surroundings) {text : List Char} {i j : Nat} :
    (∃ t, Tester.read word = .ok t ∧ t.regex.spans text i j = true) ↔
      (Node.ofList nodes).spans env text i j = true := by
  have hspans (env' : Surroundings) :=
    Node.spans_congr (isBare_ofList hbare).2 env' env text i j
  constructor
  · rintro ⟨t, ht, hspan⟩
    obtain rfl := Except.ok.inj (h.tester.symm.trans ht)
    rw [← hspans]
    exact hspan
  · intro hspan
    rw [← hspans] at hspan
    exact ⟨_, h.tester, hspan⟩

theorem fills_iff {c : Condition} {sensitive : Bool} (hcase : c.caseSensitive.isSet = sensitive)
    (env : Surroundings) {text : List Char} {i j : Nat} :
    c.Fills text i j ↔ (Node.ofList (valueNodes c.value sensitive)).spans env text i j = true := by
  subst hcase
  have hstands : StandsFor (Operator.contains.fragment c.value c.caseSensitive.isSet).toList
      (valueNodes c.value c.caseSensitive.isSet) :=
    standsFor_fragment _ _ (by decide)
  exact exists_spans_iff hstands (isBare_literals _ _) env

/-! Single conditions in a text -/

/-- The pattern of the condition by itself matches exactly the characters of the text between two
places. -/
def Condition.Spans (c : Condition) (text : List Char) (first last : Nat) : Prop :=
  ∃ t, Tester.read c.fragment = .ok t ∧ t.regex.spans text first last = true

theorem spans_iff {c : Condition} (h : c.operator ≠ .matches) (env : Surroundings)
    {text : List Char} {i j : Nat} :
    c.Spans text i j ↔ (Node.ofList (c.nodes c.caseSensitive.isSet)).spans env text i j = true :=
  exists_spans_iff (Condition.standsFor h) (c.isBare_nodes _) env

theorem spans_iff_fills {c : Condition} {text : List Char} (htext : '\n' ∉ text)
    (hop : c.operator = .startsWith ∨ c.operator = .contains ∨ c.operator = .endsWith) {i j : Nat}
    (hi : i ≤ text.length) :
    c.Spans text i j ↔ c.Fills text i j ∧ (c.operator = .startsWith → i = 0) ∧
      (c.operator = .endsWith → j = text.length) := by
  -- Calls do not occur, so that any way to run them will do.
  let env : Surroundings := ⟨fun _ => 0, fun _ _ _ _ => none⟩
  have henv : env.Explore text := fun _ _ _ _ => .fail
  have hquiet := (isBare_valueNodes c.value c.caseSensitive.isSet).1
  have hmatches : c.operator ≠ .matches := by
    rcases hop with hop | hop | hop <;> simp [hop]
  rw [fills_iff rfl env, spans_iff hmatches env, Condition.nodes]
  rcases hop with hop | hop | hop
  · rw [hop, Operator.templateNodes, Node.spans, Node.run_ofList_cons, Node.run,
      ← Place.isStart_of hi]
    by_cases hstart : (Place.of text i).isStart = true
    · simp [Anchor.holds, hstart, Node.spans]
    · simp [Anchor.holds, hstart]
  · simp [hop, Operator.templateNodes]
  · rw [hop, Operator.templateNodes, Node.spans, Node.run_ofList_append,
      Node.run_isSome_iff henv hquiet hi]
    have hanchor {e : Nat} (he : e ≤ text.length) :
        ((Node.anchor .lastLineEnd).run env false (.fresh text e) (only (Place.of text j))).isSome ↔
          e = text.length ∧ e = j := by
      rw [← Place.lastLineEnd_of htext he, Node.run, State.fresh_place]
      by_cases hholds : Anchor.holds (.of text e) .lastLineEnd = true
      · rw [if_pos hholds, only_isSome_iff, State.fresh_place, Place.of_inj]
        simp [hholds]
      · simp [hholds]
    constructor
    · rintro ⟨e, -, he, hspan, hrun⟩
      obtain ⟨hlen, rfl⟩ := (hanchor he).1 hrun
      exact ⟨hspan, by simp, fun _ => hlen⟩
    · rintro ⟨hspan, -, hend⟩
      obtain ⟨hij, hj⟩ := Node.spans_bounds henv hquiet hi hspan
      exact ⟨j, hij, hj, hspan, (hanchor hj).2 ⟨hend rfl, rfl⟩⟩

theorem finds_of_spans {c : Condition} (h : c.operator ≠ .matches) {text : String} {i j : Nat}
    (hij : i ≤ j) (hj : j ≤ text.toList.length) (hspans : c.Spans text.toList i j) :
    c.Finds text := by
  refine ⟨_, (Condition.standsFor h).tester, accepts_ofNodes_iff.2 ⟨i, Nat.le_trans hij hj, ?_⟩⟩
  rw [Node.run_isSome_iff (Regex.surroundings_explore _ _ _)
    (isBare_ofList (c.isBare_nodes c.caseSensitive.isSet)).1 (Nat.le_trans hij hj)]
  exact ⟨j, hij, hj, (spans_iff h _).1 hspans, rfl⟩

/-! Layouts -/

/-- The conditions in the order in which an anchored expression looks for them: the start, the values
in between in the order of the list, the end. -/
def arranged (cs : List Condition) : List Condition :=
  withOperator .startsWith cs ++ (withOperator .contains cs ++ withOperator .endsWith cs)

/-- Occurrences of the conditions in their order, none of which overlaps another, with a start at the
start of the text and an end at its end. -/
structure Layout (cs : List Condition) (text : List Char) (os : List Occurrence) : Prop where
  conditions : os.map (·.condition) = arranged cs
  holds : ∀ o ∈ os, o.Holds text
  apart : os.Pairwise Occurrence.Before
  starts : ∀ o ∈ os, o.condition.operator = .startsWith → o.first = 0
  ends : ∀ o ∈ os, o.condition.operator = .endsWith → o.last = text.length

/-- Operators that an anchored expression has a place for. -/
structure Anchorable (cs : List Condition) : Prop where
  operators : ∀ c ∈ cs,
    c.operator = .startsWith ∨ c.operator = .contains ∨ c.operator = .endsWith
  oneStart : (withOperator .startsWith cs).length ≤ 1
  oneEnd : (withOperator .endsWith cs).length ≤ 1

theorem length_withOperator (op : Operator) (cs : List Condition) :
    (withOperator op cs).length = (cs.map (·.operator)).count op := by
  rw [withOperator, List.count, List.countP_map, List.countP_eq_length_filter]
  rfl

theorem anchorable_iff {cs : List Condition} :
    Anchorable cs ↔ (cs.map (·.operator)).count .startsWith ≤ 1 ∧ (cs.map (·.operator)).count .endsWith ≤ 1 ∧
      ∀ op ∈ cs.map (·.operator), op = .startsWith ∨ op = .contains ∨ op = .endsWith := by
  rw [← length_withOperator, ← length_withOperator, List.forall_mem_map]
  constructor
  · intro h
    exact ⟨h.oneStart, h.oneEnd, h.operators⟩
  · rintro ⟨hstart, hend, hops⟩
    exact ⟨hops, hstart, hend⟩

theorem Anchorable.honoursCase {cs : List Condition} (h : Anchorable cs) :
    ∀ c ∈ cs, c.operator.honoursCase = true := by
  intro c hc
  rcases h.operators c hc with hop | hop | hop
  all_goals
    rw [hop]
    rfl

theorem Anchorable.arranged_perm {cs : List Condition} (h : Anchorable cs) : (arranged cs).Perm cs := by
  -- The starts are set apart first, then the values in between from the ends.
  let others := cs.filter fun c => !(c.operator == .startsWith)
  have hbetween : withOperator .contains cs = others.filter (·.operator == .contains) := by
    rw [withOperator, List.filter_filter]
    refine List.filter_congr fun c hc => ?_
    rcases h.operators c hc with hop | hop | hop <;> simp [hop]
  have hends : withOperator .endsWith cs = others.filter fun c => !(c.operator == .contains) := by
    rw [withOperator, List.filter_filter]
    refine List.filter_congr fun c hc => ?_
    rcases h.operators c hc with hop | hop | hop <;> simp [hop]
  have hothers := List.filter_append_perm (fun c : Condition => c.operator == .contains) others
  rw [arranged, hbetween, hends]
  exact (hothers.append_left _).trans (List.filter_append_perm _ cs)

theorem mem_arranged {cs : List Condition} (hcs : Anchorable cs) {c : Condition} :
    c ∈ arranged cs ↔ c ∈ cs :=
  hcs.arranged_perm.mem_iff

theorem operator_of_mem_withOperator {op : Operator} {cs : List Condition} {c : Condition}
    (h : c ∈ withOperator op cs) : c.operator = op := by
  simpa [withOperator] using (List.mem_filter.1 h).2

theorem Occurrence.Row.operator {text : List Char} {op : Operator} {cs : List Condition} {i j : Nat}
    {os : List Occurrence} (h : Row text (withOperator op cs) i j os) :
    ∀ o ∈ os, o.condition.operator = op := by
  intro o ho
  have hmem : o.condition ∈ withOperator op cs := h.conditions ▸ List.mem_map_of_mem ho
  exact operator_of_mem_withOperator hmem

theorem Layout.spans {cs : List Condition} {text : List Char} {os : List Occurrence}
    (hcs : Anchorable cs) (htext : '\n' ∉ text) (h : Layout cs text os) :
    ∀ o ∈ os, o.condition ∈ cs ∧ o.condition.Spans text o.first o.last := by
  intro o ho
  have hmem : o.condition ∈ arranged cs := by
    rw [← h.conditions]
    exact List.mem_map_of_mem ho
  have hcond := (mem_arranged hcs).1 hmem
  have hholds := h.holds o ho
  exact ⟨hcond, (spans_iff_fills htext (hcs.operators _ hcond)
    (Nat.le_trans hholds.le hholds.le_length)).2 ⟨hholds.fills, h.starts o ho, h.ends o ho⟩⟩

theorem Layout.finds {cs : List Condition} {text : String} {os : List Occurrence}
    (hcs : Anchorable cs) (htext : '\n' ∉ text.toList) (h : Layout cs text.toList os) :
    ∀ c ∈ cs, c.Finds text := by
  intro c hc
  have hmem := (mem_arranged hcs).2 hc
  rw [← h.conditions] at hmem
  obtain ⟨o, ho, rfl⟩ := List.mem_map.1 hmem
  have hholds := h.holds o ho
  have hmatches : o.condition.operator ≠ .matches := by
    rcases hcs.operators _ hc with hop | hop | hop <;> simp [hop]
  exact finds_of_spans hmatches hholds.le hholds.le_length (h.spans hcs htext o ho).2

/-! Order -/

/-- Parts of the text that the conditions span by themselves, one for each condition, in the order of
an anchored expression and without overlap. -/
structure InOrder (cs : List Condition) (text : List Char) (os : List Occurrence) : Prop where
  conditions : os.map (·.condition) = arranged cs
  le : ∀ o ∈ os, o.first ≤ o.last
  le_length : ∀ o ∈ os, o.last ≤ text.length
  spans : ∀ o ∈ os, o.condition.Spans text o.first o.last
  apart : os.Pairwise Occurrence.Before

theorem layout_iff_inOrder {cs : List Condition} {text : List Char} {os : List Occurrence}
    (hcs : Anchorable cs) (htext : '\n' ∉ text) : Layout cs text os ↔ InOrder cs text os := by
  constructor
  · intro h
    exact ⟨h.conditions, fun o ho => (h.holds o ho).le, fun o ho => (h.holds o ho).le_length,
      fun o ho => (h.spans hcs htext o ho).2, h.apart⟩
  · intro h
    have hfills : ∀ o ∈ os, o.condition.Fills text o.first o.last ∧
        (o.condition.operator = .startsWith → o.first = 0) ∧
        (o.condition.operator = .endsWith → o.last = text.length) := by
      intro o ho
      have hcond : o.condition ∈ cs := by
        apply (mem_arranged hcs).1
        rw [← h.conditions]
        exact List.mem_map_of_mem ho
      exact (spans_iff_fills htext (hcs.operators _ hcond)
        (Nat.le_trans (h.le o ho) (h.le_length o ho))).1 (h.spans o ho)
    exact ⟨h.conditions, fun o ho => ⟨h.le o ho, h.le_length o ho, (hfills o ho).1⟩, h.apart,
      fun o ho => (hfills o ho).2.1, fun o ho => (hfills o ho).2.2⟩

end ReleaseMatch
