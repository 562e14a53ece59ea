import ReleaseMatch.Proofs.Conjunction.Compile
import ReleaseMatch.Proofs.Conjunction.Layout
set_option autoImplicit false

/-!
# Anchored expressions

A conjunction with a start or an end is one expression that goes through the text once: the start,
then the values in between in the order of the list, then the end. It finds what can be laid out in
the text in that order without overlap, which is less than what each condition finds by itself.
-/
namespace ReleaseMatch

open Pattern Literal

/-! Reading -/

def edgeOf (cs : List Condition) : List Char :=
  (cs.getLast?.map fun c => c.value.toList).getD []

def betweenOf (cs : List Condition) : List Condition :=
  cs.filter fun c => c.operator != .startsWith && c.operator != .endsWith

def anchoredNodes (sensitive : Bool) (cs : List Condition) : List Node :=
  .anchor .textStart :: (literals (caseModeOf sensitive) (edgeOf (withOperator .startsWith cs)) ++
    ((betweenOf cs).flatMap (fun c => Node.anything :: valueNodes c.value sensitive) ++
      (Node.anything :: (literals (caseModeOf sensitive) (edgeOf (withOperator .endsWith cs)) ++
        [.anchor .lastLineEnd]))))

theorem toList_lastLiteral (op : Operator) (cs : List Condition) :
    ((lastLiteral? op cs).getD "").toList = escapeChars (edgeOf (withOperator op cs)) := by
  rw [lastLiteral?, ← withOperator, edgeOf]
  cases (withOperator op cs).getLast? with
  | none => rfl
  | some c => exact toList_escape c.value

theorem composeAnchored_eq (cs : List Condition) :
    composeAnchored cs = flagOf (cs.head?.any fun c => c.caseSensitive.isSet) ++ "^" ++
      (lastLiteral? .startsWith cs).getD "" ++
        String.join ((betweenOf cs).map fun c => ".*" ++ escape c.value) ++
          (".*" ++ (lastLiteral? .endsWith cs).getD "" ++ "$") := by
  unfold composeAnchored
  rw [← betweenOf]
  cases cs with
  | nil => rfl
  | cons c cs =>
    simp only [List.head?_cons, Option.any_some, flagOf]
    cases lastLiteral? .endsWith (c :: cs) with
    | none => rfl
    | some literal => rfl

theorem toList_composeAnchored {sensitive : Bool} {cs : List Condition} (hne : cs ≠ [])
    (hcase : ∀ c ∈ cs, c.caseSensitive.isSet = sensitive) :
    (composeAnchored cs).toList = (flagOf sensitive).toList ++
      (['^'] ++ (escapeChars (edgeOf (withOperator .startsWith cs)) ++
        ((betweenOf cs).flatMap (fun c => ['.', '*'] ++ escapeChars c.value.toList) ++
          (['.', '*'] ++ (escapeChars (edgeOf (withOperator .endsWith cs)) ++ ['$']))))) := by
  have hbetween : (String.join ((betweenOf cs).map fun c => ".*" ++ escape c.value)).toList =
      (betweenOf cs).flatMap (fun c => ['.', '*'] ++ escapeChars c.value.toList) := by
    rw [String.toList_join, List.flatMap_map]
    simp [toList_escape]
  have hflag : (cs.head?.any fun c => c.caseSensitive.isSet) = sensitive := by
    cases cs with
    | nil => exact absurd rfl hne
    | cons c cs => exact hcase c List.mem_cons_self
  rw [composeAnchored_eq, hflag]
  simp only [String.toList_append, hbetween, toList_lastLiteral]
  simp

theorem standsFor_composeAnchored {sensitive : Bool} {cs : List Condition} (hne : cs ≠ [])
    (hcase : ∀ c ∈ cs, c.caseSensitive.isSet = sensitive) :
    StandsFor (composeAnchored cs).toList (anchoredNodes sensitive cs) := by
  have htail : SpellsApart sensitive _ _ :=
    (SpellsApart.nil.spells.dollar.literal (edgeOf (withOperator .endsWith cs))).anything
  have hbetween (bs : List Condition) : SpellsApart sensitive
      (bs.flatMap (fun c => ['.', '*'] ++ escapeChars c.value.toList) ++
        (['.', '*'] ++ (escapeChars (edgeOf (withOperator .endsWith cs)) ++ ['$'])))
      (bs.flatMap (fun c => Node.anything :: valueNodes c.value sensitive) ++
        (Node.anything :: (literals (caseModeOf sensitive) (edgeOf (withOperator .endsWith cs)) ++
          [.anchor .lastLineEnd]))) := by
    induction bs with
    | nil => exact htail
    | cons b bs ih =>
      have hb := (ih.literal b.value.toList).anything
      simpa [valueNodes] using hb
  rw [toList_composeAnchored hne hcase]
  exact ((hbetween (betweenOf cs)).literal (edgeOf (withOperator .startsWith cs))).caret.spells.standsFor

theorem Anchorable.betweenOf_eq {cs : List Condition} (h : Anchorable cs) :
    betweenOf cs = withOperator .contains cs := by
  refine List.filter_congr fun c hc => ?_
  rcases h.operators c hc with hop | hop | hop
  all_goals simp [hop]

/-! Running -/

section

variable {env : Surroundings} {text : List Char} {sensitive : Bool} {cs : List Condition}

/-- Values with any characters in front of each are found when they occur one after the other, and
what comes after any more characters is found behind them. -/
theorem run_between_isSome_iff (henv : env.Explore text) (htext : '\n' ∉ text) {bs : List Condition}
    (hcase : ∀ c ∈ bs, c.caseSensitive.isSet = sensitive) (after : List Node) (k : Next) :
    ∀ {i : Nat}, i ≤ text.length →
      (((Node.ofList (bs.flatMap (fun c => Node.anything :: valueNodes c.value sensitive) ++
        (Node.anything :: after))).run env false (.fresh text i) k).isSome ↔
      ∃ j os, i ≤ j ∧ j ≤ text.length ∧ Occurrence.Row text bs i j os ∧
        ((Node.ofList after).run env false (.fresh text j) k).isSome) := by
  induction bs with
  | nil =>
    intro i hi
    rw [List.flatMap_nil, List.nil_append, Node.run_ofList_cons,
      Node.run_anything_isSome_iff htext hi rfl]
    constructor
    · rintro ⟨j, hij, hj, hrun⟩
      exact ⟨j, [], hij, hj, .nil, hrun⟩
    · rintro ⟨j, os, hij, hj, -, hrun⟩
      exact ⟨j, hij, hj, hrun⟩
  | cons b bs ih =>
    intro i hi
    have hrest : ∀ c ∈ bs, c.caseSensitive.isSet = sensitive :=
      fun c hc => hcase c (List.mem_cons_of_mem b hc)
    have hb := hcase b List.mem_cons_self
    have hbare := isBare_valueNodes b.value sensitive
    simp only [List.flatMap_cons, List.cons_append, List.append_assoc]
    rw [Node.run_ofList_cons, Node.run_anything_isSome_iff htext hi rfl]
    constructor
    · rintro ⟨first, hfirst, hlen, hrun⟩
      rw [State.fresh_at_of, Node.run_ofList_append, Node.run_isSome_iff henv hbare.1 hlen] at hrun
      obtain ⟨last, hle, hlast, hspan, hrun⟩ := hrun
      obtain ⟨j, os, hj, hjlen, hrow, hrun⟩ := (ih hrest hlast).1 hrun
      have hfills : b.Fills text first last := (fills_iff hb env).2 hspan
      have ho : Occurrence.Holds text ⟨b, first, last⟩ := ⟨hle, hlast, hfills⟩
      exact ⟨j, _, by omega, hjlen, hrow.cons ho hfirst hj, hrun⟩
    · rintro ⟨j, os, hij, hjlen, hrow, hrun⟩
      obtain ⟨o, os', rfl, rfl, ho, hfirst, hlast, hrow⟩ := hrow.of_cons
      have hlen : o.first ≤ text.length := Nat.le_trans ho.le ho.le_length
      refine ⟨o.first, hfirst, hlen, ?_⟩
      rw [State.fresh_at_of, Node.run_ofList_append, Node.run_isSome_iff henv hbare.1 hlen]
      exact ⟨o.last, ho.le, ho.le_length, (fills_iff hb env).1 ho.fills,
        (ih hrest ho.le_length).2 ⟨j, os', hlast, hjlen, hrow, hrun⟩⟩

theorem spans_empty {i j : Nat} : Node.empty.spans env text i j = true ↔ i = j := by
  rw [Node.spans, Node.run, only_isSome_iff]
  exact Place.of_inj

theorem edge_spans_iff {es : List Condition} (hcount : es.length ≤ 1)
    (hcase : ∀ c ∈ es, c.caseSensitive.isSet = sensitive) {i j : Nat} (hij : i ≤ j)
    (hj : j ≤ text.length) :
    (Node.ofList (literals (caseModeOf sensitive) (edgeOf es))).spans env text i j = true ↔
      ∃ os, Occurrence.Row text es i j os ∧
        (∀ o ∈ os, o.first = i ∧ o.last = j) ∧ (os = [] → i = j) := by
  match es, hcount with
  | [], _ =>
    refine Iff.trans spans_empty ?_
    constructor
    · intro h
      exact ⟨[], .nil, by simp, fun _ => h⟩
    · rintro ⟨os, hrow, -, h⟩
      exact h (by simpa using hrow.conditions)
  | [c], _ =>
    have hc := hcase c List.mem_cons_self
    constructor
    · intro h
      have hfills : c.Fills text i j := (fills_iff hc env).2 h
      have ho : Occurrence.Holds text ⟨c, i, j⟩ := ⟨hij, hj, hfills⟩
      exact ⟨_, Occurrence.Row.nil.cons ho (Nat.le_refl i) (Nat.le_refl j), by simp, by simp⟩
    · rintro ⟨os, hrow, hends, -⟩
      obtain ⟨o, os', rfl, rfl, ho, -, -, -⟩ := hrow.of_cons
      obtain ⟨rfl, rfl⟩ := hends o List.mem_cons_self
      exact (fills_iff hc env).1 ho.fills

/-- An occurrence at the start of the text ends as early as it can. -/
theorem exists_edge_spans_of_starts (env : Surroundings) {es : List Condition} (hcount : es.length ≤ 1)
    (hcase : ∀ c ∈ es, c.caseSensitive.isSet = sensitive) {j : Nat} {os : List Occurrence}
    (hrow : Occurrence.Row text es 0 j os) (hstarts : ∀ o ∈ os, o.first = 0) :
    ∃ s ≤ j, s ≤ text.length ∧
      (Node.ofList (literals (caseModeOf sensitive) (edgeOf es))).spans env text 0 s = true := by
  match es, hcount with
  | [], _ => exact ⟨0, Nat.zero_le j, Nat.zero_le _, spans_empty.2 rfl⟩
  | [c], _ =>
    obtain ⟨o, os', rfl, rfl, ho, -, hj, -⟩ := hrow.of_cons
    have hfirst := hstarts o List.mem_cons_self
    refine ⟨o.last, hj, ho.le_length, (fills_iff (hcase _ List.mem_cons_self) env).1 ?_⟩
    rw [← hfirst]
    exact ho.fills

/-- An occurrence at the end of the text begins as late as it can. -/
theorem exists_edge_spans_of_ends (env : Surroundings) {es : List Condition} (hcount : es.length ≤ 1)
    (hcase : ∀ c ∈ es, c.caseSensitive.isSet = sensitive) {i : Nat} (hi : i ≤ text.length)
    {os : List Occurrence} (hrow : Occurrence.Row text es i text.length os)
    (hends : ∀ o ∈ os, o.last = text.length) :
    ∃ j, i ≤ j ∧ j ≤ text.length ∧
      (Node.ofList (literals (caseModeOf sensitive) (edgeOf es))).spans env text j text.length
        = true := by
  match es, hcount with
  | [], _ => exact ⟨text.length, hi, Nat.le_refl _, spans_empty.2 rfl⟩
  | [c], _ =>
    obtain ⟨o, os', rfl, rfl, ho, hfirst, -, -⟩ := hrow.of_cons
    have hlast := hends o List.mem_cons_self
    refine ⟨o.first, hfirst, Nat.le_trans ho.le ho.le_length,
      (fills_iff (hcase _ List.mem_cons_self) env).1 ?_⟩
    rw [← hlast]
    exact ho.fills

theorem exists_layout_iff (env : Surroundings) (h : Anchorable cs)
    (hcase : ∀ c ∈ cs, c.caseSensitive.isSet = sensitive) :
    (∃ os, Layout cs text os) ↔
      ∃ s j os, s ≤ j ∧ j ≤ text.length ∧
        (Node.ofList (literals (caseModeOf sensitive)
          (edgeOf (withOperator .startsWith cs)))).spans env text 0 s = true ∧
        Occurrence.Row text (betweenOf cs) s j os ∧
        (Node.ofList (literals (caseModeOf sensitive)
          (edgeOf (withOperator .endsWith cs)))).spans env text j text.length = true := by
  have hmem (op : Operator) : ∀ c ∈ withOperator op cs, c.caseSensitive.isSet = sensitive :=
    fun c hc => hcase c (List.mem_filter.1 hc).1
  rw [h.betweenOf_eq]
  constructor
  · rintro ⟨os, hlayout⟩
    -- The row is cut behind the start and in front of the end, each of which there is one at most.
    have hrow : Occurrence.Row text (arranged cs) 0 text.length os :=
      ⟨hlayout.conditions, hlayout.holds, hlayout.apart, fun _ _ => Nat.zero_le _,
        fun o ho => (hlayout.holds o ho).le_length⟩
    obtain ⟨i, os₁, os', rfl, -, hi, hrow₁, hrow'⟩ := hrow.of_append (Nat.zero_le _)
    obtain ⟨k, os₂, os₃, rfl, hik, hk, hrow₂, hrow₃⟩ := hrow'.of_append hi
    have hstarts : ∀ o ∈ os₁, o.first = 0 := fun o ho =>
      hlayout.starts o (List.mem_append_left _ ho) (hrow₁.operator o ho)
    have hends : ∀ o ∈ os₃, o.last = text.length := fun o ho =>
      hlayout.ends o (List.mem_append_right _ (List.mem_append_right _ ho)) (hrow₃.operator o ho)
    obtain ⟨s, hs, -, hspan⟩ :=
      exists_edge_spans_of_starts env h.oneStart (hmem _) hrow₁ hstarts
    obtain ⟨j, hj, hjlen, hspan'⟩ :=
      exists_edge_spans_of_ends env h.oneEnd (hmem _) hk hrow₃ hends
    exact ⟨s, j, os₂, by omega, hjlen, hspan, hrow₂.mono hs hj, hspan'⟩
  · rintro ⟨s, j, os₂, hsj, hj, hspan, hrow₂, hspan'⟩
    obtain ⟨os₁, hrow₁, hfirst, -⟩ :=
      (edge_spans_iff h.oneStart (hmem _) (Nat.zero_le s) (Nat.le_trans hsj hj)).1 hspan
    obtain ⟨os₃, hrow₃, hlast, -⟩ :=
      (edge_spans_iff h.oneEnd (hmem _) hj (Nat.le_refl _)).1 hspan'
    -- The three parts touch one another, and only those at the ends have an operator of an end.
    have hrow := hrow₁.append (hrow₂.append hrow₃ hsj hj) (Nat.zero_le s) (Nat.le_trans hsj hj)
    refine ⟨os₁ ++ (os₂ ++ os₃), hrow.conditions, hrow.holds, hrow.apart, ?_, ?_⟩
    · intro o ho hop
      rcases List.mem_append.1 ho with ho | ho
      · exact (hfirst o ho).1
      · rcases List.mem_append.1 ho with ho | ho
        · exact absurd (hop.symm.trans (hrow₂.operator o ho)) (by decide)
        · exact absurd (hop.symm.trans (hrow₃.operator o ho)) (by decide)
    · intro o ho hop
      rcases List.mem_append.1 ho with ho | ho
      · exact absurd (hop.symm.trans (hrow₁.operator o ho)) (by decide)
      · rcases List.mem_append.1 ho with ho | ho
        · exact absurd (hop.symm.trans (hrow₂.operator o ho)) (by decide)
        · exact (hlast o ho).2

theorem run_end_isSome_iff (henv : env.Explore text) (htext : '\n' ∉ text) (mode : CaseMode)
    (es : List Char) {j : Nat} (hj : j ≤ text.length) :
    ((Node.ofList (literals mode es ++ [.anchor .lastLineEnd])).run env false (.fresh text j)
      some).isSome ↔
      (Node.ofList (literals mode es)).spans env text j text.length = true := by
  have hquiet := (isBare_ofList (isBare_literals mode es)).1
  have hanchor {e : Nat} (he : e ≤ text.length) :
      ((Node.anchor .lastLineEnd).run env false (.fresh text e) some).isSome ↔ e = text.length := by
    rw [← Place.lastLineEnd_of htext he]
    by_cases hholds : Anchor.holds (.of text e) .lastLineEnd = true <;> simp [Node.run, hholds]
  rw [Node.run_ofList_append, Node.run_isSome_iff henv hquiet hj]
  constructor
  · rintro ⟨e, -, he, hspan, hrun⟩
    rwa [(hanchor he).1 hrun] at hspan
  · intro hspan
    exact ⟨text.length, hj, Nat.le_refl _, hspan, (hanchor (Nat.le_refl _)).2 rfl⟩

theorem run_anchoredNodes_isSome_iff (henv : env.Explore text) (htext : '\n' ∉ text)
    (h : Anchorable cs) (hcase : ∀ c ∈ cs, c.caseSensitive.isSet = sensitive) {i : Nat}
    (hi : i ≤ text.length) :
    ((Node.ofList (anchoredNodes sensitive cs)).run env false (.fresh text i) some).isSome ↔
      i = 0 ∧ ∃ os, Layout cs text os := by
  have hbetween : ∀ c ∈ betweenOf cs, c.caseSensitive.isSet = sensitive :=
    fun c hc => hcase c (List.mem_filter.1 hc).1
  have hquiet := (isBare_ofList (isBare_literals (caseModeOf sensitive)
    (edgeOf (withOperator .startsWith cs)))).1
  rw [exists_layout_iff env h hcase, anchoredNodes, Node.run_ofList_cons, Node.run]
  by_cases hstart : Anchor.holds (State.fresh text i).place .textStart = true
  · obtain rfl : i = 0 := (Place.isStart_of hi).1 hstart
    rw [if_pos hstart, Node.run_ofList_append, Node.run_isSome_iff henv hquiet hi]
    constructor
    · rintro ⟨s, -, hs, hspan, hrun⟩
      obtain ⟨j, os, hsj, hj, hrow, hrun⟩ :=
        (run_between_isSome_iff henv htext hbetween _ _ hs).1 hrun
      exact ⟨rfl, s, j, os, hsj, hj, hspan, hrow,
        (run_end_isSome_iff henv htext _ _ hj).1 hrun⟩
    · rintro ⟨-, s, j, os, hsj, hj, hspan, hrow, hspan'⟩
      have hs := Nat.le_trans hsj hj
      refine ⟨s, Nat.zero_le s, hs, hspan, ?_⟩
      exact (run_between_isSome_iff henv htext hbetween _ _ hs).2
        ⟨j, os, hsj, hj, hrow, (run_end_isSome_iff henv htext _ _ hj).2 hspan'⟩
  · rw [if_neg hstart]
    have hne : i ≠ 0 := fun e => hstart ((Place.isStart_of hi).2 e)
    simp [hne]

theorem run_anchoredNodes_eq (henv : env.Explore text) (htext : '\n' ∉ text) {i : Nat}
    (hi : i ≤ text.length) {u : State}
    (h : (Node.ofList (anchoredNodes sensitive cs)).run env false (.fresh text i) some = some u) :
    u = .fresh text text.length := by
  obtain ⟨init, hinit, hbare⟩ : ∃ init : List Node,
      anchoredNodes sensitive cs = init ++ [.anchor .lastLineEnd] ∧ ∀ n ∈ init, n.IsBare := by
    refine ⟨.anchor .textStart :: (literals (caseModeOf sensitive)
      (edgeOf (withOperator .startsWith cs)) ++
        ((betweenOf cs).flatMap (fun c => Node.anything :: valueNodes c.value sensitive) ++
          (Node.anything :: literals (caseModeOf sensitive)
            (edgeOf (withOperator .endsWith cs))))), by simp [anchoredNodes], ?_⟩
    intro n hn
    simp only [List.mem_cons, List.mem_append, List.mem_flatMap] at hn
    rcases hn with rfl | hn | ⟨c, -, rfl | hn⟩ | rfl | hn
    · exact ⟨rfl, rfl⟩
    · exact isBare_literals _ _ n hn
    · exact ⟨rfl, rfl⟩
    · exact isBare_literals _ _ n hn
    · exact ⟨rfl, rfl⟩
    · exact isBare_literals _ _ n hn
  rw [hinit, Node.run_ofList_append] at h
  obtain ⟨j, -, hj, -, hrun⟩ :=
    Node.exists_span_of_run henv (isBare_ofList hbare).1 hi h
  rw [Node.ofList, Node.run] at hrun
  split at hrun
  · next hholds =>
    obtain rfl := Option.some.inj hrun
    rw [(Place.lastLineEnd_of htext hj).1 hholds]
  · exact absurd hrun (by simp)

end

/-! Conjunctions -/

theorem any_isPositional_of_edge {cs : List Condition}
    (h : ∃ c ∈ cs, c.operator = .startsWith ∨ c.operator = .endsWith) :
    (cs.map (·.operator)).any (·.isPositional) = true := by
  obtain ⟨c, hc, hop⟩ := h
  rw [List.any_map, List.any_eq_true]
  refine ⟨c, hc, ?_⟩
  rcases hop with hop | hop <;> simp [hop, Operator.isPositional]

theorem positionalProblems_eq_nil_iff_anchorable {cs : List Condition} (htwo : 2 ≤ cs.length)
    (hany : (cs.map (·.operator)).any (·.isPositional) = true) :
    positionalProblems (cs.map (·.operator)) = [] ↔ Anchorable cs := by
  rw [anchorable_iff]
  exact positionalProblems_eq_nil_iff_anchored (by rwa [List.length_map]) hany

theorem compile_anchored {cs : List Condition} {pattern : String} (htwo : 2 ≤ (validOf cs).length)
    (hanchor : ∃ c ∈ validOf cs, c.operator = .startsWith ∨ c.operator = .endsWith)
    (h : compile cs .and = .ok (.compiled pattern)) :
    Anchorable (validOf cs) ∧ ∃ sensitive,
      (∀ c ∈ validOf cs, c.caseSensitive.isSet = sensitive) ∧
      Tester.read pattern = .ok ⟨pattern, .ofNodes (anchoredNodes sensitive (validOf cs))⟩ := by
  rw [compile_and htwo, combineAnd_eq_compiled_iff] at h
  obtain ⟨hproblems, hmixed, hpattern⟩ := h
  have hany := any_isPositional_of_edge hanchor
  rw [if_pos hany] at hpattern
  have hcs := (positionalProblems_eq_nil_iff_anchorable htwo hany).1 hproblems
  obtain ⟨sensitive, hcase⟩ := isSet_of_mixedCase hmixed
  have hall : ∀ c ∈ validOf cs, c.caseSensitive.isSet = sensitive :=
    fun c hc => hcase c hc (hcs.honoursCase c hc)
  have hne : validOf cs ≠ [] := by
    intro e
    simp [e] at htwo
  refine ⟨hcs, sensitive, hall, ?_⟩
  subst hpattern
  exact (standsFor_composeAnchored hne hall).tester

section

variable {cs : List Condition} {sensitive : Bool} {pattern text : String}

theorem accepts_anchoredNodes_iff (hcs : Anchorable cs)
    (hcase : ∀ c ∈ cs, c.caseSensitive.isSet = sensitive) (htext : '\n' ∉ text.toList) :
    (Tester.mk pattern (.ofNodes (anchoredNodes sensitive cs))).accepts text = true ↔
      ∃ os, Layout cs text.toList os := by
  have henv := Regex.surroundings_explore (.ofNodes (anchoredNodes sensitive cs))
    text.toList ((Regex.ofNodes (anchoredNodes sensitive cs)).depth text.toList)
  rw [accepts_ofNodes_iff]
  constructor
  · rintro ⟨i, hi, hrun⟩
    exact ((run_anchoredNodes_isSome_iff henv htext hcs hcase hi).1 hrun).2
  · intro hlayout
    exact ⟨0, Nat.zero_le _, (run_anchoredNodes_isSome_iff henv htext hcs hcase
      (Nat.zero_le _)).2 ⟨rfl, hlayout⟩⟩

theorem match?_anchoredNodes (hcs : Anchorable cs)
    (hcase : ∀ c ∈ cs, c.caseSensitive.isSet = sensitive) (htext : '\n' ∉ text.toList) {m : String}
    (hm : (Tester.mk pattern (.ofNodes (anchoredNodes sensitive cs))).match? text = some m) :
    m = text := by
  have henv := Regex.surroundings_explore (.ofNodes (anchoredNodes sensitive cs))
    text.toList ((Regex.ofNodes (anchoredNodes sensitive cs)).depth text.toList)
  obtain ⟨i, hi, hrun⟩ := accepts_ofNodes_iff.1 (by rw [Tester.accepts, hm]; rfl)
  obtain ⟨rfl, -⟩ := (run_anchoredNodes_isSome_iff henv htext hcs hcase hi).1 hrun
  obtain ⟨u, hu⟩ := Option.isSome_iff_exists.1 hrun
  obtain rfl := run_anchoredNodes_eq henv htext hi hu
  exact Option.some.inj (hm.symm.trans (match?_ofNodes hu))

end

/-- A conjunction with a start or an end matches exactly the texts in which its conditions can be laid
out, and then all of the text, and every condition by itself is found in these texts. -/
theorem anchored_accepts_iff_layout {cs : List Condition} {pattern : String}
    (htwo : 2 ≤ (validOf cs).length)
    (hanchor : ∃ c ∈ validOf cs, c.operator = .startsWith ∨ c.operator = .endsWith)
    (h : compile cs .and = .ok (.compiled pattern)) :
    ∃ t, Tester.read pattern = .ok t ∧ ∀ text : String, '\n' ∉ text.toList →
      (t.accepts text = true ↔ ∃ os, Layout (validOf cs) text.toList os) ∧
      (∀ m, t.match? text = some m → m = text) ∧
      (t.accepts text = true → ∀ c ∈ validOf cs, c.Finds text) := by
  obtain ⟨hcs, sensitive, hcase, htester⟩ := compile_anchored htwo hanchor h
  refine ⟨_, htester, fun text htext => ⟨accepts_anchoredNodes_iff hcs hcase htext,
    fun m hm => match?_anchoredNodes hcs hcase htext hm, fun haccepts => ?_⟩⟩
  obtain ⟨os, hlayout⟩ := (accepts_anchoredNodes_iff hcs hcase htext).1 haccepts
  exact hlayout.finds hcs htext

def startAndResolution : List Condition :=
  [{ id := "1", operator := .startsWith, value := "The", caseSensitive := .bool true },
    { id := "2", operator := .contains, value := "1080p", caseSensitive := .bool true }]

theorem layout_of_start_and_resolution :
    ∃ t, Tester.read "^The.*1080p.*$" = .ok t ∧ t.accepts "The.Show.1080p" = true ∧
      ∃ os, Layout (validOf startAndResolution) "The.Show.1080p".toList os := by
  have hcompile : compile startAndResolution .and = .ok (.compiled "^The.*1080p.*$") := by
    rw [compile_and (by decide), combineAnd_eq_compiled_iff]
    exact ⟨by decide, rfl, by decide⟩
  obtain ⟨t, ht, hall⟩ := anchored_accepts_iff_layout (by decide)
    ⟨_, List.mem_filter.2 ⟨List.mem_cons_self, rfl⟩, .inl rfl⟩ hcompile
  obtain ⟨t', ht', haccepts⟩ : ∃ t, Tester.read "^The.*1080p.*$" = .ok t ∧
      t.accepts "The.Show.1080p" = true := exists_accepts_iff.2 (by decide +kernel)
  obtain rfl := Except.ok.inj (ht.symm.trans ht')
  exact ⟨t, ht, haccepts, (hall _ (by decide)).1.1 haccepts⟩

/-! Order and overlap -/

/-- A conjunction with a start or an end asks for more than its conditions: each has to be found in the
text, and they have to be found there in its order and without overlap. -/
theorem anchored_accepts_iff_finds_inOrder {cs : List Condition} {pattern : String}
    (htwo : 2 ≤ (validOf cs).length)
    (hanchor : ∃ c ∈ validOf cs, c.operator = .startsWith ∨ c.operator = .endsWith)
    (h : compile cs .and = .ok (.compiled pattern)) :
    ∃ t, Tester.read pattern = .ok t ∧ ∀ text : String, '\n' ∉ text.toList →
      (t.accepts text = true ↔
        (∀ c ∈ validOf cs, c.Finds text) ∧ ∃ os, InOrder (validOf cs) text.toList os) := by
  obtain ⟨hcs, sensitive, hcase, htester⟩ := compile_anchored htwo hanchor h
  refine ⟨_, htester, fun text htext => ?_⟩
  rw [accepts_anchoredNodes_iff hcs hcase htext]
  constructor
  · rintro ⟨os, hlayout⟩
    exact ⟨hlayout.finds hcs htext, os, (layout_iff_inOrder hcs htext).1 hlayout⟩
  · rintro ⟨-, os, horder⟩
    exact ⟨os, (layout_iff_inOrder hcs htext).2 horder⟩

/-- A start and two values, of which the second one may well come first in a text. -/
def startAndTwoValues : List Condition :=
  [{ id := "1", operator := .startsWith, value := "The", caseSensitive := .bool true },
    { id := "2", operator := .contains, value := "2160p", caseSensitive := .bool true },
    { id := "3", operator := .contains, value := "HDR", caseSensitive := .bool true }]

theorem compile_startAndTwoValues :
    compile startAndTwoValues .and = .ok (.compiled "^The.*2160p.*HDR.*$") := by
  rw [compile_and (by decide), combineAnd_eq_compiled_iff]
  exact ⟨by decide, rfl, by decide⟩

theorem inOrder_of_two_values :
    ∃ t, Tester.read "^The.*2160p.*HDR.*$" = .ok t ∧ t.accepts "The.Thing.2160p.HDR" = true ∧
      ∃ os, InOrder (validOf startAndTwoValues) "The.Thing.2160p.HDR".toList os := by
  obtain ⟨t, ht, hall⟩ := anchored_accepts_iff_finds_inOrder (by decide)
    ⟨_, List.mem_filter.2 ⟨List.mem_cons_self, rfl⟩, .inl rfl⟩ compile_startAndTwoValues
  obtain ⟨t', ht', haccepts⟩ : ∃ t, Tester.read "^The.*2160p.*HDR.*$" = .ok t ∧
      t.accepts "The.Thing.2160p.HDR" = true := exists_accepts_iff.2 (by decide +kernel)
  obtain rfl := Except.ok.inj (ht.symm.trans ht')
  exact ⟨t, ht, haccepts, ((hall _ (by decide)).1 haccepts).2⟩

/-- Each of the conditions is found in the text, but not in the order of the list, and their
conjunction does not match. -/
theorem two_values_out_of_order :
    compile startAndTwoValues .and = .ok (.compiled "^The.*2160p.*HDR.*$") ∧
      (∀ c ∈ validOf startAndTwoValues, c.Finds "The.Thing.HDR.2160p") ∧
      ∃ t, Tester.read "^The.*2160p.*HDR.*$" = .ok t ∧ t.accepts "The.Thing.HDR.2160p" = false := by
  refine ⟨compile_startAndTwoValues, fun c hc => ?_, exists_accepts_iff.2 (by decide +kernel)⟩
  have hmem : c ∈ startAndTwoValues := (List.mem_filter.1 hc).1
  simp only [startAndTwoValues, List.mem_cons, List.not_mem_nil, or_false] at hmem
  rcases hmem with rfl | rfl | rfl
  · exact finds_of_fragment "^The" (by decide) (by decide +kernel)
  · exact finds_of_fragment "2160p" (by decide) (by decide +kernel)
  · exact finds_of_fragment "HDR" (by decide) (by decide +kernel)

end ReleaseMatch
