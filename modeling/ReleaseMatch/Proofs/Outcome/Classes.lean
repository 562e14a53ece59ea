import ReleaseMatch.Proofs.Outcome.Problems
set_option autoImplicit false

/-!
# Classes of outcomes

No valid condition has no outcome to apply, one has its own fragment, and several have a pattern unless
they are joined by AND and have a problem. Then the outcome tells all of their problems.
-/
namespace ReleaseMatch

/-! Case flags -/

theorem exists_flagsDiffer {flags : List Value} (h : ∀ v ∈ flags, ∃ b, v = .bool b) :
    ∃ differ, flagsDiffer flags = .ok differ := by
  cases flags with
  | nil => exact ⟨false, rfl⟩
  | cons first flags => exact ⟨_, by rw [flagsDiffer, find?_isComparable_of_plain h]⟩

section

variable {cs : List Condition}

theorem caseDisagrees_iff (h : PlainFlags cs) : CaseDisagrees cs ↔
    ¬∃ b, ∀ c ∈ cs, c.operator.honoursCase = true → c.caseSensitive = .bool b := by
  constructor
  · rintro ⟨c, hc, d, hd, hcase, hcase', hne⟩ ⟨b, hall⟩
    exact hne ((hall c hc hcase).trans (hall d hd hcase').symm)
  · intro hno
    apply Classical.byContradiction
    intro hagree
    refine hno ?_
    cases hfind : cs.find? (·.honoursCase) with
    | none =>
      refine ⟨true, fun c hc hcase => absurd hcase ?_⟩
      exact List.find?_eq_none.1 hfind c hc
    | some c =>
      have hmem := List.mem_of_find?_eq_some hfind
      obtain ⟨b, hb⟩ := h c hmem
      refine ⟨b, fun d hd hcase => Classical.byContradiction fun hne => hagree ?_⟩
      exact ⟨c, hmem, d, hd, List.find?_some hfind, hcase, fun e => hne (e ▸ hb)⟩

theorem exists_mixedCase (h : PlainFlags cs) :
    ∃ mixed, mixedCase cs = .ok mixed ∧ (mixed = true ↔ CaseDisagrees cs) := by
  obtain ⟨mixed, hmixed⟩ := exists_flagsDiffer h.compared
  refine ⟨mixed, hmixed, ?_⟩
  rw [caseDisagrees_iff h, ← mixedCase_eq_false_iff h, mixedCase, hmixed]
  cases mixed <;> simp

end

/-! Reports -/

/-- What an outcome without a pattern tells of the conditions: their fragments, whether the operators
clash and whether the flags disagree, and one message for each problem, in order. -/
structure Reports (cs : List Condition) (text : String) (positional mixed : Bool)
    (messages : List String) : Prop where
  text_eq : text = " && ".intercalate (cs.map (·.fragment))
  positional_iff : positional = true ↔ Clash (cs.map (·.operator))
  mixed_iff : mixed = true ↔ CaseDisagrees cs
  nodup : messages.Nodup
  messages_eq : ∃ problems : List Problem, messages = problems.map (·.message) ∧
    (∀ p, p ∈ problems ↔ p.Arises cs) ∧ problems.Pairwise (Problem.Before (cs.map (·.operator)))

def allProblems (cs : List Condition) (mixed : Bool) : List Problem :=
  positionalProblems (cs.map (·.operator)) ++ if mixed then [.mixedCase] else []

section

variable {cs : List Condition} {mixed : Bool}

theorem mem_allProblems_iff (h : mixed = true ↔ CaseDisagrees cs) {p : Problem} :
    p ∈ allProblems cs mixed ↔ p.Arises cs := by
  rw [allProblems, List.mem_append, mem_positionalProblems_iff, List.mem_ite_nil_right,
    List.mem_singleton, Problem.Arises, ← h, and_comm (a := mixed = true)]

theorem pairwise_allProblems (cs : List Condition) (mixed : Bool) :
    (allProblems cs mixed).Pairwise (Problem.Before (cs.map (·.operator))) := by
  rw [allProblems, List.pairwise_append]
  refine ⟨pairwise_positionalProblems _, ?_, fun p hp q hq => ?_⟩
  · split
    · exact List.pairwise_singleton _ _
    · exact .nil
  · obtain rfl := List.mem_singleton.1 (List.mem_ite_nil_right.1 hq).2
    exact before_mixedCase (mem_positionalProblems_iff.1 hp)

theorem nodup_messages {ops : List Operator} {problems : List Problem}
    (h : problems.Pairwise (Problem.Before ops)) : (problems.map (·.message)).Nodup := by
  rw [List.Nodup, List.pairwise_map]
  refine h.imp fun {p q} hlt hsame => ?_
  obtain rfl := Problem.message_injective hsame
  exact Nat.lt_irrefl _ hlt

theorem combineAnd_of_mixedCase (fragments : List String) (h : mixedCase cs = .ok mixed) :
    (positionalProblems (cs.map (·.operator)) = [] ∧ mixed = false ∧
      ∃ pattern, combineAnd cs fragments = .ok (.compiled pattern)) ∨
    ((positionalProblems (cs.map (·.operator)) ≠ [] ∨ mixed = true) ∧
      combineAnd cs fragments = .ok (.advisory (" && ".intercalate fragments)
        (!(positionalProblems (cs.map (·.operator))).isEmpty) mixed
        ((allProblems cs mixed).map (·.message)))) := by
  rw [combineAnd, h, allProblems]
  cases hproblems : positionalProblems (cs.map (·.operator)) with
  | nil =>
    cases mixed with
    | false =>
      refine .inl ⟨rfl, rfl, ?_⟩
      cases (cs.map (·.operator)).any (·.isPositional) with
      | true => exact ⟨composeAnchored cs, rfl⟩
      | false => exact ⟨composeLookaheads fragments, rfl⟩
    | true => exact .inr ⟨.inr rfl, rfl⟩
  | cons p ps => exact .inr ⟨.inl (List.cons_ne_nil p ps), rfl⟩

/-- Plain conditions joined by AND have a pattern unless their operators clash or their flags
disagree, and then they have a report. -/
theorem combineAnd_class (hflags : PlainFlags cs) :
    (¬(Clash (cs.map (·.operator)) ∨ CaseDisagrees cs) ∧
      ∃ pattern, combineAnd cs (cs.map (·.fragment)) = .ok (.compiled pattern)) ∨
    ((Clash (cs.map (·.operator)) ∨ CaseDisagrees cs) ∧
      ∃ text positional mixed messages, combineAnd cs (cs.map (·.fragment)) =
        .ok (.advisory text positional mixed messages) ∧ Reports cs text positional mixed messages) := by
  obtain ⟨mixed, hmixed, hiff⟩ := exists_mixedCase hflags
  rw [← hiff, ← positionalProblems_ne_nil_iff]
  rcases combineAnd_of_mixedCase (cs.map (·.fragment)) hmixed with
    ⟨hnil, rfl, hpattern⟩ | ⟨hsome, hreport⟩
  · exact .inl ⟨by simp [hnil], hpattern⟩
  · refine .inr ⟨hsome, _, _, _, _, hreport, rfl, ?_, hiff,
      nodup_messages (pairwise_allProblems cs mixed), _, rfl, fun p => mem_allProblems_iff hiff,
      pairwise_allProblems cs mixed⟩
    rw [← positionalProblems_ne_nil_iff, Bool.not_eq_true', List.isEmpty_eq_false_iff]

end

/-! Outcomes -/

def Conflicting (cs : List Condition) (combinator : Combinator) : Prop :=
  combinator = .and ∧ 2 ≤ (validOf cs).length ∧
    (Clash ((validOf cs).map (·.operator)) ∨ CaseDisagrees (validOf cs))

/-- The outcome is of the class that the conditions ask for: nothing where none is valid, a report
where they conflict, and a pattern in all other cases. -/
structure Outcome.Fits (o : Outcome) (cs : List Condition) (combinator : Combinator) : Prop where
  empty_iff : o = .empty ↔ validOf cs = []
  advisory_iff : (∃ text positional mixed messages, o = .advisory text positional mixed messages) ↔
    Conflicting cs combinator
  compiled_iff : (∃ pattern, o = .compiled pattern) ↔
    validOf cs ≠ [] ∧ ¬Conflicting cs combinator
  reports : ∀ text positional mixed messages, o = .advisory text positional mixed messages →
    Reports (validOf cs) text positional mixed messages

section

variable {cs : List Condition} {combinator : Combinator}

theorem fits_empty (h : validOf cs = []) : Outcome.empty.Fits cs combinator where
  empty_iff := by simp [h]
  advisory_iff := by simp [Conflicting, h]
  compiled_iff := by simp [h]
  reports := by simp

theorem fits_compiled {pattern : String} (hne : validOf cs ≠ []) (h : ¬Conflicting cs combinator) :
    (Outcome.compiled pattern).Fits cs combinator where
  empty_iff := by simp [hne]
  advisory_iff := by simp [h]
  compiled_iff := by simp [hne, h]
  reports := by simp

theorem fits_advisory {text : String} {positional mixed : Bool} {messages : List String}
    (h : Conflicting cs combinator) (hreports : Reports (validOf cs) text positional mixed messages) :
    (Outcome.advisory text positional mixed messages).Fits cs combinator where
  empty_iff := by
    have hne : validOf cs ≠ [] := fun e => by simp [Conflicting, e] at h
    simp [hne]
  advisory_iff := by simp [h]
  compiled_iff := by simp [h]
  reports := by
    rintro _ _ _ _ ⟨⟩
    exact hreports

/-- Conditions with plain flags always have an outcome, of the class that they ask for, and if it is a
report it tells exactly their problems. -/
theorem compile_fits (hflags : PlainFlags cs) (combinator : Combinator) :
    ∃ o, compile cs combinator = .ok o ∧ o.Fits cs combinator := by
  match hvalid : validOf cs with
  | [] => exact ⟨_, compile_of_nil hvalid combinator, fits_empty hvalid⟩
  | [c] =>
    refine ⟨_, compile_of_singleton hvalid combinator, fits_compiled (by simp [hvalid]) ?_⟩
    simp [Conflicting, hvalid]
  | c :: d :: rest =>
    have htwo : 2 ≤ (validOf cs).length := by simp [hvalid]
    have hne : validOf cs ≠ [] := by simp [hvalid]
    cases combinator with
    | or => exact ⟨_, compile_or htwo, fits_compiled hne (by simp [Conflicting])⟩
    | and =>
      rw [compile_and htwo]
      rcases combineAnd_class hflags.valid with
        ⟨hno, pattern, hpattern⟩ | ⟨hconflict, text, positional, mixed, messages, heq, hreports⟩
      · exact ⟨_, hpattern, fits_compiled hne fun h => hno h.2.2⟩
      · exact ⟨_, heq, fits_advisory ⟨rfl, htwo, hconflict⟩ hreports⟩

end

/-- Two starts, a value that is not to be there and any text at all, with flags that disagree; a blank
value does not count. -/
def manyProblems : List Condition :=
  [{ id := "1", operator := .isNotEmpty },
    { id := "2", operator := .startsWith, value := "The", caseSensitive := .bool true },
    { id := "3", operator := .equals, value := " " },
    { id := "4", operator := .notContains, value := "CAM" },
    { id := "5", operator := .startsWith, value := "A", caseSensitive := .bool true }]

theorem manyProblems_fits :
    ∃ o, compile manyProblems .and = .ok o ∧ o.Fits manyProblems .and ∧
      o = .advisory ".+ && ^The && (?i)^(?!.*CAM).*$ && ^A" true true
        ["Only one 'Starts With' condition can be combined with AND",
          "'Is Not Empty' cannot be combined with positional conditions using AND",
          "'Does Not Contain' anchors the whole value and cannot be combined using AND",
          Problem.mixedCase.message] := by
  have hflags : PlainFlags manyProblems := by simp [PlainFlags, manyProblems]
  obtain ⟨o, ho, hfits⟩ := compile_fits hflags .and
  have heq : (compile manyProblems .and).toOption = some o := by rw [ho]; rfl
  refine ⟨o, ho, hfits, Option.some.inj (heq.symm.trans ?_)⟩
  decide +kernel

end ReleaseMatch
