import ReleaseMatch.Proofs.Conjunction.Anchored
import ReleaseMatch.Proofs.Conjunction.Lookahead
import ReleaseMatch.Proofs.Disjunction.Branches
set_option autoImplicit false

/-!
# Valid patterns

Whatever stands in the values of conditions, the pattern they have is valid: behind the escape nothing
of a value opens, closes or repeats anything, in a fragment by itself as among others.
-/
namespace ReleaseMatch

open Pattern

theorem exists_tester_iff {pattern : String} :
    (∃ t, Tester.read pattern = .ok t) ↔ ∃ r, Regex.read pattern.toList = .ok r := by
  rw [Tester.read]
  cases Regex.read pattern.toList with
  | error e => simp [Except.map]
  | ok r => simp [Except.map]

section

variable {cs : List Condition} {pattern : String}

/-- The pattern of a conjunction is valid, be it an anchored expression or a row of lookaheads. -/
theorem exists_read_of_combineAnd (hne : cs ≠ []) (hops : ∀ c ∈ cs, c.operator ≠ .matches)
    (h : combineAnd cs (cs.map (·.fragment)) = .ok (.compiled pattern)) :
    ∃ t, Tester.read pattern = .ok t := by
  obtain ⟨hproblems, hmixed, rfl⟩ := combineAnd_eq_compiled_iff.1 h
  cases hany : (cs.map (·.operator)).any (·.isPositional) with
  | true =>
    obtain ⟨sensitive, hcase⟩ := isSet_of_mixedCase hmixed
    have hcomposable := isComposable_of_any_isPositional hproblems hany
    have hall : ∀ c ∈ cs, c.caseSensitive.isSet = sensitive := fun c hc =>
      hcase c hc (honoursCase_of_isComposable (hcomposable _ (List.mem_map_of_mem hc)))
    exact ⟨_, (standsFor_composeAnchored hne hall).tester⟩
  | false =>
    have hplain : ∀ c ∈ cs, c.operator.isPlain = true := fun c hc =>
      (isPlain_of_not_any_isPositional hproblems hany _ (List.mem_map_of_mem hc)).resolve_left
        (hops c hc)
    exact ⟨_, read_plain hplain⟩

/-- The pattern that conditions are compiled to is valid, under either combinator, unless one of them
takes a pattern from the user. -/
theorem readable_of_compile {combinator : Combinator}
    (hops : ∀ c ∈ validOf cs, c.operator ≠ .matches)
    (h : compile cs combinator = .ok (.compiled pattern)) :
    (∃ r, Regex.read pattern.toList = .ok r) ∧ ∃ t, Tester.read pattern = .ok t := by
  rw [← exists_tester_iff, and_self]
  have hne (htwo : 2 ≤ (validOf cs).length) : validOf cs ≠ [] := List.ne_nil_of_length_pos (by omega)
  rcases compile_eq_compiled_cases h with ⟨c, hvalid, rfl⟩ | ⟨htwo, ⟨rfl, rfl⟩ | ⟨rfl, hand⟩⟩
  · have hc : c.operator ≠ .matches := hops c (by simp [hvalid])
    exact ⟨_, (Condition.standsFor hc).tester⟩
  · obtain ⟨t, ht, -⟩ := exists_read_combineOr (hne htwo) hops
    exact ⟨t, ht⟩
  · exact exists_read_of_combineAnd (hne htwo) hops hand

end

/-- Values that would not be valid as patterns. -/
def brokenSyntax : List Condition :=
  [{ id := "1", operator := .startsWith, value := "(*", caseSensitive := .bool true },
    { id := "2", operator := .contains, value := "[a\\", caseSensitive := .bool true },
    { id := "3", operator := .endsWith, value := "x\x7b2)", caseSensitive := .bool true }]

theorem readable_brokenSyntax :
    ∃ pattern, compile brokenSyntax .and = .ok (.compiled pattern) ∧
      (∃ r, Regex.read pattern.toList = .ok r) ∧ (∃ t, Tester.read pattern = .ok t) ∧
      ∀ c ∈ brokenSyntax, ¬∃ t, Tester.read c.value = .ok t := by
  have hops : ∀ c ∈ validOf brokenSyntax, c.operator ≠ .matches := by decide
  have hcompile : compile brokenSyntax .and = .ok (.compiled (composeAnchored brokenSyntax)) := by
    have hvalid : validOf brokenSyntax = brokenSyntax := List.filter_eq_self.2 (by decide)
    rw [compile_and (by decide), combineAnd_eq_compiled_iff, hvalid]
    exact ⟨by decide, rfl, rfl⟩
  obtain ⟨hread, ht⟩ := readable_of_compile hops hcompile
  refine ⟨_, hcompile, hread, ht, ?_⟩
  have hnone : ∀ c ∈ brokenSyntax, (Tester.read c.value).toOption.isSome = false := by
    decide +kernel
  rintro c hc ⟨t, ht⟩
  have hsome := hnone c hc
  rw [ht] at hsome
  exact absurd hsome (by simp [Except.toOption])

end ReleaseMatch
