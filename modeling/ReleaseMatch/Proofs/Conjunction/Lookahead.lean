import ReleaseMatch.Proofs.Conjunction.Compile
import ReleaseMatch.Proofs.Conjunction.Single
import ReleaseMatch.Proofs.Engine.Look
set_option autoImplicit false

/-!
# Rows of lookaheads

A conjunction without positional operators asks for each fragment in a lookahead of its own, behind
any characters. Where the fragments are literals with word boundaries around them, this is exactly
the conjunction of what the conditions find by themselves, in whatever order they come.
-/
namespace ReleaseMatch

open Pattern Literal

/-! Operators -/

/-- Stands for a literal, maybe as a word, or for any text at all. -/
def Operator.isPlain : Operator → Bool
  | .contains | .wordBoundary | .isNotEmpty => true
  | _ => false

theorem any_isPositional_of_plain {ops : List Operator} (h : ∀ op ∈ ops, op.isPlain = true) :
    ops.any (·.isPositional) = false := by
  rw [List.any_eq_false]
  intro op hop
  have hplain := h op hop
  cases op <;> simp_all [Operator.isPlain, Operator.isPositional]

theorem positionalProblems_of_plain {ops : List Operator} (h : ∀ op ∈ ops, op.isPlain = true) :
    positionalProblems ops = [] := by
  have hnot {op : Operator} (hop : op.isPlain = false) : op ∉ ops := fun hmem => by
    rw [h op hmem] at hop
    exact absurd hop (by simp)
  rw [positionalProblems_eq_nil_iff]
  refine ⟨fun op hop => ?_, fun hmem => absurd hmem (hnot rfl), fun op hop => ?_⟩
  · have hplain : op.isPlain = false := by
      simp only [List.mem_cons, List.not_mem_nil, or_false] at hop
      rcases hop with rfl | rfl | rfl <;> rfl
    rw [List.count_eq_zero_of_not_mem (hnot hplain)]
    exact Nat.zero_le 1
  · have hplain := h op hop
    rw [any_isPositional_of_plain h]
    cases op <;> simp_all [Operator.isPlain, ownProblem, Operator.isAnchoring]

/-- Operators without problems are plain or take a pattern if none of them asks for an anchored
expression. -/
theorem isPlain_of_not_any_isPositional {ops : List Operator} (h : positionalProblems ops = [])
    (hany : ops.any (·.isPositional) = false) : ∀ op ∈ ops, op = .matches ∨ op.isPlain = true := by
  obtain ⟨-, -, hown⟩ := positionalProblems_eq_nil_iff.1 h
  intro op hop
  have hnone := hown op hop
  have hpositional := List.any_eq_false.1 hany op hop
  rw [hany] at hnone
  cases op with
  | «matches» => exact .inl rfl
  | contains | wordBoundary | isNotEmpty => exact .inr rfl
  | startsWith | endsWith | equals => exact absurd rfl hpositional
  | notContains | isEmpty => exact absurd hnone (by decide)

theorem compile_plain {cs : List Condition} (htwo : 2 ≤ (validOf cs).length) (hflags : PlainFlags cs)
    (hplain : ∀ c ∈ validOf cs, c.operator.isPlain = true)
    (hcase : ∃ b, ∀ c ∈ validOf cs, c.operator.honoursCase = true → c.caseSensitive = .bool b) :
    compile cs .and =
      .ok (.compiled (composeLookaheads ((validOf cs).map (·.fragment)))) := by
  have hops : ∀ op ∈ (validOf cs).map (·.operator), op.isPlain = true := by
    intro op hop
    obtain ⟨c, hc, rfl⟩ := List.mem_map.1 hop
    exact hplain c hc
  rw [compile_and htwo, combineAnd_eq_compiled_iff, any_isPositional_of_plain hops]
  exact ⟨positionalProblems_of_plain hops, (mixedCase_eq_false_iff hflags.valid).2 hcase, rfl⟩

/-! Fragments -/

def plainNodes (c : Condition) : List Node :=
  let literal := valueNodes c.value c.caseSensitive.isSet
  match c.operator with
  | .wordBoundary =>
    .anchor (.boundary .word) :: (literal ++ [.anchor (.boundary .word)])
  | .isNotEmpty => [Node.something]
  | _ => literal

theorem standsFor_plain {c : Condition} (h : c.operator.isPlain = true) :
    StandsFor c.fragment.toList (plainNodes c) := by
  rw [Condition.fragment, plainNodes]
  cases hop : c.operator with
  | contains | wordBoundary | isNotEmpty => exact standsFor_fragment _ _ (by decide)
  | _ => exact absurd h (by simp [hop, Operator.isPlain])

theorem isBare_plainNodes (c : Condition) : ∀ n ∈ plainNodes c, n.IsBare := by
  have hvalue := isBare_literals (caseModeOf c.caseSensitive.isSet) c.value.toList
  intro n hn
  rw [plainNodes] at hn
  split at hn
  · simp only [List.mem_cons, List.mem_append, List.not_mem_nil, or_false] at hn
    rcases hn with rfl | hn | rfl
    · exact ⟨rfl, rfl⟩
    · exact hvalue n hn
    · exact ⟨rfl, rfl⟩
  · obtain rfl := List.mem_singleton.1 hn
    exact ⟨rfl, rfl⟩
  · exact hvalue n hn

def plainAhead (c : Condition) : Node := .ofList (Node.anything :: plainNodes c)

theorem isBare_plainAhead (c : Condition) : (plainAhead c).IsBare :=
  isBare_ofList (List.forall_mem_cons.2 ⟨⟨rfl, rfl⟩, isBare_plainNodes c⟩)

theorem toList_composeLookaheads_cons (fragment : String) (fragments : List String) :
    (composeLookaheads (fragment :: fragments)).toList =
      "(?=.*".toList ++ (fragment.toList ++ [')']) ++ (composeLookaheads fragments).toList := by
  simp [composeLookaheads, String.toList_join]

theorem spells_composeLookaheads {cs : List Condition}
    (h : ∀ c ∈ cs, c.operator.isPlain = true) :
    SpellsApart true (composeLookaheads (cs.map (·.fragment))).toList
      ((cs.map plainAhead).map Node.ahead ++ [Node.anything]) := by
  induction cs with
  | nil => exact SpellsApart.nil.spells.anything
  | cons c cs ih =>
    have hc := h c List.mem_cons_self
    have hrest := ih fun c' hc' => h c' (List.mem_cons_of_mem c hc')
    simp only [List.map_cons, toList_composeLookaheads_cons]
    exact hrest.spells.look (standsFor_plain hc)

def plainTester (cs : List Condition) : Tester :=
  ⟨composeLookaheads (cs.map (·.fragment)),
    .ofNodes ((cs.map plainAhead).map Node.ahead ++ [Node.anything])⟩

theorem read_plain {cs : List Condition} (h : ∀ c ∈ cs, c.operator.isPlain = true) :
    Tester.read (composeLookaheads (cs.map (·.fragment))) = .ok (plainTester cs) := by
  have hstands := (spells_composeLookaheads h).spells.standsFor
  exact hstands.tester

section

variable {cs : List Condition} {text : String}

theorem finds_plain_iff {c : Condition} (h : c.operator.isPlain = true) :
    c.Finds text ↔
      ∃ i ≤ text.toList.length, (Node.ofList (plainNodes c)).startsAt text.toList i = true :=
  finds_iff_of_standsFor (standsFor_plain h) (isBare_plainNodes c)

theorem startsAt_plainAhead_iff {c : Condition} (h : c.operator.isPlain = true)
    (htext : '\n' ∉ text.toList) :
    (plainAhead c).startsAt text.toList 0 = true ↔ c.Finds text := by
  rw [plainAhead, Node.startsAt_anything htext (Nat.zero_le _), finds_plain_iff h]
  simp

theorem accepts_plainTester_iff (h : ∀ c ∈ cs, c.operator.isPlain = true)
    (htext : '\n' ∉ text.toList) :
    (plainTester cs).accepts text = true ↔ ∀ c ∈ cs, c.Finds text := by
  have hfree : ∀ b ∈ cs.map plainAhead, b.isFree = true := by
    intro b hb
    obtain ⟨c, -, rfl⟩ := List.mem_map.1 hb
    exact (isBare_plainAhead c).2
  rw [Tester.accepts_eq, Regex.search?_ahead_isSome_iff rfl rfl hfree htext]
  constructor
  · rintro ⟨i, hi, hall⟩ c hc
    have hstarts := hall _ (List.mem_map_of_mem hc)
    obtain ⟨j, -, hj, hstarts⟩ := (Node.startsAt_anything htext hi _).1 hstarts
    exact (finds_plain_iff (h c hc)).2 ⟨j, hj, hstarts⟩
  · intro hall
    refine ⟨0, Nat.zero_le _, fun b hb => ?_⟩
    obtain ⟨c, hc, rfl⟩ := List.mem_map.1 hb
    exact (startsAt_plainAhead_iff (h c hc) htext).2 (hall c hc)

theorem match?_plainTester (h : ∀ c ∈ cs, c.operator.isPlain = true) (htext : '\n' ∉ text.toList)
    (haccepts : (plainTester cs).accepts text = true) :
    (plainTester cs).match? text = some text := by
  have hbare : ∀ b ∈ cs.map plainAhead, b.IsBare := by
    intro b hb
    obtain ⟨c, -, rfl⟩ := List.mem_map.1 hb
    exact isBare_plainAhead c
  have hall : ∀ b ∈ cs.map plainAhead, b.startsAt text.toList 0 = true := by
    intro b hb
    obtain ⟨c, hc, rfl⟩ := List.mem_map.1 hb
    exact (startsAt_plainAhead_iff (h c hc) htext).2
      ((accepts_plainTester_iff h htext).1 haccepts c hc)
  have hsearch := Regex.search?_ahead_eq (r := (plainTester cs).regex) rfl rfl
    (fun b hb => (hbare b hb).2) (fun b hb => (hbare b hb).1) htext hall
  rw [Tester.match?, hsearch]
  simp

end

/-- Two or more plain conditions with one case flag have a pattern under AND, in any order. It matches
the texts in which every condition is found, and then all of the text. -/
theorem plain_conjunction_exact {cs : List Condition} (hflags : PlainFlags cs)
    (htwo : 2 ≤ (validOf cs).length) (hplain : ∀ c ∈ validOf cs, c.operator.isPlain = true)
    (hcase : ∃ b, ∀ c ∈ validOf cs, c.operator.honoursCase = true → c.caseSensitive = .bool b) :
    ∀ ds : List Condition, ds.Perm cs → ∃ pattern t, compile ds .and = .ok (.compiled pattern) ∧
      Tester.read pattern = .ok t ∧ ∀ text : String, '\n' ∉ text.toList →
        (t.accepts text = true ↔ ∀ c ∈ validOf cs, c.Finds text) ∧
        (t.accepts text = true → t.match? text = some text) := by
  intro ds hperm
  have hvalid := validOf_perm hperm
  have hplain' : ∀ c ∈ validOf ds, c.operator.isPlain = true :=
    fun c hc => hplain c (hvalid.mem_iff.1 hc)
  have hcase' : ∃ b, ∀ c ∈ validOf ds, c.operator.honoursCase = true → c.caseSensitive = .bool b := by
    obtain ⟨b, hb⟩ := hcase
    exact ⟨b, fun c hc => hb c (hvalid.mem_iff.1 hc)⟩
  have hflags' : PlainFlags ds := fun c hc => hflags c (hperm.mem_iff.1 hc)
  refine ⟨_, plainTester (validOf ds),
    compile_plain (by rw [hvalid.length_eq]; exact htwo) hflags' hplain' hcase',
    read_plain hplain', fun text htext => ⟨?_, match?_plainTester hplain' htext⟩⟩
  rw [accepts_plainTester_iff hplain' htext]
  exact forall_congr' fun c => by rw [hvalid.mem_iff]

def valueAndWord : List Condition :=
  [{ id := "1", operator := .contains, value := "hdr", caseSensitive := .bool false },
    { id := "2", operator := .wordBoundary, value := "BluRay", caseSensitive := .bool false }]

theorem plain_conjunction_of_value_and_word :
    ∃ pattern t, compile valueAndWord.reverse .and = .ok (.compiled pattern) ∧
      Tester.read pattern = .ok t ∧ t.match? "Show HDR bluray" = some "Show HDR bluray" := by
  have hflags : PlainFlags valueAndWord := by simp [PlainFlags, valueAndWord]
  obtain ⟨pattern, t, hcompile, ht, hall⟩ := plain_conjunction_exact hflags (by decide) (by decide)
    ⟨false, by simp [validOf, valueAndWord]⟩ valueAndWord.reverse (List.reverse_perm _)
  obtain ⟨hiff, hmatch⟩ := hall "Show HDR bluray" (by decide)
  refine ⟨pattern, t, hcompile, ht, hmatch (hiff.2 fun c hc => ?_)⟩
  have hmem : c ∈ valueAndWord := (List.mem_filter.1 hc).1
  simp only [valueAndWord, List.mem_cons, List.not_mem_nil, or_false] at hmem
  rcases hmem with rfl | rfl
  · exact finds_of_fragment "(?i)hdr" (by decide +kernel) (by decide +kernel)
  · exact finds_of_fragment "(?i)\\bBluRay\\b" (by decide +kernel) (by decide +kernel)

end ReleaseMatch
