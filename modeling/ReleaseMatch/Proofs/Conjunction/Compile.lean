import ReleaseMatch.Condition.Compile
set_option autoImplicit false

/-!
# What conditions are compiled to

One condition is its own pattern, and conditions joined by OR always have one. Two or more conditions
joined by AND have one pattern exactly when their operators are without problems and their case flags
agree; it is an anchored expression when a positional operator is among them, and a row of lookaheads
otherwise.
-/
namespace ReleaseMatch

def validOf (cs : List Condition) : List Condition := cs.filter (·.isValid)

theorem validOf_perm {cs ds : List Condition} (h : cs.Perm ds) :
    (validOf cs).Perm (validOf ds) :=
  h.filter _

def PlainFlags (cs : List Condition) : Prop := ∀ c ∈ cs, ∃ b, c.caseSensitive = .bool b

theorem PlainFlags.valid {cs : List Condition} (h : PlainFlags cs) : PlainFlags (validOf cs) :=
  fun c hc => h c (List.mem_filter.1 hc).1

attribute [local simp] compile

theorem compile_and {cs : List Condition} (h : 2 ≤ (validOf cs).length) :
    compile cs .and = combineAnd (validOf cs) ((validOf cs).map (·.fragment)) := by
  simp only [compile]
  rw [validOf] at h ⊢
  generalize cs.filter (·.isValid) = valid at h ⊢
  match valid, h with
  | _ :: _ :: _, _ => rfl

theorem compile_or {cs : List Condition} (h : 2 ≤ (validOf cs).length) :
    compile cs .or = .ok (.compiled (combineOr ((validOf cs).map (·.fragment)))) := by
  simp only [compile]
  rw [validOf] at h ⊢
  generalize cs.filter (·.isValid) = valid at h ⊢
  match valid, h with
  | _ :: _ :: _, _ => rfl

theorem compile_of_nil {cs : List Condition} (h : validOf cs = []) (combinator : Combinator) :
    compile cs combinator = .ok .empty := by
  rw [validOf] at h
  simp [h]

theorem compile_of_singleton {cs : List Condition} {c : Condition} (h : validOf cs = [c])
    (combinator : Combinator) : compile cs combinator = .ok (.compiled c.fragment) := by
  rw [validOf] at h
  simp [h]

theorem compile_of_not_blank {c : Condition} (h : Text.blank c.value = false) (combinator : Combinator) :
    compile [c] combinator = .ok (.compiled c.fragment) :=
  compile_of_singleton (by simp [validOf, Condition.isValid, h]) combinator

/-- A pattern comes of a single valid condition, or of several ones under either combinator. -/
theorem compile_eq_compiled_cases {cs : List Condition} {combinator : Combinator} {pattern : String}
    (h : compile cs combinator = .ok (.compiled pattern)) :
    (∃ c, validOf cs = [c] ∧ pattern = c.fragment) ∨
      2 ≤ (validOf cs).length ∧
        (combinator = .or ∧ pattern = combineOr ((validOf cs).map (·.fragment)) ∨
          combinator = .and ∧
            combineAnd (validOf cs) ((validOf cs).map (·.fragment)) = .ok (.compiled pattern)) := by
  match hvalid : validOf cs with
  | [] =>
    rw [compile_of_nil hvalid] at h
    cases h
  | [c] =>
    rw [compile_of_singleton hvalid] at h
    obtain rfl := Outcome.compiled.inj (Except.ok.inj h)
    exact .inl ⟨c, rfl, rfl⟩
  | c :: d :: rest =>
    have htwo : 2 ≤ (validOf cs).length := by simp [hvalid]
    rw [← hvalid]
    cases combinator with
    | or =>
      rw [compile_or htwo] at h
      obtain rfl := Outcome.compiled.inj (Except.ok.inj h)
      exact .inr ⟨htwo, .inl ⟨rfl, rfl⟩⟩
    | and => exact .inr ⟨htwo, .inr ⟨rfl, compile_and htwo ▸ h⟩⟩

theorem combineAnd_eq_compiled_iff {cs : List Condition} {fragments : List String}
    {pattern : String} :
    combineAnd cs fragments = .ok (.compiled pattern) ↔
      positionalProblems (cs.map (·.operator)) = [] ∧ mixedCase cs = .ok false ∧
        (if (cs.map (·.operator)).any (·.isPositional) then composeAnchored cs
          else composeLookaheads fragments) = pattern := by
  rw [combineAnd]
  cases hmixed : mixedCase cs with
  | error e => simp [bind, Except.bind]
  | ok mixed =>
    cases mixed with
    | true => simp [bind, Except.bind, pure, Except.pure]
    | false =>
      cases hproblems : positionalProblems (cs.map (·.operator)) with
      | nil =>
        cases (cs.map (·.operator)).any (·.isPositional) <;>
          simp [bind, Except.bind, pure, Except.pure]
      | cons p ps => simp [bind, Except.bind, pure, Except.pure]

/-! Case flags -/

theorem mul_eq_zero_of_pos (m : Nat) {n : Nat} (h : n ≠ 0) : m * n = 0 ↔ m = 0 := by
  rw [Nat.mul_eq_zero]
  exact or_iff_left h

theorem ratio_pos (m : Nat) (exponent : Int) :
    0 < (Number.Binary64.ratio m exponent).2 ∧
      ((Number.Binary64.ratio m exponent).1 = 0 ↔ m = 0) := by
  rw [Number.Binary64.ratio, Number.powRatio]
  by_cases h : 0 ≤ exponent
  · have hpos : 2 ^ exponent.toNat ≠ 0 := Nat.pos_iff_ne_zero.1 (Nat.two_pow_pos _)
    simp only [h, if_true, Nat.pow_eq]
    exact ⟨Nat.one_pos, mul_eq_zero_of_pos m hpos⟩
  · have hpos : 0 < 2 ^ (-exponent).toNat := Nat.two_pow_pos _
    simp [h, hpos]

theorem isZero_of_toInt? {x : Number.Binary64} {n : Int} (h : x.toInt? = some n) :
    x.isZero = (n == 0) := by
  cases x with
  | finite negative m exponent =>
    obtain ⟨hpos, hzero⟩ := ratio_pos m exponent
    simp only [Number.Binary64.toInt?] at h
    split at h
    · next hmod =>
      have hdiv : (Number.Binary64.ratio m exponent).1 / (Number.Binary64.ratio m exponent).2 = 0 ↔
          m = 0 := by
        rw [← hzero, Nat.div_eq_zero_iff]
        constructor
        · rintro (h | h)
          · omega
          · rwa [Nat.mod_eq_of_lt h] at hmod
        · intro h
          exact .inr (by omega)
      have hn : n = 0 ↔ m = 0 := by
        rw [← hdiv]
        obtain rfl := Option.some.inj h
        split <;> omega
      rw [Number.Binary64.isZero, Bool.eq_iff_iff, beq_iff_eq, beq_iff_eq]
      exact hn.symm
    · exact absurd h (by simp)
  | infinite negative => exact absurd h (by simp [Number.Binary64.toInt?])
  | nan => exact absurd h (by simp [Number.Binary64.toInt?])

theorem isSet_eq_of_sameFlag {v w : Value} (h : v.sameFlag w = true) : v.isSet = w.isSet := by
  have hfloat {x : Number.Binary64} {n : Int} (h : (x.toInt? == some n) = true) :
      (!x.isZero) = (n != 0) := by
    rw [isZero_of_toInt? (beq_iff_eq.1 h)]
    rfl
  have hbool {b : Bool} : ((if b then 1 else 0 : Int) != 0) = b := by cases b <;> rfl
  cases v <;> cases w <;>
    simp only [Value.sameFlag, Value.isSet, Bool.false_eq_true] at h ⊢
  case bool.bool => exact beq_iff_eq.1 h
  case bool.int => rw [beq_iff_eq.1 h, hbool]
  case bool.float => rw [hfloat h, hbool]
  case int.bool => rw [beq_iff_eq.1 h, hbool]
  case int.int => rw [beq_iff_eq.1 h]
  case int.float => rw [hfloat h]
  case float.bool => rw [hfloat h, hbool]
  case float.int => rw [hfloat h]
  case float.float =>
    rcases Bool.or_eq_true_iff.1 h with h | h
    · rw [beq_iff_eq.1 h]
    · rw [(Bool.and_eq_true_iff.1 h).1, (Bool.and_eq_true_iff.1 h).2]
  case text.text => rw [beq_iff_eq.1 h]
  case bytes.bytes => rw [beq_iff_eq.1 h]

theorem isSet_of_flagsDiffer {flags : List Value} (h : flagsDiffer flags = .ok false) :
    ∃ b, ∀ v ∈ flags, v.isSet = b := by
  cases flags with
  | nil => exact ⟨false, by simp⟩
  | cons first flags =>
    rw [flagsDiffer] at h
    split at h
    · exact absurd h (by simp)
    · refine ⟨first.isSet, fun v hv => ?_⟩
      have hall := List.any_eq_false.1 (Except.ok.inj h) v hv
      exact (isSet_eq_of_sameFlag (by simpa using hall)).symm

theorem isSet_of_mixedCase {cs : List Condition} (h : mixedCase cs = .ok false) :
    ∃ b, ∀ c ∈ cs, c.operator.honoursCase = true → c.caseSensitive.isSet = b := by
  obtain ⟨b, hall⟩ := isSet_of_flagsDiffer h
  exact ⟨b, fun c hc hcase => hall _ (List.mem_map_of_mem (List.mem_filter.2 ⟨hc, hcase⟩))⟩

theorem find?_isComparable_of_plain {flags : List Value} (h : ∀ v ∈ flags, ∃ b, v = .bool b) :
    flags.find? (!·.isComparable) = none := by
  rw [List.find?_eq_none]
  intro v hv
  obtain ⟨b, rfl⟩ := h v hv
  simp [Value.isComparable]

theorem PlainFlags.compared {cs : List Condition} (h : PlainFlags cs) :
    ∀ v ∈ (cs.filter (·.honoursCase)).map (·.caseSensitive), ∃ b, v = .bool b := by
  intro v hv
  obtain ⟨c, hc, rfl⟩ := List.mem_map.1 hv
  exact h c (List.mem_filter.1 hc).1

theorem flagsDiffer_eq_false_iff {flags : List Value} (h : ∀ v ∈ flags, ∃ b, v = .bool b) :
    flagsDiffer flags = .ok false ↔ ∃ b, ∀ v ∈ flags, v = .bool b := by
  cases flags with
  | nil => simp [flagsDiffer]
  | cons first flags =>
    have hnone := find?_isComparable_of_plain h
    obtain ⟨a, rfl⟩ := h first List.mem_cons_self
    have hsame : ∀ v ∈ Value.bool a :: flags, (Value.bool a).sameFlag v = true ↔ v = .bool a := by
      intro v hv
      obtain ⟨b, rfl⟩ := h v hv
      simp only [Value.sameFlag, beq_iff_eq, Value.bool.injEq]
      exact eq_comm
    rw [flagsDiffer, hnone]
    simp only [Except.ok.injEq, List.any_eq_false, Bool.not_eq_true', Bool.not_eq_false]
    constructor
    · intro hall
      exact ⟨a, fun v hv => (hsame v hv).1 (by simpa using hall v hv)⟩
    · rintro ⟨b, hall⟩ v hv
      have hab : a = b := by simpa using hall _ List.mem_cons_self
      rw [(hsame v hv).2 (by rw [hall v hv, hab])]

theorem mixedCase_eq_false_iff {cs : List Condition} (h : PlainFlags cs) :
    mixedCase cs = .ok false ↔
      ∃ b, ∀ c ∈ cs, c.operator.honoursCase = true → c.caseSensitive = .bool b := by
  rw [mixedCase, flagsDiffer_eq_false_iff h.compared]
  constructor
  · rintro ⟨b, hall⟩
    exact ⟨b, fun c hc hcase => hall _ (List.mem_map_of_mem (List.mem_filter.2 ⟨hc, hcase⟩))⟩
  · rintro ⟨b, hall⟩
    refine ⟨b, fun v hv => ?_⟩
    obtain ⟨c, hc, rfl⟩ := List.mem_map.1 hv
    exact hall c (List.mem_filter.1 hc).1 (List.mem_filter.1 hc).2

/-! Operators -/

theorem honoursCase_of_isComposable {op : Operator} (h : op.isComposable = true) :
    op.honoursCase = true := by
  cases op <;> first | rfl | exact absurd h (by decide)

theorem positionalProblems_eq_nil_iff {ops : List Operator} :
    positionalProblems ops = [] ↔
      (∀ op ∈ [Operator.startsWith, .endsWith, .equals], ops.count op ≤ 1) ∧
      (.equals ∈ ops → ∀ op ∈ [Operator.startsWith, .endsWith, .contains], op ∉ ops) ∧
      ∀ op ∈ ops, ownProblem (ops.any (·.isPositional)) op = none := by
  simp only [positionalProblems, List.append_eq_nil_iff, List.map_eq_nil_iff, List.filter_eq_nil_iff,
    decide_eq_true_eq, Nat.not_lt, List.filterMap_eq_nil_iff, List.mem_eraseDups]
  constructor
  · rintro ⟨⟨hcount, hclash⟩, hown⟩
    refine ⟨hcount, ?_, hown⟩
    intro heq op hop hmem
    rw [if_pos] at hclash
    · exact absurd hclash (by simp)
    · rw [Bool.and_eq_true, List.any_eq_true]
      exact ⟨List.contains_iff_mem.2 heq, op, hop, List.contains_iff_mem.2 hmem⟩
  · rintro ⟨hcount, hclash, hown⟩
    refine ⟨⟨hcount, if_neg ?_⟩, hown⟩
    rw [Bool.and_eq_true, List.any_eq_true]
    rintro ⟨heq, op, hop, hmem⟩
    exact hclash (List.contains_iff_mem.1 heq) op hop (List.contains_iff_mem.1 hmem)

theorem isComposable_of_any_isPositional {ops : List Operator} (h : positionalProblems ops = [])
    (hany : ops.any (·.isPositional) = true) : ∀ op ∈ ops, op.isComposable = true := by
  obtain ⟨-, -, hown⟩ := positionalProblems_eq_nil_iff.1 h
  intro op hop
  have hnone := hown op hop
  rw [hany, ownProblem] at hnone
  cases hcomposable : op.isComposable with
  | true => rfl
  | false =>
    rw [hcomposable] at hnone
    split at hnone
    · exact absurd hnone (by simp)
    · exact absurd hnone (by simp)

theorem equals_notMem_of_any_isPositional {ops : List Operator} (h : positionalProblems ops = [])
    (htwo : 2 ≤ ops.length) (hany : ops.any (·.isPositional) = true) : .equals ∉ ops := by
  intro hequals
  obtain ⟨hcount, hclash, -⟩ := positionalProblems_eq_nil_iff.1 h
  have hno := hclash hequals
  have hall : ∀ op ∈ ops, Operator.equals = op := by
    intro op hop
    have hcomposable := isComposable_of_any_isPositional h hany op hop
    cases op with
    | equals => rfl
    | startsWith | endsWith | contains => exact absurd hop (hno _ (by simp))
    | _ => exact absurd hcomposable (by decide)
  have hone := hcount .equals (by simp)
  rw [List.count_eq_length.2 hall] at hone
  omega

/-- With a positional operator among them, two or more operators are without problems exactly when there
is at most one start and one end, and the others are values in between. -/
theorem positionalProblems_eq_nil_iff_anchored {ops : List Operator} (htwo : 2 ≤ ops.length)
    (hany : ops.any (·.isPositional) = true) :
    positionalProblems ops = [] ↔ ops.count .startsWith ≤ 1 ∧ ops.count .endsWith ≤ 1 ∧
      ∀ op ∈ ops, op = .startsWith ∨ op = .contains ∨ op = .endsWith := by
  constructor
  · intro h
    obtain ⟨hcount, -, -⟩ := positionalProblems_eq_nil_iff.1 h
    refine ⟨hcount _ (by simp), hcount _ (by simp), fun op hop => ?_⟩
    have hcomposable := isComposable_of_any_isPositional h hany op hop
    cases op with
    | startsWith => exact .inl rfl
    | contains => exact .inr (.inl rfl)
    | endsWith => exact .inr (.inr rfl)
    | equals => exact absurd hop (equals_notMem_of_any_isPositional h htwo hany)
    | _ => exact absurd hcomposable (by decide)
  · rintro ⟨hstart, hend, hops⟩
    have hequals : .equals ∉ ops := fun hmem => by simpa using hops _ hmem
    have hzero : ops.count .equals = 0 := List.count_eq_zero.2 hequals
    refine positionalProblems_eq_nil_iff.2
      ⟨by simp [hstart, hend, hzero], fun hmem => absurd hmem hequals, fun op hop => ?_⟩
    rcases hops op hop with rfl | rfl | rfl
    all_goals simp [ownProblem, Operator.isAnchoring, Operator.isComposable, Operator.isPositional]

end ReleaseMatch
