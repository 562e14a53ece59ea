import ReleaseMatch.Pattern.Sample
import ReleaseMatch.Proofs.Outcome.Classes
import ReleaseMatch.Proofs.Result
import ReleaseMatch.Terminal.ExitCode
set_option autoImplicit false

/-!
# Gates

Whether an outcome can be used is decided in many places: by its class, by its flat form, by its
messages, by the exit code and in front of the engine. They agree, since a report always has a flag,
and its flags say which messages it has. Reports that do not come of conditions need not be like that.
-/
namespace ReleaseMatch

/-! Messages and flags -/

theorem ne_mixedCase_of_mem {ops : List Operator} {p : Problem} (h : p ∈ positionalProblems ops) :
    p.message ≠ Problem.mixedCase.message := by
  intro hsame
  obtain rfl := Problem.message_injective hsame
  exact (mem_positionalProblems_iff.1 h).elim

/-- Besides that about case there are the messages about the operators. -/
theorem exists_ne_mixedCase_iff (cs : List Condition) (mixed : Bool) :
    (∃ m ∈ (allProblems cs mixed).map (·.message), m ≠ Problem.mixedCase.message) ↔
      positionalProblems (cs.map (·.operator)) ≠ [] := by
  constructor
  · rintro ⟨_, hm, hne⟩ hnil
    obtain ⟨p, hp, rfl⟩ := List.mem_map.1 hm
    rw [allProblems, hnil, List.nil_append, List.mem_ite_nil_right, List.mem_singleton] at hp
    exact hne (by rw [hp.2])
  · intro hne
    obtain ⟨p, hp⟩ := List.exists_mem_of_ne_nil _ hne
    exact ⟨p.message, List.mem_map_of_mem (List.mem_append_left _ hp), ne_mixedCase_of_mem hp⟩

theorem getLast?_allProblems_iff (cs : List Condition) (mixed : Bool) :
    ((allProblems cs mixed).map (·.message)).getLast? = some Problem.mixedCase.message ↔
      mixed = true := by
  rw [allProblems, List.getLast?_map]
  cases mixed with
  | true => simp
  | false =>
    simp only [Bool.false_eq_true, if_false, List.append_nil, iff_false]
    intro h
    obtain ⟨p, hp, hsame⟩ := Option.map_eq_some_iff.1 h
    exact ne_mixedCase_of_mem (List.mem_of_getLast? hp) hsame

/-- What the flags of a report say of its messages. -/
structure Outcome.FlagsTell (positional mixed : Bool) (messages : List String) : Prop where
  some_flag : positional = true ∨ mixed = true
  positional_iff : positional = true ↔ ∃ m ∈ messages, m ≠ Problem.mixedCase.message
  mixed_iff : mixed = true ↔ messages.getLast? = some Problem.mixedCase.message

theorem Outcome.FlagsTell.messages_ne_nil {positional mixed : Bool} {messages : List String}
    (h : FlagsTell positional mixed messages) : messages ≠ [] := by
  rintro rfl
  rcases h.some_flag with hflag | hflag
  · obtain ⟨m, hm, -⟩ := h.positional_iff.1 hflag
    exact absurd hm (by simp)
  · exact absurd (h.mixed_iff.1 hflag) (by simp)

def Outcome.Telling (o : Outcome) : Prop :=
  ∀ text positional mixed messages, o = .advisory text positional mixed messages →
    FlagsTell positional mixed messages

theorem combineAnd_telling {cs : List Condition} (hflags : PlainFlags cs) (fragments : List String) :
    ∃ o, combineAnd cs fragments = .ok o ∧ o.Telling := by
  obtain ⟨mixed, hmixed, -⟩ := exists_mixedCase hflags
  rcases combineAnd_of_mixedCase fragments hmixed with ⟨-, -, pattern, heq⟩ | ⟨hsome, heq⟩
  · exact ⟨_, heq, by simp [Outcome.Telling]⟩
  · refine ⟨_, heq, ?_⟩
    rintro _ _ _ _ ⟨⟩
    have hpositional : (!(positionalProblems (cs.map (·.operator))).isEmpty) = true ↔
        positionalProblems (cs.map (·.operator)) ≠ [] := by
      rw [Bool.not_eq_true', List.isEmpty_eq_false_iff]
    exact {
      some_flag := hsome.imp_left hpositional.2
      positional_iff := hpositional.trans (exists_ne_mixedCase_iff cs mixed).symm
      mixed_iff := (getLast?_allProblems_iff cs mixed).symm }

/-- Only conditions joined by AND have a report, and it is one whose flags say what it tells. -/
theorem compile_telling {cs : List Condition} (hflags : PlainFlags cs) (combinator : Combinator) :
    ∃ o, compile cs combinator = .ok o ∧ o.Telling := by
  match hvalid : validOf cs with
  | [] => exact ⟨_, compile_of_nil hvalid combinator, by simp [Outcome.Telling]⟩
  | [c] => exact ⟨_, compile_of_singleton hvalid combinator, by simp [Outcome.Telling]⟩
  | c :: d :: rest =>
    have htwo : 2 ≤ (validOf cs).length := by simp [hvalid]
    cases combinator with
    | or => exact ⟨_, compile_or htwo, by simp [Outcome.Telling]⟩
    | and =>
      rw [compile_and htwo]
      exact combineAnd_telling hflags.valid _

/-! Agreement -/

/-- All gates let the outcome through or none does: those that do hand on its pattern, and those that
do not give all messages for a reason. -/
structure Outcome.GatesAgree (o : Outcome) : Prop where
  isAppliable_iff : o.isAppliable = true ↔ ∃ pattern, o = .compiled pattern
  require_iff : ∀ pattern, o.require = .ok pattern ↔ o = .compiled pattern
  exitCode_iff : ExitCode.ofOutcome o = .success ↔ ∃ pattern, o = .compiled pattern
  flat_iff : (∃ pattern, o.flat.pattern = some pattern) ∧ o.flat.hasConflict = false ↔
    ∃ pattern, o = .compiled pattern
  /-- Whatever the engine gets to read is a pattern, be it accepted or rejected. -/
  tester_iff : ∀ pattern, ((∃ t, Tester.ofOutcome o = .ok t ∧ t.pattern = pattern) ∨
    ∃ r, Tester.ofOutcome o = .error (.rejected pattern r)) ↔ o = .compiled pattern
  advisory : ∀ text positional mixed messages, o = .advisory text positional mixed messages →
    FlagsTell positional mixed messages ∧ o.messages = messages ∧ messages ≠ [] ∧
      o.require = .error (.notCombinable messages) ∧
      Tester.ofOutcome o = .error (.refused (.notCombinable messages))

theorem Tester.pattern_of_read {pattern : String} {t : Tester} (h : Tester.read pattern = .ok t) :
    t.pattern = pattern := by
  obtain ⟨regex, -, rfl⟩ := map_eq_ok_iff.1 h
  rfl

theorem Tester.ofOutcome_compiled (pattern : String) :
    Tester.ofOutcome (.compiled pattern) =
      match Tester.read pattern with
      | .ok t => .ok t
      | .error r => .error (.rejected pattern r) := by
  change (Tester.read pattern).mapError _ = _
  cases Tester.read pattern <;> rfl

theorem gatesAgree_compiled (pattern : String) : (Outcome.compiled pattern).GatesAgree where
  isAppliable_iff := by simp [Outcome.isAppliable]
  require_iff := by simp [Outcome.require]
  exitCode_iff := by simp [ExitCode.ofOutcome]
  flat_iff := by simp [Outcome.flat, FlatOutcome.hasConflict]
  tester_iff := by
    intro other
    rw [Tester.ofOutcome_compiled, Outcome.compiled.injEq]
    cases hread : Tester.read pattern with
    | error r => simp [eq_comm]
    | ok t => simp [Tester.pattern_of_read hread]
  advisory := by simp

theorem gatesAgree_of_telling {o : Outcome} (h : o.Telling) : o.GatesAgree := by
  cases o with
  | compiled pattern => exact gatesAgree_compiled pattern
  | empty =>
    exact {
      isAppliable_iff := by simp [Outcome.isAppliable]
      require_iff := by simp [Outcome.require]
      exitCode_iff := by simp [ExitCode.ofOutcome]
      flat_iff := by simp [Outcome.flat]
      tester_iff := by simp [Tester.ofOutcome, Outcome.require]
      advisory := by simp }
  | advisory text positional mixed messages =>
    have htell := h _ _ _ _ rfl
    exact {
      isAppliable_iff := by simp [Outcome.isAppliable]
      require_iff := by simp [Outcome.require]
      exitCode_iff := by simp [ExitCode.ofOutcome]
      flat_iff := by
        -- Without a flag the text of a report would pass for a pattern here.
        have hflag : (positional || mixed) = true := Bool.or_eq_true_iff.2 htell.some_flag
        simp [Outcome.flat, FlatOutcome.hasConflict, hflag]
      tester_iff := by simp [Tester.ofOutcome, Outcome.require]
      advisory := by
        rintro _ _ _ _ ⟨⟩
        exact ⟨htell, rfl, htell.messages_ne_nil, rfl, rfl⟩ }

/-- Conditions with plain flags have an outcome about which all gates agree. -/
theorem compile_gatesAgree {cs : List Condition} (hflags : PlainFlags cs) (combinator : Combinator) :
    ∃ o, compile cs combinator = .ok o ∧ o.GatesAgree := by
  obtain ⟨o, ho, htell⟩ := compile_telling hflags combinator
  exact ⟨o, ho, gatesAgree_of_telling htell⟩

/-- A value that is to be there and one that is not, with flags that disagree. -/
def wantedAndUnwanted : List Condition :=
  [{ id := "1", operator := .contains, value := "HDR", caseSensitive := .bool true },
    { id := "2", operator := .notContains, value := "CAM" }]

theorem wantedAndUnwanted_gatesAgree :
    ∃ o, compile wantedAndUnwanted .and = .ok o ∧ o.GatesAgree ∧
      Tester.ofOutcome o = .error (.refused (.notCombinable
        ["'Does Not Contain' anchors the whole value and cannot be combined using AND",
          Problem.mixedCase.message])) := by
  have hflags : PlainFlags wantedAndUnwanted := by simp [PlainFlags, wantedAndUnwanted]
  obtain ⟨o, ho, hagree⟩ := compile_gatesAgree hflags .and
  refine ⟨o, ho, hagree, ?_⟩
  have heq : (compile wantedAndUnwanted .and).toOption = some o := by rw [ho]; rfl
  have hadvisory : some o = some (.advisory "HDR && (?i)^(?!.*CAM).*$" true true
      ["'Does Not Contain' anchors the whole value and cannot be combined using AND",
        Problem.mixedCase.message]) := heq.symm.trans (by decide +kernel)
  obtain ⟨-, -, -, -, hrefused⟩ := hagree.advisory _ _ _ _ (Option.some.inj hadvisory)
  exact hrefused

end ReleaseMatch
