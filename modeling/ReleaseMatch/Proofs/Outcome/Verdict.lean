import ReleaseMatch.Proofs.Document.Own
import ReleaseMatch.Proofs.Outcome.Classes
set_option autoImplicit false

/-!
# The verdict on case

What tells that conditions disagree about case compares their flags, while a fragment only shows
whether a flag is set. The two come apart where a default that is no boolean, though it is set, stands
beside flags that conditions have of their own.
-/
namespace ReleaseMatch

/-! Fragments -/

def Condition.IgnoresCase (c : Condition) : Prop := ignoreCaseFlag.toList <+: c.fragment.toList

def comparedOf (cs : List Condition) : List Condition := (validOf cs).filter (·.honoursCase)

/-- Of two compared conditions only one has a fragment that begins with the flag. -/
def FragmentsDisagree (cs : List Condition) : Prop :=
  ∃ c ∈ comparedOf cs, ∃ d ∈ comparedOf cs, c.IgnoresCase ∧ ¬d.IgnoresCase

instance (c : Condition) : Decidable c.IgnoresCase :=
  inferInstanceAs (Decidable (ignoreCaseFlag.toList <+: c.fragment.toList))

instance (cs : List Condition) : Decidable (FragmentsDisagree cs) :=
  inferInstanceAs
    (Decidable (∃ c ∈ comparedOf cs, ∃ d ∈ comparedOf cs, c.IgnoresCase ∧ ¬d.IgnoresCase))

theorem escapeChars_not_group (cs rest : List Char) (h : rest.head? ≠ some '(') :
    (Literal.escapeChars cs ++ rest).head? ≠ some '(' := by
  cases cs with
  | nil => exact h
  | cons c cs =>
    rw [Literal.escapeChars_cons, Literal.escapeChar]
    split
    · simp
    · next hspecial =>
      intro hhead
      obtain rfl : c = '(' := by simpa using hhead
      exact hspecial (by decide)

/-- No template begins with a group, if its value is escaped. -/
theorem template_not_group {op : Operator} (h : op.honoursCase = true) (value : String) :
    (op.template (Literal.escape value)).toList.head? ≠ some '(' := by
  have hempty := escapeChars_not_group value.toList [] (by simp)
  have hdollar := escapeChars_not_group value.toList ['$'] (by simp)
  cases op <;> simp_all [Operator.template, Operator.honoursCase, Literal.toList_escape]

theorem ignoresCase_iff {c : Condition} (h : c.honoursCase = true) :
    c.IgnoresCase ↔ c.caseSensitive.isSet = false := by
  have hmatches : c.operator ≠ .matches := by
    intro heq
    rw [Condition.honoursCase, heq] at h
    exact absurd h (by decide)
  rw [Condition.honoursCase] at h
  rw [Condition.IgnoresCase, Condition.fragment, Operator.fragment, if_neg hmatches,
    Operator.fragmentOf, h]
  cases c.caseSensitive.isSet with
  | false => simp [String.toList_append]
  | true =>
    refine iff_of_false (fun hprefix => ?_) (by simp)
    obtain ⟨rest, hrest⟩ := hprefix
    refine template_not_group h c.value ?_
    rw [if_neg (by simp)] at hrest
    rw [← hrest]
    rfl

theorem fragmentsDisagree_iff {cs : List Condition} : FragmentsDisagree cs ↔
    ∃ v ∈ (comparedOf cs).map (·.caseSensitive), ∃ w ∈ (comparedOf cs).map (·.caseSensitive),
      v.isSet = false ∧ w.isSet = true := by
  have hcase {c : Condition} (hc : c ∈ comparedOf cs) := ignoresCase_iff (List.mem_filter.1 hc).2
  constructor
  · rintro ⟨c, hc, d, hd, hignores, hminds⟩
    refine ⟨_, List.mem_map_of_mem hc, _, List.mem_map_of_mem hd, (hcase hc).1 hignores, ?_⟩
    rwa [hcase hd, Bool.not_eq_false] at hminds
  · rintro ⟨v, hv, w, hw, hunset, hset⟩
    obtain ⟨c, hc, rfl⟩ := List.mem_map.1 hv
    obtain ⟨d, hd, rfl⟩ := List.mem_map.1 hw
    exact ⟨c, hc, d, hd, (hcase hc).2 hunset, by rw [hcase hd, hset]; simp⟩

/-! Flags -/

/-- Flags are compared without fault, and they differ exactly if one is set and another is not. -/
def FlagsTell (flags : List Value) : Prop :=
  ∃ differ, flagsDiffer flags = .ok differ ∧
    (differ = true ↔ ∃ v ∈ flags, ∃ w ∈ flags, v.isSet = false ∧ w.isSet = true)

theorem sameFlag_self {v : Value} (h : v.isComparable = true) : v.sameFlag v = true := by
  cases v <;> simp_all [Value.sameFlag, Value.isComparable]

theorem bool_sameFlag (b : Bool) (v : Value) :
    (Value.bool b).sameFlag v = v.sameFlag (.bool b) := by
  cases v with
  | bool a => simp only [Value.sameFlag, Bool.beq_comm]
  | _ => rfl

section

variable {flags : List Value}

theorem exists_flagsDiffer_of_comparable (h : ∀ v ∈ flags, v.isComparable = true) :
    ∃ differ, flagsDiffer flags = .ok differ := by
  have hfind : flags.find? (!·.isComparable) = none := by simpa using h
  cases flags with
  | nil => exact ⟨false, rfl⟩
  | cons first flags => exact ⟨_, by rw [flagsDiffer, hfind]⟩

theorem flagsTell_of_apart (h : ∀ v ∈ flags, v.isComparable = true)
    (hapart : ∃ v ∈ flags, ∃ w ∈ flags, v.isSet = false ∧ w.isSet = true) : FlagsTell flags := by
  obtain ⟨differ, hdiffer⟩ := exists_flagsDiffer_of_comparable h
  refine ⟨differ, hdiffer, iff_of_true ?_ hapart⟩
  cases differ with
  | true => rfl
  | false =>
    obtain ⟨b, hall⟩ := isSet_of_flagsDiffer hdiffer
    obtain ⟨v, hv, w, hw, hunset, hset⟩ := hapart
    rw [hall v hv, ← hall w hw, hset] at hunset
    exact absurd hunset (by simp)

/-- Flags count as one if all of them do together with the first one. -/
theorem flagsDiffer_eq_false_iff_head (h : ∀ v ∈ flags, v.isComparable = true) :
    flagsDiffer flags = .ok false ↔ ∀ v ∈ flags.head?, ∀ w ∈ flags, v.sameFlag w = true := by
  have hfind : flags.find? (!·.isComparable) = none := by simpa using h
  cases flags with
  | nil => simp [flagsDiffer]
  | cons first flags =>
    rw [flagsDiffer, hfind]
    simp [List.any_eq_false]

theorem flagsTell_of_same (h : ∀ v ∈ flags, v.isComparable = true)
    (hsame : ∀ v ∈ flags, ∀ w ∈ flags, v.sameFlag w = true) : FlagsTell flags := by
  refine ⟨false, ?_, iff_of_false (by simp) ?_⟩
  · exact (flagsDiffer_eq_false_iff_head h).2 fun v hv => hsame v (List.mem_of_head? hv)
  · rintro ⟨v, hv, w, hw, hunset, hset⟩
    rw [isSet_eq_of_sameFlag (hsame v hv w hw), hset] at hunset
    exact absurd hunset (by simp)

theorem FlagsTell.differ_eq_false (h : FlagsTell flags)
    (halike : ¬∃ v ∈ flags, ∃ w ∈ flags, v.isSet = false ∧ w.isSet = true) :
    flagsDiffer flags = .ok false := by
  obtain ⟨differ, hdiffer, hiff⟩ := h
  cases differ with
  | false => exact hdiffer
  | true => exact absurd (hiff.1 rfl) halike

theorem flagsDiffer_of_not_comparable {v : Value} (hv : v ∈ flags) (h : v.isComparable = false) :
    ∃ f, flagsDiffer flags = .error f := by
  cases flags with
  | nil => simp at hv
  | cons first flags =>
    rw [flagsDiffer]
    cases hfind : (first :: flags).find? (!·.isComparable) with
    | none => exact absurd h (by simpa using List.find?_eq_none.1 hfind v hv)
    | some w => exact ⟨_, rfl⟩

end

/-! Defaults -/

def flagOr (default : Value) (own : Option Bool) : Value := (own.map .bool).getD default

/-- No flag is left open; or the default can be compared, and it stands alone, or beside a flag that
disagrees with it, or it counts as a boolean. -/
def Blends (default : Value) (flags : List (Option Bool)) : Prop :=
  (∀ own ∈ flags, own ≠ none) ∨
  default.isComparable = true ∧
    ((∀ own ∈ flags, own = none) ∨ (∃ b, some b ∈ flags ∧ b ≠ default.isSet) ∨
      default.sameFlag (.bool default.isSet) = true)

section

variable {default : Value} {flags : List (Option Bool)}

theorem mem_flagOr_of_none (h : none ∈ flags) : default ∈ flags.map (flagOr default) :=
  List.mem_map.2 ⟨none, h, rfl⟩

theorem isComparable_flagOr (h : default.isComparable = true) :
    ∀ v ∈ flags.map (flagOr default), v.isComparable = true := by
  intro v hv
  obtain ⟨own, -, rfl⟩ := List.mem_map.1 hv
  cases own with
  | none => exact h
  | some b => rfl

theorem flagsTell_of_own (h : ∀ own ∈ flags, own ≠ none) :
    FlagsTell (flags.map (flagOr default)) := by
  have hplain : ∀ v ∈ flags.map (flagOr default), ∃ b, v = .bool b := by
    intro v hv
    obtain ⟨own, hown, rfl⟩ := List.mem_map.1 hv
    obtain ⟨b, rfl⟩ := Option.ne_none_iff_exists'.1 (h own hown)
    exact ⟨b, rfl⟩
  have hcomparable : ∀ v ∈ flags.map (flagOr default), v.isComparable = true := by
    intro v hv
    obtain ⟨b, rfl⟩ := hplain v hv
    rfl
  by_cases hapart : ∃ v ∈ flags.map (flagOr default), ∃ w ∈ flags.map (flagOr default),
      v.isSet = false ∧ w.isSet = true
  · exact flagsTell_of_apart hcomparable hapart
  · refine flagsTell_of_same hcomparable fun v hv w hw => ?_
    obtain ⟨a, rfl⟩ := hplain v hv
    obtain ⟨b, rfl⟩ := hplain w hw
    cases a <;> cases b
    case false.true => exact absurd ⟨_, hv, _, hw, rfl, rfl⟩ hapart
    case true.false => exact absurd ⟨_, hw, _, hv, rfl, rfl⟩ hapart
    all_goals rfl

/-- A default that counts as a boolean, beside flags that are that boolean. -/
theorem flagsTell_of_counts (h : default.isComparable = true)
    (hown : ∀ b, some b ∈ flags → default.sameFlag (.bool b) = true) :
    FlagsTell (flags.map (flagOr default)) := by
  have hset {b : Bool} (hb : some b ∈ flags) : default.isSet = b :=
    isSet_eq_of_sameFlag (hown b hb)
  refine flagsTell_of_same (isComparable_flagOr h) fun v hv w hw => ?_
  obtain ⟨own, hmem, rfl⟩ := List.mem_map.1 hv
  obtain ⟨own', hmem', rfl⟩ := List.mem_map.1 hw
  cases own with
  | none =>
    cases own' with
    | none => exact sameFlag_self h
    | some b => exact hown b hmem'
  | some b =>
    cases own' with
    | none => exact (bool_sameFlag b default).trans (hown b hmem)
    | some b' =>
      obtain rfl : b = b' := (hset hmem).symm.trans (hset hmem')
      exact sameFlag_self rfl

/-- A default beside the boolean of its truth has to count as that boolean. -/
theorem sameFlag_of_flagsTell (h : default.isComparable = true) (hnone : none ∈ flags)
    (hsome : some default.isSet ∈ flags) (hown : ∀ b, some b ∈ flags → b = default.isSet)
    (htell : FlagsTell (flags.map (flagOr default))) :
    default.sameFlag (.bool default.isSet) = true := by
  have halike : ∀ v ∈ flags.map (flagOr default), v.isSet = default.isSet := by
    intro v hv
    obtain ⟨own, hmem, rfl⟩ := List.mem_map.1 hv
    cases own with
    | none => rfl
    | some b => exact hown b hmem
  have hdiffer : flagsDiffer (flags.map (flagOr default)) = .ok false := by
    refine htell.differ_eq_false ?_
    rintro ⟨v, hv, w, hw, hunset, hset⟩
    rw [halike v hv, ← halike w hw, hset] at hunset
    exact absurd hunset (by simp)
  have hall := (flagsDiffer_eq_false_iff_head (isComparable_flagOr h)).1 hdiffer
  cases flags with
  | nil => simp at hnone
  | cons first flags =>
    have hfirst := hall (flagOr default first) rfl
    cases first with
    | none => exact hfirst _ (List.mem_map_of_mem hsome)
    | some b =>
      rw [← bool_sameFlag, ← hown b List.mem_cons_self]
      exact hfirst _ (mem_flagOr_of_none hnone)

theorem flagsTell_iff_of_none (hnone : none ∈ flags) : FlagsTell (flags.map (flagOr default)) ↔
    default.isComparable = true ∧
    ((∀ own ∈ flags, own = none) ∨ (∃ b, some b ∈ flags ∧ b ≠ default.isSet) ∨
      default.sameFlag (.bool default.isSet) = true) := by
  cases hcomparable : default.isComparable with
  | false =>
    refine iff_of_false ?_ (by simp)
    rintro ⟨differ, hdiffer, -⟩
    obtain ⟨f, hf⟩ := flagsDiffer_of_not_comparable (mem_flagOr_of_none hnone) hcomparable
    rw [hf] at hdiffer
    exact absurd hdiffer (by simp)
  | true =>
    rw [and_iff_right rfl]
    by_cases hother : ∃ b, some b ∈ flags ∧ b ≠ default.isSet
    · refine iff_of_true (flagsTell_of_apart (isComparable_flagOr hcomparable) ?_) (.inr (.inl hother))
      obtain ⟨b, hb, hne⟩ := hother
      have hd : default ∈ flags.map (flagOr default) := mem_flagOr_of_none hnone
      have hb : Value.bool b ∈ flags.map (flagOr default) := List.mem_map_of_mem hb
      cases b with
      | false => exact ⟨_, hb, _, hd, rfl, by simpa using hne.symm⟩
      | true => exact ⟨_, hd, _, hb, by simpa using hne.symm, rfl⟩
    · -- All flags are set or none is, so that they are told apart only if the default counts as no boolean.
      have hown : ∀ b, some b ∈ flags → b = default.isSet := fun b hb =>
        Classical.byContradiction fun hne => hother ⟨b, hb, hne⟩
      rw [or_iff_right hother]
      constructor
      · intro htell
        by_cases hsome : some default.isSet ∈ flags
        · exact .inr (sameFlag_of_flagsTell hcomparable hnone hsome hown htell)
        · refine .inl fun own hmem => ?_
          cases own with
          | none => rfl
          | some b => exact absurd (hown b hmem ▸ hmem) hsome
      · rintro (hall | hsame)
        · exact flagsTell_of_counts hcomparable fun b hb => absurd (hall _ hb) (by simp)
        · exact flagsTell_of_counts hcomparable fun b hb => hown b hb ▸ hsame

/-- Own flags with a default in between are compared as fragments show them exactly if it blends. -/
theorem flagsTell_iff_blends : FlagsTell (flags.map (flagOr default)) ↔ Blends default flags := by
  by_cases hnone : none ∈ flags
  · exact (flagsTell_iff_of_none hnone).trans (or_iff_right fun h => h none hnone rfl).symm
  · have hown : ∀ own ∈ flags, own ≠ none := fun own hmem heq => hnone (heq ▸ hmem)
    exact iff_of_true (flagsTell_of_own hown) (.inl hown)

end

/-! Outcomes -/

/-- Joining the conditions by AND has an outcome, and its verdict on case agrees with the fragments. -/
def VerdictAgrees (cs : List Condition) : Prop :=
  ∃ o, compile cs .and = .ok o ∧ (o.flat.mixedCase = true ↔ FragmentsDisagree cs)

theorem verdictAgrees_iff_flagsTell {cs : List Condition} (h : 2 ≤ (validOf cs).length) :
    VerdictAgrees cs ↔ FlagsTell ((comparedOf cs).map (·.caseSensitive)) := by
  rw [VerdictAgrees, compile_and h, fragmentsDisagree_iff, FlagsTell]
  change _ ↔ ∃ differ, mixedCase (validOf cs) = .ok differ ∧ _
  cases hmixed : mixedCase (validOf cs) with
  | error f => simp [combineAnd, hmixed, bind, Except.bind]
  | ok mixed =>
    obtain ⟨o, ho, hflat⟩ : ∃ o, combineAnd (validOf cs) ((validOf cs).map (·.fragment)) = .ok o ∧
        o.flat.mixedCase = mixed := by
      rcases combineAnd_of_mixedCase ((validOf cs).map (·.fragment)) hmixed with
        ⟨-, rfl, pattern, heq⟩ | ⟨-, heq⟩
      · exact ⟨_, heq, rfl⟩
      · exact ⟨_, heq, rfl⟩
    simp [ho, hflat]

namespace Document

/-- Takes part in the comparison of flags, whatever its own is. -/
def Entry.isCompared (e : Entry) : Bool :=
  (!Text.blank e.value || !e.operator.requiresValue) && e.operator.honoursCase

def Sheet.comparedFlags (s : Sheet) : List (Option Bool) :=
  (s.conditions.filter (·.isCompared)).map (·.caseSensitive)

theorem Sheet.flags_fill (s : Sheet) (defaults : Defaults) :
    (comparedOf (s.fill defaults).conditions).map (·.caseSensitive) =
      s.comparedFlags.map (flagOr defaults.caseSensitive) := by
  have hcompared (e : Entry) (index : Nat) : ((e.condition defaults index).honoursCase &&
      (e.condition defaults index).isValid) = e.isCompared := Bool.and_comm _ _
  have hflag (e : Entry) (index : Nat) : (e.condition defaults index).caseSensitive =
      flagOr defaults.caseSensitive e.caseSensitive := rfl
  have hfst := List.zipIdx_map_fst 0 s.conditions
  rw [comparedFlags, List.map_map, ← hfst, List.filter_map, List.map_map]
  simp only [comparedOf, validOf, fill, List.filter_filter, List.filter_map, List.map_map,
    Function.comp_def, hcompared, hflag]

end Document

/-- Whatever default the settings let through: two or more conditions joined by AND have an outcome
whose verdict agrees with the fragments, exactly if the default blends with the flags of their own. -/
theorem verdictAgrees_iff {tree : Files.Tree} {env : Environment} {path : Option Files.Path}
    {settings : Settings} (hsettings : (Settings.load tree env path).result = .ok settings) :
    ∃ entries defaults, (Settings.loadFile tree env path).result = .ok entries ∧
      settings.builder.defaults = .ok defaults ∧
      ∀ {data : Value} {set : Document.ConditionSet},
        (Document.load data defaults).result = .ok set → 2 ≤ (validOf set.conditions).length →
        ∃ doc sheet, data = .map doc ∧ Document.readSheet doc = .ok sheet ∧
          (VerdictAgrees set.conditions ↔
            Blends (firstOf [(env.text? "RPB_DEFAULT_CASE_SENSITIVE").map fun s =>
                .bool (Environment.isYes s),
              Settings.fileValue? entries "builder" "default_case_sensitive"] (.bool false))
              sheet.comparedFlags) := by
  obtain ⟨entries, hentries, htables⟩ := bind_eq_ok.1 hsettings
  have hfollows := Settings.follows_of_ofTables htables
  obtain ⟨c, hdefaults⟩ := Settings.exists_defaults htables
  refine ⟨entries, _, hentries, hdefaults, fun hload htwo => ?_⟩
  obtain ⟨doc, sheet, rfl, hsheet, rfl⟩ := Document.of_load hload
  refine ⟨doc, sheet, rfl, hsheet, ?_⟩
  rw [verdictAgrees_iff_flagsTell htwo, sheet.flags_fill, flagsTell_iff_blends,
    ← hfollows.caseSensitive]

def configured (file : String) : Files.Tree :=
  ⟨["work"], "/work", [(["work", "c"], .file file.toUTF8.toList)]⟩

def settingsIn (file : String) : Noted (Except Settings.Fault Settings) :=
  Settings.load (configured file) ⟨[("RPB_CONFIG_PATH", "c")], "/home/user"⟩ none

/-- Two values, of which the second one leaves its case open. -/
def strictAndOpen : Value :=
  let first := Value.map [(.text "operator", .text "contains"), (.text "value", .text "a"),
    (.text "case_sensitive", .bool true)]
  let second := Value.map [(.text "operator", .text "contains"), (.text "value", .text "b")]
  .map [(.text "conditions", .list [first, second])]

def numericSettings : Settings :=
  (settingsIn "[builder]\ndefault_case_sensitive = 1\n").result.toOption.get (by decide +kernel)

def numericDefaults : Document.Defaults :=
  numericSettings.builder.defaults.toOption.get (by decide +kernel)

def numericSet : Document.ConditionSet :=
  (Document.load strictAndOpen numericDefaults).result.toOption.get (by decide +kernel)

theorem numeric_default_blends :
    (settingsIn "[builder]\ndefault_case_sensitive = 1\n").result = .ok numericSettings ∧
    numericSettings.builder.defaults = .ok numericDefaults ∧
    (Document.load strictAndOpen numericDefaults).result = .ok numericSet ∧
    2 ≤ (validOf numericSet.conditions).length ∧ VerdictAgrees numericSet.conditions ∧
    ∃ entries doc sheet,
      (Settings.loadFile (configured "[builder]\ndefault_case_sensitive = 1\n")
        ⟨[("RPB_CONFIG_PATH", "c")], "/home/user"⟩ none).result = .ok entries ∧
      strictAndOpen = .map doc ∧ Document.readSheet doc = .ok sheet ∧
      Blends (firstOf [none, Settings.fileValue? entries "builder" "default_case_sensitive"]
        (.bool false)) sheet.comparedFlags := by
  have hsettings : (settingsIn "[builder]\ndefault_case_sensitive = 1\n").result =
      .ok numericSettings := toOption_eq_some.1 (Option.some_get _).symm
  have hstored : numericSettings.builder.defaults = .ok numericDefaults :=
    toOption_eq_some.1 (Option.some_get _).symm
  have hload : (Document.load strictAndOpen numericDefaults).result = .ok numericSet :=
    toOption_eq_some.1 (Option.some_get _).symm
  have htwo : 2 ≤ (validOf numericSet.conditions).length := by decide +kernel
  obtain ⟨entries, defaults, hentries, hdefaults, hjudge⟩ := verdictAgrees_iff hsettings
  obtain rfl := Except.ok.inj (hstored.symm.trans hdefaults)
  obtain ⟨doc, sheet, hdoc, hsheet, hiff⟩ := hjudge hload htwo
  have hcompiled : compile numericSet.conditions .and = .ok (.compiled "(?=.*a)(?=.*b).*") :=
    toOption_eq_some.1 (by decide +kernel)
  have hagree : ¬FragmentsDisagree numericSet.conditions := by decide +kernel
  have hverdict : VerdictAgrees numericSet.conditions :=
    ⟨_, hcompiled, iff_of_false (by decide) hagree⟩
  exact ⟨hsettings, hstored, hload, htwo, hverdict, entries, doc, sheet, hentries, hdoc, hsheet,
    hiff.1 hverdict⟩

def wordySettings : Settings :=
  (settingsIn "[builder]\ndefault_case_sensitive = 'yes'\n").result.toOption.get
    (by decide +kernel)

def wordyDefaults : Document.Defaults :=
  wordySettings.builder.defaults.toOption.get (by decide +kernel)

def wordySet : Document.ConditionSet :=
  (Document.load strictAndOpen wordyDefaults).result.toOption.get (by decide +kernel)

theorem wordy_default_misjudged :
    (settingsIn "[builder]\ndefault_case_sensitive = 'yes'\n").result = .ok wordySettings ∧
    wordySettings.builder.defaults = .ok wordyDefaults ∧
    (Document.load strictAndOpen wordyDefaults).result = .ok wordySet ∧
    2 ≤ (validOf wordySet.conditions).length ∧ ¬VerdictAgrees wordySet.conditions := by
  refine ⟨toOption_eq_some.1 (Option.some_get _).symm, toOption_eq_some.1 (Option.some_get _).symm,
    toOption_eq_some.1 (Option.some_get _).symm, by decide +kernel, ?_⟩
  rintro ⟨o, ho, hiff⟩
  have hmixed : (compile wordySet.conditions .and).toOption.map (·.flat.mixedCase) = some true := by
    decide +kernel
  rw [ho] at hmixed
  have hagree : ¬FragmentsDisagree wordySet.conditions := by decide +kernel
  exact hagree (hiff.1 (Option.some.inj hmixed))

end ReleaseMatch
