import ReleaseMatch.Proofs.Settings.Reading
import ReleaseMatch.Proofs.Settings.Sources
set_option autoImplicit false

/-!
# How loading the settings fails

Loading looks at one value after another, and the first that will not do decides. Of some values it can
be said what is wrong with them; others are of a kind that nothing can be said of, and the fault they
lead to is none of values.
-/
namespace ReleaseMatch

/-- What comes of a value, or of all of them: settings, a refusal of the value, or a fault of another
kind. -/
inductive Verdict
  | fine
  | refused
  | foreign
  deriving DecidableEq

def Verdict.first : List Verdict → Verdict
  | [] => .fine
  | .fine :: vs => first vs
  | v :: _ => v

@[simp] theorem Verdict.first_fine_cons (vs : List Verdict) : first (.fine :: vs) = first vs := rfl

@[simp] theorem Verdict.first_singleton (v : Verdict) : first [v] = v := by cases v <;> rfl

theorem Verdict.first_append (vs ws : List Verdict) :
    first (vs ++ ws) = if first vs = .fine then first ws else first vs := by
  induction vs with
  | nil => rfl
  | cons v vs ih =>
    cases v with
    | fine => exact ih
    | refused => rfl
    | foreign => rfl

namespace Settings

/-- The kinds of fault that are told as wrong values. -/
def valueKinds : List String := ["ValueError", "UnicodeDecodeError"]

def Fault.verdict (f : Fault) : Verdict := if f.kind ∈ valueKinds then .refused else .foreign

def outcome {α : Type} : Except Fault α → Verdict
  | .ok _ => .fine
  | .error f => f.verdict

section

variable {α β : Type} {x : Except Fault α}

theorem Fault.verdict_ne_fine (f : Fault) : f.verdict ≠ .fine := by
  rw [Fault.verdict]
  split <;> simp

@[simp] theorem outcome_map (f : α → β) : outcome (x.map f) = outcome x := by cases x <;> rfl

theorem outcome_bind_pure (f : α → β) : outcome (x >>= fun a => pure (f a)) = outcome x := by
  cases x <;> rfl

theorem outcome_bind {f : α → Except Fault β} {v w : List Verdict} (h : outcome x = .first v)
    (hf : ∀ a, x = .ok a → outcome (f a) = .first w) :
    outcome (x >>= f) = .first (v ++ w) := by
  rw [Verdict.first_append, ← h]
  cases x with
  | ok a => exact hf a rfl
  | error e => exact (if_neg e.verdict_ne_fine).symm

end

/-! Looks -/

inductive Demand
  | table
  | path
  | word (isName : String → Bool)
  | limit (least : Int)

structure Look where
  demand : Demand
  value : Value

/-- A home directory that is not known is no matter of values, but a name that nobody can have is one. -/
def homeVerdict : Except NoHome Files.Path → Verdict
  | .ok _ => .fine
  | .error .unknown => .foreign
  | .error .nullCharacter => .refused

/-- Whether a value will do. Paths that are not set do, and so do numbers of any kind that are high
enough. -/
def Look.verdict (env : Environment) (look : Look) : Verdict :=
  match look.demand, look.value with
  | .table, .map _ => .fine
  | .table, _ => .foreign
  | .path, .text s => if s = "" then .fine else homeVerdict (env.expand (.ofText s))
  | .path, v => if v.isSet then .foreign else .fine
  | .word isName, .text s => if isName s then .fine else .refused
  | .word _, _ => .foreign
  | .limit least, .bool b => if (if b then 1 else 0) < least then .refused else .fine
  | .limit least, .int n => if n < least then .refused else .fine
  | .limit least, .float x => if x.ltInt least then .refused else .fine
  | .limit _, _ => .foreign

/-- What is looked at, in this order. A variable goes before the file. -/
def looks (env : Environment) (entries : Toml.Entries) : List Look :=
  let given (name : String) := (env.text? name).map Value.text
  let logValue := fileValue? entries "logging"
  [⟨.table, firstOf [Value.get? entries "logging"] (.map [])⟩,
    ⟨.path, firstOf [logValue "file"] .null⟩,
    ⟨.path, firstOf [given "RPB_LOG_FILE"] .null⟩,
    ⟨.word fun s => LogSettings.levels.contains (Text.lowered s),
      firstOf [given "RPB_LOG_LEVEL", logValue "level"] (.text "info")⟩,
    ⟨.word fun s => LogSettings.formats.contains (Text.lowered s),
      firstOf [given "RPB_LOG_FORMAT", logValue "format"] (.text "text")⟩,
    ⟨.limit 1, firstOf [logValue "max_bytes"] (.int 10485760)⟩,
    ⟨.limit 0, firstOf [logValue "backup_count"] (.int 5)⟩,
    ⟨.table, firstOf [Value.get? entries "builder"] (.map [])⟩,
    ⟨.word fun s => Combinator.names.contains (Text.uppered s),
      firstOf [given "RPB_DEFAULT_COMBINATOR", fileValue? entries "builder" "default_combinator"]
        (.text "AND")⟩]

def judge (env : Environment) (entries : Toml.Entries) : Verdict :=
  .first ((looks env entries).map (Look.verdict env))

section

variable {env : Environment} {entries inner : Toml.Entries}

theorem verdict_setting {f : SettingFault} (h : f.kind = "ValueError") :
    (Fault.setting f).verdict = .refused := by
  rw [Fault.verdict, Fault.kind, h]
  rfl

theorem outcome_table (entries : Toml.Entries) (name : String) :
    outcome ((table entries name).mapError .setting) =
      Look.verdict env ⟨.table, firstOf [Value.get? entries name] (.map [])⟩ := by
  rw [table]
  cases Value.get? entries name with
  | none => rfl
  | some v => cases v <;> rfl

theorem outcome_noHome (r : Except NoHome Files.Path) : outcome (r.mapError .noHome) = homeVerdict r := by
  cases r with
  | ok p => rfl
  | error f => cases f <;> rfl

theorem verdict_path_text (s : String) : Look.verdict env ⟨.path, .text s⟩ =
    if s = "" then .fine else outcome ((env.expand (.ofText s)).mapError .noHome) := by
  rw [outcome_noHome]
  rfl

theorem outcome_logFile (h : table entries "logging" = .ok inner) : outcome (logFile env inner) =
    Look.verdict env ⟨.path, firstOf [fileValue? entries "logging" "file"] .null⟩ := by
  rw [logFile, get?_eq_fileValue? h]
  cases fileValue? entries "logging" "file" with
  | none => rfl
  | some v =>
    rw [firstOf_some_cons]
    have hother (hv : ∀ s, v ≠ .text s) :
        Look.verdict env ⟨.path, v⟩ = if !v.isSet then .fine else .foreign := by
      cases hset : v.isSet <;> cases v <;> simp_all [Look.verdict]
    cases v with
    | text s =>
      rw [verdict_path_text]
      by_cases hs : s = ""
      · subst hs
        rfl
      · have hset : (!(Value.text s).isSet) = false := by simpa [Value.isSet] using hs
        simp only [hset, Bool.false_eq_true, if_false, if_neg hs, outcome_map]
    | _ =>
      rw [hother (by simp)]
      dsimp only
      split <;> rfl

theorem outcome_path? (env : Environment) (name : String) :
    outcome ((env.path? name).mapError .noHome) =
      Look.verdict env ⟨.path, firstOf [(env.text? name).map .text] .null⟩ := by
  rw [Environment.path?]
  cases env.text? name with
  | none => rfl
  | some s =>
    rw [Option.map_some, firstOf_some_cons, verdict_path_text]
    dsimp only
    split
    · rfl
    · cases env.expand (.ofText s) <;> rfl

theorem outcome_readName (env : Environment) (names : List String) {refusal : String → SettingFault}
    (hrefusal : ∀ s, (refusal s).kind = "ValueError") (v : Value) :
    outcome ((readName names refusal v).mapError .setting) =
      Look.verdict env ⟨.word fun s => names.contains (Text.lowered s), v⟩ := by
  cases v with
  | text s =>
    rw [readName_text]
    change _ = if names.contains (Text.lowered s) then Verdict.fine else .refused
    split
    · rfl
    · exact verdict_setting (hrefusal s)
  | _ => rfl

def refuseBelow (v : Value) (least : Int) (refusal : SettingFault) : Except SettingFault Unit := do
  if ← v.isBelow least then throw refusal

theorem checkLimits_eq (maxBytes backupCount : Value) : checkLimits maxBytes backupCount =
    refuseBelow maxBytes 1 .maxBytes >>= fun _ => refuseBelow backupCount 0 .backupCount := by
  rw [checkLimits, refuseBelow]
  cases maxBytes.isBelow 1 with
  | error f => rfl
  | ok low => cases low <;> rfl

theorem outcome_refuseBelow (v : Value) (least : Int) {refusal : SettingFault}
    (hrefusal : refusal.kind = "ValueError") :
    outcome ((refuseBelow v least refusal).mapError .setting) =
      Look.verdict env ⟨.limit least, v⟩ := by
  have hsplit (low : Bool) : outcome ((if low then throw refusal else pure () :
      Except SettingFault Unit).mapError .setting) = if low then .refused else .fine := by
    cases low with
    | true => exact verdict_setting hrefusal
    | false => rfl
  cases v with
  | bool b => exact (hsplit _).trans (by simp [Look.verdict])
  | int n => exact (hsplit _).trans (by simp [Look.verdict])
  | float x => exact (hsplit _).trans (by simp [Look.verdict])
  | _ => rfl

theorem mapError_bind {α β : Type} (x : Except SettingFault α) (f : α → Except SettingFault β) :
    (x >>= f).mapError Fault.setting =
      x.mapError .setting >>= fun a => (f a).mapError .setting := by
  cases x <;> rfl

theorem outcome_checkLimits (maxBytes backupCount : Value) :
    outcome ((checkLimits maxBytes backupCount).mapError .setting) =
      .first [Look.verdict env ⟨.limit 1, maxBytes⟩, Look.verdict env ⟨.limit 0, backupCount⟩] := by
  rw [checkLimits_eq, mapError_bind]
  refine outcome_bind (v := [_]) ?_ fun u _ => ?_
  · rw [outcome_refuseBelow maxBytes 1 rfl, Verdict.first_singleton]
  · rw [outcome_refuseBelow backupCount 0 rfl, Verdict.first_singleton]

theorem outcome_combinator (d : BuilderDraft) : outcome (d.check.mapError .setting) =
    Look.verdict env ⟨.word fun s => Combinator.names.contains (Text.uppered s), d.combinator⟩ := by
  obtain ⟨combinator, caseSensitive⟩ := d
  cases combinator with
  | text s =>
    change _ = if Combinator.names.contains (Text.uppered s) then Verdict.fine else .refused
    simp only [BuilderDraft.check, BuilderDraft.name, Value.textFor, bind, Except.bind]
    cases Combinator.names.contains (Text.uppered s) with
    | false => rfl
    | true => rfl
  | _ => rfl

theorem outcome_logPath (h : table entries "logging" = .ok inner) : outcome (logPath env inner) =
    .first [Look.verdict env ⟨.path, firstOf [fileValue? entries "logging" "file"] .null⟩,
      Look.verdict env ⟨.path, firstOf [(env.text? "RPB_LOG_FILE").map .text] .null⟩] := by
  refine outcome_bind (v := [_]) ?_ fun fileValue _ => ?_
  · rw [outcome_logFile h, Verdict.first_singleton]
  · rw [outcome_bind_pure, outcome_path?, Verdict.first_singleton]

theorem outcome_builderIn (env : Environment) (entries : Toml.Entries) :
    outcome (builderIn env entries) =
      .first [Look.verdict env ⟨.table, firstOf [Value.get? entries "builder"] (.map [])⟩,
        Look.verdict env ⟨.word fun s => Combinator.names.contains (Text.uppered s),
          firstOf [(env.text? "RPB_DEFAULT_COMBINATOR").map .text,
            fileValue? entries "builder" "default_combinator"] (.text "AND")⟩] := by
  refine outcome_bind (v := [_]) ?_ fun inner hinner => ?_
  · rw [outcome_table, Verdict.first_singleton]
  · rw [outcome_combinator, Verdict.first_singleton, builderDraft,
      choose_eq_firstOf (mapError_eq_ok_iff.1 hinner)]

theorem outcome_restIn (h : table entries "logging" = .ok inner) :
    outcome (restIn env entries inner) =
      .first [Look.verdict env ⟨.limit 1,
          firstOf [fileValue? entries "logging" "max_bytes"] (.int 10485760)⟩,
        Look.verdict env ⟨.limit 0, firstOf [fileValue? entries "logging" "backup_count"] (.int 5)⟩,
        Look.verdict env ⟨.table, firstOf [Value.get? entries "builder"] (.map [])⟩,
        Look.verdict env ⟨.word fun s => Combinator.names.contains (Text.uppered s),
          firstOf [(env.text? "RPB_DEFAULT_COMBINATOR").map .text,
            fileValue? entries "builder" "default_combinator"] (.text "AND")⟩] := by
  refine outcome_bind (v := [_, _]) ?_ fun u _ => ?_
  · rw [outcome_checkLimits, getD_eq_firstOf h, getD_eq_firstOf h]
  · rw [outcome_bind_pure, outcome_builderIn]

theorem outcome_ofTables (env : Environment) (entries : Toml.Entries) :
    outcome (ofTables env entries) = judge env entries := by
  cases hin : table entries "logging" with
  | error f =>
    have hverdict : Look.verdict env ⟨.table, firstOf [Value.get? entries "logging"] (.map [])⟩ =
        (Fault.setting f).verdict := by
      rw [← outcome_table, hin]
      rfl
    rw [ofTables_of_error hin, judge, looks, List.map_cons, ← List.singleton_append,
      Verdict.first_append, Verdict.first_singleton, hverdict, if_neg (Fault.verdict_ne_fine _)]
    rfl
  | ok inner =>
    have hfine : Look.verdict env ⟨.table, firstOf [Value.get? entries "logging"] (.map [])⟩ = .fine := by
      rw [← outcome_table, hin]
      rfl
    rw [ofTables_eq hin, judge, looks, List.map_cons, hfine, Verdict.first_fine_cons]
    refine outcome_bind (v := [_, _]) ?_ fun file _ => outcome_bind (v := [_]) ?_ fun level _ =>
      outcome_bind (v := [_]) ?_ fun format _ => ?_
    · exact outcome_logPath hin
    · rw [levelIn, outcome_readName env _ (fun _ => rfl), choose_eq_firstOf hin, Verdict.first_singleton]
    · rw [formatIn, outcome_readName env _ (fun _ => rfl), choose_eq_firstOf hin, Verdict.first_singleton]
    · rw [outcome_bind_pure, outcome_restIn hin]
      rfl

end

/-! From the file -/

/-- The path of the file as it is written, before its home directory is put in. -/
def writtenPath (env : Environment) : Files.Path :=
  match env.text? "RPB_CONFIG_PATH" with
  | some s => if s = "" then defaultFile else .ofText s
  | none => defaultFile

/-- What loading the settings comes to. Before the values are looked at, a fault of another kind can
only come from the path. -/
inductive Judged (tree : Files.Tree) (env : Environment) (path : Option Files.Path) : Verdict → Prop
  | noHome {f : NoHome} (hpath : path = none) (h : env.expand (writtenPath env) = .error f) :
      Judged tree env path (homeVerdict (.error f))
  | tooLong {p : Files.Path} (hpath : pathOr env path = .ok p) (h : tree.TooLong p.text) :
      Judged tree env path .foreign
  | broken {p : Files.Path} {f : FileFault} (hpath : pathOr env path = .ok p)
      (hshort : ¬tree.TooLong p.text) (h : Breaks tree p f) : Judged tree env path .refused
  | read {p : Files.Path} {entries : Toml.Entries} (hpath : pathOr env path = .ok p)
      (h : (readFile tree p).result = .ok entries) : Judged tree env path (judge env entries)

section

variable {tree : Files.Tree} {env : Environment} {path : Option Files.Path} {p : Files.Path}

theorem filePath_eq (env : Environment) : filePath env = env.expand (writtenPath env) := by
  rw [filePath, writtenPath, Environment.path?]
  cases env.text? "RPB_CONFIG_PATH" with
  | none => rfl
  | some s =>
    by_cases hs : s = ""
    · simp only [if_pos hs]
      rfl
    · simp only [if_neg hs]
      cases env.expand (.ofText s) <;> rfl

theorem pathOr_eq_error_iff {f : NoHome} :
    pathOr env path = .error f ↔ path = none ∧ env.expand (writtenPath env) = .error f := by
  rw [← filePath_eq]
  cases path <;> simp [pathOr]

theorem load_of_pathOr (h : pathOr env path = .ok p) : (load tree env path).result =
    ((readFile tree p).result.mapError .file).bind (ofTables env) := by
  rw [load, loadFile, h]

theorem outcome_load_of_read {entries : Toml.Entries} (hpath : pathOr env path = .ok p)
    (h : (readFile tree p).result = .ok entries) :
    outcome (load tree env path).result = judge env entries := by
  rw [load_of_pathOr hpath, h, ← outcome_ofTables]
  rfl

theorem outcome_load_of_breaks {f : FileFault} (hpath : pathOr env path = .ok p)
    (h : Breaks tree p f) : outcome (load tree env path).result = (Fault.file f).verdict := by
  rw [load_of_pathOr hpath, readFile_of_breaks h]
  rfl

theorem outcome_load_of_judged {v : Verdict} (h : Judged tree env path v) :
    outcome (load tree env path).result = v := by
  cases h with
  | noHome hpath h =>
    rw [load, loadFile, pathOr_eq_error_iff.2 ⟨hpath, h⟩]
    exact outcome_noHome (.error _)
  | tooLong hpath h => exact outcome_load_of_breaks hpath (.tooLong h)
  | broken hpath hshort h =>
    rw [outcome_load_of_breaks hpath h]
    cases h with
    | tooLong h => exact absurd h hshort
    | undecodable => rfl
    | overlong => rfl
  | read hpath h => exact outcome_load_of_read hpath h

theorem exists_judged (tree : Files.Tree) (env : Environment) (path : Option Files.Path) :
    ∃ v, Judged tree env path v := by
  cases hpath : pathOr env path with
  | error f =>
    obtain ⟨hnone, h⟩ := pathOr_eq_error_iff.1 hpath
    exact ⟨_, .noHome hnone h⟩
  | ok p =>
    by_cases hlong : tree.TooLong p.text
    · exact ⟨_, .tooLong hpath hlong⟩
    · obtain hquiet | ⟨f, -, h⟩ := readFile_cases tree p
      · cases hread : (readFile tree p).result with
        | ok entries => exact ⟨_, .read hpath hread⟩
        | error f =>
          generalize readFile tree p = r at hquiet hread
          cases hquiet <;> exact nomatch hread
      · exact ⟨_, .broken hpath hlong h⟩

theorem judged_iff {v : Verdict} :
    Judged tree env path v ↔ outcome (load tree env path).result = v := by
  refine ⟨outcome_load_of_judged, ?_⟩
  rintro rfl
  obtain ⟨v, h⟩ := exists_judged tree env path
  rwa [outcome_load_of_judged h]

end
end Settings
end ReleaseMatch
