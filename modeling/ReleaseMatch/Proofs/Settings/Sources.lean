import ReleaseMatch.Proofs.Result
import ReleaseMatch.Settings.Load
set_option autoImplicit false

/-!
# Sources of settings

A setting may be given in several places, of which the first that gives it counts: the environment,
then the tables of the file, then the default. Nothing else has an influence on it. The settings of
the log are checked as soon as they are put together, so what the command line puts in front of them
later on stands in front of settings that are accepted.
-/
namespace ReleaseMatch

/-- What the first of some sources says, or the default where none of them says anything. -/
def firstOf {α : Type} (sources : List (Option α)) (default : α) : α :=
  (sources.findSome? id).getD default

section

variable {α : Type} (a default : α) (sources : List (Option α))

@[simp] theorem firstOf_nil : firstOf [] default = default := rfl

@[simp] theorem firstOf_none_cons : firstOf (none :: sources) default = firstOf sources default := rfl

@[simp] theorem firstOf_some_cons : firstOf (some a :: sources) default = a := rfl

theorem map_firstOf {β : Type} (f : α → β) :
    f (firstOf sources default) = firstOf (sources.map (Option.map f)) (f default) := by
  induction sources with
  | nil => rfl
  | cons source rest ih =>
    cases source with
    | none => simpa using ih
    | some a => simp

end

/-! Checks -/

def readName (names : List String) (refusal : String → SettingFault) (v : Value) :
    Except SettingFault String := do
  let name ← v.textFor "lower"
  if names.contains (Text.lowered name) then return name else throw (refusal name)

def checkLimits (maxBytes backupCount : Value) : Except SettingFault Unit := do
  if ← maxBytes.isBelow 1 then throw .maxBytes
  if ← backupCount.isBelow 0 then throw .backupCount

theorem readName_text (names : List String) (refusal : String → SettingFault) (s : String) :
    readName names refusal (.text s) =
      if names.contains (Text.lowered s) then .ok s else .error (refusal s) := rfl

theorem readName_eq_ok_iff {names : List String} {refusal : String → SettingFault} {v : Value}
    {name : String} : readName names refusal v = .ok name ↔
      v = .text name ∧ names.contains (Text.lowered name) = true := by
  cases v with
  | text s =>
    rw [readName_text, Value.text.injEq]
    split
    · next h =>
      rw [Except.ok.injEq]
      exact ⟨fun heq => ⟨heq, heq ▸ h⟩, fun heq => heq.1⟩
    · next h =>
      refine iff_of_false (by simp) ?_
      rintro ⟨rfl, hname⟩
      exact h hname
  | _ => exact iff_of_false (by simp [readName, Value.textFor, bind, Except.bind]) (by simp)

namespace LogDraft

theorem check_eq (d : LogDraft) : d.check = do
    let level ← readName LogSettings.levels .level d.level
    let format ← readName LogSettings.formats .format d.format
    checkLimits d.maxBytes d.backupCount
    return ⟨level, d.file, format, d.includeStderr, d.maxBytes, d.backupCount⟩ := by
  simp only [check, readName, checkLimits, bind, Except.bind, pure, Except.pure, throw, throwThe,
    MonadExceptOf.throw]
  cases d.level.textFor "lower" with
  | error f => rfl
  | ok level =>
    dsimp only
    cases LogSettings.levels.contains (Text.lowered level) with
    | false => rfl
    | true =>
      cases d.format.textFor "lower" with
      | error f => rfl
      | ok format =>
        dsimp only
        cases LogSettings.formats.contains (Text.lowered format) with
        | false => rfl
        | true =>
          cases d.maxBytes.isBelow 1 with
          | error f => rfl
          | ok low =>
            cases low with
            | true => rfl
            | false =>
              cases d.backupCount.isBelow 0 with
              | error f => rfl
              | ok low => cases low <;> rfl

theorem check_eq_ok_iff {d : LogDraft} {s : LogSettings} : d.check = .ok s ↔
    readName LogSettings.levels .level d.level = .ok s.level ∧
    readName LogSettings.formats .format d.format = .ok s.format ∧
    checkLimits s.maxBytes s.backupCount = .ok () ∧
    s.file = d.file ∧ s.includeStderr = d.includeStderr ∧ s.maxBytes = d.maxBytes ∧
    s.backupCount = d.backupCount := by
  rw [check_eq, bind_eq_ok]
  constructor
  · rintro ⟨level, hlevel, h⟩
    obtain ⟨format, hformat, h⟩ := bind_eq_ok.1 h
    obtain ⟨⟨⟩, hlimits, h⟩ := bind_eq_ok.1 h
    obtain rfl := Except.ok.inj h
    exact ⟨hlevel, hformat, hlimits, rfl, rfl, rfl, rfl⟩
  · obtain ⟨level, file, format, includeStderr, maxBytes, backupCount⟩ := s
    rintro ⟨hlevel, hformat, hlimits, rfl, rfl, rfl, rfl⟩
    exact ⟨level, hlevel, bind_eq_ok.2 ⟨format, hformat, bind_eq_ok.2 ⟨(), hlimits, rfl⟩⟩⟩

end LogDraft

namespace Settings

/-! The file -/

def fileValue? (entries : Toml.Entries) (tableName key : String) : Option Value :=
  (Value.get? entries tableName).bind (·.field? key)

section

variable {env : Environment} {entries inner : Toml.Entries} {tableName : String}

theorem get?_eq_fileValue? (h : table entries tableName = .ok inner) (key : String) :
    Value.get? inner key = fileValue? entries tableName key := by
  rw [table] at h
  rw [fileValue?]
  cases hget : Value.get? entries tableName with
  | none =>
    rw [hget] at h
    obtain rfl := Except.ok.inj h
    rfl
  | some v =>
    rw [hget] at h
    cases v with
    | map members =>
      obtain rfl := Except.ok.inj h
      rfl
    | _ => exact absurd h (by simp)

theorem choose_eq_firstOf (h : table entries tableName = .ok inner) (variableName key : String)
    (default : Value) : choose env variableName inner key default =
      firstOf [(env.text? variableName).map .text, fileValue? entries tableName key] default := by
  rw [choose, ← get?_eq_fileValue? h]
  cases env.text? variableName with
  | some s => rfl
  | none => cases Value.get? inner key <;> rfl

theorem getD_eq_firstOf (h : table entries tableName = .ok inner) (key : String) (default : Value) :
    (Value.get? inner key).getD default = firstOf [fileValue? entries tableName key] default := by
  rw [← get?_eq_fileValue? h]
  cases Value.get? inner key <;> rfl

end

/-! Paths -/

def pathIn (env : Environment) (s : String) : Option (Except NoHome (Option Files.Path)) :=
  if s = "" then none else some ((env.expand (.ofText s)).map some)

def textIn : Value → Option String
  | .text s => some s
  | _ => none

/-- The path of the log that the environment gives, or else the file. Both are looked at. -/
def logPath (env : Environment) (inner : Toml.Entries) : Except Fault (Option Files.Path) := do
  let fileValue ← logFile env inner
  let variableValue ← (env.path? "RPB_LOG_FILE").mapError .noHome
  return variableValue.or fileValue

section

variable {env : Environment} {inner : Toml.Entries} {p : Option Files.Path}

theorem pathIn_eq_of_expand {s : String} {path : Files.Path} (hs : s ≠ "")
    (h : env.expand (.ofText s) = .ok path) : pathIn env s = some (.ok (some path)) := by
  rw [pathIn, if_neg hs, h]
  rfl

theorem pathIn_eq_of_path? {name : String} (h : env.path? name = .ok p) :
    (env.text? name).bind (pathIn env) = p.map fun path => .ok (some path) := by
  rw [Environment.path?] at h
  cases htext : env.text? name with
  | none =>
    rw [htext] at h
    obtain rfl := Except.ok.inj h
    rfl
  | some s =>
    simp only [htext] at h
    by_cases hempty : s = ""
    · rw [if_pos hempty] at h
      obtain rfl := Except.ok.inj h
      simp [pathIn, hempty]
    · rw [if_neg hempty] at h
      obtain ⟨path, hpath, rfl⟩ := map_eq_ok_iff.1 h
      exact pathIn_eq_of_expand hempty hpath

theorem pathIn_eq_of_logFile (h : logFile env inner = .ok p) :
    ((Value.get? inner "file").bind textIn).bind (pathIn env) =
      p.map fun path => .ok (some path) := by
  rw [logFile] at h
  cases hget : Value.get? inner "file" with
  | none =>
    rw [hget] at h
    obtain rfl := Except.ok.inj h
    rfl
  | some v =>
    simp only [hget] at h
    cases hset : v.isSet with
    | false =>
      rw [hset, Bool.not_false, if_pos rfl] at h
      obtain rfl := Except.ok.inj h
      cases v with
      | text s =>
        have hempty : s = "" := by simpa [Value.isSet] using hset
        simp [textIn, pathIn, hempty]
      | _ => rfl
    | true =>
      rw [hset, Bool.not_true, if_neg (by decide)] at h
      cases v with
      | text s =>
        have hempty : s ≠ "" := by simpa [Value.isSet] using hset
        obtain ⟨path, hpath, rfl⟩ := map_eq_ok_iff.1 h
        exact pathIn_eq_of_expand hempty (mapError_eq_ok_iff.1 hpath)
      | _ => exact absurd h (by simp)

theorem logPath_eq_ok_iff : logPath env inner = .ok p ↔
    ∃ fileValue variableValue, logFile env inner = .ok fileValue ∧
      env.path? "RPB_LOG_FILE" = .ok variableValue ∧ p = variableValue.or fileValue := by
  rw [logPath, bind_eq_ok]
  constructor
  · rintro ⟨fileValue, hfile, h⟩
    obtain ⟨variableValue, hvariable, h⟩ := bind_eq_ok.1 h
    exact ⟨fileValue, variableValue, hfile, mapError_eq_ok_iff.1 hvariable, (Except.ok.inj h).symm⟩
  · rintro ⟨fileValue, variableValue, hfile, hvariable, rfl⟩
    exact ⟨fileValue, hfile, bind_eq_ok.2 ⟨variableValue, mapError_eq_ok_iff.2 hvariable, rfl⟩⟩

theorem logPath_eq_firstOf (h : logPath env inner = .ok p) :
    .ok p = firstOf [(env.text? "RPB_LOG_FILE").bind (pathIn env),
      ((Value.get? inner "file").bind textIn).bind (pathIn env)] (.ok none) := by
  obtain ⟨fileValue, variableValue, hfile, hvariable, rfl⟩ := logPath_eq_ok_iff.1 h
  rw [pathIn_eq_of_path? hvariable, pathIn_eq_of_logFile hfile]
  cases variableValue with
  | some path => rfl
  | none => cases fileValue <;> rfl

end

/-! Parts -/

def levelIn (env : Environment) (inner : Toml.Entries) : Except Fault String :=
  (readName LogSettings.levels .level
    (choose env "RPB_LOG_LEVEL" inner "level" (.text "info"))).mapError .setting

def formatIn (env : Environment) (inner : Toml.Entries) : Except Fault String :=
  (readName LogSettings.formats .format
    (choose env "RPB_LOG_FORMAT" inner "format" (.text "text"))).mapError .setting

def builderIn (env : Environment) (entries : Toml.Entries) : Except Fault BuilderSettings := do
  let inner ← (table entries "builder").mapError .setting
  (builderDraft env inner).check.mapError .setting

/-- What the command line says nothing of. -/
structure Rest where
  includeStderr : Value
  maxBytes : Value
  backupCount : Value
  builder : BuilderSettings

def restIn (env : Environment) (entries inner : Toml.Entries) : Except Fault Rest := do
  let maxBytes := (Value.get? inner "max_bytes").getD (.int 10485760)
  let backupCount := (Value.get? inner "backup_count").getD (.int 5)
  (checkLimits maxBytes backupCount).mapError .setting
  let builder ← builderIn env entries
  return ⟨(Value.get? inner "include_stderr").getD (.bool false), maxBytes, backupCount, builder⟩

def assemble (file : Except Fault (Option Files.Path)) (level format : Except Fault String)
    (rest : Except Fault Rest) : Except Fault Settings := do
  let file ← file
  let level ← level
  let format ← format
  let rest ← rest
  return ⟨⟨level, file, format, rest.includeStderr, rest.maxBytes, rest.backupCount⟩, rest.builder⟩

section

variable {env : Environment} {entries inner : Toml.Entries}

theorem ofTables_of_error {f : SettingFault} (h : table entries "logging" = .error f) :
    ofTables env entries = .error (.setting f) := by
  simp only [ofTables, h, bind, Except.bind]
  rfl

theorem ofTables_eq (h : table entries "logging" = .ok inner) : ofTables env entries =
    assemble (logPath env inner) (levelIn env inner) (formatIn env inner)
      (restIn env entries inner) := by
  simp only [ofTables, h, logDraft, logPath, LogDraft.check_eq, assemble, levelIn, formatIn, restIn,
    builderIn, bind, Except.bind, pure, Except.pure]
  dsimp only [Except.mapError]
  cases logFile env inner with
  | error f => rfl
  | ok fileValue =>
    cases env.path? "RPB_LOG_FILE" with
    | error f => rfl
    | ok variableValue =>
      dsimp only
      cases readName LogSettings.levels .level
          (choose env "RPB_LOG_LEVEL" inner "level" (.text "info")) with
      | error f => rfl
      | ok level =>
        dsimp only
        cases readName LogSettings.formats .format
            (choose env "RPB_LOG_FORMAT" inner "format" (.text "text")) with
        | error f => rfl
        | ok format =>
          dsimp only
          cases checkLimits ((Value.get? inner "max_bytes").getD (.int 10485760))
              ((Value.get? inner "backup_count").getD (.int 5)) with
          | error f => rfl
          | ok u =>
            dsimp only
            cases table entries "builder" with
            | error f => rfl
            | ok builderEntries =>
              dsimp only
              cases (builderDraft env builderEntries).check <;> rfl

end

/-! Following the sources -/

theorem textFor_eq_ok {v : Value} {method s : String} (h : v.textFor method = .ok s) : v = .text s := by
  cases v with
  | text _ => exact congrArg Value.text (Except.ok.inj h)
  | _ => simp [Value.textFor] at h

theorem builderName_eq_ok_iff {d : BuilderDraft} {name : String} : d.name = .ok name ↔
    ∃ s, d.combinator = .text s ∧ name = Text.uppered s ∧ name ∈ Combinator.names := by
  rw [BuilderDraft.name, bind_eq_ok]
  constructor
  · rintro ⟨s, hs, h⟩
    dsimp only at h
    split at h
    · next hin =>
      obtain rfl := Except.ok.inj h
      exact ⟨s, textFor_eq_ok hs, rfl, List.contains_iff_mem.1 hin⟩
    · exact nomatch h
  · rintro ⟨s, hs, rfl, hin⟩
    refine ⟨s, by rw [hs]; rfl, ?_⟩
    rw [if_pos (List.contains_iff_mem.2 hin)]
    rfl

theorem builderCheck_eq_ok_iff {d : BuilderDraft} {b : BuilderSettings} : d.check = .ok b ↔
    d.name = .ok b.combinator.name ∧ b.caseSensitive = d.caseSensitive := by
  rw [BuilderDraft.check, bind_eq_ok]
  constructor
  · rintro ⟨name, hname, h⟩
    obtain rfl := Except.ok.inj h
    exact ⟨hname, rfl⟩
  · obtain ⟨⟨name⟩, flag⟩ := b
    rintro ⟨hname, rfl⟩
    exact ⟨name, hname, rfl⟩

theorem exists_combinator_of_mem {name : String} (h : name ∈ Combinator.names) :
    ∃ c, Combinator.ofName name = .ok c ∧ Combinator.ofName? name = some c := by
  simp only [Combinator.names, List.mem_cons, List.not_mem_nil, or_false] at h
  obtain rfl | rfl := h
  · exact ⟨.and, rfl, rfl⟩
  · exact ⟨.or, rfl, rfl⟩

def named : Value → Option Combinator
  | .text s => Combinator.ofName? (Text.uppered s)
  | _ => none

/-- Each setting says what the first of its own sources says: its variable, then its key in the file,
then its default. -/
structure Follows (env : Environment) (entries : Toml.Entries) (s : Settings) : Prop where
  level : .text s.log.level = firstOf [(env.text? "RPB_LOG_LEVEL").map .text,
    fileValue? entries "logging" "level"] (.text "info")
  format : .text s.log.format = firstOf [(env.text? "RPB_LOG_FORMAT").map .text,
    fileValue? entries "logging" "format"] (.text "text")
  file : .ok s.log.file = firstOf [(env.text? "RPB_LOG_FILE").bind (pathIn env),
    ((fileValue? entries "logging" "file").bind textIn).bind (pathIn env)] (.ok none)
  includeStderr : s.log.includeStderr =
    firstOf [fileValue? entries "logging" "include_stderr"] (.bool false)
  maxBytes : s.log.maxBytes = firstOf [fileValue? entries "logging" "max_bytes"] (.int 10485760)
  backupCount : s.log.backupCount = firstOf [fileValue? entries "logging" "backup_count"] (.int 5)
  combinator : ∃ c, Combinator.ofName s.builder.combinator.name = .ok c ∧
    some c = firstOf [(env.text? "RPB_DEFAULT_COMBINATOR").map fun s => named (.text s),
      (fileValue? entries "builder" "default_combinator").map named] (some .and)
  caseSensitive : s.builder.caseSensitive =
    firstOf [(env.text? "RPB_DEFAULT_CASE_SENSITIVE").map fun s => .bool (Environment.isYes s),
      fileValue? entries "builder" "default_case_sensitive"] (.bool false)

theorem named_of_check {d : BuilderDraft} {b : BuilderSettings} (h : d.check = .ok b) :
    ∃ c, Combinator.ofName b.combinator.name = .ok c ∧ named d.combinator = some c := by
  obtain ⟨s, hs, hname, hin⟩ := builderName_eq_ok_iff.1 (builderCheck_eq_ok_iff.1 h).1
  obtain ⟨c, hc, hfound⟩ := exists_combinator_of_mem hin
  exact ⟨c, hc, by rw [hs, named, ← hname, hfound]⟩

theorem follows_of_ofTables {env : Environment} {entries : Toml.Entries} {s : Settings}
    (h : ofTables env entries = .ok s) : Follows env entries s := by
  obtain ⟨inner, hinner, -⟩ := bind_eq_ok.1 h
  rw [mapError_eq_ok_iff] at hinner
  rw [ofTables_eq hinner] at h
  obtain ⟨path, hpath, h⟩ := bind_eq_ok.1 h
  obtain ⟨level, hlevel, h⟩ := bind_eq_ok.1 h
  obtain ⟨format, hformat, h⟩ := bind_eq_ok.1 h
  obtain ⟨rest, hrest, h⟩ := bind_eq_ok.1 h
  obtain rfl := Except.ok.inj h
  obtain ⟨-, -, hrest⟩ := bind_eq_ok.1 hrest
  obtain ⟨builder, hbuilder, hrest⟩ := bind_eq_ok.1 hrest
  obtain rfl := Except.ok.inj hrest
  obtain ⟨builderEntries, hentries, hbuilder⟩ := bind_eq_ok.1 hbuilder
  rw [levelIn, mapError_eq_ok_iff] at hlevel
  rw [formatIn, mapError_eq_ok_iff] at hformat
  rw [mapError_eq_ok_iff] at hentries hbuilder
  obtain ⟨c, hc, hnamed⟩ := named_of_check hbuilder
  have hcase := (builderCheck_eq_ok_iff.1 hbuilder).2
  rw [builderDraft] at hnamed hcase
  exact {
    level := by
      rw [← choose_eq_firstOf hinner]
      exact (readName_eq_ok_iff.1 hlevel).1.symm
    format := by
      rw [← choose_eq_firstOf hinner]
      exact (readName_eq_ok_iff.1 hformat).1.symm
    file := by
      rw [← get?_eq_fileValue? hinner]
      exact logPath_eq_firstOf hpath
    includeStderr := getD_eq_firstOf hinner ..
    maxBytes := getD_eq_firstOf hinner ..
    backupCount := getD_eq_firstOf hinner ..
    combinator := by
      have hdefault : named (.text "AND") = some .and := by decide +kernel
      refine ⟨c, hc, ?_⟩
      rw [← hnamed, choose_eq_firstOf hentries, map_firstOf _ _ named, hdefault]
      simp only [List.map_cons, List.map_nil, Option.map_map]
      rfl
    caseSensitive := by
      rw [hcase, Environment.flag?]
      cases env.text? "RPB_DEFAULT_CASE_SENSITIVE" with
      | some s => rfl
      | none => exact getD_eq_firstOf hentries .. }

theorem exists_defaults {env : Environment} {entries : Toml.Entries} {s : Settings}
    (h : ofTables env entries = .ok s) :
    ∃ c, s.builder.defaults = .ok ⟨c, s.builder.caseSensitive⟩ := by
  obtain ⟨c, hc, -⟩ := (follows_of_ofTables h).combinator
  refine ⟨c, ?_⟩
  rw [BuilderSettings.defaults, hc]
  rfl

end Settings
end ReleaseMatch
