import ReleaseMatch.Proofs.Log.Opening
import ReleaseMatch.Proofs.Settings.Sources
import ReleaseMatch.Terminal.Run
set_option autoImplicit false

/-!
# Values that are hidden

Two runs whose sources differ only behind a source that goes before them come to the same settings and
the same log. But what the environment and the file say is put together, and looked at, before the
command line is: so behind an option the values have to be such that they can be used, while behind a
variable there may be any.
-/
namespace ReleaseMatch.Terminal

open Settings

/-- A setting that has more than one source besides its default. -/
inductive Setting
  | level
  | logFile
  | format
  | combinator
  | caseSensitive
  deriving DecidableEq

namespace Setting

def variableName : Setting → String
  | .level => "RPB_LOG_LEVEL"
  | .logFile => "RPB_LOG_FILE"
  | .format => "RPB_LOG_FORMAT"
  | .combinator => "RPB_DEFAULT_COMBINATOR"
  | .caseSensitive => "RPB_DEFAULT_CASE_SENSITIVE"

def tableName : Setting → String
  | .level | .logFile | .format => "logging"
  | .combinator | .caseSensitive => "builder"

def key : Setting → String
  | .level => "level"
  | .logFile => "file"
  | .format => "format"
  | .combinator => "default_combinator"
  | .caseSensitive => "default_case_sensitive"

def isTyped (s : Scan) : Setting → Bool
  | .level => (logOverride s).level.isSome
  | .logFile => (logOverride s).file.isSome
  | .format => (logOverride s).format.isSome
  | .combinator | .caseSensitive => false

/-- The environment gives the setting. An empty path is none. -/
def isAssigned (env : Environment) : Setting → Bool
  | .logFile => (env.text? "RPB_LOG_FILE").any (· != "")
  | σ => (env.text? σ.variableName).isSome

/-- The environment gives the setting, and the same in both runs, so that the file does not count. -/
def IsFixed (σ : Setting) (env env' : Environment) : Prop :=
  σ.isAssigned env = true ∧ env'.text? σ.variableName = env.text? σ.variableName

/-- What the environment and the file say of a setting of the log can be used, whether the command line
goes before it or not. -/
def Accepted (env : Environment) (entries : Toml.Entries) (σ : Setting) : Prop :=
  ∀ inner, table entries "logging" = .ok inner →
    match σ with
    | .level => ∃ name, levelIn env inner = .ok name
    | .logFile => ∃ path, logPath env inner = .ok path
    | .format => ∃ name, formatIn env inner = .ok name
    | .combinator | .caseSensitive => True

theorem key_injective {σ τ : Setting} (htable : σ.tableName = τ.tableName) (h : σ.key = τ.key) :
    σ = τ := by
  cases σ <;> cases τ <;> simp_all [tableName, key]

theorem variableName_injective {σ τ : Setting} (h : σ.variableName = τ.variableName) : σ = τ := by
  cases σ <;> cases τ <;> simp_all [variableName]

end Setting

/-- The tables of two files under a name, of which only the value at the key of a setting differs. -/
def TablesAgree (σ : Setting) (name : String) :
    Except SettingFault Toml.Entries → Except SettingFault Toml.Entries → Prop
  | .ok inner, .ok inner' =>
    ∀ key, ¬(name = σ.tableName ∧ key = σ.key) → Value.get? inner' key = Value.get? inner key
  | .error f, .error f' => f' = f
  | _, _ => False

/-- Two runs with one command line and files of one shape, which differ only in what the sources of a
setting say behind the command line, or behind the environment. -/
structure DifferAt (σ : Setting) (s : Scan) (i i' : Invocation) (entries entries' : Toml.Entries) :
    Prop where
  home : i'.env.home = i.env.home
  text (name : String) : name ≠ σ.variableName → i'.env.text? name = i.env.text? name
  now : i'.now = i.now
  tree : i.tree.SameShape i'.tree
  load : (loadFile i.tree i.env (s.path? "--config")).result = .ok entries
  load' : (loadFile i'.tree i'.env (s.path? "--config")).result = .ok entries'
  tables (name : String) : TablesAgree σ name (table entries name) (table entries' name)
  hidden : σ.isTyped s = true ∨ σ.IsFixed i.env i'.env

/-! Parts of the settings -/

def finish (o : LogOverride) (base : Settings) : Except Fault Settings := do
  let log ← (base.log.override o).mapError .setting
  return { base with log }

theorem settingsOf_eq_bind {i : Invocation} {s : Scan} {entries : Toml.Entries}
    (h : (loadFile i.tree i.env (s.path? "--config")).result = .ok entries) :
    settingsOf i s = ofTables i.env entries >>= finish (logOverride s) := by
  rw [settingsOf, load, h]
  rfl

/-- A part is the same in both runs, or it can be used in both and there is another in front of it. -/
def Covered {α β : Type} (front : Option α) (part part' : Except Fault β) : Prop :=
  part' = part ∨ front.isSome = true ∧ (∃ a, part = .ok a) ∧ ∃ a, part' = .ok a

/-- What goes on in the same way behind a part, and without it if there is another in front, goes on in
the same way behind both. -/
theorem Covered.bind_eq {α β γ : Type} {front : Option α} {part part' : Except Fault β}
    (h : Covered front part part') {go go' : β → Except Fault γ} (hgo : ∀ b, go' b = go b)
    (hfront : ∀ a, front = some a → ∀ b b', go b' = go b) : part' >>= go' = part >>= go := by
  obtain rfl : go' = go := funext hgo
  obtain rfl | ⟨hsome, ⟨b, rfl⟩, b', rfl⟩ := h
  · rfl
  · obtain ⟨a, ha⟩ := Option.isSome_iff_exists.1 hsome
    exact hfront a ha b b'

section

variable {o : LogOverride} {file file' : Except Fault (Option Files.Path)}
  {level level' format format' : Except Fault String} {rest : Except Fault Rest}

theorem assemble_finish_eq (hfile : Covered o.file file file') (hlevel : Covered o.level level level')
    (hformat : Covered o.format format format') :
    assemble file' level' format' rest >>= finish o =
      assemble file level format rest >>= finish o := by
  simp only [assemble, bind_assoc, pure_bind]
  refine hfile.bind_eq
    (fun file => hlevel.bind_eq (fun level => hformat.bind_eq (fun _ => rfl) ?_) ?_) ?_
  · intro v hv format format'
    simp only [finish, LogSettings.override, hv, Option.getD_some]
  · intro v hv level level'
    simp only [finish, LogSettings.override, hv, Option.getD_some]
  · intro v hv file file'
    simp only [finish, LogSettings.override, hv, Option.some_or]

theorem assemble_of_error {f : Fault} (h : level = .error f ∨ format = .error f) :
    ∃ g, assemble file level format rest = .error g := by
  simp only [assemble, bind, Except.bind]
  cases file with
  | error g => exact ⟨g, rfl⟩
  | ok path =>
    cases level with
    | error g => exact ⟨g, rfl⟩
    | ok name =>
      obtain rfl := h.resolve_left (by simp)
      exact ⟨f, rfl⟩

end

section

variable {env env' : Environment} {inner inner' : Toml.Entries}

theorem path?_eq {name : String} (hhome : env'.home = env.home)
    (htext : env'.text? name = env.text? name) : env'.path? name = env.path? name := by
  rw [Environment.path?, Environment.path?, htext]
  cases env.text? name with
  | none => rfl
  | some s => simp only [Environment.expand_eq hhome]

theorem logFile_eq (hhome : env'.home = env.home)
    (hget : Value.get? inner' "file" = Value.get? inner "file") :
    logFile env' inner' = logFile env inner := by
  rw [logFile, logFile, hget]
  cases Value.get? inner "file" with
  | none => rfl
  | some v => cases v <;> simp only [Environment.expand_eq hhome]

/-- A path that is assigned and can be used hides that of the file, if that can be used as well. -/
theorem logPath_eq_of_assigned (hpath : env'.path? "RPB_LOG_FILE" = env.path? "RPB_LOG_FILE")
    (hassigned : Setting.logFile.isAssigned env = true) (h : ∃ path, logPath env inner = .ok path)
    (h' : ∃ path, logPath env' inner' = .ok path) : logPath env' inner' = logPath env inner := by
  obtain ⟨path, h⟩ := h
  obtain ⟨path', h'⟩ := h'
  obtain ⟨fileValue, variableValue, -, hvariable, rfl⟩ := logPath_eq_ok_iff.1 h
  obtain ⟨fileValue', variableValue', -, hvariable', rfl⟩ := logPath_eq_ok_iff.1 h'
  rw [hpath, hvariable] at hvariable'
  obtain rfl := Except.ok.inj hvariable'
  obtain ⟨s, htext, hs⟩ := (Option.any_eq_true _ _).1 hassigned
  rw [Environment.path?, htext] at hvariable
  simp only [if_neg (bne_iff_ne.1 hs)] at hvariable
  obtain ⟨path, -, rfl⟩ := map_eq_ok_iff.1 hvariable
  rw [h, h']
  rfl

end

namespace DifferAt

variable {σ : Setting} {s : Scan} {i i' : Invocation} {entries entries' inner inner' : Toml.Entries}
  (h : DifferAt σ s i i' entries entries')

include h

theorem text_eq (τ : Setting) (hτ : τ = σ → σ.IsFixed i.env i'.env) :
    i'.env.text? τ.variableName = i.env.text? τ.variableName := by
  by_cases heq : τ = σ
  · rw [heq]
    exact (hτ heq).2
  · exact h.text _ fun hname => heq (Setting.variableName_injective hname)

theorem get?_eq (τ : Setting) (hin : table entries τ.tableName = .ok inner)
    (hin' : table entries' τ.tableName = .ok inner')
    (hτ : τ = σ → σ.IsFixed i.env i'.env) :
    τ.isAssigned i.env = true ∨ Value.get? inner' τ.key = Value.get? inner τ.key := by
  by_cases heq : τ = σ
  · rw [heq]
    exact .inl (hτ heq).1
  · have htables := h.tables τ.tableName
    rw [hin, hin'] at htables
    exact .inr (htables _ fun hsame => heq (Setting.key_injective hsame.1 hsame.2))

theorem get?_eq_of_ne (hin : table entries "logging" = .ok inner)
    (hin' : table entries' "logging" = .ok inner') {key : String} (hkey : key ≠ σ.key) :
    Value.get? inner' key = Value.get? inner key := by
  have htables := h.tables "logging"
  rw [hin, hin'] at htables
  exact htables key fun hsame => hkey hsame.2

/-- What is chosen for a setting is the same, unless it is the one that differs and nothing fixes it. -/
theorem choose_eq (τ : Setting) (hin : table entries τ.tableName = .ok inner)
    (hin' : table entries' τ.tableName = .ok inner') (hpath : τ ≠ .logFile)
    (hτ : τ = σ → σ.IsFixed i.env i'.env) (default : Value) :
    choose i'.env τ.variableName inner' τ.key default =
      choose i.env τ.variableName inner τ.key default := by
  have htext := h.text_eq τ hτ
  have hkey : (i.env.text? τ.variableName).isSome = true ∨
      Value.get? inner' τ.key = Value.get? inner τ.key := by
    have hassigned := h.get?_eq τ hin hin' hτ
    cases τ with
    | logFile => exact absurd rfl hpath
    | _ => exact hassigned
  rw [choose, choose, htext]
  cases hvariable : i.env.text? τ.variableName with
  | some s => rfl
  | none =>
    rw [hvariable] at hkey
    rw [hkey.resolve_left (by simp)]

theorem builderDraft_eq (hin : table entries "builder" = .ok inner)
    (hin' : table entries' "builder" = .ok inner') :
    builderDraft i'.env inner' = builderDraft i.env inner := by
  have hcombinator : .combinator = σ → σ.IsFixed i.env i'.env := by
    rintro rfl
    exact h.hidden.resolve_left (by simp [Setting.isTyped])
  have hcase : .caseSensitive = σ → σ.IsFixed i.env i'.env := by
    rintro rfl
    exact h.hidden.resolve_left (by simp [Setting.isTyped])
  have htext : i'.env.text? "RPB_DEFAULT_CASE_SENSITIVE" =
      i.env.text? "RPB_DEFAULT_CASE_SENSITIVE" := h.text_eq .caseSensitive hcase
  have hkey : (i.env.text? "RPB_DEFAULT_CASE_SENSITIVE").isSome = true ∨
      Value.get? inner' "default_case_sensitive" = Value.get? inner "default_case_sensitive" :=
    h.get?_eq .caseSensitive hin hin' hcase
  have hchoose : choose i'.env "RPB_DEFAULT_COMBINATOR" inner' "default_combinator" (.text "AND") =
      choose i.env "RPB_DEFAULT_COMBINATOR" inner "default_combinator" (.text "AND") :=
    h.choose_eq .combinator hin hin' (by simp) hcombinator _
  rw [builderDraft, builderDraft, hchoose, Environment.flag?, Environment.flag?, htext]
  cases hvariable : i.env.text? "RPB_DEFAULT_CASE_SENSITIVE" with
  | some s => rfl
  | none =>
    rw [hvariable] at hkey
    rw [hkey.resolve_left (by simp)]

theorem tables_cases (name : String) :
    (∃ f, table entries name = .error f ∧ table entries' name = .error f) ∨
      ∃ inner inner', table entries name = .ok inner ∧ table entries' name = .ok inner' := by
  have htables := h.tables name
  cases hin : table entries name with
  | error f =>
    cases hin' : table entries' name with
    | error f' =>
      rw [hin, hin'] at htables
      exact .inl ⟨f, rfl, congrArg Except.error htables⟩
    | ok inner' =>
      rw [hin, hin'] at htables
      exact htables.elim
  | ok inner =>
    cases hin' : table entries' name with
    | error f' =>
      rw [hin, hin'] at htables
      exact htables.elim
    | ok inner' => exact .inr ⟨inner, inner', rfl, rfl⟩

theorem builderIn_eq : builderIn i'.env entries' = builderIn i.env entries := by
  rw [builderIn, builderIn]
  rcases h.tables_cases "builder" with ⟨f, hin, hin'⟩ | ⟨inner, inner', hin, hin'⟩
  · rw [hin, hin']
    rfl
  · rw [hin, hin']
    change (builderDraft _ inner').check.mapError Fault.setting =
      (builderDraft _ inner).check.mapError Fault.setting
    rw [h.builderDraft_eq hin hin']

theorem restIn_eq (hin : table entries "logging" = .ok inner)
    (hin' : table entries' "logging" = .ok inner') :
    restIn i'.env entries' inner' = restIn i.env entries inner := by
  have hget {key : String} (hkey : key ≠ σ.key) := h.get?_eq_of_ne hin hin' hkey
  rw [restIn, restIn, hget (by cases σ <;> decide), hget (by cases σ <;> decide),
    hget (by cases σ <;> decide), h.builderIn_eq]

/-- What is read from the value chosen for a setting is the same, unless that setting differs and only
the command line hides it. -/
theorem covered_of_choose {α β : Type} {front : Option α} (τ : Setting) (hpath : τ ≠ .logFile)
    (hin : table entries τ.tableName = .ok inner) (hin' : table entries' τ.tableName = .ok inner')
    (read : Value → Except Fault β) (default : Value)
    (hdiffers : τ = σ → ¬σ.IsFixed i.env i'.env → front.isSome = true ∧
      (∃ a, read (choose i.env τ.variableName inner τ.key default) = .ok a) ∧
      ∃ a, read (choose i'.env τ.variableName inner' τ.key default) = .ok a) :
    Covered front (read (choose i.env τ.variableName inner τ.key default))
      (read (choose i'.env τ.variableName inner' τ.key default)) := by
  by_cases hτ : τ = σ → σ.IsFixed i.env i'.env
  · exact .inl (by rw [h.choose_eq τ hin hin' hpath hτ default])
  · obtain ⟨heq, hfixed⟩ := Classical.not_imp.1 hτ
    exact .inr (hdiffers heq hfixed)

theorem covered_level (hin : table entries "logging" = .ok inner)
    (hin' : table entries' "logging" = .ok inner') (haccepted : ¬σ.IsFixed i.env i'.env →
      σ.Accepted i.env entries ∧ σ.Accepted i'.env entries') :
    Covered (logOverride s).level (levelIn i.env inner) (levelIn i'.env inner') := by
  refine h.covered_of_choose .level (by simp) hin hin'
    (fun v => (readName LogSettings.levels .level v).mapError .setting) _ ?_
  rintro rfl hfixed
  obtain ⟨hused, hused'⟩ := haccepted hfixed
  exact ⟨h.hidden.resolve_right hfixed, hused inner hin, hused' inner' hin'⟩

theorem covered_format (hin : table entries "logging" = .ok inner)
    (hin' : table entries' "logging" = .ok inner') (haccepted : ¬σ.IsFixed i.env i'.env →
      σ.Accepted i.env entries ∧ σ.Accepted i'.env entries') :
    Covered (logOverride s).format (formatIn i.env inner) (formatIn i'.env inner') := by
  refine h.covered_of_choose .format (by simp) hin hin'
    (fun v => (readName LogSettings.formats .format v).mapError .setting) _ ?_
  rintro rfl hfixed
  obtain ⟨hused, hused'⟩ := haccepted hfixed
  exact ⟨h.hidden.resolve_right hfixed, hused inner hin, hused' inner' hin'⟩

theorem covered_file (hin : table entries "logging" = .ok inner)
    (hin' : table entries' "logging" = .ok inner')
    (haccepted : σ = .logFile → σ.Accepted i.env entries ∧ σ.Accepted i'.env entries') :
    Covered (logOverride s).file (logPath i.env inner) (logPath i'.env inner') := by
  by_cases heq : .logFile = σ
  · subst heq
    obtain ⟨hused, hused'⟩ := haccepted rfl
    rcases h.hidden with htyped | hfixed
    · exact .inr ⟨htyped, hused inner hin, hused' inner' hin'⟩
    · have hpath := path?_eq h.home hfixed.2
      exact .inl (logPath_eq_of_assigned hpath hfixed.1 (hused inner hin) (hused' inner' hin'))
  · have hpath : i'.env.path? "RPB_LOG_FILE" = i.env.path? "RPB_LOG_FILE" :=
      path?_eq h.home (h.text_eq .logFile fun hfile => absurd hfile heq)
    have hkey : "file" ≠ σ.key := by
      cases σ with
      | logFile => exact absurd rfl heq
      | _ => decide
    rw [Covered, logPath, logPath, hpath, logFile_eq h.home (h.get?_eq_of_ne hin hin' hkey)]
    exact .inl rfl

theorem settingsOf_eq (haccepted : ¬σ.IsFixed i.env i'.env ∨ σ = .logFile →
    σ.Accepted i.env entries ∧ σ.Accepted i'.env entries') : settingsOf i' s = settingsOf i s := by
  rw [settingsOf_eq_bind h.load, settingsOf_eq_bind h.load']
  rcases h.tables_cases "logging" with ⟨f, hin, hin'⟩ | ⟨inner, inner', hin, hin'⟩
  · rw [ofTables_of_error hin, ofTables_of_error hin']
  · rw [ofTables_eq hin, ofTables_eq hin', h.restIn_eq hin hin']
    exact assemble_finish_eq (h.covered_file hin hin' fun hfile => haccepted (.inr hfile))
      (h.covered_level hin hin' fun hfixed => haccepted (.inl hfixed))
      (h.covered_format hin hin' fun hfixed => haccepted (.inl hfixed))

end DifferAt

/-! Runs -/

/-- Both end in the same fault, or with the same settings and the same journal, having written the same
to the standard error stream. -/
structure SetUpAlike (s : Scan) (i i' : Invocation) : Prop where
  journal : (setUp i' s { tree := i'.tree }).1 = (setUp i s { tree := i.tree }).1
  surface : (setUp i s { tree := i.tree }).2.1.Alike (setUp i' s { tree := i'.tree }).2.1
  result : (setUp i' s { tree := i'.tree }).2.2 = (setUp i s { tree := i.tree }).2.2

theorem setUp_of_error {i : Invocation} {s : Scan} {f : Fault} (h : settingsOf i s = .error f)
    (surface : Log.Surface) : setUp i s surface = ({}, surface, .error (.settings f)) := by
  rw [setUp, h]

theorem setUp_of_ok {i : Invocation} {s : Scan} {settings : Settings}
    (h : settingsOf i s = .ok settings) (surface : Log.Surface) : setUp i s surface =
      let r := ({} : Log.Journal).configure settings.log i.env i.now surface
      (r.1, r.2.1, match r.2.2 with
        | some f => .error (.log f)
        | none => .ok settings) := by
  rw [setUp, h]
  dsimp only
  obtain ⟨journal, out, fault⟩ := ({} : Log.Journal).configure settings.log i.env i.now surface
  cases fault <;> rfl

/-- The files do not count beyond their shape once the settings are the same. -/
theorem setUpAlike_of_settingsOf_eq {s : Scan} {i i' : Invocation}
    (hsettings : settingsOf i' s = settingsOf i s) (hhome : i'.env.home = i.env.home)
    (hnow : i'.now = i.now) (htree : i.tree.SameShape i'.tree) : SetUpAlike s i i' := by
  have hstart : ({ tree := i.tree } : Log.Surface).Alike { tree := i'.tree } := ⟨htree, rfl⟩
  cases hfound : settingsOf i s with
  | error f =>
    have hsetUp := setUp_of_error hfound { tree := i.tree }
    have hsetUp' := setUp_of_error (hsettings.trans hfound) { tree := i'.tree }
    refine ⟨?_, ?_, ?_⟩ <;> rw [hsetUp, hsetUp']
    exact hstart
  | ok settings =>
    have hsetUp := setUp_of_ok hfound { tree := i.tree }
    have hsetUp' := setUp_of_ok (hsettings.trans hfound) { tree := i'.tree }
    obtain ⟨hjournal, hsurface, hfault⟩ :=
      Log.Journal.configure_eq {} settings.log hhome i.now hstart
    rw [hnow] at hsetUp'
    refine ⟨?_, ?_, ?_⟩ <;> rw [hsetUp, hsetUp']
    · exact hjournal
    · exact hsurface
    · dsimp only
      rw [hfault]

theorem exists_error_of_not_accepted {σ : Setting} {env : Environment} {entries : Toml.Entries}
    (hσ : σ = .level ∨ σ = .format) (h : ¬σ.Accepted env entries) :
    ∃ f, ofTables env entries = .error f := by
  simp only [Setting.Accepted, Classical.not_forall] at h
  obtain ⟨inner, hin, h⟩ := h
  rw [ofTables_eq hin]
  rcases hσ with rfl | rfl
  · cases hlevel : levelIn env inner with
    | ok name => exact absurd ⟨name, hlevel⟩ h
    | error f => exact assemble_of_error (.inl rfl)
  · cases hformat : formatIn env inner with
    | ok name => exact absurd ⟨name, hformat⟩ h
    | error f => exact assemble_of_error (.inr rfl)

/-- Behind a source that goes before it, the value of a setting has no influence: on the settings, on the
log, or on whether the run fails. Behind an option this holds for values that can be used, and for paths
in any case; a level or a format that is none makes the run fail whatever the command line says. -/
theorem hidden_values {σ : Setting} {s : Scan} {i i' : Invocation} {entries entries' : Toml.Entries}
    (h : DifferAt σ s i i' entries entries') :
    ((¬σ.IsFixed i.env i'.env ∨ σ = .logFile →
        σ.Accepted i.env entries ∧ σ.Accepted i'.env entries') → SetUpAlike s i i') ∧
    (σ = .level ∨ σ = .format → ¬σ.Accepted i.env entries →
      ∃ f, ∀ t : Scan, t.path? "--config" = s.path? "--config" →
        (setUp i t { tree := i.tree }).2.2 = .error (.settings f)) := by
  constructor
  · intro haccepted
    exact setUpAlike_of_settingsOf_eq (h.settingsOf_eq haccepted) h.home h.now h.tree
  · intro hσ hrefused
    obtain ⟨f, hf⟩ := exists_error_of_not_accepted hσ hrefused
    refine ⟨f, fun t ht => ?_⟩
    have hload := h.load
    rw [← ht] at hload
    have hsettings : settingsOf i t = .error f := by
      rw [settingsOf_eq_bind hload, hf]
      rfl
    rw [setUp_of_error hsettings]

def shadowed (level : String) : Invocation where
  args := ["operators"]
  env := ⟨[("RPB_CONFIG_PATH", "c"), ("RPB_LOG_LEVEL", "error")], "/home/user"⟩
  tree :=
    let file := "[logging]\nlevel = '" ++ level ++ "'\n"
    ⟨["work"], "/work", [(["work", "c"], .file file.toUTF8.toList)]⟩
  stdin := ""
  now := .null

def levelEntries (level : String) : Toml.Entries :=
  [(.text "logging", .map [(.text "level", .text level)])]

/-- The level of a file that sets nothing else. -/
def onlyLevel? : Toml.Entries → Option String
  | [(.text "logging", .map [(.text "level", .text level)])] => some level
  | _ => none

theorem eq_levelEntries {ε : Type} {r : Except ε Toml.Entries} {level : String}
    (h : r.toOption.bind onlyLevel? = some level) : r = .ok (levelEntries level) := by
  obtain ⟨entries, hentries, hlevel⟩ := Option.bind_eq_some_iff.1 h
  unfold onlyLevel? at hlevel
  split at hlevel
  · rw [toOption_eq_some.1 hentries, Option.some.inj hlevel, levelEntries]
  · exact nomatch hlevel

theorem shadowed_levels_alike :
    DifferAt .level ⟨[], ["operators"]⟩ (shadowed "warning") (shadowed "loud")
      (levelEntries "warning") (levelEntries "loud") ∧
    SetUpAlike ⟨[], ["operators"]⟩ (shadowed "warning") (shadowed "loud") ∧
    ((setUp (shadowed "loud") ⟨[], ["operators"]⟩ { tree := (shadowed "loud").tree }).2.2.toOption.map
      (·.log.level)) = some "error" := by
  have hdiffer : DifferAt .level ⟨[], ["operators"]⟩ (shadowed "warning") (shadowed "loud")
      (levelEntries "warning") (levelEntries "loud") := {
    home := rfl
    text := fun _ _ => rfl
    now := rfl
    tree := .of_lookup rfl rfl fun l => by
      simp only [shadowed, List.lookup_cons, List.lookup_nil]
      cases l == ["work", "c"] <;> rfl
    load := eq_levelEntries (by decide +kernel)
    load' := eq_levelEntries (by decide +kernel)
    tables := fun name => by
      by_cases hname : "logging" = name
      · subst hname
        intro key hkey
        have hne : "level" ≠ key := fun heq => hkey ⟨rfl, heq.symm⟩
        simp [Value.get?, hne]
      · simp [table, levelEntries, Value.get?, hname, TablesAgree]
    hidden := .inr ⟨by decide, rfl⟩ }
  have hfixed : Setting.level.IsFixed (shadowed "warning").env (shadowed "loud").env :=
    ⟨by decide, rfl⟩
  refine ⟨hdiffer, (hidden_values hdiffer).1 fun h => ?_, by decide +kernel⟩
  exact absurd (h.resolve_left fun hno => hno hfixed) (by decide)

def typedOver (level : String) : Invocation where
  args := ["--log-level", "info", "operators"]
  env := ⟨[("RPB_CONFIG_PATH", "c"), ("RPB_LOG_LEVEL", level)], "/home/user"⟩
  tree := ⟨["work"], "/work", []⟩
  stdin := ""
  now := .null

def typedLevel : Scan := ⟨[("--log-level", "info")], ["operators"]⟩

theorem typed_level_hides_no_refusal :
    readProgram (typedOver "info").tree (typedOver "info").args = .ok typedLevel ∧
    DifferAt .level typedLevel (typedOver "info") (typedOver "loud") [] [] ∧
    (∃ settings, (setUp (typedOver "info") typedLevel { tree := (typedOver "info").tree }).2.2 =
      .ok settings) ∧
    (setUp (typedOver "loud") typedLevel { tree := (typedOver "loud").tree }).2.2 =
      .error (.settings (.setting (.level "loud"))) := by
  have hload : (loadFile (typedOver "loud").tree (typedOver "loud").env
      (typedLevel.path? "--config")).result = .ok [] := rfl
  have hname : ¬LogSettings.levels.contains (Text.lowered "loud") = true := by decide +kernel
  have hlevel : levelIn (typedOver "loud").env [] = .error (.setting (.level "loud")) := by
    change (readName LogSettings.levels .level (.text "loud")).mapError Fault.setting = _
    rw [readName_text, if_neg hname]
    rfl
  have hrefused : ofTables (typedOver "loud").env [] = .error (.setting (.level "loud")) := by
    rw [ofTables_eq (show table [] "logging" = .ok [] from rfl), hlevel]
    rfl
  have hsettings : settingsOf (typedOver "loud") typedLevel = .error (.setting (.level "loud")) := by
    rw [settingsOf_eq_bind hload, hrefused]
    rfl
  refine ⟨toOption_eq_some.1 (by decide +kernel), ?_, exists_ok_of_isSome (by decide +kernel), ?_⟩
  · exact {
      home := rfl
      text := fun name hname => by
        simp only [typedOver, Environment.text?, List.lookup_cons, List.lookup_nil]
        rw [show (name == "RPB_LOG_LEVEL") = false from beq_eq_false_iff_ne.2 hname]
      now := rfl
      tree := .of_lookup rfl rfl fun _ => rfl
      load := rfl
      load' := hload
      tables := fun _ _ _ => rfl
      hidden := .inl (by decide +kernel) }
  · rw [setUp_of_error hsettings]

end ReleaseMatch.Terminal
