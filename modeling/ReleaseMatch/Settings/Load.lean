import ReleaseMatch.Settings.Builder
import ReleaseMatch.Settings.File
set_option autoImplicit false

/-!
# Settings

A setting is taken from the environment, then from the configuration file, then from the defaults.
The file may also set what no variable does: whether the log goes to the standard error stream
besides a file, and the limits of rotation.
-/
namespace ReleaseMatch

structure Settings where
  log : LogSettings
  builder : BuilderSettings

namespace Settings

inductive Fault
  | setting (fault : SettingFault)
  | noHome (fault : NoHome)
  | file (fault : FileFault)
  deriving DecidableEq, Repr

def Fault.message : Fault → String
  | .setting fault => fault.message
  | .noHome fault => fault.message
  | .file fault => fault.message

def Fault.kind : Fault → String
  | .setting fault => fault.kind
  | .noHome fault => fault.kind
  | .file fault => fault.kind

def table (entries : Toml.Entries) (name : String) : Except SettingFault Toml.Entries :=
  match Value.get? entries name with
  | none => .ok []
  | some (.map inner) => .ok inner
  | some v => .error (.unusable v.kind "get")

/-- The last part of the name of a kind. -/
def bareKind (v : Value) : String :=
  match v with
  | .moment (.date _) => "date"
  | .moment (.time _) => "time"
  | .moment (.dateTime ..) => "datetime"
  | v => v.kind

def logFile (env : Environment) (entries : Toml.Entries) : Except Fault (Option Files.Path) :=
  match Value.get? entries "file" with
  | none => .ok none
  | some v =>
    if !v.isSet then .ok none
    else
      match v with
      | .text s => ((env.expand (.ofText s)).mapError .noHome).map some
      | v => .error (.setting (.notPath (bareKind v)))

/-- A variable, or else what the file says, or else the default. -/
def choose (env : Environment) (variableName : String) (entries : Toml.Entries) (name : String)
    (default : Value) : Value :=
  match env.text? variableName with
  | some s => .text s
  | none => (Value.get? entries name).getD default

def logDraft (env : Environment) (entries : Toml.Entries) : Except Fault LogDraft := do
  let fileValue ← logFile env entries
  let variableValue ← (env.path? "RPB_LOG_FILE").mapError .noHome
  let d : LogDraft := {}
  return {
    level := choose env "RPB_LOG_LEVEL" entries "level" d.level
    file := variableValue.or fileValue
    format := choose env "RPB_LOG_FORMAT" entries "format" d.format
    includeStderr := (Value.get? entries "include_stderr").getD d.includeStderr
    maxBytes := (Value.get? entries "max_bytes").getD d.maxBytes
    backupCount := (Value.get? entries "backup_count").getD d.backupCount }

def builderDraft (env : Environment) (entries : Toml.Entries) : BuilderDraft :=
  let d : BuilderDraft := {}
  { combinator := choose env "RPB_DEFAULT_COMBINATOR" entries "default_combinator" d.combinator
    caseSensitive :=
      match env.flag? "RPB_DEFAULT_CASE_SENSITIVE" with
      | some b => .bool b
      | none => (Value.get? entries "default_case_sensitive").getD d.caseSensitive }

/-- The settings of the environment and the tables of the file. All about the log comes first. -/
def ofTables (env : Environment) (entries : Toml.Entries) : Except Fault Settings := do
  let logEntries ← (table entries "logging").mapError .setting
  let log ← (← logDraft env logEntries).check.mapError .setting
  let builderEntries ← (table entries "builder").mapError .setting
  let builder ← (builderDraft env builderEntries).check.mapError .setting
  return ⟨log, builder⟩

/-- The path that is given, or else that of the environment. -/
def pathOr (env : Environment) (path : Option Files.Path) : Except NoHome Files.Path :=
  match path with
  | some p => .ok p
  | none => filePath env

def loadFile (tree : Files.Tree) (env : Environment) (path : Option Files.Path) :
    Noted (Except Fault Toml.Entries) :=
  match pathOr env path with
  | .error f => ⟨[], .error (.noHome f)⟩
  | .ok p =>
    let r := readFile tree p
    ⟨r.notices, r.result.mapError .file⟩

def load (tree : Files.Tree) (env : Environment) (path : Option Files.Path) :
    Noted (Except Fault Settings) :=
  let r := loadFile tree env path
  ⟨r.notices, r.result.bind (ofTables env)⟩

end Settings
end ReleaseMatch
