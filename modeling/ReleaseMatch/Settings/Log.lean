import ReleaseMatch.Files.Path
import ReleaseMatch.Text.Case
import ReleaseMatch.Value
set_option autoImplicit false

/-!
# Settings of the log

The settings as they are given may hold values of any kind. Those that are accepted have the name of
a level and of a format, in any case, and limits that are not too low for the rotation of files.
-/
namespace ReleaseMatch

inductive SettingFault
  | unusable (kind use : String)
  | notNumber (kind : String)
  | notPath (kind : String)
  | level (given : String)
  | format (given : String)
  | maxBytes
  | backupCount
  | combinator (given : String)
  deriving DecidableEq, Repr

namespace SettingFault

def notOneOf (name choices given : String) : String :=
  name ++ " must be one of \x7b" ++ choices ++ "\x7d, got " ++ given

def message : SettingFault → String
  | .unusable kind use => "'" ++ kind ++ "' object has no attribute '" ++ use ++ "'"
  | .notNumber kind => "'<' not supported between instances of '" ++ kind ++ "' and 'int'"
  | .notPath kind => "expected str, bytes or os.PathLike object, not " ++ kind
  | .level given => notOneOf "level" "'debug', 'error', 'info', 'warning'" given
  | .format given => notOneOf "format" "'json', 'text'" given
  | .maxBytes => "max_bytes must be positive"
  | .backupCount => "backup_count must not be negative"
  | .combinator given => notOneOf "default_combinator" "'AND', 'OR'" given

def kind : SettingFault → String
  | .unusable .. => "AttributeError"
  | .notNumber _ => "TypeError"
  | .notPath _ => "TypeError"
  | _ => "ValueError"

end SettingFault

/-- Whether a number is below an integer. What is no number cannot be told. -/
def Value.isBelow (v : Value) (n : Int) : Except SettingFault Bool :=
  match v with
  | .bool b => .ok (decide ((if b then 1 else 0 : Int) < n))
  | .int m => .ok (decide (m < n))
  | .float x => .ok (x.ltInt n)
  | v => .error (.notNumber v.kind)

/-- The text in a value, which is put to some use. -/
def Value.textFor (v : Value) (use : String) : Except SettingFault String :=
  match v with
  | .text s => .ok s
  | v => .error (.unusable v.kind use)

structure LogDraft where
  level : Value := .text "info"
  file : Option Files.Path := none
  format : Value := .text "text"
  includeStderr : Value := .bool false
  maxBytes : Value := .int 10485760
  backupCount : Value := .int 5

structure LogSettings where
  level : String
  file : Option Files.Path
  format : String
  includeStderr : Value
  maxBytes : Value
  backupCount : Value

def LogSettings.levels : List String := ["debug", "info", "warning", "error"]

def LogSettings.formats : List String := ["text", "json"]

/-- Level, format and limits are looked at in this order. -/
def LogDraft.check (d : LogDraft) : Except SettingFault LogSettings := do
  let level ← d.level.textFor "lower"
  if !LogSettings.levels.contains (Text.lowered level) then throw (.level level)
  let format ← d.format.textFor "lower"
  if !LogSettings.formats.contains (Text.lowered format) then throw (.format format)
  if ← d.maxBytes.isBelow 1 then throw .maxBytes
  if ← d.backupCount.isBelow 0 then throw .backupCount
  return ⟨level, d.file, format, d.includeStderr, d.maxBytes, d.backupCount⟩

/-- Settings that go before others, where they are given. -/
structure LogOverride where
  level : Option Value := none
  file : Option Files.Path := none
  format : Option Value := none
  includeStderr : Option Value := none

/-- The settings with others in front of them. The limits stay. -/
def LogSettings.override (base : LogSettings) (o : LogOverride) : Except SettingFault LogSettings :=
  LogDraft.check {
    level := o.level.getD (.text base.level)
    file := o.file.or base.file
    format := o.format.getD (.text base.format)
    includeStderr := o.includeStderr.getD base.includeStderr
    maxBytes := base.maxBytes
    backupCount := base.backupCount }

end ReleaseMatch
