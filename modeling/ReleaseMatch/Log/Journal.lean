import ReleaseMatch.Log.Sink
import ReleaseMatch.Settings.Environment
import ReleaseMatch.Settings.Log
set_option autoImplicit false

/-!
# The journal

The state of the log: its level, its sinks, and the silent sinks that keep a program that has not set
up the log from being bothered. Setting up the log replaces all sinks. If the file cannot be opened
the log goes to the standard error stream, and says so.
-/
namespace ReleaseMatch.Log

structure Journal where
  level : Level := .warning
  sinks : List Sink := []
  silent : Nat := 1

structure ReservedName where
  name : String
  deriving DecidableEq, Repr

def ReservedName.message (n : ReservedName) : String :=
  Text.quoted ("Attempt to overwrite " ++ Text.quoted n.name ++ " in LogRecord")

inductive SetupFault
  | noHome (fault : NoHome)
  | path (fault : Files.Fault)
  deriving DecidableEq, Repr

def SetupFault.message : SetupFault → String
  | .noHome fault => fault.message
  | .path fault => fault.message

def SetupFault.kind : SetupFault → String
  | .noHome fault => fault.kind
  | .path fault => fault.kind

inductive Opened
  | target (t : FileTarget)
  | unavailable (fault : Files.Fault)
  | broken (fault : SetupFault)

/-- A null character in a path is no matter of the files. -/
def Opened.ofFault : Files.Fault → Opened
  | .nullCharacter => .broken (.path .nullCharacter)
  | f => .unavailable f

/-- Opens the file at a path, and makes the directories above it. -/
def openFile (settings : LogSettings) (env : Environment) (path : Files.Path)
    (tree : Files.Tree) : Files.Tree × Opened :=
  match env.expand path with
  | .error f => (tree, .broken (.noHome f))
  | .ok path =>
    match tree.makeDirs path.parent.names.length path.parent with
    | (tree, some f) => (tree, .ofFault f)
    | (tree, none) =>
      let shown := tree.absoluteText path
      match tree.openEnd (tree.absoluteNames path) shown with
      | .ok (l, tree) =>
        (tree, .target ⟨l, shown, settings.maxBytes, settings.backupCount⟩)
      | .error f => (tree, .ofFault f)

namespace Journal

def silence (j : Journal) : Journal := if j.silent = 0 then { j with silent := 1 } else j

def write (j : Journal) (level : Level) (r : Record) (out : Surface) : Surface :=
  if level.number < j.level.number then out
  else j.sinks.foldl (fun out s => s.emit level r out) out

def reserved? (given : List (String × Value)) : Option ReservedName :=
  ((given.map (·.1)).find? ownNames.contains).map .mk

/-- Sends a record to the log. Only if its level is high enough are its attributes looked at. -/
def log (j : Journal) (level : Level) (r : Record) (out : Surface) :
    Surface × Option ReservedName :=
  if level.number < j.level.number then (out, none)
  else
    match reserved? r.given with
    | some n => (out, some n)
    | none => (j.write level r out, none)

def note (j : Journal) (now : Value) (n : Notice) (out : Surface) : Surface :=
  j.write n.level
    { logger := n.logger, level := .int n.level.number, template := .text n.message, created := now }
    out

def logger : String := loggerName ["logging", "config"]

def unavailable (path : Files.Path) (f : Files.Fault) : Notice :=
  ⟨.warning, logger, String.join ["Could not open log file ", path.text, ": ", f.message,
    "; logging to stderr"]⟩

def sinksFor (settings : LogSettings) (file : Option FileTarget) : List Sink :=
  let level := Level.ofName settings.level
  let format := Format.ofName settings.format
  (file.map fun t => (⟨.file t, level, format⟩ : Sink)).toList
    ++ if settings.includeStderr.isSet || file.isNone then [⟨.stderr, level, format⟩] else []

/-- Sets up the log. Level and sinks are those of the settings even if the file turns out to be
broken; then there are no sinks. -/
def configure (j : Journal) (settings : LogSettings) (env : Environment) (now : Value)
    (out : Surface) : Journal × Surface × Option SetupFault :=
  let bare : Journal := { j with level := Level.ofName settings.level, sinks := [] }
  match settings.file with
  | none => ({ bare with sinks := sinksFor settings none }, out, none)
  | some path =>
    match openFile settings env path out.tree with
    | (tree, .target t) =>
      ({ bare with sinks := sinksFor settings (some t) }, { out with tree }, none)
    | (tree, .unavailable f) =>
      let j := { bare with sinks := sinksFor settings none }
      (j, j.note now (unavailable path f) { out with tree }, none)
    | (tree, .broken f) => (bare, { out with tree }, some f)

end Journal
end ReleaseMatch.Log
