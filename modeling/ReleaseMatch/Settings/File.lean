import ReleaseMatch.Files.Tree
import ReleaseMatch.Settings.Environment
import ReleaseMatch.Toml.Reader
set_option autoImplicit false

/-!
# The configuration file

The tables of the configuration file. A file that is missing, or that cannot be read, or whose text
is malformed counts as empty, with a note in the log; faults below the level of its text come
through.
-/
namespace ReleaseMatch.Settings

def logger : String := loggerName ["config", "loader"]

/-- Where the file is if no variable says so. -/
def defaultFile : Files.Path := .ofText "~/.rpb/config.toml"

def filePath (env : Environment) : Except NoHome Files.Path := do
  match ← env.path? "RPB_CONFIG_PATH" with
  | some p => return p
  | none => env.expand defaultFile

inductive FileFault
  | system (fault : Files.Fault)
  | undecodable (fault : Text.Utf8.Fault)
  | tooManyDigits (count : Nat)
  deriving DecidableEq, Repr

namespace FileFault

def message : FileFault → String
  | .system fault => fault.message
  | .undecodable fault => fault.message
  | .tooManyDigits count => (Toml.Fault.tooManyDigits count).message

def kind : FileFault → String
  | .system fault => fault.kind
  | .undecodable _ => "UnicodeDecodeError"
  | .tooManyDigits _ => "ValueError"

end FileFault

def ignored (path : Files.Path) (reason : String) : Noted (Except FileFault Toml.Entries) :=
  ⟨[⟨.warning, logger, "Failed to load config file " ++ path.text ++ ": " ++ reason⟩], .ok []⟩

def readBytes (path : Files.Path) (bytes : List UInt8) : Noted (Except FileFault Toml.Entries) :=
  match Text.Utf8.decode bytes with
  | .error f => ⟨[], .error (.undecodable f)⟩
  | .ok cs =>
    match Toml.read cs with
    | .ok entries => ⟨[⟨.debug, logger, "Loaded config from " ++ path.text⟩], .ok entries⟩
    | .error (.tooManyDigits count) => ⟨[], .error (.tooManyDigits count)⟩
    | .error f => ignored path f.message

def readFile (tree : Files.Tree) (path : Files.Path) : Noted (Except FileFault Toml.Entries) :=
  match tree.holds path.text with
  | .error f => ⟨[], .error (.system f)⟩
  | .ok false => ⟨[⟨.debug, logger, "Config file not found: " ++ path.text⟩], .ok []⟩
  | .ok true =>
    match tree.read path.text with
    | .ok bytes => readBytes path bytes
    | .error f => ignored path f.message

end ReleaseMatch.Settings
