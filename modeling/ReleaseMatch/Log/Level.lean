import ReleaseMatch.Text.Case
set_option autoImplicit false

/-!
# Levels of log records

Levels are numbers, of which five have a name besides the one that stands for no level at all.
-/
namespace ReleaseMatch

inductive Level
  | debug
  | info
  | warning
  | error
  | critical
  deriving DecidableEq, Repr, Inhabited

namespace Level

def all : List Level := [.debug, .info, .warning, .error, .critical]

def number : Level → Nat
  | .debug => 10
  | .info => 20
  | .warning => 30
  | .error => 40
  | .critical => 50

def name : Level → String
  | .debug => "DEBUG"
  | .info => "INFO"
  | .warning => "WARNING"
  | .error => "ERROR"
  | .critical => "CRITICAL"

/-- The name that a number has. Zero stands for no level at all. -/
def named? (n : Int) : Option String :=
  if n = 0 then some "NOTSET" else (all.find? fun l => (l.number : Int) == n).map name

/-- The level of a setting, in any case. All names but three are those of `info`. -/
def ofName (s : String) : Level :=
  let name := Text.folded s
  if name = "debug" then .debug
  else if name = "warning" then .warning
  else if name = "error" then .error
  else .info

end Level

structure Notice where
  level : Level
  logger : String
  message : String
  deriving DecidableEq, Repr

def loggerName (parts : List String) : String :=
  ".".intercalate ("release_pattern_builder" :: parts)

structure Noted (α : Type) where
  notices : List Notice
  result : α

end ReleaseMatch
