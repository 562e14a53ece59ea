import ReleaseMatch.Files.Path
import ReleaseMatch.Log.Level
import ReleaseMatch.Number.Read
import ReleaseMatch.Text.Blank
import ReleaseMatch.Text.Case
set_option autoImplicit false

/-!
# The environment

The variables of the environment, which are texts, and the readings of them as numbers, flags and
paths.
-/
namespace ReleaseMatch

structure Environment where
  assigned : List (String × String)
  home : Files.Homes

namespace Environment

def logger : String := loggerName ["config", "env"]

def text? (env : Environment) (name : String) : Option String := env.assigned.lookup name

/-- An integer. A text that is none counts as not given, with a warning. -/
def int? (env : Environment) (name : String) : Noted (Option Int) :=
  match env.text? name with
  | none => ⟨[], none⟩
  | some s =>
    match Number.readInt 10 s.toList with
    | .ok n => ⟨[], some n⟩
    | .error _ =>
      ⟨[⟨.warning, logger, "Invalid integer value for " ++ name ++ ": " ++ s⟩], none⟩

/-- The words for yes. All others mean no. -/
def yesWords : List String := ["true", "1", "yes", "on"]

def isYes (s : String) : Bool :=
  yesWords.contains (Text.lowered (String.ofList (Text.trim s.toList)))

def flag? (env : Environment) (name : String) : Option Bool := (env.text? name).map isYes

def expand (env : Environment) (p : Files.Path) : Except NoHome Files.Path :=
  p.expandHome env.home

/-- A path. The empty text counts as not given. -/
def path? (env : Environment) (name : String) : Except NoHome (Option Files.Path) :=
  match env.text? name with
  | none => .ok none
  | some s => if s = "" then .ok none else (env.expand (.ofText s)).map some

end Environment
end ReleaseMatch
