import ReleaseMatch.Value
set_option autoImplicit false

/-!
# Outcomes

What comes of compiling conditions: nothing, a pattern that can be used, or text that only shows why
there is no pattern.
-/
namespace ReleaseMatch

inductive Outcome
  | empty
  | compiled (pattern : String)
  | advisory (text : String) (positional mixedCase : Bool) (messages : List String)
  deriving DecidableEq, Repr

structure FlatOutcome where
  pattern : Option String
  positional : Bool
  mixedCase : Bool
  deriving DecidableEq, Repr

def FlatOutcome.hasConflict (f : FlatOutcome) : Bool :=
  f.positional || f.mixedCase

namespace Outcome

def tag : Outcome → String
  | .empty => "empty"
  | .compiled _ => "compiled"
  | .advisory .. => "advisory"

def flat : Outcome → FlatOutcome
  | .empty => ⟨none, false, false⟩
  | .compiled pattern => ⟨some pattern, false, false⟩
  | .advisory text positional mixedCase _ => ⟨some text, positional, mixedCase⟩

def messages : Outcome → List String
  | .advisory _ _ _ messages => messages
  | _ => []

def isAppliable : Outcome → Bool
  | .compiled _ => true
  | _ => false

inductive Refusal
  | nothingToApply
  | notCombinable (messages : List String)
  deriving DecidableEq, Repr

def Refusal.message : Refusal → String
  | .nothingToApply => "No valid conditions; there is no pattern to apply"
  | .notCombinable messages =>
    "Conditions cannot be combined into one pattern: " ++ "; ".intercalate messages

/-- The pattern, or the refusal to guess one. -/
def require : Outcome → Except Refusal String
  | .empty => .error .nothingToApply
  | .compiled pattern => .ok pattern
  | .advisory _ _ _ messages => .error (.notCombinable messages)

/-- The outcome for people. -/
def report : Outcome → String
  | .empty => "No valid conditions; nothing to compile."
  | .compiled pattern => pattern
  | .advisory text _ _ messages =>
    "\n".intercalate ("Cannot combine these conditions into one pattern."
      :: ("  Advisory (not a regex): " ++ text) :: messages.map ("  - " ++ ·))

/-- The outcome for programs. -/
def record (o : Outcome) : Value :=
  .map [(.text "outcome", .text o.tag),
    (.text "pattern", (o.flat.pattern.map Value.text).getD .null),
    (.text "positional_and_conflict", .bool o.flat.positional),
    (.text "mixed_case_sensitivity", .bool o.flat.mixedCase),
    (.text "messages", .list (o.messages.map .text))]

end Outcome
end ReleaseMatch
