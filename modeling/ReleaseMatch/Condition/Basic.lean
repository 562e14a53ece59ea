import ReleaseMatch.Condition.Operator
import ReleaseMatch.Text.Blank
import ReleaseMatch.Value
set_option autoImplicit false

/-!
# Conditions

A condition asks one thing of a release name. Its field is a label for display. Its case flag is a
value of any kind, since a configured default need not be a boolean: what counts is whether it is
set, and, when conditions are joined, whether all flags are the same.
-/
namespace ReleaseMatch

structure Condition where
  id : String
  operator : Operator
  value : String := ""
  caseSensitive : Value := .bool false
  field : String := "releaseTitle"

namespace Condition

/-- Takes part in compilation: has a value, or an operator that needs none. -/
def isValid (c : Condition) : Bool :=
  !Text.blank c.value || !c.operator.requiresValue

def honoursCase (c : Condition) : Bool :=
  c.operator.honoursCase

end Condition

namespace Value

/-- Whether two flags count as one: numbers by their value, with booleans among them, all else by
kind and content. -/
def sameFlag : Value → Value → Bool
  | .null, .null => true
  | .text a, .text b => a == b
  | .bytes a, .bytes b => a == b
  | .moment a, .moment b => a == b
  | .float x, .float y => x == y || (x.isZero && y.isZero)
  | .float x, v | v, .float x =>
    match v with
    | .bool b => x.toInt? == some (if b then 1 else 0)
    | .int n => x.toInt? == some n
    | _ => false
  | .bool a, .bool b => a == b
  | .bool a, .int n | .int n, .bool a => n == if a then 1 else 0
  | .int a, .int b => a == b
  | _, _ => false

/-- Lists and mappings cannot be compared as flags. -/
def isComparable : Value → Bool
  | .list _ | .map _ => false
  | _ => true

end Value

/-- A case flag that cannot be compared with others, by its kind. -/
structure FlagFault where
  kind : String
  deriving DecidableEq, Repr

def FlagFault.message (f : FlagFault) : String :=
  "unhashable type: " ++ Text.quoted f.kind

def flagsDiffer : List Value → Except FlagFault Bool
  | [] => .ok false
  | flags@(first :: _) =>
    match flags.find? (!·.isComparable) with
    | some v => .error ⟨v.kind⟩
    | none => .ok (flags.any fun v => !first.sameFlag v)

/-- Whether the conditions that honour case disagree about it. -/
def mixedCase (cs : List Condition) : Except FlagFault Bool :=
  flagsDiffer ((cs.filter (·.honoursCase)).map (·.caseSensitive))

end ReleaseMatch
