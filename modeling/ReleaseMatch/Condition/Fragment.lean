import ReleaseMatch.Condition.Basic
import ReleaseMatch.Condition.Literal
set_option autoImplicit false

/-!
# Fragments

The pattern of a single condition: a template of its operator around the value, which is escaped
unless the operator takes a pattern, behind the flag that makes matching ignore case where the
operator honours case and the condition does not.
-/
namespace ReleaseMatch

/-- Makes what follows it, up to the end of the group, ignore case. -/
def ignoreCaseFlag : String := "(?i)"

namespace Operator

def template (op : Operator) (literal : String) : String :=
  match op with
  | .contains | .matches => literal
  | .notContains => "^(?!.*" ++ literal ++ ").*$"
  | .startsWith => "^" ++ literal
  | .endsWith => literal ++ "$"
  | .equals => "^" ++ literal ++ "$"
  | .wordBoundary => "\\b" ++ literal ++ "\\b"
  | .isEmpty => "^$"
  | .isNotEmpty => ".+"

/-- The template with its flag, around text that is ready to stand in a pattern. -/
def fragmentOf (op : Operator) (literal : String) (caseSensitive : Bool) : String :=
  if op.honoursCase && !caseSensitive then ignoreCaseFlag ++ op.template literal
  else op.template literal

def fragment (op : Operator) (value : String) (caseSensitive : Bool) : String :=
  op.fragmentOf (if op = .matches then value else Literal.escape value) caseSensitive

end Operator

def Condition.fragment (c : Condition) : String :=
  c.operator.fragment c.value c.caseSensitive.isSet

end ReleaseMatch
