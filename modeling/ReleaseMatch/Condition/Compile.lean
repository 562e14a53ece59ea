import ReleaseMatch.Condition.Fragment
import ReleaseMatch.Condition.Problem
import ReleaseMatch.Condition.Outcome
set_option autoImplicit false

/-!
# Compiling conditions

One condition is its own pattern. Conditions joined by OR are alternatives, each with its own
anchors. Conditions joined by AND become one anchored expression when a positional operator is among
them and a row of lookaheads otherwise, unless there is a problem: then the fragments are only shown.
-/
namespace ReleaseMatch

def combineOr (fragments : List String) : String :=
  "|".intercalate fragments

def composeLookaheads (fragments : List String) : String :=
  String.join (fragments.map fun f => "(?=.*" ++ f ++ ")") ++ ".*"

/-- The escaped value of the last condition with the operator. -/
def lastLiteral? (op : Operator) (cs : List Condition) : Option String :=
  ((cs.filter (·.operator == op)).getLast?).map fun c => Literal.escape c.value

/-- Start, values in between and end of one anchored expression. Whatever is neither a start nor an
end stands in between. -/
def composeAnchored (cs : List Condition) : String :=
  let flag :=
    match cs with
    | [] => ignoreCaseFlag
    | c :: _ => if c.caseSensitive.isSet then "" else ignoreCaseFlag
  let between := (cs.filter fun c => c.operator != .startsWith && c.operator != .endsWith).map
    fun c => ".*" ++ Literal.escape c.value
  let tail :=
    match lastLiteral? .endsWith cs with
    | some literal => ".*" ++ literal ++ "$"
    | none => ".*$"
  flag ++ "^" ++ (lastLiteral? .startsWith cs).getD "" ++ String.join between ++ tail

def combineAnd (cs : List Condition) (fragments : List String) : Except FlagFault Outcome := do
  let ops := cs.map (·.operator)
  let problems := positionalProblems ops
  let mixed ← mixedCase cs
  if !problems.isEmpty || mixed then
    let all := problems ++ (if mixed then [Problem.mixedCase] else [])
    return .advisory (" && ".intercalate fragments) (!problems.isEmpty) mixed (all.map (·.message))
  else if ops.any (·.isPositional) then
    return .compiled (composeAnchored cs)
  else
    return .compiled (composeLookaheads fragments)

def compile (cs : List Condition) (combinator : Combinator) : Except FlagFault Outcome :=
  let valid := cs.filter (·.isValid)
  let fragments := valid.map (·.fragment)
  match fragments, combinator with
  | [], _ => .ok .empty
  | [fragment], _ => .ok (.compiled fragment)
  | _, .or => .ok (.compiled (combineOr fragments))
  | _, .and => combineAnd valid fragments

end ReleaseMatch
