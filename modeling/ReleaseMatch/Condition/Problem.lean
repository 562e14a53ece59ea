import ReleaseMatch.Condition.Operator
set_option autoImplicit false

/-!
# Problems of a conjunction

Why conditions joined by AND may have no single pattern. Each problem is reported once, whatever
the number and order of the conditions behind it.
-/
namespace ReleaseMatch

inductive Problem
  | repeated (op : Operator)
  | equalsAmongOthers
  | anchored (op : Operator)
  | besidePositional (op : Operator)
  | mixedCase
  deriving DecidableEq, Repr

def Problem.message : Problem → String
  | .repeated op => "Only one '" ++ op.label ++ "' condition can be combined with AND"
  | .equalsAmongOthers =>
    "'" ++ Operator.equals.label ++ "' cannot be combined with other conditions using AND"
  | .anchored op => "'" ++ op.label ++ "' anchors the whole value and cannot be combined using AND"
  | .besidePositional op =>
    "'" ++ op.label ++ "' cannot be combined with positional conditions using AND"
  | .mixedCase =>
    "Case sensitivity must be uniform for AND; make every condition either case-sensitive or "
      ++ "case-insensitive"

/-- The problem that an operator has by itself, or beside positional ones. -/
def ownProblem (positional : Bool) (op : Operator) : Option Problem :=
  if op.isAnchoring then some (.anchored op)
  else if positional && !op.isComposable then some (.besidePositional op)
  else none

/-- The problems of the operators: repetitions first, then the clash of an exact value with the
rest, then those of single operators in order of their first appearance. -/
def positionalProblems (ops : List Operator) : List Problem :=
  let repetitions :=
    [Operator.startsWith, .endsWith, .equals].filter fun op => 1 < ops.count op
  let clash :=
    ops.contains .equals && [Operator.startsWith, .endsWith, .contains].any ops.contains
  repetitions.map .repeated
    ++ (if clash then [.equalsAmongOthers] else [])
    ++ ops.eraseDups.filterMap (ownProblem (ops.any (·.isPositional)))

end ReleaseMatch
