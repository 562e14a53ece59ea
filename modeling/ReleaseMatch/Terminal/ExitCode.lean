import ReleaseMatch.Condition.Outcome
set_option autoImplicit false

/-!
# Exit codes

Below 10 all is well; from 10 a document or the configuration is at fault, from 20 a file, from 40
the conditions, which leave nothing to apply.
-/
namespace ReleaseMatch

inductive ExitCode
  | success
  | validationError
  | configError
  | targetNotFound
  | emptyPattern
  | advisoryPattern
  | invalidPattern
  deriving DecidableEq, Repr

namespace ExitCode

def all : List ExitCode :=
  [.success, .validationError, .configError, .targetNotFound, .emptyPattern, .advisoryPattern,
    .invalidPattern]

def toNat : ExitCode → Nat
  | .success => 0
  | .validationError => 10
  | .configError => 11
  | .targetNotFound => 20
  | .emptyPattern => 40
  | .advisoryPattern => 41
  | .invalidPattern => 42

def name : ExitCode → String
  | .success => "SUCCESS"
  | .validationError => "VALIDATION_ERROR"
  | .configError => "CONFIG_ERROR"
  | .targetNotFound => "TARGET_NOT_FOUND"
  | .emptyPattern => "EMPTY_PATTERN"
  | .advisoryPattern => "ADVISORY_PATTERN"
  | .invalidPattern => "INVALID_PATTERN"

def ofOutcome : Outcome → ExitCode
  | .empty => .emptyPattern
  | .compiled _ => .success
  | .advisory .. => .advisoryPattern

end ExitCode
end ReleaseMatch
