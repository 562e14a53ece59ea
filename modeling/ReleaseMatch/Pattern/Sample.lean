import ReleaseMatch.Pattern.Match
import ReleaseMatch.Pattern.Reader
import ReleaseMatch.Condition.Outcome
set_option autoImplicit false

/-!
# Samples

Trying a pattern on sample texts. Blank samples are passed over; the others are reported one a line.
-/
namespace ReleaseMatch

open Pattern

structure Tester where
  pattern : String
  regex : Regex
  deriving Repr

structure SampleResult where
  text : String
  matched : Option String
  deriving DecidableEq, Repr

namespace Tester

def read (pattern : String) : Except Rejection Tester :=
  (Regex.read pattern.toList).map (Tester.mk pattern)

inductive Fault
  | refused (refusal : Outcome.Refusal)
  | rejected (pattern : String) (rejection : Rejection)
  deriving DecidableEq, Repr

def ofOutcome (o : Outcome) : Except Fault Tester :=
  match o.require with
  | .error refusal => .error (.refused refusal)
  | .ok pattern => (Tester.read pattern).mapError (.rejected pattern)

def match? (t : Tester) (text : String) : Option String :=
  (t.regex.search? text.toList).map String.ofList

def accepts (t : Tester) (text : String) : Bool :=
  (t.match? text).isSome

def tryAll (t : Tester) (samples : List String) : List SampleResult :=
  (samples.filter fun s => !Text.blank s).map fun s => ⟨s, t.match? s⟩

end Tester

def SampleResult.line (r : SampleResult) : String :=
  match r.matched with
  | some m => "MATCH     " ++ r.text ++ "  (matched: " ++ Text.quoted m ++ ")"
  | none => "NO MATCH  " ++ r.text

def Pattern.Rejection.report (pattern : String) : Rejection → String
  | .malformed fault => "Invalid regex pattern " ++ Text.quoted pattern ++ ": " ++ fault.message
  | r => r.message

end ReleaseMatch
