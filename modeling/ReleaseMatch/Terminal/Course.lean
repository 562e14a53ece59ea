import ReleaseMatch.Log.Level
import ReleaseMatch.Terminal.ExitCode
set_option autoImplicit false

/-!
# Courses

What a command does, one thing after another: lines for the standard output, complaints for the
standard error stream and notes for the log; and how it ends.
-/
namespace ReleaseMatch.Terminal

inductive Event
  | print (line : String)
  | complain (line : String)
  | note (n : Notice)
  deriving DecidableEq, Repr

/-- A command ends with an exit code, or breaks off with an error of some kind. -/
inductive Ending
  | exit (code : Nat)
  | broken (kind message : String)
  deriving DecidableEq, Repr

structure Course where
  events : List Event := []
  ending : Ending
  deriving DecidableEq, Repr

namespace Course

def exit (code : ExitCode) (events : List Event := []) : Course := ⟨events, .exit code.toNat⟩

def after (events : List Event) (c : Course) : Course := { c with events := events ++ c.events }

end Course

def usageCode : Nat := 2

def brokenCode : Nat := 1

def Ending.code : Ending → Nat
  | .exit code => code
  | .broken .. => brokenCode

end ReleaseMatch.Terminal
