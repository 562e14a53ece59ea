import ReleaseMatch.Pattern.Scan
import ReleaseMatch.Pattern.Syntax
set_option autoImplicit false

/-!
# Flags

What holds from a place in a pattern to the end of its group. Flags for the whole pattern cannot be
turned off, and no flag both on and off.
-/
namespace ReleaseMatch.Pattern

inductive Flag
  | ascii
  | bestMatch
  | enhanceMatch
  | fullCase
  | ignoreCase
  | localeAware
  | multiline
  | longest
  | backwards
  | dotAll
  | unicode
  | oldVersion
  | newVersion
  | wideWord
  | verbose
  deriving DecidableEq, Repr

def Flag.isGlobal : Flag → Bool
  | .bestMatch | .enhanceMatch | .longest | .backwards | .oldVersion | .newVersion => true
  | _ => false

abbrev Flags := List Flag

namespace Flags

def standard : Flags := [.fullCase]

def caseMode (flags : Flags) : CaseMode :=
  if !flags.contains .ignoreCase then .exact
  else if flags.contains .fullCase && !flags.contains .ascii then .full
  else .simple

def isVerbose (flags : Flags) : Bool := flags.contains .verbose

def change (flags on off : Flags) : Flags :=
  (on ++ flags).filter fun f => !off.contains f

/-- A property in the range of characters that the flags ask for. -/
def narrow (flags : Flags) (p : Property) : Property :=
  if flags.contains .ascii then .asciiOnly p else p

end Flags

def Flag.ofLetter? : Char → Option Flag
  | 'a' => some .ascii
  | 'b' => some .bestMatch
  | 'e' => some .enhanceMatch
  | 'f' => some .fullCase
  | 'i' => some .ignoreCase
  | 'L' => some .localeAware
  | 'm' => some .multiline
  | 'p' => some .longest
  | 'r' => some .backwards
  | 's' => some .dotAll
  | 'u' => some .unicode
  | 'w' => some .wideWord
  | 'x' => some .verbose
  | _ => none

def readFlag (verbose : Bool) (cs : List Char) : Option (Flag × List Char) :=
  match next verbose cs with
  | some ('V', rest) =>
    match next verbose rest with
    | some ('0', rest) => some (.oldVersion, rest)
    | some ('1', rest) => some (.newVersion, rest)
    | _ => none
  | some (c, rest) => (Flag.ofLetter? c).map fun f => (f, rest)
  | none => none

/-- The flags at the start of a text, as many as there are. `fuel` bounds their number. -/
def readFlags (verbose : Bool) : Nat → List Char → Flags × List Char
  | 0, cs => ([], cs)
  | fuel + 1, cs =>
    match readFlag verbose cs with
    | some (f, rest) =>
      let (fs, rest) := readFlags verbose fuel rest
      (f :: fs, rest)
    | none => ([], cs)

/-- The flags to turn on and the flags to turn off. -/
def readFlagChange (verbose : Bool) (cs : List Char) :
    Except Fault ((Flags × Flags) × List Char) := do
  let (on, rest) := readFlags verbose cs.length cs
  let (off, rest) ←
    match accept verbose ['-'] rest with
    | none => pure (([] : Flags), rest)
    | some rest =>
      match readFlags verbose rest.length rest with
      | ([], rest) => fault .noFlagsOff rest
      | found => pure found
  if off.any (·.isGlobal) then fault .globalFlagOff rest
  else if on.any off.contains then fault .flagOnAndOff rest
  else return ((on, off), rest)

end ReleaseMatch.Pattern
