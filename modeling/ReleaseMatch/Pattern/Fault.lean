set_option autoImplicit false

/-!
# Faults of patterns

Why a text is no pattern. A fault stands at a place in the text, of which a reader knows how many
characters come after it.
-/
namespace ReleaseMatch.Pattern

inductive Cause
  | unbalanced
  | missing (what : String)
  | nothingToRepeat
  | multipleRepeat
  | repeatTooBig
  | leastAboveMost
  | badEscape (c : Char)
  | endOfPattern
  | incompleteEscape (digits : String)
  | badHexEscape (digits : String)
  | unterminatedSet
  | badRange
  | missingName
  | badName
  | unknownExtension
  | unknownVerb
  | unknownGroup
  | invalidReference
  | ambiguousReference
  | missingRelativeNumber
  | invalidRelativeNumber
  | globalFlagOff
  | flagOnAndOff
  | noFlagsOff
  | unknownProperty
  | unknownPropertyValue
  | undefinedList
  | undefinedCharacter
  | expectedLook
  | expectedSet
  | expectedBrace
  | nothingForConstraint
  | badCost
  | repeatedCost
  | secondEquation
  deriving DecidableEq, Repr

def Cause.message : Cause → String
  | .unbalanced => "unbalanced parenthesis"
  | .missing what => "missing " ++ what
  | .nothingToRepeat => "nothing to repeat"
  | .multipleRepeat => "multiple repeat"
  | .repeatTooBig => "repeat count too big"
  | .leastAboveMost => "min repeat greater than max repeat"
  | .badEscape c => "bad escape \\" ++ c.toString
  | .endOfPattern => "bad escape (end of pattern)"
  | .incompleteEscape digits => "incomplete escape \\" ++ digits
  | .badHexEscape digits => "bad hex escape \\" ++ digits
  | .unterminatedSet => "unterminated character set"
  | .badRange => "bad character range"
  | .missingName => "missing group name"
  | .badName => "bad character in group name"
  | .unknownExtension => "unknown extension"
  | .unknownVerb => "unknown verb"
  | .unknownGroup => "unknown group"
  | .invalidReference => "invalid group reference"
  | .ambiguousReference => "ambiguous group reference"
  | .missingRelativeNumber => "missing relative group number"
  | .invalidRelativeNumber => "invalid relative group number"
  | .globalFlagOff => "bad inline flags: cannot turn off global flag"
  | .flagOnAndOff => "bad inline flags: flag turned on and off"
  | .noFlagsOff => "bad inline flags: no flags after '-'"
  | .unknownProperty => "unknown property"
  | .unknownPropertyValue => "unknown property value"
  | .undefinedList => "undefined named list"
  | .undefinedCharacter => "undefined character name"
  | .expectedLook => "expected lookaround conditional"
  | .expectedSet => "expected character set"
  | .expectedBrace => "expected \x7d"
  | .nothingForConstraint => "nothing for fuzzy constraint"
  | .badCost => "bad fuzzy cost limit"
  | .repeatedCost => "repeated fuzzy cost"
  | .secondEquation => "more than one cost equation"

/-- A cause with the number of characters after the place at which it shows. -/
structure Fault where
  cause : Cause
  left : Nat
  deriving DecidableEq, Repr

/-- A fault with a place counted from the start, in the pattern at fault. -/
structure SyntaxFault where
  cause : Cause
  position : Nat
  pattern : List Char
  deriving DecidableEq, Repr

def Fault.inPattern (f : Fault) (pattern : List Char) : SyntaxFault :=
  ⟨f.cause, pattern.length - f.left, pattern⟩

/-- The line and the column are given when there is more than one line. -/
def SyntaxFault.message (f : SyntaxFault) : String :=
  let before := f.pattern.take f.position
  let place := f.cause.message ++ " at position " ++ toString f.position
  if '\n' ∈ f.pattern then
    let line := before.count '\n' + 1
    let column := (before.reverse.takeWhile (· != '\n')).length + 1
    place ++ " (line " ++ toString line ++ ", column " ++ toString column ++ ")"
  else place

/-- Why a text is refused as a pattern: it is not well-formed, or it asks for what cannot be had
together. -/
inductive Rejection
  | malformed (fault : SyntaxFault)
  | mixedVersions
  | mixedEncodings
  deriving DecidableEq, Repr

def Rejection.message : Rejection → String
  | .malformed fault => fault.message
  | .mixedVersions => "VERSION0 and VERSION1 flags are mutually incompatible"
  | .mixedEncodings => "ASCII, LOCALE and UNICODE flags are mutually incompatible"

end ReleaseMatch.Pattern
