import ReleaseMatch.Number.Word
import ReleaseMatch.Yaml.Mark
set_option autoImplicit false

/-!
# Faults of documents

A fault has a problem, mostly with its place, and may have a context with a place of its own. A
context at the place of the problem is not shown twice.
-/
namespace ReleaseMatch.Yaml

inductive Context
  | scanning (what : String)
  | parsing (what : String)
  | composingAnchor (name : String)
  | singleDocument
  | constructing (what : String)
  deriving DecidableEq, Repr

def Context.message : Context → String
  | .scanning what => "while scanning " ++ what
  | .parsing what => "while parsing " ++ what
  | .composingAnchor name =>
    "found duplicate anchor " ++ Text.quoted name ++ "; first occurrence"
  | .singleDocument => "expected a single document in the stream"
  | .constructing what => "while constructing " ++ what

inductive Problem
  | cannotStartToken (c : Char)
  | noColon
  | notAllowed (what : String)
  | expectedChar (what : String) (found : Char)
  | zeroIndentation
  | endOfStream
  | documentSeparator
  | hexDigits (count : Nat) (found : Char)
  | unknownEscape (c : Char)
  | noCharacter (code : Nat)
  | badEncoding (message : String)
  | expectedToken (what : String) (found : String)
  | duplicateDirective
  | incompatibleVersion
  | duplicateHandle (handle : String)
  | undefinedHandle (handle : String)
  | undefinedAlias (name : String)
  | secondAnchor
  | secondDocument
  | unhashableKey
  | unknownTag (tag : String)
  | expectedNode (what : String) (found : String)
  | itemCount (count : Nat)
  | badBase64 (message : String)
  deriving DecidableEq, Repr

/-- Codes for one half of a pair. -/
def isHalf (code : Nat) : Bool := 0xD800 ≤ code && code < 0xE000

def Problem.message : Problem → String
  | .cannotStartToken c =>
    "found character " ++ Text.quoted c.toString ++ " that cannot start any token"
  | .noColon => "could not find expected ':'"
  | .notAllowed what => what ++ " are not allowed here"
  | .expectedChar what found => "expected " ++ what ++ ", but found " ++ Text.quoted found.toString
  | .zeroIndentation => "expected indentation indicator in the range 1-9, but found 0"
  | .endOfStream => "found unexpected end of stream"
  | .documentSeparator => "found unexpected document separator"
  | .hexDigits count found =>
    "expected escape sequence of " ++ toString count ++ " hexadecimal numbers, but found "
      ++ Text.quoted found.toString
  | .unknownEscape c => "found unknown escape character " ++ Text.quoted c.toString
  | .noCharacter code =>
    if isHalf code then
      "'utf-8' codec can't encode character '\\u" ++ String.ofList (Text.hex 4 code)
        ++ "': surrogates not allowed"
    else if Number.inWord32 code then "chr() arg not in range(0x110000)"
    else "Python int too large to convert to C int"
  | .badEncoding message => message
  | .expectedToken what found => "expected " ++ what ++ " " ++ Text.quoted found
  | .duplicateDirective => "found duplicate YAML directive"
  | .incompatibleVersion => "found incompatible YAML document (version 1.* is required)"
  | .duplicateHandle handle => "duplicate tag handle " ++ Text.quoted handle
  | .undefinedHandle handle => "found undefined tag handle " ++ Text.quoted handle
  | .undefinedAlias name => "found undefined alias " ++ Text.quoted name
  | .secondAnchor => "second occurrence"
  | .secondDocument => "but found another document"
  | .unhashableKey => "found unhashable key"
  | .unknownTag tag => "could not determine a constructor for the tag " ++ Text.quoted tag
  | .expectedNode what found => "expected " ++ what ++ ", but found " ++ found
  | .itemCount count =>
    "expected a single mapping item, but found " ++ toString count ++ " items"
  | .badBase64 message => message

structure Fault where
  context : Option Context := none
  contextMark : Option Mark := none
  problem : Problem
  mark : Mark
  deriving DecidableEq, Repr

def Fault.message (f : Fault) (text : List Char) : String :=
  let shownMark :=
    f.contextMark.filter fun m => m.line != f.mark.line || m.column != f.mark.column
  "\n".intercalate
    ((f.context.map Context.message).toList
      ++ (shownMark.map (·.place text)).toList
      ++ [f.problem.message, f.mark.place text])

def faultIn {α : Type} (context : Context) (start : Mark) (problem : Problem) (mark : Mark) :
    Except Fault α :=
  .error ⟨some context, some start, problem, mark⟩

def faultAt {α : Type} (problem : Problem) (mark : Mark) : Except Fault α :=
  .error ⟨none, none, problem, mark⟩

end ReleaseMatch.Yaml
