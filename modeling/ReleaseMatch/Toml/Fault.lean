import ReleaseMatch.Text.Quoted
set_option autoImplicit false

/-!
# Faults of a configuration text

What can be wrong with a configuration text, and where: a line and a column, both counted from one,
or the end of the text.
-/
namespace ReleaseMatch.Toml

/-- The names that lead from the root to a table or a value. -/
abbrev Key := List String

namespace Key

/-- A key in a message: its names in quotes, with a comma after a single one. -/
def shown : Key → String
  | [name] => "(" ++ Text.quoted name ++ ",)"
  | key => "(" ++ ", ".intercalate (key.map Text.quoted) ++ ")"

end Key

inductive Fault
  | notStatement
  | noLineEnd
  | notKey
  | noEquals
  | declaredTwice (key : Key)
  | openTableHeader
  | openArrayHeader
  | closedNamespace (key : Key)
  | declaredNamespace (key : Key)
  | overwritten
  | openArray
  | openTable
  | repeatedKey (name : String)
  | strayBackslash
  | notHex
  | notScalar
  | openText
  | missing (mark : String)
  | controlInText (c : Char)
  | controlInPlain (c : Char)
  | notMoment
  | notValue
  | tooManyDigits (count : Nat)
  deriving DecidableEq, Repr

def Fault.message : Fault → String
  | .notStatement => "Invalid statement"
  | .noLineEnd => "Expected newline or end of document after a statement"
  | .notKey => "Invalid initial character for a key part"
  | .noEquals => "Expected '=' after a key in a key/value pair"
  | .declaredTwice key => "Cannot declare " ++ key.shown ++ " twice"
  | .openTableHeader => "Expected ']' at the end of a table declaration"
  | .openArrayHeader => "Expected ']]' at the end of an array declaration"
  | .closedNamespace key => "Cannot mutate immutable namespace " ++ key.shown
  | .declaredNamespace key => "Cannot redefine namespace " ++ key.shown
  | .overwritten => "Cannot overwrite a value"
  | .openArray => "Unclosed array"
  | .openTable => "Unclosed inline table"
  | .repeatedKey name => "Duplicate inline table key " ++ Text.quoted name
  | .strayBackslash => "Unescaped '\\' in a string"
  | .notHex => "Invalid hex value"
  | .notScalar => "Escaped character is not a Unicode scalar value"
  | .openText => "Unterminated string"
  | .missing mark => "Expected " ++ Text.quoted mark
  | .controlInText c => "Illegal character " ++ Text.quoted (String.ofList [c])
  | .controlInPlain c => "Found invalid character " ++ Text.quoted (String.ofList [c])
  | .notMoment => "Invalid date or datetime"
  | .notValue => "Invalid value"
  | .tooManyDigits count =>
    "Exceeds the limit (4300 digits) for integer string conversion: value has "
      ++ toString count ++ " digits; use sys.set_int_max_str_digits() to increase the limit"

/-- Where a reader stops: its fault, and the text ahead of it. -/
structure Stop where
  fault : Fault
  ahead : List Char
  deriving DecidableEq, Repr

/-- A place in a text, told from what is in front of it and what is ahead. -/
def place (before ahead : List Char) : String :=
  if ahead.isEmpty then "end of document"
  else
    "line " ++ toString (before.count '\n' + 1)
      ++ ", column " ++ toString ((before.reverse.takeWhile (· != '\n')).length + 1)

def Stop.message (s : Stop) (text : List Char) : String :=
  let before := text.take (text.length - s.ahead.length)
  s.fault.message ++ " (at " ++ place before s.ahead ++ ")"

/-- A reader takes the text ahead and gives what it read with the text that is left. -/
abbrev Reader (α : Type) := List Char → Except Stop (α × List Char)

end ReleaseMatch.Toml
