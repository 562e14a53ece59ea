set_option autoImplicit false

/-!
# Literal text in a pattern

A backslash in front of each character that has a meaning of its own in a pattern makes the text
match itself. Taking the backslashes away again gives the text back.
-/
namespace ReleaseMatch.Literal

/-- The characters with a meaning of their own. -/
def isSpecial (c : Char) : Bool :=
  ".*+?^$\x7b\x7d()|[]\\".toList.contains c

def escapeChar (c : Char) : List Char :=
  if isSpecial c then ['\\', c] else [c]

def escapeChars (cs : List Char) : List Char :=
  cs.flatMap escapeChar

def escape (s : String) : String :=
  String.ofList (escapeChars s.toList)

/-- Takes away every backslash that stands in front of another character. -/
def unescapeChars : List Char → List Char
  | [] => []
  | '\\' :: c :: rest => c :: unescapeChars rest
  | c :: rest => c :: unescapeChars rest

theorem escapeChars_nil : escapeChars [] = [] := rfl

theorem escapeChars_cons (c : Char) (cs : List Char) :
    escapeChars (c :: cs) = escapeChar c ++ escapeChars cs := by
  simp [escapeChars]

theorem toList_escape (s : String) : (escape s).toList = escapeChars s.toList := by
  simp [escape]

end ReleaseMatch.Literal
