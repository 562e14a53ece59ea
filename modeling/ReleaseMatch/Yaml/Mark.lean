import ReleaseMatch.Text.Quoted
set_option autoImplicit false

/-!
# Places in a document

A mark counts characters from the start of a document, lines, and characters from the start of the
line. A message shows the line that a mark stands in, cut to its surroundings when it is long, and
an arrow below it.
-/
namespace ReleaseMatch.Yaml

structure Mark where
  index : Nat := 0
  line : Nat := 0
  column : Nat := 0
  deriving DecidableEq, Repr, Inhabited

def isBreak (c : Char) : Bool :=
  c == '\n' || c == '\r' || c == '\u0085' || c == '\u2028' || c == '\u2029'

/-- The characters of a line around a place in it. `before` goes from right to left. -/
structure LineView where
  before : List Char
  after : List Char

def LineView.of (text : List Char) (index : Nat) : LineView :=
  ⟨(text.take index).reverse.takeWhile (!isBreak ·), (text.drop index).takeWhile (!isBreak ·)⟩

/-- How far a line is shown on each side of a mark. -/
def reach : Nat := 37

def ellipsis : List Char := " ... ".toList

/-- One side of a line, from the mark outwards, and whether something is left out. -/
def shortened (side : List Char) : List Char × Bool :=
  if reach ≤ side.length then (side.take (reach - 5), true) else (side, false)

def Mark.snippet (m : Mark) (text : List Char) : String :=
  let view := LineView.of text m.index
  let (before, cutBefore) := shortened view.before
  let (after, cutAfter) := shortened view.after
  let head := if cutBefore then ellipsis else []
  let tail := if cutAfter then ellipsis else []
  let indent := List.replicate 4 ' '
  String.ofList (indent ++ head ++ before.reverse ++ after ++ tail ++ ['\n']
    ++ indent ++ List.replicate (before.length + head.length) ' ' ++ ['^'])

def documentName : String := "<unicode string>"

def Mark.place (m : Mark) (text : List Char) : String :=
  "  in \"" ++ documentName ++ "\", line " ++ toString (m.line + 1) ++ ", column "
    ++ toString (m.column + 1) ++ ":\n" ++ m.snippet text

/-- The mark behind a character, given the one that follows. -/
def Mark.after (m : Mark) (c : Char) (following : List Char) : Mark :=
  if isBreak c && !(c == '\r' && following.head? == some '\n') then
    ⟨m.index + 1, m.line + 1, 0⟩
  else if c = '\uFEFF' then ⟨m.index + 1, m.line, m.column⟩
  else ⟨m.index + 1, m.line, m.column + 1⟩

/-- The rest of a document, from a place in it. -/
structure Cursor where
  rest : List Char
  mark : Mark := {}
  deriving Repr

namespace Cursor

/-- The character so far ahead; behind the last one there is always a null. -/
def ahead (c : Cursor) (n : Nat) : Char :=
  (c.rest[n]?).getD '\x00'

def peek (c : Cursor) : Char := c.ahead 0

def advance (c : Cursor) : Cursor :=
  match c.rest with
  | [] => c
  | ch :: rest => ⟨rest, c.mark.after ch rest⟩

def forward : Nat → Cursor → Cursor
  | 0, c => c
  | n + 1, c => forward n c.advance

def column (c : Cursor) : Nat := c.mark.column

def skipWhile (test : Char → Bool) : Nat → Cursor → Cursor
  | 0, c => c
  | fuel + 1, c =>
    match c.rest with
    | ch :: _ => if test ch then skipWhile test fuel c.advance else c
    | [] => c

def spanWhile (test : Char → Bool) (c : Cursor) : List Char × Cursor :=
  let found := c.rest.takeWhile test
  (found, c.forward found.length)

def skipBlanks (c : Cursor) : Cursor :=
  c.skipWhile (· == ' ') c.rest.length

/-- A line break, as it counts in a text, and the place behind it. -/
def lineBreak (c : Cursor) : List Char × Cursor :=
  match c.rest with
  | '\r' :: '\n' :: _ => (['\n'], c.advance.advance)
  | '\r' :: _ | '\n' :: _ | '\u0085' :: _ => (['\n'], c.advance)
  | '\u2028' :: _ => (['\u2028'], c.advance)
  | '\u2029' :: _ => (['\u2029'], c.advance)
  | _ => ([], c)

def skipComment (c : Cursor) : Cursor :=
  if c.peek = '#' then c.skipWhile (!isBreak ·) c.rest.length else c

end Cursor

/-- Where a word ends: at a line break or at the end of the document. -/
def isBreakOrEnd (c : Char) : Bool := c == '\x00' || isBreak c

def isSpaceOrEnd (c : Char) : Bool := c == ' ' || isBreakOrEnd c

def isBlankOrEnd (c : Char) : Bool := c == '\t' || isSpaceOrEnd c

/-- A line that separates documents. -/
def Cursor.atSeparator (c : Cursor) : Bool :=
  match c.rest with
  | '-' :: '-' :: '-' :: _ | '.' :: '.' :: '.' :: _ => isBlankOrEnd (c.ahead 3)
  | _ => false

end ReleaseMatch.Yaml
