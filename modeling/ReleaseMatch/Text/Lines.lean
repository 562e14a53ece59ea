set_option autoImplicit false

/-!
# Lines

A line ends in a line feed, a carriage return, or both one after the other. After the last line end
there is no line.
-/
namespace ReleaseMatch.Text

/-- Every way to end a line as a line feed. -/
def unifyLines : List Char → List Char
  | [] => []
  | '\r' :: '\n' :: rest => '\n' :: unifyLines rest
  | '\r' :: rest => '\n' :: unifyLines rest
  | c :: rest => c :: unifyLines rest

/-- The stretches between line feeds, of which there is one at least. -/
def stretches : List Char → List (List Char)
  | [] => [[]]
  | '\n' :: rest => [] :: stretches rest
  | c :: rest =>
    match stretches rest with
    | first :: more => (c :: first) :: more
    | [] => [[c]]

/-- The lines of a text in which all lines end in a line feed. -/
def lines (cs : List Char) : List (List Char) :=
  let all := stretches cs
  if all.getLast? == some [] then all.dropLast else all

end ReleaseMatch.Text
