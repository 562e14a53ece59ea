set_option autoImplicit false

/-!
# Layout of help pages

Text is wrapped between words to fit the terminal. Terms are explained in two columns; a term that is
too long for the first one stands on a line of its own.
-/
namespace ReleaseMatch.Layout

/-- The width of a page, without the margin of its paragraphs. -/
def width : Nat := 78

def words (s : String) : List String :=
  (s.splitOn " ").filter (· != "")

/-- Puts words on lines; `line` is the one that is under way. -/
def wrapFrom (width : Nat) (line : String) : List String → List String
  | [] => if line = "" then [] else [line]
  | word :: rest =>
    if line = "" then wrapFrom width word rest
    else if line.length + 1 + word.length ≤ width then wrapFrom width (line ++ " " ++ word) rest
    else line :: wrapFrom width word rest

def wrap (width : Nat) (s : String) : List String := wrapFrom width "" (words s)

def spaces (n : Nat) : String := String.ofList (List.replicate n ' ')

def column (width : Nat) (s : String) : String := s ++ spaces (width - s.length)

def joinLines (lines : List String) : String := String.join (lines.map (· ++ "\n"))

/-- A paragraph, which fills the width of the page behind its margin. -/
def paragraph (s : String) : String :=
  joinLines ((wrap width s).map ("  " ++ ·))

/-- A term with its explanation; `first` is the width of the first column. -/
def explained (first : Nat) (term explanation : String) : List String :=
  match wrap (max (width - first - 2) 10) explanation with
  | [] => ["  " ++ term]
  | line :: more =>
    (if term.length + 2 ≤ first then ["  " ++ column first term ++ line]
      else ["  " ++ term, spaces (first + 2) ++ line])
    ++ more.map (spaces (first + 2) ++ ·)

def maxTerm : Nat := 30

def glossary (heading : String) (rows : List (String × String)) : String :=
  let first := min ((rows.map (·.1.length)).foldl max 0) maxTerm + 2
  "\n" ++ joinLines ((heading ++ ":") :: rows.flatMap fun (term, text) => explained first term text)

/-- As many words as fit, if there are dots behind them. -/
def fitting (limit : Nat) (ws : List String) : List String :=
  ((List.range (ws.length + 1)).reverse.map ws.take).find?
    (fun taken => (" ".intercalate taken).length + 3 ≤ limit) |>.getD []

/-- The first sentence of a text, cut off with dots if it is too long. -/
def shortened (limit : Nat) (s : String) : String :=
  let ws := words s
  let count := (ws.takeWhile fun w => !w.endsWith ".").length + 1
  let sentence := " ".intercalate (ws.take count)
  if sentence.length ≤ limit then sentence
  else " ".intercalate (fitting limit ws) ++ "..."

end ReleaseMatch.Layout
