import ReleaseMatch.Pattern.Fault
import ReleaseMatch.Text.Blank
import ReleaseMatch.Text.Category
set_option autoImplicit false

/-!
# Scanning patterns

The steps by which a pattern is taken apart from the left. In a verbose pattern blanks, and comments
from a number sign to the end of the line, do not count.
-/
namespace ReleaseMatch.Pattern

open Text

def dropLayout : Bool → List Char → List Char
  | _, [] => []
  | false, c :: rest =>
    if isBlank c then dropLayout false rest
    else if c = '#' then dropLayout true rest
    else c :: rest
  | true, c :: rest => dropLayout (c != '\n') rest

def dropSkipped (verbose : Bool) (cs : List Char) : List Char :=
  if verbose then dropLayout false cs else cs

def next (verbose : Bool) (cs : List Char) : Option (Char × List Char) :=
  match dropSkipped verbose cs with
  | [] => none
  | c :: rest => some (c, rest)

def accept (verbose : Bool) : List Char → List Char → Option (List Char)
  | [], cs => some cs
  | w :: word, cs =>
    match next verbose cs with
    | some (c, rest) => if c = w then accept verbose word rest else none
    | none => none

/-- The longest start of a text that passes a test, with what follows it. -/
def span (verbose : Bool) (test : Char → Bool) : Bool → List Char → List Char × List Char
  | _, [] => ([], [])
  | true, c :: rest => span verbose test (c != '\n') rest
  | false, c :: rest =>
    if verbose && isBlank c then span verbose test false rest
    else if verbose && c == '#' then span verbose test true rest
    else if test c then
      let (found, rest) := span verbose test false rest
      (c :: found, rest)
    else ([], c :: rest)

def spanWhile (verbose : Bool) (test : Char → Bool) (cs : List Char) : List Char × List Char :=
  span verbose test false cs

def fault {α : Type} (cause : Cause) (rest : List Char) : Except Fault α :=
  .error ⟨cause, rest.length⟩

def expect (verbose : Bool) (word : String) (cs : List Char) : Except Fault (List Char) :=
  match accept verbose word.toList cs with
  | some rest => .ok rest
  | none => fault (.missing word) cs

def decimal (ds : List Char) : Nat :=
  ds.foldl (fun n d => 10 * n + (decimalValue? d).getD 0) 0

end ReleaseMatch.Pattern
