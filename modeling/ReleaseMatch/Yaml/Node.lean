import ReleaseMatch.Yaml.Token
set_option autoImplicit false

/-!
# Nodes of documents

A document as a tree of scalars, sequences and mappings, each with a tag that says what it stands
for. The tag of a plain scalar without one is found by the form of its text.
-/
namespace ReleaseMatch.Yaml

inductive Tag
  | null
  | bool
  | int
  | float
  | binary
  | timestamp
  | omap
  | pairs
  | set
  | str
  | seq
  | map
  | merge
  | value
  | other (name : String)
  deriving DecidableEq, Repr

def standardTag : String := "tag:yaml.org,2002:"

namespace Tag

def known : List (String × Tag) :=
  [("null", .null), ("bool", .bool), ("int", .int), ("float", .float), ("binary", .binary),
    ("timestamp", .timestamp), ("omap", .omap), ("pairs", .pairs), ("set", .set), ("str", .str),
    ("seq", .seq), ("map", .map), ("merge", .merge), ("value", .value)]

def ofName (name : String) : Tag :=
  match known.find? fun row => standardTag ++ row.1 == name with
  | some row => row.2
  | none => .other name

def name (t : Tag) : String :=
  match t with
  | .other name => name
  | t => standardTag ++ ((known.find? fun row => row.2 == t).map (·.1)).getD ""

end Tag

inductive Node
  | scalar (tag : Tag) (text : String) (mark : Mark)
  | sequence (tag : Tag) (items : List Node) (mark : Mark)
  | mapping (tag : Tag) (entries : List (Node × Node)) (mark : Mark)

namespace Node

def mark : Node → Mark
  | .scalar _ _ m | .sequence _ _ m | .mapping _ _ m => m

def tag : Node → Tag
  | .scalar t _ _ | .sequence t _ _ | .mapping t _ _ => t

def kind : Node → String
  | .scalar .. => "scalar"
  | .sequence .. => "sequence"
  | .mapping .. => "mapping"

end Node

/-! ## The form of plain scalars -/

/-- A form is a way to read the start of a text, with the rests that it may leave. -/
abbrev Form := List Char → List (List Char)

namespace Form

def char (test : Char → Bool) : Form
  | c :: rest => if test c then [rest] else []
  | [] => []

def lit (c : Char) : Form := char (· == c)

def seq (f g : Form) : Form := fun cs => (f cs).flatMap g

def alt (f g : Form) : Form := fun cs => f cs ++ g cs

def opt (f : Form) : Form := fun cs => f cs ++ [cs]

def many (test : Char → Bool) : Form
  | c :: rest => if test c then (c :: rest) :: many test rest else [c :: rest]
  | [] => [[]]

def some1 (test : Char → Bool) : Form := seq (char test) (many test)

def all (fs : List Form) : Form := fs.foldr seq fun cs => [cs]

def any (fs : List Form) : Form := fs.foldr alt fun _ => []

/-- One or more times; `fuel` bounds how often. -/
def rounds (f : Form) : Nat → Form
  | 0 => fun _ => []
  | fuel + 1 => fun cs => (f cs).flatMap fun rest => rounds f fuel rest ++ [rest]

def fits (f : Form) (cs : List Char) : Bool := (f cs).any (·.isEmpty)

end Form

open Form in
def signForm : Form := opt (char fun c => c == '-' || c == '+')

def isDigitOrBar (c : Char) : Bool := c.isDigit || c == '_'

open Form in
def exponentForm : Form :=
  opt (all [char (fun c => c == 'e' || c == 'E'), char (fun c => c == '-' || c == '+'),
    some1 Char.isDigit])

open Form in
/-- Minutes, and minutes or seconds behind them. -/
def sixtieths (fuel : Nat) : Form :=
  rounds (all [lit ':', opt (char fun c => '0' ≤ c && c ≤ '5'), char Char.isDigit]) fuel

open Form in
def floatForm (fuel : Nat) : Form :=
  any [
    all [signForm, char Char.isDigit, many isDigitOrBar, lit '.', many isDigitOrBar, exponentForm],
    all [lit '.', char Char.isDigit, many isDigitOrBar, exponentForm],
    all [signForm, char Char.isDigit, many isDigitOrBar, sixtieths fuel, lit '.',
      many isDigitOrBar]]

open Form in
def intForm (fuel : Nat) : Form :=
  let isBit (c : Char) : Bool := c == '0' || c == '1' || c == '_'
  let isOctal (c : Char) : Bool := ('0' ≤ c && c ≤ '7') || c == '_'
  let isHex (c : Char) : Bool :=
    isDigitOrBar c || ('a' ≤ c && c ≤ 'f') || ('A' ≤ c && c ≤ 'F')
  let isOneToNine (c : Char) : Bool := '1' ≤ c && c ≤ '9'
  seq signForm (any [
    all [lit '0', lit 'b', some1 isBit],
    seq (lit '0') (some1 isOctal),
    lit '0',
    seq (char isOneToNine) (many isDigitOrBar),
    all [lit '0', lit 'x', some1 isHex],
    all [char isOneToNine, many isDigitOrBar, sixtieths fuel]])

open Form in
def digitsForm (least more : Nat) : Form :=
  all (List.replicate least (char Char.isDigit) ++ List.replicate more (opt (char Char.isDigit)))

def isTab (c : Char) : Bool := c == ' ' || c == '\t'

open Form in
def timestampForm : Form :=
  any [
    all [digitsForm 4 0, lit '-', digitsForm 2 0, lit '-', digitsForm 2 0],
    all [digitsForm 4 0, lit '-', digitsForm 1 1, lit '-', digitsForm 1 1,
      alt (char fun c => c == 'T' || c == 't') (some1 isTab),
      digitsForm 1 1, lit ':', digitsForm 2 0, lit ':', digitsForm 2 0,
      opt (seq (lit '.') (many Char.isDigit)),
      opt (seq (many isTab) (alt (lit 'Z') (all [char (fun c => c == '-' || c == '+'),
        digitsForm 1 1, opt (seq (lit ':') (digitsForm 2 0))])))]]

def boolWords : List String :=
  ["yes", "Yes", "YES", "no", "No", "NO", "true", "True", "TRUE", "false", "False", "FALSE", "on",
    "On", "ON", "off", "Off", "OFF"]

def nullWords : List String := ["", "~", "null", "Null", "NULL"]

def floatWords : List String :=
  let infinities := [".inf", ".Inf", ".INF"]
  infinities ++ infinities.map ("-" ++ ·) ++ infinities.map ("+" ++ ·) ++ [".nan", ".NaN", ".NAN"]

def plainTag (text : String) : Tag :=
  let cs := text.toList
  let fuel := cs.length
  if boolWords.contains text then .bool
  else if floatWords.contains text || (floatForm fuel).fits cs then .float
  else if (intForm fuel).fits cs then .int
  else if text = "<<" then .merge
  else if nullWords.contains text then .null
  else if timestampForm.fits cs then .timestamp
  else if text = "=" then .value
  else if ["!", "&", "*"].contains text then .other (standardTag ++ "yaml")
  else .str

end ReleaseMatch.Yaml
