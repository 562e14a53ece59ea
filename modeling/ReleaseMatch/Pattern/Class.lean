import ReleaseMatch.Text.Blank
import ReleaseMatch.Text.Case
import ReleaseMatch.Text.Category
import ReleaseMatch.Text.Script
set_option autoImplicit false

/-!
# Character classes

Sets of characters as patterns write them. Where case is ignored a member is tried on all the
characters that are the same letter, and only then are the members put together.
-/
namespace ReleaseMatch.Pattern

open Text

inductive Property
  | word
  | digit
  | space
  | blank
  | any
  | ascii
  | category (cs : List Category)
  | script (code : String)
  | block (first last : Nat)
  | binary (name : String)
  | asciiOnly (p : Property)
  deriving DecidableEq, Repr

/-- White space: the cursor controls, the spaces and the separators, not the information
separators. -/
def isSpace (c : Char) : Bool :=
  isBlank c && !(28 ≤ c.toNat && c.toNat ≤ 31)

/-- The circled and squared letters, which are letters by use though symbols by category. -/
def isLetterLike (n : Nat) : Bool :=
  (0x24B6 ≤ n && n ≤ 0x24E9) || (0x1F130 ≤ n && n ≤ 0x1F149) || (0x1F150 ≤ n && n ≤ 0x1F169)
    || (0x1F170 ≤ n && n ≤ 0x1F189)

/-- What words are made of: letters, marks, digits, connectors and joiners. -/
def isWord (c : Char) : Bool :=
  if c.toNat < 128 then c.isAlphanum || c == '_'
  else
    let g := category c
    g.isLetter || g.isMark || g == .Nd || g == .Nl || g == .Pc || isLetterLike c.toNat
      || c.toNat == 0x200C || c.toNat == 0x200D

def Property.has : Property → Char → Bool
  | .word, c => isWord c
  | .digit, c => isDecimal c
  | .space, c => isSpace c
  | .blank, c => c == '\t' || Text.category c == Category.Zs
  | .any, _ => true
  | .ascii, c => c.toNat < 128
  | .category cs, c => cs.contains (Text.category c)
  | .script code, c => Text.script c == code
  | .block first last, c => first ≤ c.toNat && c.toNat ≤ last
  | .binary name, c => hasProperty name c
  | .asciiOnly p, c => c.toNat < 128 && p.has c

inductive Class
  | char (c : Char)
  | range (low high : Char)
  | property (p : Property)
  | none
  | union (a b : Class)
  | inter (a b : Class)
  | diff (a b : Class)
  | symm (a b : Class)
  | compl (a : Class)
  deriving DecidableEq, Repr

namespace Class

/-- Whether the class has a character, of which `vs` are the forms to be tried. -/
def has (vs : List Char) : Class → Bool
  | .char c => vs.contains c
  | .range low high => vs.any fun v => low.toNat ≤ v.toNat && v.toNat ≤ high.toNat
  | .property p => vs.any p.has
  | .none => false
  | .union a b => a.has vs || b.has vs
  | .inter a b => a.has vs && b.has vs
  | .diff a b => a.has vs && !b.has vs
  | .symm a b => a.has vs != b.has vs
  | .compl a => !a.has vs

def ofList (cs : List Char) : Class :=
  cs.foldr (fun c cls => .union (.char c) cls) .none

def unions : List Class → Class
  | [] => .none
  | [a] => a
  | a :: rest => .union a (unions rest)

end Class

def notNewline : Class := .compl (.char '\n')

def lineEnds : List Char :=
  ['\n', '\x0b', '\x0c', '\r', '\u0085', '\u2028', '\u2029']

def Class.test (ignoreCase : Bool) (cls : Class) (c : Char) : Bool :=
  cls.has (if ignoreCase then variants c else [c])

end ReleaseMatch.Pattern
