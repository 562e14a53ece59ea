import ReleaseMatch.Text.Case.Table
set_option autoImplicit false

/-!
# Case

Two characters are the same letter when their simple case foldings agree. The dotted and the
dotless `I` stand apart, since which of them belong together depends on the language: each capital
goes with both the small letter of its own kind and the ASCII one. Full case folding may lengthen a
text; it leaves the two capitals `I` and `İ` alone, for the same reason.
-/
namespace ReleaseMatch.Text

namespace Case

def Run.image? (run : Run) (n : Nat) : Option Nat :=
  if run.first ≤ n && n ≤ run.last && (n - run.first) % run.step == 0 then
    some (run.image + (n - run.first))
  else none

/-- The image of `n` under runs in increasing order, `n` itself if no run has it. -/
def mapped (n : Nat) : List Run → Nat
  | [] => n
  | run :: rest =>
    if n < run.first then n
    else match run.image? n with
      | some image => image
      | none => mapped n rest

def listed (n : Nat) : List (Nat × List Nat) → Option (List Nat)
  | [] => none
  | (m, image) :: rest => if m = n then some image else listed n rest

end Case

def simpleFold (c : Char) : Char :=
  Char.ofNat (Case.mapped c.toNat Case.foldRuns)

def fold (c : Char) : List Char :=
  match Case.listed c.toNat Case.longFolds with
  | some image => image.map Char.ofNat
  | none => [simpleFold c]

def lower (c : Char) : List Char :=
  if c = 'İ' then ['i', '\u0307'] else [Char.ofNat (Case.mapped c.toNat Case.lowerRuns)]

def upper (c : Char) : List Char :=
  match Case.listed c.toNat Case.longUppers with
  | some image => image.map Char.ofNat
  | none => [Char.ofNat (Case.mapped c.toNat Case.upperRuns)]

def folded (s : String) : String :=
  String.ofList (s.toList.flatMap fold)

def lowered (s : String) : String :=
  String.ofList (s.toList.flatMap lower)

def uppered (s : String) : String :=
  String.ofList (s.toList.flatMap upper)

/-- Case folding for matching: full, but the capitals `I` and `İ` stay. -/
def matchFold (c : Char) : List Char :=
  if c = 'I' || c = 'İ' then [c] else fold c

/-- The pairs of letters `i` that go together beyond simple case folding. -/
def sameDot (a b : Char) : Bool :=
  (a == 'I' && b == 'ı') || (a == 'ı' && b == 'I') || (a == 'i' && b == 'İ') || (a == 'İ' && b == 'i')

def sameLetter (a b : Char) : Bool :=
  a == b || simpleFold a == simpleFold b || sameDot a b

/-- The characters that a run of a table sends to `n`. -/
def Case.Run.sources (run : Case.Run) (n : Nat) : List Char :=
  if run.image ≤ n then
    let source := run.first + (n - run.image)
    if run.image? source = some n then [Char.ofNat source] else []
  else []

/-- The characters that are the same letter as `c`, `c` itself in front. -/
def variants (c : Char) : List Char :=
  let root := simpleFold c
  let kin := root :: Case.foldRuns.flatMap (·.sources root.toNat)
  let dots := ['I', 'i', 'İ', 'ı'].filter (sameDot c)
  c :: (kin ++ dots).filter (· != c)

def hasCase (c : Char) : Bool :=
  (variants c).length > 1

end ReleaseMatch.Text
