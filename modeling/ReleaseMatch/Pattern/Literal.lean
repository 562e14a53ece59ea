import ReleaseMatch.Pattern.Syntax
set_option autoImplicit false

/-!
# Joining characters into literals

Characters in a row become one literal as long as they are compared in the same way; a character
without case goes along with whatever stands before it. A literal that is compared by full foldings
is cut into the stretches that could match a character with a long folding, and the rest, for which
simple folding does.

The stretches are found in the folded literal and cut out of the unfolded one at the same places.
-/
namespace ReleaseMatch.Pattern

open Text

/-- The long foldings, each with the character that has it. -/
def longFolds : List (Char × List Char) :=
  Case.longFolds.map fun (n, _) => (Char.ofNat n, matchFold (Char.ofNat n))

/-- The stretches, as start and end, at which `part` occurs in `cs`. -/
def occurrences (part : List Char) : List Char → Nat → List (Nat × Nat)
  | [], _ => []
  | c :: rest, at_ =>
    let here := if part.isPrefixOf (c :: rest) then [(at_, at_ + part.length)] else []
    here ++ occurrences part rest (at_ + 1)

def insertStretch (s : Nat × Nat) : List (Nat × Nat) → List (Nat × Nat)
  | [] => [s]
  | t :: rest =>
    if s.1 < t.1 || (s.1 = t.1 && s.2 ≤ t.2) then s :: t :: rest else t :: insertStretch s rest

/-- Sorted stretches with those that touch made one. -/
def mergeStretches : List (Nat × Nat) → List (Nat × Nat)
  | [] => []
  | s :: rest =>
    match mergeStretches rest with
    | [] => [s]
    | t :: more => if t.1 ≤ s.2 then (s.1, max s.2 t.2) :: more else s :: t :: more

/-- The stretches of a literal that some character with a long folding could match. -/
def longStretches (cs : List Char) : List (Nat × Nat) :=
  let folded := cs.flatMap fun c => (matchFold c).flatMap lower
  let found := longFolds.flatMap fun (_, fold) => occurrences fold folded 0
  mergeStretches (found.foldr insertStretch [])

/-- A literal compared up to case, as it is if none of its characters has case. -/
def simpleLiteral (cs : List Char) : List Node :=
  if cs.isEmpty then []
  else if cs.any hasCase then [.literal .simple cs]
  else [.literal .exact cs]

/-- A literal compared by full foldings. A single character is tried by itself first. -/
def fullLiteral : List Char → List Node
  | [] => []
  | [c] =>
    match matchFold c with
    | folded@(_ :: _ :: _) => [.alt (.literal .simple [c]) (.literal .full folded)]
    | _ => simpleLiteral [c]
  | cs => [.literal .full (cs.flatMap matchFold)]

/-- The literal from the character at `position` on, cut at the stretches. -/
def cutLiteral (cs : List Char) (position : Nat) : List (Nat × Nat) → List Node
  | [] => simpleLiteral (cs.drop position)
  | (start, stop) :: rest =>
    simpleLiteral ((cs.take start).drop position) ++ fullLiteral ((cs.take stop).drop start)
      ++ cutLiteral cs stop rest

def literals (mode : CaseMode) (cs : List Char) : List Node :=
  if cs.isEmpty then []
  else if mode = .exact || !cs.any hasCase then [.literal .exact cs]
  else if mode = .simple then [.literal .simple cs]
  else cutLiteral cs 0 (longStretches cs)

/-- Joins the characters among the parts of a sequence. `run` holds the characters met last, the
latest first. -/
def joinCharacters : List Node → CaseMode → List Char → List Node
  | [], mode, run => literals mode run.reverse
  | .char c m :: rest, mode, run =>
    if m ≠ mode && (m ≠ .exact || hasCase c) then
      literals mode run.reverse ++ joinCharacters rest m [c]
    else joinCharacters rest mode (c :: run)
  | n :: rest, mode, run => literals mode run.reverse ++ n :: joinCharacters rest mode []

def joined (parts : List Node) : Node :=
  .ofList (joinCharacters parts .exact [])

/-- The parts of a node as a sequence, with the characters inside each part joined. -/
def Node.parts : Node → List Node
  | .empty => []
  | .seq a b => a.parts ++ b.parts
  | .alt a b => [.alt (joined a.parts) (joined b.parts)]
  | .group i body => [.group i (joined body.parts)]
  | .repeated body least most greed => [.repeated (joined body.parts) least most greed]
  | .look behind positive body => [.look behind positive (joined body.parts)]
  | .atomic body => [.atomic (joined body.parts)]
  | .ifGroup ref yes no => [.ifGroup ref (joined yes.parts) (joined no.parts)]
  | .ifLook behind positive test yes no =>
    [.ifLook behind positive (joined test.parts) (joined yes.parts) (joined no.parts)]
  | n => [n]

def Node.join (n : Node) : Node :=
  joined n.parts

end ReleaseMatch.Pattern
