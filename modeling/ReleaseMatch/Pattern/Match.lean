import ReleaseMatch.Pattern.Syntax
set_option autoImplicit false

/-!
# Matching

A place in a text is what stands before it and what stands after it. A node is run from a state with
a continuation that says what has to come of the state it ends in; the first way through the node
that the continuation accepts wins, in the order in which a backtracking engine tries them. Inside a
look behind the text is read from right to left.
-/
namespace ReleaseMatch.Pattern

open Text

/-- A place in a text. What stands before it is given from right to left. -/
structure Place where
  offset : Nat
  before : List Char
  after : List Char
  deriving DecidableEq, Repr

namespace Place

def start (cs : List Char) : Place := ⟨0, [], cs⟩

def ahead (backwards : Bool) (p : Place) : List Char :=
  if backwards then p.before else p.after

def forward (p : Place) : Option (Char × Place) :=
  match p.after with
  | [] => none
  | c :: rest => some (c, ⟨p.offset + 1, c :: p.before, rest⟩)

def backward (p : Place) : Option (Char × Place) :=
  match p.before with
  | [] => none
  | c :: rest => some (c, ⟨p.offset - 1, rest, c :: p.after⟩)

def step (backwards : Bool) (p : Place) : Option (Char × Place) :=
  if backwards then p.backward else p.forward

def textTo (p q : Place) : List Char :=
  p.after.take (q.offset - p.offset)

def isStart (p : Place) : Bool := p.before.isEmpty

def isEnd (p : Place) : Bool := p.after.isEmpty

def previousIs (test : Char → Bool) (p : Place) : Bool :=
  p.before.head?.any test

def nextIs (test : Char → Bool) (p : Place) : Bool :=
  p.after.head?.any test

end Place

def isLineEnd (c : Char) : Bool := lineEnds.contains c

def Anchor.holds (p : Place) : Anchor → Bool
  | .textStart => p.isStart
  | .textEnd => p.isEnd
  | .lastLineEnd => p.isEnd || p.after == ['\n']
  | .lineStart => p.isStart || p.previousIs (· == '\n')
  | .lineEnd => p.isEnd || p.nextIs (· == '\n')
  | .wideLastLineEnd =>
    p.isEnd || p.after == ['\r', '\n'] || (p.after.length == 1 && p.nextIs isLineEnd)
  | .wideLineStart =>
    p.isStart || (p.previousIs isLineEnd && !(p.previousIs (· == '\r') && p.nextIs (· == '\n')))
  | .wideLineEnd =>
    p.isEnd || (p.nextIs isLineEnd && !(p.previousIs (· == '\r') && p.nextIs (· == '\n')))
  | .boundary w => p.previousIs w.has != p.nextIs w.has
  | .notBoundary w => p.previousIs w.has == p.nextIs w.has
  | .wordStart w => !p.previousIs w.has && p.nextIs w.has
  | .wordEnd w => p.previousIs w.has && !p.nextIs w.has
  | .searchStart => p.isStart

/-- Where a match stands: its place, the groups captured so far with the latest first, and the place
from which the match is to count, if it is not where it began. -/
structure State where
  place : Place
  groups : List (Nat × Place × Place) := []
  kept : Option Place := none
  deriving DecidableEq, Repr

namespace State

def at_ (s : State) (p : Place) : State := { s with place := p }

def capture (s : State) (index : Nat) (a b : Place) : State :=
  { s with groups := (index, if a.offset ≤ b.offset then (a, b) else (b, a)) :: s.groups }

def captured? (s : State) (index : Nat) : Option (List Char) :=
  (s.groups.lookup index).map fun (a, b) => a.textTo b

end State

abbrev Next := State → Option State

def readChars (same : Char → Char → Bool) (backwards : Bool) :
    List Char → Place → Option Place
  | [], p => some p
  | c :: cs, p =>
    match p.step backwards with
    | some (d, q) => if same c d then readChars same backwards cs q else none
    | none => none

/-- Reads characters whose foldings in a row are the given ones. `rest` is what is left of the
folding of the character read last, and at the end nothing may be left. -/
def readFolded (backwards : Bool) : List Char → List Char → Place → Option Place
  | [], [], p => some p
  | [], _ :: _, _ => none
  | c :: cs, d :: rest, p => if sameLetter c d then readFolded backwards cs rest p else none
  | c :: cs, [], p =>
    match p.step backwards with
    | none => none
    | some (e, q) =>
      match if backwards then (matchFold e).reverse else matchFold e with
      | [] => none
      | d :: rest => if sameLetter c d then readFolded backwards cs rest q else none

def readLiteral (mode : CaseMode) (backwards : Bool) (cs : List Char) (p : Place) : Option Place :=
  let cs := if backwards then cs.reverse else cs
  match mode with
  | .exact => readChars (· == ·) backwards cs p
  | .simple => readChars sameLetter backwards cs p
  | .full => readFolded backwards cs [] p

/-- The test of a node that matches exactly one character. -/
def Node.single? : Node → Option (Char → Bool)
  | .set ignoreCase cls => some (cls.test ignoreCase)
  | .literal .exact [c] => some (c == ·)
  | .literal .simple [c] => some (sameLetter c)
  | _ => none

/-- The places reached by one, two, three … characters that pass the test, the farthest first, and
`p` itself last. -/
def reach (test : Char → Bool) (backwards : Bool) :
    List Char → Option Nat → Place → List Place → List Place
  | [], _, p, found => p :: found
  | _ :: ahead, most, p, found =>
    if most = some 0 then p :: found
    else
      match p.step backwards with
      | some (c, q) =>
        if test c then reach test backwards ahead (most.map (· - 1)) q (p :: found) else p :: found
      | none => p :: found

def runSingle (test : Char → Bool) (least : Nat) (most : Option Nat) (greed : Greed)
    (backwards : Bool) (s : State) (k : Next) : Option State :=
  let places := reach test backwards (s.place.ahead backwards) most s.place []
  let enough := places.take (places.length - least)
  match greed with
  | .greedy => enough.findSome? fun p => k (s.at_ p)
  | .lazy => enough.reverse.findSome? fun p => k (s.at_ p)
  | .possessive =>
    match enough with
    | [] => none
    | p :: _ => k (s.at_ p)

/-- Runs a body over and over. A round that stays where it is is the last one, and every other one
uses up a character; `rounds` holds one element for each of those. -/
def runRounds (body : State → Next → Option State) (least : Nat) (most : Option Nat)
    (isLazy : Bool) : List Char → Nat → State → Next → Option State
  | rounds, count, s, k =>
    let stop : Option State := if least ≤ count then k s else none
    let more : Option State :=
      if most.any (· ≤ count) then none
      else
        body s fun t =>
          if t.place.offset = s.place.offset then k t
          else
            match rounds with
            | [] => none
            | _ :: rest => runRounds body least most isLazy rest (count + 1) t k
    if isLazy then stop.or more else more.or stop

/-- What a run needs to know beside the node: the numbers of groups, and how to run one by name. -/
structure Surroundings where
  number : GroupName → Nat
  call : GroupName → Bool → State → Next → Option State

def Node.run (env : Surroundings) : Node → Bool → State → Next → Option State
  | .empty, _, s, k => k s
  | .fail, _, _, _ => none
  | .char c mode, backwards, s, k =>
    (readLiteral mode backwards (if mode = .full then matchFold c else [c]) s.place).bind
      fun p => k (s.at_ p)
  | .literal mode cs, backwards, s, k =>
    (readLiteral mode backwards cs s.place).bind fun p => k (s.at_ p)
  | .set ignoreCase cls, backwards, s, k =>
    match s.place.step backwards with
    | some (c, p) => if cls.test ignoreCase c then k (s.at_ p) else none
    | none => none
  | .seq a b, backwards, s, k =>
    if backwards then b.run env backwards s fun t => a.run env backwards t k
    else a.run env backwards s fun t => b.run env backwards t k
  | .alt a b, backwards, s, k => (a.run env backwards s k).or (b.run env backwards s k)
  | .group index body, backwards, s, k =>
    body.run env backwards s fun t => k (t.capture index s.place t.place)
  | .repeated body least most greed, backwards, s, k =>
    match body.single? with
    | some test => runSingle test least most greed backwards s k
    | none =>
      let rounds := '\n' :: s.place.ahead backwards
      let step := fun t k => body.run env backwards t k
      match greed with
      | .greedy => runRounds step least most false rounds 0 s k
      | .lazy => runRounds step least most true rounds 0 s k
      | .possessive => (runRounds step least most false rounds 0 s some).bind k
  | .look behind positive body, _, s, k =>
    match body.run env behind s some with
    | some t => if positive then k (t.at_ s.place) else none
    | none => if positive then none else k s
  | .atomic body, backwards, s, k => (body.run env backwards s some).bind k
  | .backref ref mode, backwards, s, k =>
    match s.captured? (env.number ref) with
    | none => none
    | some cs =>
      let cs := if mode = .full then cs.flatMap matchFold else cs
      (readLiteral mode backwards cs s.place).bind fun p => k (s.at_ p)
  | .ifGroup ref yes no, backwards, s, k =>
    if (s.captured? (env.number ref)).isSome then yes.run env backwards s k
    else no.run env backwards s k
  | .ifLook behind positive test yes no, backwards, s, k =>
    match test.run env behind s some with
    | some t => if positive then yes.run env backwards (t.at_ s.place) k else no.run env backwards s k
    | none => if positive then no.run env backwards s k else yes.run env backwards s k
  | .anchor a, _, s, k => if a.holds s.place then k s else none
  | .keep, _, s, k => k { s with kept := some s.place }
  | .call ref, backwards, s, k => env.call ref backwards s k

namespace Regex

/-- The node that a call runs: a group, or the whole pattern for the number 0. -/
def callee? (r : Regex) (ref : GroupName) : Option Node :=
  match r.number ref with
  | 0 => some r.node
  | n => r.node.groupBody? n

/-- Calls may call again, to a depth. What a call captures is forgotten after it. -/
def surroundings (r : Regex) : Nat → Surroundings
  | 0 => ⟨r.number, fun _ _ _ _ => none⟩
  | depth + 1 =>
    ⟨r.number, fun ref backwards s k =>
      match r.callee? ref with
      | some body =>
        body.run (r.surroundings depth) backwards s fun t => k { t with groups := s.groups }
      | none => none⟩

def depth (r : Regex) (cs : List Char) : Nat :=
  cs.length + r.groupCount + 1

def matchAt? (r : Regex) (env : Surroundings) (p : Place) : Option State :=
  r.node.run env r.backwards ⟨p, [], none⟩ some

/-- The first match from a place on, in the direction of reading, with the place at which it
begins. `ahead` is the text still to come. -/
def searchFrom (r : Regex) (env : Surroundings) : List Char → Place → Option (Place × State)
  | ahead, p =>
    match r.matchAt? env p with
    | some s => some (p, s)
    | none =>
      match ahead with
      | [] => none
      | _ :: ahead =>
        match p.step r.backwards with
        | some (_, q) => searchFrom r env ahead q
        | none => none

/-- The matched text: from the place at which the match counts to the one at which it ends. -/
def matchText (p : Place) (s : State) : List Char :=
  let start := s.kept.getD p
  if start.offset ≤ s.place.offset then start.textTo s.place else s.place.textTo start

def firstPlace (r : Regex) (cs : List Char) : Place :=
  if r.backwards then ⟨cs.length, cs.reverse, []⟩ else Place.start cs

def search? (r : Regex) (cs : List Char) : Option (List Char) :=
  let env := r.surroundings (r.depth cs)
  (r.searchFrom env cs (r.firstPlace cs)).map fun (p, s) => matchText p s

end Regex
end ReleaseMatch.Pattern
