import ReleaseMatch.Pattern.Escape
import ReleaseMatch.Pattern.Literal
set_option autoImplicit false

/-!
# Bracketed sets

The set between two square brackets: characters, ranges, escapes, named classes and further sets,
one after the other. Two hyphens take away, two ampersands keep what is common, two tildes keep what
is not, and two bars join; they bind in this order, the first the most.
-/
namespace ReleaseMatch.Pattern

open Text

inductive SetOperator
  | union
  | symm
  | inter
  | diff
  deriving DecidableEq, Repr

def SetOperator.join : SetOperator → Class → Class → Class
  | .union => .union
  | .symm => .symm
  | .inter => .inter
  | .diff => .diff

/-- A member of a set, which may start or end a range if it is a character. -/
inductive Member
  | code (n : Nat)
  | cls (c : Class)
  deriving DecidableEq, Repr

def codeClass (n : Nat) : Class :=
  if 0xD800 ≤ n && n ≤ 0xDFFF then .none else .char (Char.ofNat n)

def codeRange (low high : Nat) : Class :=
  let low := if 0xD800 ≤ low && low ≤ 0xDFFF then 0xE000 else low
  let high := if 0xD800 ≤ high && high ≤ 0xDFFF then 0xD7FF else high
  if low ≤ high then .range (Char.ofNat low) (Char.ofNat high) else .none

def Member.toClass : Member → Class
  | .code n => codeClass n
  | .cls c => c

def Escape.toMember : Escape → Member
  | .code n => .code n
  | .plain c => .code c.toNat
  | .cls k => .cls k
  | .node _ | .reference _ => .cls .none

def hyphen : Class := .char '-'

def setOperator? : List Char → Option (SetOperator × List Char)
  | '|' :: '|' :: rest => some (.union, rest)
  | '~' :: '~' :: rest => some (.symm, rest)
  | '&' :: '&' :: rest => some (.inter, rest)
  | '-' :: '-' :: rest => some (.diff, rest)
  | _ => none

/-- A named class between colons. Without the closing colon there is none. -/
def readNamedClass (cs : List Char) : Except Fault (Option (Class × List Char)) :=
  let (negated, rest) :=
    match cs with
    | '^' :: rest => (true, rest)
    | _ => (false, cs)
  let (name, rest) := readPropertyName false rest
  match accept false [':', ']'] rest with
  | some rest => (lookupIn true (!negated) name rest).map some
  | none => .ok none

/-- Joins the terms that an operator stands between to the ones before them. -/
def mergeTerms (op : SetOperator) (terms : List (SetOperator × Class)) :
    List (SetOperator × Class) :=
  (terms.foldl (fun merged term =>
    match merged with
    | (o, a) :: more => if term.1 = op then (o, op.join a term.2) :: more else term :: merged
    | [] => [term]) []).reverse

/-- Joins terms by their operators, the strongest first. Each term comes with the operator before
it. -/
def joinTerms (terms : List (SetOperator × Class)) : Class :=
  let joined := [SetOperator.diff, .inter, .symm, .union].foldl (fun ts op => mergeTerms op ts) terms
  .unions (joined.map (·.2))

def negate (negated : Bool) (cls : Class) : Class :=
  if negated then .compl cls else cls

def splitNegation : List Char → Bool × List Char
  | '^' :: rest => (true, rest)
  | cs => (false, cs)

mutual

def readItem (flags : Flags) : Nat → List Char → Except Fault (Member × List Char)
  | 0, cs => fault .unterminatedSet cs
  | fuel + 1, cs =>
    match cs with
    | [] => fault .unterminatedSet cs
    | '\\' :: rest => (readEscape flags true rest).map fun (e, r) => (e.toMember, r)
    | '[' :: rest => do
      let named ←
        match rest with
        | ':' :: beyond => readNamedClass beyond
        | _ => pure none
      match named with
      | some (cls, rest) => return (.cls cls, rest)
      | none =>
        let (negated, rest) := splitNegation rest
        let (terms, rest) ← readTerms flags .union fuel rest
        let rest ← expect false "]" rest
        return (.cls (negate negated (joinTerms terms)), rest)
    | c :: rest => return (.code c.toNat, rest)

/-- One member of a set: an item, or a range between two characters. -/
def readMember (flags : Flags) : Nat → List Char → Except Fault (List Class × List Char)
  | 0, cs => fault .unterminatedSet cs
  | fuel + 1, cs => do
    let (start, rest) ← readItem flags fuel cs
    match start, rest with
    | .code low, '-' :: beyond =>
      match beyond with
      | '-' :: _ => return ([codeClass low], rest)
      | ']' :: _ => return ([codeClass low, hyphen], beyond)
      | _ =>
        let (stop, rest) ← readItem flags fuel beyond
        match stop with
        | .cls k => return ([codeClass low, hyphen, k], rest)
        | .code high =>
          if high < low then fault .badRange rest
          else if low = high then return ([codeClass low], rest)
          else return ([codeRange low high], rest)
    | m, rest => return ([m.toClass], rest)

/-- The members up to an operator or to the end of the set, at least one. -/
def readMembers (flags : Flags) : Nat → List Char → Except Fault (List Class × List Char)
  | 0, cs => fault .unterminatedSet cs
  | fuel + 1, cs => do
    let (first, rest) ← readMember flags fuel cs
    let isOver := rest.head? == some ']' || (setOperator? rest).isSome
    if isOver then return (first, rest)
    else
      let (more, rest) ← readMembers flags fuel rest
      return (first ++ more, rest)

def readTerms (flags : Flags) (op : SetOperator) : Nat → List Char →
    Except Fault (List (SetOperator × Class) × List Char)
  | 0, cs => fault .unterminatedSet cs
  | fuel + 1, cs => do
    let (members, rest) ← readMembers flags fuel cs
    let term := (op, Class.unions members)
    match setOperator? rest with
    | some (op, beyond) =>
      let (terms, rest) ← readTerms flags op fuel beyond
      return (term :: terms, rest)
    | none => return ([term], rest)

end

/-- The long foldings of the characters of a class, each once. -/
def Class.longFolds (cls : Class) : List (List Char) :=
  ((Pattern.longFolds.filter fun row => cls.has [row.1]).map (·.2)).eraseDups

/-- The node of a set. A single character is read as itself, and where case is ignored in full a
set also matches the long foldings of its characters. -/
def setNode (flags : Flags) (negated : Bool) (cls : Class) : Node :=
  let mode := flags.caseMode
  match negated, cls with
  | false, .char c => .char c mode
  | _, .property p => classNode flags (negate negated (.property p))
  | _, .compl (.property p) =>
    classNode flags (if negated then .property p else .compl (.property p))
  | true, k => .set (mode ≠ .exact) (.compl k)
  | false, k =>
    if mode = .full then
      .alternatives (.set true k :: k.longFolds.map (.literal .full))
    else .set (mode ≠ .exact) k

def readSet (flags : Flags) (cs : List Char) : Except Fault (Node × List Char) := do
  let (negated, rest) := splitNegation cs
  let (terms, rest) ← readTerms flags .union (4 * cs.length + 4) rest
  let rest ← expect false "]" rest
  return (setNode flags negated (joinTerms terms), rest)

end ReleaseMatch.Pattern
