import ReleaseMatch.Pattern.Flags
import ReleaseMatch.Pattern.Property
set_option autoImplicit false

/-!
# Escapes

What a backslash makes of the characters after it: a character, a class of characters, an anchor, or
a reference to a group. Inside a set only the first two have a meaning.
-/
namespace ReleaseMatch.Pattern

open Text

inductive Escape
  | code (n : Nat)
  | plain (c : Char)
  | cls (c : Class)
  | node (n : Node)
  | reference (ref : GroupName)
  deriving DecidableEq, Repr

def isAsciiLetter (c : Char) : Bool := c.isAlpha

def isHexDigit (c : Char) : Bool :=
  c.isDigit || ('a' ≤ c && c ≤ 'f') || ('A' ≤ c && c ≤ 'F')

def hexValue (c : Char) : Nat :=
  if c.isDigit then c.toNat - 48 else if 'a' ≤ c then c.toNat - 87 else c.toNat - 55

def isOctalDigit (c : Char) : Bool := '0' ≤ c && c ≤ '7'

def octal (ds : List Char) : Nat :=
  ds.foldl (fun n d => 8 * n + (d.toNat - 48)) 0

/-- Exactly `count` hexadecimal digits. At a fault, the digits there are. -/
def readHexDigits (verbose : Bool) : Nat → List Char → Except (List Char) (List Char × List Char)
  | 0, cs => .ok ([], cs)
  | count + 1, cs =>
    match next verbose cs with
    | some (d, rest) =>
      if isHexDigit d then
        match readHexDigits verbose count rest with
        | .ok (ds, rest) => .ok (d :: ds, rest)
        | .error ds => .error (d :: ds)
      else .error []
    | none => .error []

def readHex (verbose : Bool) (letter : Char) (count : Nat) (cs : List Char) :
    Except Fault (Escape × List Char) :=
  match readHexDigits verbose count cs with
  | .error ds => fault (.incompleteEscape (String.ofList (letter :: ds))) cs
  | .ok (ds, rest) =>
    let n := ds.foldl (fun n d => 16 * n + hexValue d) 0
    if n < 0x110000 then .ok (.code n, rest)
    else fault (.badHexEscape (String.ofList (letter :: ds))) cs

def readOctalDigits (verbose : Bool) : Nat → List Char → List Char × List Char
  | 0, cs => ([], cs)
  | count + 1, cs =>
    match next verbose cs with
    | some (d, rest) =>
      if isOctalDigit d then
        let (ds, rest) := readOctalDigits verbose count rest
        (d :: ds, rest)
      else ([], cs)
    | none => ([], cs)

def readOctal (verbose : Bool) (first : Char) (cs : List Char) :
    Except Fault (Escape × List Char) :=
  let (ds, rest) := readOctalDigits verbose 2 cs
  if isOctalDigit first then .ok (.code (octal (first :: ds)), rest)
  else fault (.badEscape first) rest

/-- Three octal digits are a character, one or two decimal digits a reference. -/
def readNumeric (verbose inSet : Bool) (first : Char) (cs : List Char) :
    Except Fault (Escape × List Char) :=
  if inSet || first = '0' then readOctal verbose first cs
  else
    match next verbose cs with
    | some (second, rest) =>
      if second.isDigit then
        match next verbose rest with
        | some (third, beyond) =>
          if [first, second, third].all isOctalDigit then
            .ok (.code (octal [first, second, third] % 512), beyond)
          else .ok (.reference (.number (decimal [first, second])), rest)
        | none => .ok (.reference (.number (decimal [first, second])), rest)
      else .ok (.reference (.number (decimal [first])), cs)
    | none => .ok (.reference (.number (decimal [first])), cs)

def startsIdentifier (c : Char) : Bool :=
  if c.toNat < 128 then c == '_' || c.isAlpha else hasProperty "ID_Start" c

def continuesIdentifier (c : Char) : Bool :=
  if c.toNat < 128 then c == '_' || c.isAlphanum else hasProperty "ID_Continue" c

def isIdentifier : List Char → Bool
  | [] => false
  | c :: cs => startsIdentifier c && cs.all continuesIdentifier

def readName (verbose numeric : Bool) (cs : List Char) : Except Fault (GroupName × List Char) :=
  let (name, rest) := spanWhile verbose (fun c => c != ')' && c != '>') cs
  if name.isEmpty then fault .missingName rest
  else if name.all isDecimal then
    if numeric && 1 ≤ decimal name then .ok (.number (decimal name), rest)
    else fault .badName rest
  else if isIdentifier name then .ok (.name (String.ofList name), rest)
  else fault .badName rest

/-- A reference in angle brackets, or else the letter itself. -/
def readGroupReference (verbose : Bool) (cs : List Char) : Escape × List Char :=
  let found : Except Fault (GroupName × List Char) := do
    let rest ← expect verbose "<" cs
    let (name, rest) ← readName verbose true rest
    return (name, ← expect verbose ">" rest)
  match found with
  | .ok (name, rest) => (.reference name, rest)
  | .error _ => (.code 'g'.toNat, cs)

/-- No lists have names, so that a reference to one is always at fault. -/
def readNamedList (verbose : Bool) (cs : List Char) : Except Fault (Escape × List Char) := do
  let rest ← expect verbose "<" cs
  let (_, rest) ← readName verbose true rest
  let rest ← expect verbose ">" rest
  fault .undefinedList rest

/-- The name of a character. The known ones are those of no table, hence none. -/
def readNamedCharacter (verbose : Bool) (cs : List Char) : Except Fault (Escape × List Char) :=
  match accept verbose ['\x7b'] cs with
  | none => .ok (.code 'N'.toNat, cs)
  | some rest =>
    let (_, rest) :=
      spanWhile verbose (fun c => c.isAlphanum || c == ' ' || c == '-') rest
    match accept verbose ['\x7d'] rest with
    | none => .ok (.code 'N'.toNat, cs)
    | some rest => fault .undefinedCharacter rest

def isNamePart (more : List Char) (c : Char) : Bool := c.isAlphanum || more.contains c

/-- The name of a property, and the property it is a value of. -/
def readPropertyName (verbose : Bool) (cs : List Char) :
    (Option String × String) × List Char :=
  let (name, rest) := spanWhile verbose (isNamePart [' ', '&', '_', '-', '.']) cs
  match next verbose rest with
  | some (c, beyond) =>
    if c = ':' || c = '=' then
      let (value, beyond) := spanWhile verbose (isNamePart [' ', '&', '_', '-', '.', '/']) beyond
      let value := trim value
      if value.isEmpty then ((none, String.ofList name), rest)
      else ((some (String.ofList name), String.ofList value), beyond)
    else ((none, String.ofList name), rest)
  | none => ((none, String.ofList name), rest)

def lookupIn (isPosix positive : Bool) (name : Option String × String) (rest : List Char) :
    Except Fault (Class × List Char) :=
  match lookupClass isPosix name.1 name.2 with
  | .ok c => .ok (if positive then c else .compl c, rest)
  | .error .property => fault .unknownProperty rest
  | .error .value => fault .unknownPropertyValue rest

/-- A property in braces, or one of a single letter, or else the letter itself. -/
def readProperty (verbose positive : Bool) (cs : List Char) :
    Except Fault (Escape × List Char) :=
  let letter : Escape := .code (if positive then 'p'.toNat else 'P'.toNat)
  match next verbose cs with
  | some (c, rest) =>
    if c = '\x7b' then
      let (negated, rest) :=
        match accept verbose ['^'] rest with
        | some rest => (true, rest)
        | none => (false, rest)
      let (name, rest) := readPropertyName verbose rest
      match accept verbose ['\x7d'] rest with
      | some rest => (lookupIn false (positive != negated) name rest).map fun (k, r) => (.cls k, r)
      | none => .ok (letter, cs)
    else if "CLMNPSZ".contains c then
      (lookupIn false positive (none, c.toString) rest).map fun (k, r) => (.cls k, r)
    else .ok (letter, cs)
  | none => .ok (letter, cs)

def classEscape? (flags : Flags) (c : Char) : Option Class :=
  let members (p : Property) : Class := .property (flags.narrow p)
  match c with
  | 'd' => some (members .digit)
  | 'D' => some (.compl (members .digit))
  | 'h' => some (members .blank)
  | 's' => some (members .space)
  | 'S' => some (.compl (members .space))
  | 'w' => some (members .word)
  | 'W' => some (.compl (members .word))
  | _ => none

def anchorEscape? (flags : Flags) (c : Char) : Option Node :=
  let w := flags.narrow .word
  match c with
  | 'A' => some (.anchor .textStart)
  | 'b' => some (.anchor (.boundary w))
  | 'B' => some (.anchor (.notBoundary w))
  | 'K' => some .keep
  | 'm' => some (.anchor (.wordStart w))
  | 'M' => some (.anchor (.wordEnd w))
  | 'Z' | 'z' => some (.anchor .textEnd)
  | _ => none

def plainEscape? : Char → Option Char
  | 'a' => some '\x07'
  | 'b' => some '\x08'
  | 'f' => some '\x0c'
  | 'n' => some '\n'
  | 'r' => some '\r'
  | 't' => some '\t'
  | 'v' => some '\x0b'
  | _ => none

/-- A line ending: a carriage return with a line feed counts as one. -/
def lineBreak : Node :=
  .atomic (.alt (.literal .exact ['\r', '\n']) (.set false (.ofList lineEnds)))

def grapheme : Node :=
  .atomic (.alt (.literal .exact ['\r', '\n'])
    (.seq (.set false (.property .any))
      (.repeated (.set false (.union (.property (.category [.Mn, .Mc, .Me])) (.char '\u200d')))
        0 none .greedy)))

def letterEscape (flags : Flags) (inSet : Bool) (c : Char) (rest : List Char) :
    Except Fault (Escape × List Char) :=
  match if inSet then none else anchorEscape? flags c with
  | some n => .ok (.node n, rest)
  | none =>
    match classEscape? flags c with
    | some k => .ok (.cls k, rest)
    | none =>
      match plainEscape? c with
      | some d => .ok (.plain d, rest)
      | none => fault (.badEscape c) rest

/-- What a backslash stands for with the characters after it. The first of them always counts. -/
def readEscape (flags : Flags) (inSet : Bool) (cs : List Char) :
    Except Fault (Escape × List Char) :=
  let verbose := flags.isVerbose && !inSet
  match cs with
  | [] => fault .endOfPattern cs
  | c :: rest =>
    if c = 'x' then readHex verbose c 2 rest
    else if c = 'u' then readHex verbose c 4 rest
    else if c = 'U' then readHex verbose c 8 rest
    else if c = 'g' && !inSet then .ok (readGroupReference verbose rest)
    else if c = 'G' && !inSet then .ok (.node (.anchor .searchStart), rest)
    else if c = 'L' && !inSet then readNamedList verbose rest
    else if c = 'N' then readNamedCharacter verbose rest
    else if c = 'p' || c = 'P' then readProperty verbose (c = 'p') rest
    else if c = 'R' && !inSet then .ok (.node lineBreak, rest)
    else if c = 'X' && !inSet then .ok (.node grapheme, rest)
    else if isAsciiLetter c then letterEscape flags inSet c rest
    else if c.isDigit then readNumeric verbose inSet c rest
    else .ok (.code c.toNat, rest)

def codeNode (flags : Flags) (n : Nat) : Node :=
  if 0xD800 ≤ n && n ≤ 0xDFFF then .fail else .char (Char.ofNat n) flags.caseMode

def classNode (flags : Flags) (cls : Class) : Node :=
  let adapt (p : Property) : Property := if flags.caseMode = .exact then p else p.ignoringCase
  match cls with
  | .property p => .set false (.property (adapt p))
  | .compl (.property p) => .set false (.compl (.property (adapt p)))
  | k => .set false k

def Escape.toNode (flags : Flags) : Escape → Node
  | .code n => codeNode flags n
  | .plain c => .char c .exact
  | .cls k => classNode flags k
  | .node n => n
  | .reference ref => .backref ref flags.caseMode

end ReleaseMatch.Pattern
