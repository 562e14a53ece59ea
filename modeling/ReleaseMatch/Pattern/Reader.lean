import ReleaseMatch.Pattern.Quantifier
set_option autoImplicit false

/-!
# Reading patterns

A reader goes through a pattern from left to right. It holds the alternatives read so far of the
group it is in, and for each group around that one what is to be done when it is closed. References
to groups are looked at after the last character, since they may point forward.
-/
namespace ReleaseMatch.Pattern

open Text

inductive Purpose
  | plain
  | capture (index : Nat)
  | look (behind positive : Bool)
  | atomic
  | reset (first highest : Nat)
  | ifGroup (ref : GroupName)
  | test (behind positive : Bool)
  | ifLook (behind positive : Bool) (test : Node)
  deriving DecidableEq, Repr

/-- A reference to a group, with the number of characters after the place it counts from. -/
inductive Reference
  | back (ref : GroupName) (left : Nat)
  | condition (ref : GroupName) (left : Nat)
  | call (ref : GroupName) (left : Nat)
  deriving DecidableEq, Repr

/-- The alternatives of a group, the latest first, and the items of the one being read, the latest
first. After a quantifier comes a gap, and so does the start, so that there is nothing to
quantify there. -/
structure Level where
  alternatives : List Node := []
  items : List (Option Node) := [none]
  deriving DecidableEq, Repr

/-- A group that is open: what it is for, the flags that hold again after it, the level around it
and, of a conditional group, the references before it. -/
structure OpenGroup where
  purpose : Purpose
  flags : Flags
  outer : Level
  earlier : List Reference := []
  deriving DecidableEq, Repr

structure Reader where
  rest : List Char
  flags : Flags := .standard
  level : Level := {}
  groups : List OpenGroup := []
  groupCount : Nat := 0
  names : List (String × Nat) := []
  opened : List Nat := []
  references : List Reference := []
  globals : Flags := []
  deriving DecidableEq, Repr

def Level.sequence (l : Level) : Node :=
  .ofList (l.items.reverse.filterMap id)

def Level.node (l : Level) : Node :=
  Node.alternatives (l.alternatives.reverse ++ [l.sequence])

def Level.push (l : Level) (n : Node) : Level :=
  { l with items := some n :: l.items }

def Level.split (l : Level) : Level :=
  { alternatives := l.sequence :: l.alternatives }

namespace Reader

def isVerbose (r : Reader) : Bool := r.flags.isVerbose

def push (r : Reader) (n : Node) (rest : List Char) : Reader :=
  { r with rest, level := r.level.push n }

def open_ (r : Reader) (purpose : Purpose) (rest : List Char) : Reader :=
  { r with rest, level := {}, groups := ⟨purpose, r.flags, r.level, []⟩ :: r.groups }

/-- The next number for a group with a name: those that belong to other names are passed over. -/
def freshNumber (names : List (String × Nat)) : Nat → Nat → Nat
  | 0, n => n
  | fuel + 1, n => if names.any (·.2 = n) then freshNumber names fuel (n + 1) else n

/-- Opens a group that captures. Groups of one name share a number. -/
def openCapture (r : Reader) (name : Option String) (rest : List Char) : Reader :=
  let known := name.bind fun s => List.lookup s r.names
  let index :=
    known.getD (match name with
      | none => r.groupCount + 1
      | some _ => freshNumber r.names r.names.length (r.groupCount + 1))
  let r := { r with
    groupCount := if known.isSome then r.groupCount else index
    names := match known, name with
      | none, some s => r.names ++ [(s, index)]
      | _, _ => r.names
    opened := index :: r.opened }
  r.open_ (.capture index) rest

/-- The group is over: what it stands for becomes an item of the level around it. -/
def close (r : Reader) (rest : List Char) (g : OpenGroup) (groups : List OpenGroup) : Reader :=
  let back (n : Node) : Reader :=
    { r with rest, flags := g.flags, level := g.outer.push n, groups }
  match g.purpose with
  | .plain => back r.level.node
  | .capture index => back (.group index r.level.node)
  | .look behind positive => back (.look behind positive r.level.node)
  | .atomic => back (.atomic r.level.node)
  | .reset _ highest =>
    { back r.level.node with flags := r.flags, groupCount := max highest r.groupCount }
  | .ifGroup ref =>
    match r.level.alternatives with
    | [] => conditional g back ref r.level.sequence .empty
    | yes :: _ => conditional g back ref yes r.level.sequence
  | .test behind positive =>
    { r with
      rest, flags := g.flags, level := {},
      groups := { g with purpose := .ifLook behind positive r.level.node } :: groups }
  | .ifLook behind positive test =>
    let n : Node :=
      match r.level.alternatives with
      | [] => .ifLook behind positive test r.level.sequence .empty
      | yes :: _ => .ifLook behind positive test yes r.level.sequence
    { back n with flags := r.flags }
where
  /-- A condition on nothing at all is dropped, and with it what it refers to. -/
  conditional (g : OpenGroup) (back : Node → Reader) (ref : GroupName) (yes no : Node) : Reader :=
    if yes.isEmpty && no.isEmpty then { back .empty with references := g.earlier }
    else back (.ifGroup ref yes no)

/-- A bar: the next alternative begins, if the group may have one more. -/
def bar (r : Reader) (rest : List Char) : Except Fault Reader :=
  let split := { r with rest, level := r.level.split }
  match r.groups with
  | [] => .ok split
  | g :: groups =>
    let closed : Except Fault Reader :=
      if r.level.alternatives.isEmpty then .ok split else fault (.missing ")") r.rest
    match g.purpose with
    | .ifGroup _ => closed
    | .ifLook .. => closed
    | .reset first highest =>
      .ok { split with
        groupCount := first
        groups := { g with purpose := .reset first (max highest r.groupCount) } :: groups }
    | _ => .ok split

def closing (r : Reader) (rest : List Char) : Except Fault Reader :=
  match r.groups with
  | [] => fault .unbalanced r.rest
  | g :: groups => .ok (r.close rest g groups)

def dot (flags : Flags) : Node :=
  if flags.contains .dotAll then .set false (.property .any)
  else if flags.contains .wideWord then .set false (.compl (.ofList lineEnds))
  else .set false notNewline

def caret (flags : Flags) : Node :=
  .anchor
    (if flags.contains .multiline then
      if flags.contains .wideWord then .wideLineStart else .lineStart
    else .textStart)

def dollar (flags : Flags) : Node :=
  .anchor
    (if flags.contains .multiline then
      if flags.contains .wideWord then .wideLineEnd else .lineEnd
    else if flags.contains .wideWord then .wideLastLineEnd
    else .lastLineEnd)

/-- How a repetition is to be tried, by the mark behind its quantifier. -/
def readGreed (verbose : Bool) (rest : List Char) : Greed × List Char :=
  match next verbose rest with
  | some ('?', rest) => (.lazy, rest)
  | some ('+', rest) => (.possessive, rest)
  | _ => (.greedy, rest)

/-- Repeats the latest item. Repeating nothing, or once, changes nothing. -/
def quantify (r : Reader) (counts : Counts) (rest : List Char) : Except Fault Reader :=
  match r.level.items with
  | some n :: items =>
    let (greed, rest) := readGreed r.isVerbose rest
    let once := counts.least = 1 && counts.most = some 1
    let repeated :=
      if n.isEmpty || once then n else .repeated n counts.least counts.most greed
    .ok { r with rest, level := { r.level with items := none :: some repeated :: items } }
  | none :: _ :: _ => fault .multipleRepeat r.rest
  | _ => fault .nothingToRepeat r.rest

/-- An opening brace: counts, a constraint on errors, or itself. -/
def brace (r : Reader) (rest : List Char) : Except Fault Reader := do
  match ← readCounts r.isVerbose rest with
  | some (counts, rest) => r.quantify counts rest
  | none =>
    match ← readConstraint r.flags rest with
    | some rest =>
      match r.level.items with
      | some n :: items =>
        return { r with rest, level := { r.level with items := none :: some n :: items } }
      | _ => fault .nothingForConstraint r.rest
    | none => return r.push (.char '\x7b' r.flags.caseMode) rest

/-- Flags, for the rest of the group or for a group of their own. Global ones hold everywhere. -/
def flagGroup (r : Reader) (rest : List Char) : Except Fault Reader := do
  let ((on, off), rest) ← readFlagChange r.isVerbose rest
  let r := { r with globals := on.filter Flag.isGlobal ++ r.globals }
  let flags := r.flags.change (on.filter fun f : Flag => !f.isGlobal) off
  match accept r.isVerbose [':'] rest with
  | some rest => return { r.open_ .plain rest with flags }
  | none =>
    match accept r.isVerbose [')'] rest with
    | some rest => return { r with rest, flags }
    | none => fault .unknownExtension rest

/-- What follows a comment. A backslash keeps the next character from ending it. -/
def dropComment : List Char → Except Fault (List Char)
  | [] => fault (.missing ")") []
  | ')' :: rest => .ok rest
  | '\\' :: _ :: rest => dropComment rest
  | ['\\'] => fault (.missing ")") []
  | _ :: rest => dropComment rest

def namedGroup (r : Reader) (rest : List Char) : Except Fault Reader := do
  match ← readName r.isVerbose false rest with
  | (.name s, rest) => return r.openCapture (some s) (← expect r.isVerbose ">" rest)
  | (.number _, rest) => fault .badName rest

def addCall (r : Reader) (ref : GroupName) (place rest : List Char) : Except Fault Reader := do
  let rest ← expect r.isVerbose ")" rest
  return { r.push (.call ref) rest with references := .call ref place.length :: r.references }

def namedCall (r : Reader) (place rest : List Char) : Except Fault Reader := do
  let (ref, rest) ← readName r.isVerbose false rest
  r.addCall ref place rest

/-- A call of the group that is so many groups before or after this place. -/
def relativeCall (r : Reader) (forward : Bool) (place rest : List Char) : Except Fault Reader :=
  let (ds, rest) := spanWhile r.isVerbose Char.isDigit rest
  if ds.isEmpty then fault .missingRelativeNumber rest
  else
    let offset := decimal ds
    let number := if forward then r.groupCount + offset else r.groupCount + 1 - offset
    if number = 0 then fault .invalidRelativeNumber rest
    else r.addCall (.number number) place rest

def extension (r : Reader) (rest : List Char) : Except Fault Reader :=
  match next r.isVerbose rest with
  | some ('<', beyond) => r.namedGroup beyond
  | some ('=', beyond) => do
    let (ref, beyond) ← readName r.isVerbose true beyond
    let beyond ← expect r.isVerbose ")" beyond
    return { r.push (.backref ref r.flags.caseMode) beyond with
      references := .back ref rest.length :: r.references }
  | some ('>', beyond) | some ('&', beyond) => r.namedCall rest beyond
  | _ => fault .unknownExtension rest

def condition (r : Reader) (rest : List Char) : Except Fault Reader :=
  let v := r.isVerbose
  match next v rest with
  | some ('?', beyond) =>
    match next v beyond with
    | some ('=', beyond) => .ok (r.open_ (.test false true) beyond)
    | some ('!', beyond) => .ok (r.open_ (.test false false) beyond)
    | some ('<', beyond) =>
      match next v beyond with
      | some ('=', beyond) => .ok (r.open_ (.test true true) beyond)
      | some ('!', beyond) => .ok (r.open_ (.test true false) beyond)
      | _ => fault .expectedLook rest
    | _ => fault .expectedLook rest
  | _ => do
    let (ref, beyond) ← readName v true rest
    let beyond ← expect v ")" beyond
    let group : OpenGroup := ⟨.ifGroup ref, r.flags, r.level, r.references⟩
    return { r with
      rest := beyond, level := {}, groups := group :: r.groups
      references := .condition ref rest.length :: r.references }

/-- What a parenthesis with a question mark opens. -/
def special (r : Reader) (rest : List Char) : Except Fault Reader :=
  let v := r.isVerbose
  match next v rest with
  | some ('<', beyond) =>
    match next v beyond with
    | some ('=', beyond) => .ok (r.open_ (.look true true) beyond)
    | some ('!', beyond) => .ok (r.open_ (.look true false) beyond)
    | _ => r.namedGroup beyond
  | some ('=', beyond) => .ok (r.open_ (.look false true) beyond)
  | some ('!', beyond) => .ok (r.open_ (.look false false) beyond)
  | some ('P', beyond) => r.extension beyond
  | some ('#', beyond) => do return { r with rest := ← dropComment beyond }
  | some ('(', beyond) => r.condition beyond
  | some ('>', beyond) => .ok (r.open_ .atomic beyond)
  | some ('|', beyond) => .ok (r.open_ (.reset r.groupCount r.groupCount) beyond)
  | some ('R', beyond) => r.addCall (.number 0) rest beyond
  | some ('&', beyond) => r.namedCall rest beyond
  | some (c, beyond) =>
    if c.isDigit then
      let (ds, beyond) := spanWhile v Char.isDigit beyond
      r.addCall (.number (decimal (c :: ds))) rest beyond
    else if (c = '+' || c = '-') && ((next v beyond).any fun n => n.1.isDigit) then
      r.relativeCall (c = '+') rest beyond
    else r.flagGroup rest
  | none => r.flagGroup rest

def verb (r : Reader) (word : List Char) (place rest : List Char) : Except Fault Reader := do
  let n : Node ←
    match String.ofList word with
    | "FAIL" | "F" => pure .fail
    | "PRUNE" | "SKIP" => pure .empty
    | _ => fault .unknownVerb place
  return r.push n (← expect r.isVerbose ")" rest)

def paren (r : Reader) (rest : List Char) : Except Fault Reader :=
  match next r.isVerbose rest with
  | some ('?', beyond) => r.special beyond
  | some ('*', beyond) =>
    let (word, after) := spanWhile r.isVerbose (fun c => c != ')' && c != '>') beyond
    if word.head?.any isLetter then r.verb word beyond after
    else .ok (r.openCapture none rest)
  | _ => .ok (r.openCapture none rest)

def escape (r : Reader) (rest : List Char) : Except Fault Reader := do
  let (e, rest) ← readEscape r.flags false rest
  let r := r.push (e.toNode r.flags) rest
  match e with
  | .reference ref => return { r with references := .back ref rest.length :: r.references }
  | _ => return r

def readChar (r : Reader) (c : Char) (rest : List Char) : Except Fault Reader :=
  match c with
  | '|' => r.bar rest
  | ')' => r.closing rest
  | '(' => r.paren rest
  | '\\' => r.escape rest
  | '[' => do
    let (n, rest) ← readSet r.flags rest
    return r.push n rest
  | '.' => .ok (r.push (dot r.flags) rest)
  | '^' => .ok (r.push (caret r.flags) rest)
  | '$' => .ok (r.push (dollar r.flags) rest)
  | '?' => r.quantify ⟨0, some 1⟩ rest
  | '*' => r.quantify ⟨0, none⟩ rest
  | '+' => r.quantify ⟨1, none⟩ rest
  | '\x7b' => r.brace rest
  | c => .ok (r.push (.char c r.flags.caseMode) rest)

/-- Reads to the end of the pattern, at which no group may be open. Every step uses up characters,
and `fuel` bounds the number of steps. -/
def readAll : Nat → Reader → Except Fault Reader
  | 0, r => .ok r
  | fuel + 1, r =>
    match next r.isVerbose r.rest with
    | none => if r.groups.isEmpty then .ok r else fault (.missing ")") r.rest
    | some (c, rest) => do readAll fuel (← r.readChar c rest)

end Reader

def Reference.check (groupCount : Nat) (names : List (String × Nat)) (opened : List Nat)
    (ref : Reference) : Except Fault Unit :=
  let number (n : GroupName) : Option Nat :=
    match n with
    | .number n => some n
    | .name s => List.lookup s names
  match ref with
  | .back n left =>
    match number n with
    | none => .error ⟨.unknownGroup, left⟩
    | some i => if 1 ≤ i && i ≤ groupCount then .ok () else .error ⟨.invalidReference, left⟩
  | .condition n left =>
    match number n with
    | none => if n = .name "DEFINE" then .ok () else .error ⟨.unknownGroup, left⟩
    | some i => if i ≤ groupCount then .ok () else .error ⟨.invalidReference, left⟩
  | .call n left =>
    match number n with
    | none => .error ⟨.invalidReference, left⟩
    | some i =>
      if groupCount < i then .error ⟨.unknownGroup, left⟩
      else if 1 < opened.count i then .error ⟨.ambiguousReference, left⟩
      else .ok ()

/-- Whether the flags at the end ask for more than one character set. -/
def Reader.mixesEncodings (r : Reader) : Bool :=
  1 < ([Flag.ascii, .localeAware, .unicode].filter r.flags.contains).length

def Regex.read (pattern : List Char) : Except Rejection Regex :=
  let malformed {α : Type} (r : Except Fault α) : Except Rejection α :=
    r.mapError fun f => .malformed (f.inPattern pattern)
  do
    let r ← malformed (Reader.readAll (pattern.length + 1) { rest := pattern })
    if r.globals.contains .oldVersion then .error .mixedVersions
    else if r.mixesEncodings then .error .mixedEncodings
    else
      malformed (r.references.reverse.forM (·.check r.groupCount r.names r.opened))
      return ⟨r.level.node.join, r.groupCount, r.names, r.globals.contains .backwards⟩

end ReleaseMatch.Pattern
