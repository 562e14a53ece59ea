import ReleaseMatch.Yaml.Tag
set_option autoImplicit false

/-!
# Tokens from text

A lexer goes through a text and keeps what indentation and brackets have opened. Anything that may
turn out to be a key is remembered with the number of its token, since only the colon behind it
shows that it is one; the token for the key is then put in front of it. A key in front of a colon
may not be longer than a line.

A reader of tokens asks for one after the other, and gets a token only when it can no longer become
a key. So where the lexer comes upon a fault, the tokens before that point count all the same.
-/
namespace ReleaseMatch.Yaml

/-- A place at which a key may have begun, with the number of its first token. -/
structure KeyStart where
  number : Nat
  required : Bool
  mark : Mark
  deriving DecidableEq, Repr

/-- `tokens` holds the latest token first. `keys` are the possible keys by the depth of brackets.
Outside of any block the indentation is `-1`. -/
structure Lexer where
  cursor : Cursor
  depth : Nat := 0
  tokens : List Token := []
  count : Nat := 0
  indent : Int := -1
  indents : List Int := []
  allowKey : Bool := true
  keys : List (Nat × KeyStart) := []
  done : Bool := false

namespace Lexer

def mark (l : Lexer) : Mark := l.cursor.mark

def inFlow (l : Lexer) : Bool := l.depth != 0

def add (l : Lexer) (kind : TokenKind) (start stop : Mark) : Lexer :=
  { l with tokens := ⟨kind, start, stop⟩ :: l.tokens, count := l.count + 1 }

/-- Puts a token in front of the one with that number. -/
def insertAt (l : Lexer) (number : Nat) (kind : TokenKind) (mark : Mark) : Lexer :=
  let later := l.count - number
  { l with
    tokens := l.tokens.take later ++ ⟨kind, mark, mark⟩ :: l.tokens.drop later
    count := l.count + 1 }

def firstKey? (l : Lexer) : Option Nat :=
  (l.keys.map (·.2.number)).min?

/-- A key has to be on one line and not too long. -/
def isStale (l : Lexer) (k : KeyStart) : Bool :=
  k.mark.line != l.mark.line || k.mark.index + 1024 < l.mark.index

def noColon {α : Type} (l : Lexer) (k : KeyStart) : Except Fault α :=
  faultIn (.scanning "a simple key") k.mark .noColon l.mark

def dropStale (l : Lexer) : Except Fault Lexer :=
  match l.keys.find? fun k => l.isStale k.2 && k.2.required with
  | some k => l.noColon k.2
  | none => .ok { l with keys := l.keys.filter fun k => !l.isStale k.2 }

def dropKey (l : Lexer) : Except Fault Lexer :=
  match l.keys.lookup l.depth with
  | some k =>
    if k.required then l.noColon k
    else .ok { l with keys := l.keys.filter (·.1 != l.depth) }
  | none => .ok l

/-- Remembers that a key may begin here. At the indentation of a block there has to be one. -/
def saveKey (l : Lexer) : Except Fault Lexer :=
  if l.allowKey then do
    let l ← l.dropKey
    let required := !l.inFlow && l.indent = l.cursor.column
    return { l with keys := l.keys ++ [(l.depth, ⟨l.count, required, l.mark⟩)] }
  else .ok l

def unwind (column : Int) : List Int → Lexer → Lexer
  | [], l => l
  | outer :: rest, l =>
    if !l.inFlow && column < l.indent then
      unwind column rest
        { l.add .blockEnd l.mark l.mark with indent := outer, indents := rest }
    else l

def unwindTo (l : Lexer) (column : Int) : Lexer :=
  unwind column l.indents l

/-- Begins a block at a column, if that is indented further than the block around it. -/
def indentTo (l : Lexer) (column : Nat) : Option Lexer :=
  if l.indent < column then some { l with indents := l.indent :: l.indents, indent := column }
  else none

/-- To the next token: over blanks, comments and line breaks. A new line may begin with a key. -/
def skipSpace : Nat → Lexer → Lexer
  | 0, l => l
  | fuel + 1, l =>
    let c := l.cursor.skipBlanks.skipComment
    if isBreak c.peek then
      skipSpace fuel { l with cursor := c.lineBreak.2, allowKey := l.allowKey || !l.inFlow }
    else { l with cursor := c }

/-- Without the mark of byte order at the start. -/
def skipByteOrder (l : Lexer) : Lexer :=
  if l.mark.index = 0 && l.cursor.peek = '\uFEFF' then { l with cursor := l.cursor.advance } else l

/-- A token of some characters that allows a key behind it or does not. -/
def indicator (l : Lexer) (kind : TokenKind) (width : Nat) (allowKey : Bool) : Lexer :=
  let stop := l.cursor.forward width
  { l.add kind l.mark stop.mark with cursor := stop, allowKey }

def fetchEnd (l : Lexer) : Except Fault Lexer := do
  let l ← (l.unwindTo (-1)).dropKey
  return { l.add .streamEnd l.mark l.mark with allowKey := false, keys := [], done := true }

def fetchDirective (l : Lexer) : Except Fault Lexer := do
  let l ← (l.unwindTo (-1)).dropKey
  let (d, c) ← scanDirective l.cursor
  return { l.add (.directive d) l.mark c.mark with cursor := c, allowKey := false }

def fetchSeparator (l : Lexer) (kind : TokenKind) : Except Fault Lexer := do
  let l ← (l.unwindTo (-1)).dropKey
  return l.indicator kind 3 false

def fetchOpen (l : Lexer) (kind : TokenKind) : Except Fault Lexer := do
  let l ← l.saveKey
  return { l.indicator kind 1 true with depth := l.depth + 1 }

def fetchClose (l : Lexer) (kind : TokenKind) : Except Fault Lexer := do
  let l ← l.dropKey
  return { l.indicator kind 1 false with depth := l.depth - 1 }

def fetchFlowEntry (l : Lexer) : Except Fault Lexer := do
  return (← l.dropKey).indicator .flowEntry 1 true

/-- The start of a block at this place, if a new one begins here. Outside of brackets a line may not
have begun otherwise. -/
def startBlock (l : Lexer) (kind : TokenKind) (what : String) : Except Fault Lexer :=
  if l.inFlow then .ok l
  else if !l.allowKey then faultAt (.notAllowed what) l.mark
  else
    match l.indentTo l.cursor.column with
    | some l => .ok (l.add kind l.mark l.mark)
    | none => .ok l

def fetchBlockEntry (l : Lexer) : Except Fault Lexer := do
  let l ← l.startBlock .blockSequenceStart "sequence entries"
  return (← l.dropKey).indicator .blockEntry 1 true

def fetchKey (l : Lexer) : Except Fault Lexer := do
  let l ← l.startBlock .blockMappingStart "mapping keys"
  return (← l.dropKey).indicator .key 1 !l.inFlow

/-- A colon: what is remembered as a possible key was one. -/
def fetchValue (l : Lexer) : Except Fault Lexer :=
  match l.keys.lookup l.depth with
  | some k =>
    let l := { l with keys := l.keys.filter (·.1 != l.depth) }
    let l := l.insertAt k.number .key k.mark
    let l :=
      match if l.inFlow then none else l.indentTo k.mark.column with
      | some l => l.insertAt k.number .blockMappingStart k.mark
      | none => l
    .ok (l.indicator .value 1 false)
  | none => do
    let l ← l.startBlock .blockMappingStart "mapping values"
    return (← l.dropKey).indicator .value 1 !l.inFlow

def fetchAnchor (l : Lexer) (kind : String → TokenKind) : Except Fault Lexer := do
  let l ← l.saveKey
  let (name, c) ← scanAnchor l.cursor
  return { l.add (kind name) l.mark c.mark with cursor := c, allowKey := false }

def fetchTag (l : Lexer) : Except Fault Lexer := do
  let l ← l.saveKey
  let ((handle, rest), c) ← scanTag l.cursor
  return { l.add (.tag handle rest) l.mark c.mark with cursor := c, allowKey := false }

def fetchBlock (l : Lexer) (folded : Bool) : Except Fault Lexer := do
  let l ← l.dropKey
  let (text, c) ← scanBlock folded (max 1 (l.indent + 1).toNat) l.cursor
  return { l.add (.scalar (String.ofList text) false) l.mark c.mark with
    cursor := c, allowKey := true }

def fetchQuoted (l : Lexer) (double : Bool) : Except Fault Lexer := do
  let l ← l.saveKey
  let (text, c) ← scanQuoted double l.cursor
  return { l.add (.scalar (String.ofList text) false) l.mark c.mark with
    cursor := c, allowKey := false }

def fetchPlain (l : Lexer) : Except Fault Lexer := do
  let l ← l.saveKey
  let p := scanPlain l.inFlow (l.indent + 1) l.cursor
  return { l.add (.scalar (String.ofList p.text) true) l.mark p.stop with
    cursor := p.place, allowKey := p.newLine }

def startsPlain (l : Lexer) : Bool :=
  let ch := l.cursor.peek
  let next := l.cursor.ahead 1
  !(isBlankOrEnd ch || "-?:,[]\x7b\x7d#&*!|>'\"%@`".contains ch)
    || (!isBlankOrEnd next && (ch == '-' || (!l.inFlow && (ch == '?' || ch == ':'))))

def fetchToken (l : Lexer) : Except Fault Lexer :=
  let c := l.cursor
  let ch := c.peek
  let apart := isBlankOrEnd (c.ahead 1)
  let atStart := c.column == 0
  if c.rest.isEmpty then l.fetchEnd
  else if ch = '%' && atStart then l.fetchDirective
  else if ch = '-' && atStart && c.atSeparator then l.fetchSeparator .documentStart
  else if ch = '.' && atStart && c.atSeparator then l.fetchSeparator .documentEnd
  else if ch = '[' then l.fetchOpen .flowSequenceStart
  else if ch = '\x7b' then l.fetchOpen .flowMappingStart
  else if ch = ']' then l.fetchClose .flowSequenceEnd
  else if ch = '\x7d' then l.fetchClose .flowMappingEnd
  else if ch = ',' then l.fetchFlowEntry
  else if ch = '-' && apart then l.fetchBlockEntry
  else if ch = '?' && (l.inFlow || apart) then l.fetchKey
  else if ch = ':' && (l.inFlow || apart) then l.fetchValue
  else if ch = '*' then l.fetchAnchor .alias
  else if ch = '&' then l.fetchAnchor .anchor
  else if ch = '!' then l.fetchTag
  else if ch = '|' && !l.inFlow then l.fetchBlock false
  else if ch = '>' && !l.inFlow then l.fetchBlock true
  else if ch = '\'' then l.fetchQuoted false
  else if ch = '"' then l.fetchQuoted true
  else if l.startsPlain then l.fetchPlain
  else
    .error ⟨some (.scanning "for the next token"), none, .cannotStartToken ch, c.mark⟩

/-- The next tokens, and a look at the keys on both sides of them. -/
def fetch (l : Lexer) : Except Fault Lexer := do
  let l ← (skipSpace (l.cursor.rest.length + 1) l.skipByteOrder).dropStale
  let l ← (l.unwindTo l.cursor.column).fetchToken
  if l.done then return l else l.dropStale

/-- How many tokens can be had before more of the text is read. -/
def available (l : Lexer) : Nat :=
  match l.firstKey? with
  | some n => min n l.count
  | none => l.count

/-- All tokens in order, up to the end or to a fault. Each step but the last uses up characters. -/
def run : Nat → Lexer → List Token × Option Fault
  | 0, l => (l.tokens.reverse, none)
  | fuel + 1, l =>
    if l.done then (l.tokens.reverse, none)
    else
      match l.fetch with
      | .ok next => run fuel next
      | .error f => (l.tokens.reverse.take l.available, some f)

attribute [local irreducible] fetch in
theorem run_eq (fuel : Nat) (l : Lexer) : run (fuel + 1) l =
    if l.done then (l.tokens.reverse, none)
    else
      match l.fetch with
      | .ok next => run fuel next
      | .error f => (l.tokens.reverse.take l.available, some f) := rfl

end Lexer

/-- What can be read of a text: tokens, and the fault behind them if there is one. -/
structure Tokens where
  list : List Token
  fault : Option Fault
  deriving Repr

def Tokens.ofText (text : List Char) : Tokens :=
  let start : Lexer := { cursor := { rest := text } }
  let (list, fault) := Lexer.run (text.length + 2) (start.add .streamStart {} {})
  ⟨list, fault⟩

end ReleaseMatch.Yaml
