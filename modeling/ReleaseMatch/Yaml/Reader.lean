import ReleaseMatch.Yaml.Lexer
import ReleaseMatch.Yaml.Node
set_option autoImplicit false

/-!
# Nodes from tokens

The tokens of a stream are read as one document at most. An alias stands for the node of its anchor;
inside of that node it stands for an empty one, since no tree holds itself.
-/
namespace ReleaseMatch.Yaml

/-- A reader of tokens: what is still to come, the tags that handles stand for, and the nodes that
have an anchor. -/
structure NodeReader where
  tokens : List Token
  fault : Option Fault
  last : Mark := {}
  handles : List (String × String) := []
  anchors : List (String × Node) := []

abbrev Read := StateT NodeReader (Except Fault)

namespace Read

def fail {α : Type} (f : Fault) : Read α := fun _ => .error f

def failAt {α : Type} (context : Option (Context × Mark)) (problem : Problem) (mark : Mark) :
    Read α :=
  fail ⟨context.map (·.1), context.map (·.2), problem, mark⟩

/-- The next token. Where the text ends in a fault, asking for a token brings it up. -/
def peek : Read Token := fun r =>
  match r.tokens with
  | t :: _ => .ok (t, r)
  | [] =>
    match r.fault with
    | some f => .error f
    | none => .ok (⟨.streamEnd, r.last, r.last⟩, r)

def take : Read Token := do
  let t ← peek
  modify fun r => { r with tokens := r.tokens.tail, last := t.stop }
  return t

def nextIs (test : TokenKind → Bool) : Read Bool := do
  return test (← peek).kind

def takeIf (test : TokenKind → Bool) : Read (Option Token) := do
  if ← nextIs test then return some (← take) else return none

end Read

open Read

def leftOut (mark : Mark) : Node := .scalar .null "" mark

structure Properties where
  anchor : Option String := none
  tag : Option (Option String × String) := none
  start : Option Mark := none
  tagMark : Mark := {}

def readAnchor (p : Properties) : Read Properties := do
  let t ← peek
  match t.kind with
  | .anchor name =>
    let _ ← take
    return { p with anchor := some name, start := p.start.or (some t.start) }
  | _ => return p

def readTag (p : Properties) : Read Properties := do
  let t ← peek
  match t.kind with
  | .tag handle rest =>
    let _ ← take
    return { p with
      tag := some (handle, rest), start := p.start.or (some t.start), tagMark := t.start }
  | _ => return p

/-- An anchor and a tag, in either order. -/
def readProperties : Read Properties := do
  let p ← readAnchor {}
  let p ← readTag p
  if p.anchor.isNone then readAnchor p else return p

def resolveTag (p : Properties) (start : Mark) : Read (Option String) := do
  match p.tag with
  | none => return none
  | some (none, rest) => return some rest
  | some (some handle, rest) =>
    match (← get).handles.lookup handle with
    | some lead => return some (lead ++ rest)
    | none =>
      failAt (some (.parsing "a node", start)) (.undefinedHandle handle) p.tagMark

def collectionTag (tag : Option String) (standard : Tag) : Tag :=
  match tag with
  | none | some "!" => standard
  | some name => .ofName name

def scalarTag (tag : Option String) (text : String) (plain : Bool) : Tag :=
  match tag with
  | none => if plain then plainTag text else .str
  | some "!" => plainTag text
  | some name => .ofName name

def setAnchor (anchor : Option String) (n : Node) : Read Unit := do
  match anchor with
  | some name => modify fun r => { r with anchors := (name, n) :: r.anchors }
  | none => return

def checkAnchor (anchor : Option String) (start : Mark) : Read Unit := do
  match anchor with
  | none => return
  | some name =>
    match (← get).anchors.lookup name with
    | some first => failAt (some (.composingAnchor name, first.mark)) .secondAnchor start
    | none => return

structure Style where
  block : Bool := false
  indentless : Bool := false

def endsBlockEntry (indentless : Bool) : TokenKind → Bool
  | .blockEntry | .blockEnd => true
  | .key | .value => indentless
  | _ => false

def endsBlockPair : TokenKind → Bool
  | .key | .value | .blockEnd => true
  | _ => false

def endsFlowEntry (close : TokenKind) (withValue : Bool) (k : TokenKind) : Bool :=
  k == .flowEntry || k == close || (withValue && k == .value)

/-- A collection with its anchor, which inside of it stands for an empty one. -/
def collection {α : Type} (anchor : Option String) (start : Mark) (tag : Tag)
    (node : Tag → List α → Mark → Node) (content : Read (List α)) : Read Node := do
  checkAnchor anchor start
  setAnchor anchor (node tag [] start)
  let n := node tag (← content) start
  setAnchor anchor n
  return n

def readComma (context : Context) (start : Mark) (expected : String) : Read Unit := do
  if (← takeIf (· == .flowEntry)).isNone then
    let t ← peek
    failAt (some (context, start)) (.expectedToken expected t.kind.name) t.start

mutual

/-- A node. `fuel` bounds the steps: each of them takes a token or has one taken soon. -/
def readNode (style : Style) : Nat → Read Node
  | 0 => do
    let t ← peek
    failAt none (.expectedToken "the node content, but found" t.kind.name) t.start
  | fuel + 1 => do
    let t ← peek
    match t.kind with
    | .alias name =>
      let _ ← take
      match (← get).anchors.lookup name with
      | some n => return n
      | none => failAt none (.undefinedAlias name) t.start
    | _ =>
      let p ← readProperties
      let t ← peek
      let start := p.start.getD t.start
      let tag ← resolveTag p start
      match t.kind with
      | .scalar text plain =>
        let _ ← take
        checkAnchor p.anchor start
        let n := Node.scalar (scalarTag tag text plain) text start
        setAnchor p.anchor n
        return n
      | .flowSequenceStart =>
        let _ ← take
        collection p.anchor start (collectionTag tag .seq) .sequence
          (readFlowSequence t.start true fuel)
      | .flowMappingStart =>
        let _ ← take
        collection p.anchor start (collectionTag tag .map) .mapping
          (readFlowMapping t.start true fuel)
      | kind =>
        if style.indentless && kind == .blockEntry then
          collection p.anchor start (collectionTag tag .seq) .sequence
            (readBlockSequence t.start true fuel)
        else if style.block && kind == .blockSequenceStart then
          let _ ← take
          collection p.anchor start (collectionTag tag .seq) .sequence
            (readBlockSequence t.start false fuel)
        else if style.block && kind == .blockMappingStart then
          let _ ← take
          collection p.anchor start (collectionTag tag .map) .mapping
            (readBlockMapping t.start fuel)
        else if p.start.isSome then
          checkAnchor p.anchor start
          let n := Node.scalar (scalarTag tag "" tag.isNone) "" start
          setAnchor p.anchor n
          return n
        else
          failAt (some (.parsing (if style.block then "a block node" else "a flow node"), start))
            (.expectedToken "the node content, but found" kind.name) t.start

/-- The entries of a block, each behind a hyphen. -/
def readBlockSequence (start : Mark) (indentless : Bool) : Nat → Read (List Node)
  | 0 => return []
  | fuel + 1 => do
    match ← takeIf (· == .blockEntry) with
    | some t =>
      let item ←
        if ← nextIs (endsBlockEntry indentless) then pure (leftOut t.stop)
        else readNode { block := true } fuel
      let items ← readBlockSequence start indentless fuel
      return item :: items
    | none =>
      if indentless then return []
      else
        let t ← peek
        if t.kind == .blockEnd then
          let _ ← take
          return []
        else
          failAt (some (.parsing "a block collection", start))
            (.expectedToken "<block end>, but found" t.kind.name) t.start

def readBlockMapping (start : Mark) : Nat → Read (List (Node × Node))
  | 0 => return []
  | fuel + 1 => do
    let style : Style := { block := true, indentless := true }
    let t ← peek
    if t.kind == .blockEnd then
      let _ ← take
      return []
    else if t.kind == .key then
      let k ← take
      let key ← if ← nextIs endsBlockPair then pure (leftOut k.stop) else readNode style fuel
      let value ←
        match ← takeIf (· == .value) with
        | some v => if ← nextIs endsBlockPair then pure (leftOut v.stop) else readNode style fuel
        | none => pure (leftOut (← peek).start)
      let entries ← readBlockMapping start fuel
      return (key, value) :: entries
    else
      failAt (some (.parsing "a block mapping", start))
        (.expectedToken "<block end>, but found" t.kind.name) t.start

/-- The entries of a sequence in brackets. A key among them makes a mapping of one pair. -/
def readFlowSequence (start : Mark) (first : Bool) : Nat → Read (List Node)
  | 0 => return []
  | fuel + 1 => do
    if (← takeIf (· == .flowSequenceEnd)).isSome then return []
    else
      unless first do readComma (.parsing "a flow sequence") start "',' or ']', but got"
      let ends := endsFlowEntry .flowSequenceEnd
      match ← takeIf (· == .key) with
      | some k =>
        let key ← if ← nextIs (ends true) then pure (leftOut k.stop) else readNode {} fuel
        let value ←
          match ← takeIf (· == .value) with
          | some v => if ← nextIs (ends false) then pure (leftOut v.stop) else readNode {} fuel
          | none => pure (leftOut (← peek).start)
        let items ← readFlowSequence start false fuel
        return .mapping .map [(key, value)] k.start :: items
      | none =>
        if (← takeIf (· == .flowSequenceEnd)).isSome then return []
        else
          let item ← readNode {} fuel
          let items ← readFlowSequence start false fuel
          return item :: items

/-- The pairs of a mapping in braces. An entry that is no pair is a key with nothing. -/
def readFlowMapping (start : Mark) (first : Bool) : Nat → Read (List (Node × Node))
  | 0 => return []
  | fuel + 1 => do
    if (← takeIf (· == .flowMappingEnd)).isSome then return []
    else
      unless first do readComma (.parsing "a flow mapping") start "',' or '\x7d', but got"
      let ends := endsFlowEntry .flowMappingEnd
      match ← takeIf (· == .key) with
      | some k =>
        let key ← if ← nextIs (ends true) then pure (leftOut k.stop) else readNode {} fuel
        let value ←
          match ← takeIf (· == .value) with
          | some v => if ← nextIs (ends false) then pure (leftOut v.stop) else readNode {} fuel
          | none => pure (leftOut (← peek).start)
        let entries ← readFlowMapping start false fuel
        return (key, value) :: entries
      | none =>
        if (← takeIf (· == .flowMappingEnd)).isSome then return []
        else
          let key ← readNode {} fuel
          let value := leftOut (← peek).start
          let entries ← readFlowMapping start false fuel
          return (key, value) :: entries

end

/-! ## Documents -/

def standardHandles : List (String × String) := [("!", "!"), ("!!", standardTag)]

/-- The directives in front of a document. The number of tokens bounds their number. -/
def readDirectives (versionSeen : Bool) (handles : List (String × String)) :
    Nat → Read (List (String × String))
  | 0 => return handles
  | fuel + 1 => do
    let t ← peek
    match t.kind with
    | .directive d =>
      let _ ← take
      match d with
      | .version major _ =>
        if versionSeen then failAt none .duplicateDirective t.start
        else if major != 1 then failAt none .incompatibleVersion t.start
        else readDirectives true handles fuel
      | .tag handle lead =>
        if (handles.lookup handle).isSome then failAt none (.duplicateHandle handle) t.start
        else readDirectives versionSeen ((handle, lead) :: handles) fuel
      | .unknown _ => readDirectives versionSeen handles fuel
    | _ => return handles

def readHead (fuel : Nat) : Read Unit := do
  let handles ← readDirectives false [] fuel
  let t ← peek
  if t.kind == .documentStart then
    let _ ← take
    modify fun r => { r with handles := handles ++ standardHandles }
  else failAt none (.expectedToken "'<document start>', but found" t.kind.name) t.start

def isDirective : TokenKind → Bool
  | .directive _ => true
  | _ => false

def endsDocument (k : TokenKind) : Bool :=
  isDirective k || k == .documentStart || k == .documentEnd || k == .streamEnd

def skipDocumentEnds : Nat → Read Unit
  | 0 => return
  | fuel + 1 => do
    if (← takeIf (· == .documentEnd)).isSome then skipDocumentEnds fuel else return

/-- The only document of a stream, if there is one. -/
def readDocument (fuel : Nat) : Read (Option Node) := do
  let _ ← take
  let t ← peek
  if t.kind == .streamEnd then return none
  else
    let root ←
      if isDirective t.kind || t.kind == .documentStart then
        readHead fuel
        let t ← peek
        if endsDocument t.kind then pure (leftOut t.start) else readNode { block := true } fuel
      else
        modify fun r => { r with handles := standardHandles }
        readNode { block := true } fuel
    skipDocumentEnds fuel
    let t ← peek
    if t.kind == .streamEnd then return some root
    else
      readHead fuel
      failAt (some (.singleDocument, root.mark)) .secondDocument t.start

def Node.ofText? (text : List Char) : Except Fault (Option Node) :=
  let tokens := Tokens.ofText text
  let reader : NodeReader := { tokens := tokens.list, fault := tokens.fault }
  ((readDocument (4 * tokens.list.length + 4)).run reader).map (·.1)

end ReleaseMatch.Yaml
