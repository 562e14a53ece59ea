import ReleaseMatch.Yaml.Token
set_option autoImplicit false

/-!
# Scalars of documents

Texts may stand as they are, between quotes, or as blocks of lines. Line breaks inside the first two
fold: one becomes a blank, and of several the first one is dropped. A block keeps its line breaks or
folds those between lines that are not indented further.
-/
namespace ReleaseMatch.Yaml

abbrev Scanned := Except Fault (List Char × Cursor)

/-! ## Plain scalars -/

def endsPlainIn (flow : Bool) (c : Char) : Bool :=
  isBlankOrEnd c || (flow && [',', '[', ']', '\x7b', '\x7d'].contains c)

/-- The first word of a plain scalar: up to a blank, or a colon before one, and inside of brackets up
to what separates. -/
def plainWord (flow : Bool) : List Char → List Char
  | [] => []
  | c :: rest =>
    if isBlankOrEnd c then []
    else if c == ':' && endsPlainIn flow (rest.headD '\x00') then []
    else if flow && [',', '?', '[', ']', '\x7b', '\x7d'].contains c then []
    else c :: plainWord flow rest

/-- Line breaks and the blanks around them, unless a line is met that separates documents. -/
def plainBreaks : Nat → Cursor → Option (List Char) × Cursor
  | 0, c => (some [], c)
  | fuel + 1, c =>
    if c.peek = ' ' then plainBreaks fuel c.advance
    else if isBreak c.peek then
      let (br, c) := c.lineBreak
      if c.atSeparator then (none, c)
      else
        let (more, c) := plainBreaks fuel c
        (more.map (br ++ ·), c)
    else (some [], c)

/-- A line break with those that follow it, folded. -/
def foldBreaks (first more : List Char) : List Char :=
  if first != ['\n'] then first ++ more
  else if more.isEmpty then [' ']
  else more

/-- What stands between two words of a plain scalar. The flag tells whether a line ended. -/
structure Gap where
  text : List Char
  newLine : Bool
  place : Cursor

def plainGap (c : Cursor) : Gap :=
  let (blanks, c) := c.spanWhile (· == ' ')
  if isBreak c.peek then
    let (first, c) := c.lineBreak
    if c.atSeparator then ⟨[], true, c⟩
    else
      match plainBreaks c.rest.length c with
      | (none, c) => ⟨[], true, c⟩
      | (some more, c) => ⟨foldBreaks first more, true, c⟩
  else ⟨blanks, false, c⟩

/-- A plain scalar: its text, the mark behind its last word, and the gap after it. -/
structure Plain where
  text : List Char
  stop : Mark
  newLine : Bool
  place : Cursor

/-- The words of a plain scalar from the first one on. `lead` is the gap before it, and `indent` the
least column at which a line may go on. -/
def plainWords (flow : Bool) (indent : Int) : Nat → List Char → Bool → Cursor → Plain
  | 0, _, newLine, c => ⟨[], c.mark, newLine, c⟩
  | fuel + 1, lead, newLine, c =>
    let word := plainWord flow c.rest
    if c.peek = '#' || word.isEmpty then ⟨[], c.mark, newLine, c⟩
    else
      let behind := c.forward word.length
      let gap := plainGap behind
      if gap.text.isEmpty || gap.place.peek = '#'
          || (!flow && decide ((gap.place.column : Int) < indent)) then
        ⟨lead ++ word, behind.mark, gap.newLine, gap.place⟩
      else
        let more := plainWords flow indent fuel gap.text gap.newLine gap.place
        ⟨lead ++ word ++ more.text, if more.text.isEmpty then behind.mark else more.stop,
          more.newLine, more.place⟩

def scanPlain (flow : Bool) (indent : Int) (c : Cursor) : Plain :=
  plainWords flow indent (c.rest.length + 1) [] false c

/-! ## Quoted scalars -/

def replacement? : Char → Option Char
  | '0' => some '\x00'
  | 'a' => some '\x07'
  | 'b' => some '\x08'
  | 't' | '\t' => some '\t'
  | 'n' => some '\n'
  | 'v' => some '\x0b'
  | 'f' => some '\x0c'
  | 'r' => some '\r'
  | 'e' => some '\x1b'
  | ' ' => some ' '
  | '"' => some '"'
  | '\\' => some '\\'
  | '/' => some '/'
  | 'N' => some '\u0085'
  | '_' => some '\u00a0'
  | 'L' => some '\u2028'
  | 'P' => some '\u2029'
  | _ => none

def codeLength? : Char → Option Nat
  | 'x' => some 2
  | 'u' => some 4
  | 'U' => some 8
  | _ => none

def hexDigit? (c : Char) : Option Nat :=
  let n := c.toNat
  if c.isDigit then some (n - 48)
  else if 'a' ≤ c && c ≤ 'f' then some (n - 87)
  else if 'A' ≤ c && c ≤ 'F' then some (n - 55)
  else none

def hexNumber : Nat → Nat → List Char → Except Char Nat
  | 0, n, _ => .ok n
  | count + 1, n, cs =>
    let c := cs.headD '\x00'
    match hexDigit? c with
    | some d => hexNumber count (16 * n + d) cs.tail
    | none => .error c

/-- Line breaks and the blanks after them, inside of quotes. -/
def quotedBreaks (start : Mark) : Nat → Cursor → Scanned
  | 0, c => .ok ([], c)
  | fuel + 1, c =>
    if c.atSeparator then
      faultIn (.scanning "a quoted scalar") start .documentSeparator c.mark
    else
      let c := c.skipWhile (fun ch => ch == ' ' || ch == '\t') c.rest.length
      if isBreak c.peek then do
        let (br, c) := c.lineBreak
        let (more, c) ← quotedBreaks start fuel c
        return (br ++ more, c)
      else .ok ([], c)

def quotedGap (start : Mark) (c : Cursor) : Scanned :=
  let (blanks, c) := c.spanWhile fun ch => ch == ' ' || ch == '\t'
  if c.rest.isEmpty then faultIn (.scanning "a quoted scalar") start .endOfStream c.mark
  else if isBreak c.peek then do
    let (first, c) := c.lineBreak
    let (more, c) ← quotedBreaks start (c.rest.length + 1) c
    return (foldBreaks first more, c)
  else .ok (blanks, c)

/-- Codes from here on have no character. -/
def codeLimit : Nat := 0x110000

/-- What a code stands for, and how much of what follows belongs to it: the first half of a pair stands
for one character together with the second half, where that comes right behind it. A half of its own
stands for none. -/
def codeChar? (n : Nat) (following : List Char) : Option (Char × Nat) :=
  if !isHalf n then some (Char.ofNat n, 0)
  else if n < 0xDC00 then
    match following with
    | '\\' :: 'u' :: digits =>
      match hexNumber 4 0 digits with
      | .ok m =>
        if 0xDC00 ≤ m && m < 0xE000 then
          some (Char.ofNat (0x10000 + (n - 0xD800) * 0x400 + (m - 0xDC00)), 6)
        else none
      | .error _ => none
    | _ => none
  else none

def scanEscape (start : Mark) (c : Cursor) : Scanned :=
  let context : Context := .scanning "a double-quoted scalar"
  let ch := c.peek
  match if c.rest.isEmpty then none else replacement? ch with
  | some r => .ok ([r], c.advance)
  | none =>
    match codeLength? ch with
    | some count =>
      let c := c.advance
      match hexNumber count 0 c.rest with
      | .error found => faultIn context start (.hexDigits count found) c.mark
      | .ok n =>
        if codeLimit ≤ n then faultAt (.noCharacter n) c.mark
        else
          let c := c.forward count
          match codeChar? n c.rest with
          | some (r, more) => .ok ([r], c.forward more)
          | none => faultAt (.noCharacter n) c.mark
    | none =>
      if isBreak ch then do
        let (_, c) := c.lineBreak
        quotedBreaks start (c.rest.length + 1) c
      else faultIn context start (.unknownEscape ch) c.mark

def endsQuotedWord (c : Char) : Bool :=
  c == '\'' || c == '"' || c == '\\' || isBlankOrEnd c

/-- The characters inside of quotes up to a blank or to the closing quote. -/
def quotedWord (double : Bool) (start : Mark) : Nat → Cursor → Scanned
  | 0, c => .ok ([], c)
  | fuel + 1, c => do
    let (word, c) := c.spanWhile (!endsQuotedWord ·)
    let ch := c.peek
    let found : Option (List Char × Cursor) ←
      if !double && ch == '\'' && c.ahead 1 == '\'' then
        pure (some (['\''], c.advance.advance))
      else if (double && ch == '\'') || (!double && (ch == '"' || ch == '\\')) then
        pure (some ([ch], c.advance))
      else if double && ch == '\\' then (scanEscape start c.advance).map some
      else pure none
    match found with
    | some (part, c) =>
      let (more, c) ← quotedWord double start fuel c
      return (word ++ part ++ more, c)
    | none => return (word, c)

/-- Gaps and words by turns, up to the closing quote. -/
def quotedRest (double : Bool) (start : Mark) : Nat → Cursor → Scanned
  | 0, c => .ok ([], c)
  | fuel + 1, c =>
    if c.peek = (if double then '"' else '\'') then .ok ([], c)
    else do
      let (gap, c) ← quotedGap start c
      let (word, c) ← quotedWord double start (c.rest.length + 1) c
      let (more, c) ← quotedRest double start fuel c
      return (gap ++ word ++ more, c)

def scanQuoted (double : Bool) (c : Cursor) : Scanned := do
  let start := c.mark
  let c := c.advance
  let (word, c) ← quotedWord double start (c.rest.length + 1) c
  let (more, c) ← quotedRest double start (c.rest.length + 1) c
  return (word ++ more, c.advance)

/-! ## Blocks -/

inductive Chomping
  | clip
  | keep
  | strip
  deriving DecidableEq, Repr

structure BlockHeader where
  chomping : Chomping := .clip
  increment : Option Nat := none
  deriving DecidableEq, Repr

def chomping? : Char → Option Chomping
  | '+' => some .keep
  | '-' => some .strip
  | _ => none

def blockContext : Context := .scanning "a block scalar"

/-- The digit for the indentation of a block, if there is one. -/
def blockIncrement (start : Mark) (c : Cursor) : Except Fault (Option Nat × Cursor) :=
  if c.peek = '0' then faultIn blockContext start .zeroIndentation c.mark
  else if c.peek.isDigit then .ok (some (c.peek.toNat - 48), c.advance)
  else .ok (none, c)

def blockHeader (start : Mark) (c : Cursor) : Except Fault (BlockHeader × Cursor) := do
  let (header, c) ←
    match chomping? c.peek with
    | some chomping =>
      let (increment, c) ← blockIncrement start c.advance
      pure (BlockHeader.mk chomping increment, c)
    | none =>
      let (increment, c) ← blockIncrement start c
      match increment, chomping? c.peek with
      | some _, some chomping => pure (BlockHeader.mk chomping increment, c.advance)
      | _, _ => pure (BlockHeader.mk .clip increment, c)
  if isSpaceOrEnd c.peek then return (header, c)
  else
    faultIn blockContext start
      (.expectedChar "chomping or indentation indicators" c.peek) c.mark

def restOfLine (context : Context) (start : Mark) (c : Cursor) : Except Fault Cursor :=
  let c := c.skipBlanks.skipComment
  if isBreakOrEnd c.peek then .ok c.lineBreak.2
  else faultIn context start (.expectedChar "a comment or a line break" c.peek) c.mark

/-- The line breaks before the first line of a block, and the farthest indentation among the lines
they end. -/
def blockIndentation : Nat → Nat → Cursor → List Char × Nat × Cursor
  | 0, most, c => ([], most, c)
  | fuel + 1, most, c =>
    if c.peek = ' ' then
      let c := c.advance
      blockIndentation fuel (max most c.column) c
    else if isBreak c.peek then
      let (br, c) := c.lineBreak
      let (more, most, c) := blockIndentation fuel most c
      (br ++ more, most, c)
    else ([], most, c)

def toIndent (indent : Nat) : Nat → Cursor → Cursor
  | 0, c => c
  | fuel + 1, c =>
    if c.column < indent && c.peek = ' ' then toIndent indent fuel c.advance else c

def blockBreaks (indent : Nat) : Nat → Cursor → List Char × Cursor
  | 0, c => ([], c)
  | fuel + 1, c =>
    let c := toIndent indent c.rest.length c
    if isBreak c.peek then
      let (br, c) := c.lineBreak
      let (more, c) := blockBreaks indent fuel c
      (br ++ more, c)
    else ([], c)

def isIndented (c : Char) : Bool := c == ' ' || c == '\t'

def joinLines (folded plainLine plainNext : Bool) (br breaks : List Char) : List Char :=
  if folded && br == ['\n'] && plainLine && plainNext then
    if breaks.isEmpty then [' '] else []
  else br

/-- The lines of a block, and the breaks behind them, where the block ends. -/
def blockLines (folded : Bool) (indent : Nat) (chomping : Chomping) :
    Nat → List Char → List Char → Cursor → List Char × Cursor
  | 0, _, _, c => ([], c)
  | fuel + 1, br, breaks, c =>
    let finish (br breaks : List Char) (c : Cursor) : List Char × Cursor :=
      match chomping with
      | .clip => (br, c)
      | .keep => (br ++ breaks, c)
      | .strip => ([], c)
    if c.column = indent && !c.rest.isEmpty then
      let plainLine := !isIndented c.peek
      let (line, c) := c.spanWhile (!isBreak ·)
      let (br, c) := c.lineBreak
      let (more, c) := blockBreaks indent (c.rest.length + 1) c
      if c.column = indent && !c.rest.isEmpty then
        let joint := joinLines folded plainLine (!isIndented c.peek) br more
        let (text, c) := blockLines folded indent chomping fuel br more c
        (breaks ++ line ++ joint ++ text, c)
      else
        let (tail, c) := finish br more c
        (breaks ++ line ++ tail, c)
    else finish br breaks c

/-- A block, from its indicator. `least` is the least indentation it may have. -/
def scanBlock (folded : Bool) (least : Nat) (c : Cursor) : Scanned := do
  let start := c.mark
  let (header, c) ← blockHeader start c.advance
  let c ← restOfLine blockContext start c
  let (breaks, indent, c) :=
    match header.increment with
    | some n =>
      let indent := least + n - 1
      let (breaks, c) := blockBreaks indent (c.rest.length + 1) c
      (breaks, indent, c)
    | none =>
      let (breaks, most, c) := blockIndentation c.rest.length 0 c
      (breaks, max least most, c)
  return blockLines folded indent header.chomping (c.rest.length + 1) [] breaks c

end ReleaseMatch.Yaml
