import ReleaseMatch.Number.Read
import ReleaseMatch.Toml.Fault
set_option autoImplicit false

/-!
# Blanks, comments and quoted texts

A text in single quotes is taken as it is, one in double quotes has escapes. Three quotes in place of
one let it go on over several lines; then a line feed right at its start does not count, and up to two
more quotes may stand before the three that end it.
-/
namespace ReleaseMatch.Toml

def isSpace (c : Char) : Bool := c == ' ' || c == '\t'

def isSpaceOrLine (c : Char) : Bool := isSpace c || c == '\n'

def skipSpace (cs : List Char) : List Char := cs.dropWhile isSpace

/-- The control characters, but for the tab. -/
def isControl (c : Char) : Bool := (c.toNat < 32 && c != '\t') || c.toNat == 127

def isControlInLines (c : Char) : Bool := isControl c && c != '\n'

/-- The text in front of a mark, and the text from the mark on. -/
def splitAtMark (mark : List Char) : List Char → Option (List Char × List Char)
  | [] => if mark.isEmpty then some ([], []) else none
  | c :: rest =>
    if mark.isPrefixOf (c :: rest) then some ([], c :: rest)
    else (splitAtMark mark rest).map fun (before, from_) => (c :: before, from_)

/-- Refuses a stretch at the start of a text if it has a character that it may not have. -/
def checkPlain (isBad : Char → Bool) (stretch cs : List Char) : Except Stop Unit :=
  match stretch.find? isBad with
  | none => .ok ()
  | some c =>
    .error ⟨.controlInPlain c, cs.drop (stretch.takeWhile fun d => !isBad d).length⟩

/-- Skips a comment up to the end of its line, if the text starts with one. -/
def skipComment (cs : List Char) : Except Stop (List Char) :=
  match cs with
  | '#' :: rest => do
    checkPlain isControl (rest.takeWhile (· != '\n')) rest
    return rest.dropWhile (· != '\n')
  | _ => .ok cs

/-- Skips blanks, lines and comments; `fuel` bounds the number of comments. -/
def skipLines : Nat → List Char → Except Stop (List Char)
  | 0, cs => .ok cs
  | fuel + 1, cs =>
    match cs.dropWhile isSpaceOrLine with
    | '#' :: rest => do skipLines fuel (← skipComment ('#' :: rest))
    | rest => .ok rest

def skipAllLines (cs : List Char) : Except Stop (List Char) :=
  skipLines (cs.length + 1) cs

def readUntil (mark : List Char) (isBad : Char → Bool) : Reader (List Char) := fun cs =>
  match splitAtMark mark cs with
  | none => .error ⟨.missing (String.ofList mark), []⟩
  | some (body, rest) => do
    checkPlain isBad body cs
    return (body, rest.drop mark.length)

def escapedChar? (c : Char) : Option Char :=
  match c with
  | 'b' => some '\x08'
  | 't' => some '\t'
  | 'n' => some '\n'
  | 'f' => some '\x0c'
  | 'r' => some '\r'
  | '"' => some '"'
  | '\\' => some '\\'
  | _ => none

def readHex (width : Nat) : Reader (List Char) := fun cs =>
  let ds := cs.take width
  if ds.length < width || ds.any (fun d => !Number.isDigitOf 16 d) then .error ⟨.notHex, cs⟩
  else
    let n := Number.digitsOf 16 ds
    let rest := cs.drop width
    if n.isValidChar then .ok ([Char.ofNat n], rest) else .error ⟨.notScalar, rest⟩

def readEscape : Reader (List Char)
  | 'u' :: rest => readHex 4 rest
  | 'U' :: rest => readHex 8 rest
  | c :: rest =>
    match escapedChar? c with
    | some d => .ok ([d], rest)
    | none => .error ⟨.strayBackslash, rest⟩
  | [] => .error ⟨.strayBackslash, []⟩

/-- In a text of several lines a backslash at the end of a line stands for nothing, and neither do
the blanks and lines after it. -/
def readLineEscape : Reader (List Char)
  | '\n' :: rest => .ok ([], rest.dropWhile isSpaceOrLine)
  | c :: rest =>
    if isSpace c then
      match skipSpace rest with
      | [] => .ok ([], [])
      | '\n' :: rest => .ok ([], rest.dropWhile isSpaceOrLine)
      | rest => .error ⟨.strayBackslash, rest⟩
    else readEscape (c :: rest)
  | [] => readEscape []

/-- The rest of a text in double quotes. Each step takes a character at least, so that the number of
characters is fuel enough. -/
def readBasic : Nat → Reader (List Char)
  | 0, cs => .error ⟨.openText, cs⟩
  | fuel + 1, cs =>
    match cs with
    | [] => .error ⟨.openText, []⟩
    | '"' :: rest => .ok ([], rest)
    | '\\' :: rest => do
      let (c, rest) ← readEscape rest
      let (more, rest) ← readBasic fuel rest
      return (c ++ more, rest)
    | c :: rest => do
      if isControl c then throw ⟨.controlInText c, cs⟩
      let (more, rest) ← readBasic fuel rest
      return (c :: more, rest)

def readBasicLines : Nat → Reader (List Char)
  | 0, cs => .error ⟨.openText, cs⟩
  | fuel + 1, cs =>
    match cs with
    | [] => .error ⟨.openText, []⟩
    | '"' :: '"' :: '"' :: rest => .ok ([], rest)
    | '\\' :: rest => do
      let (c, rest) ← readLineEscape rest
      let (more, rest) ← readBasicLines fuel rest
      return (c ++ more, rest)
    | c :: rest => do
      if isControlInLines c then throw ⟨.controlInText c, cs⟩
      let (more, rest) ← readBasicLines fuel rest
      return (c :: more, rest)

/-- Up to two quotes more, which belong to the text before them. -/
def extraQuotes (quote : Char) (body cs : List Char) : List Char × List Char :=
  let extra := (cs.take 2).takeWhile (· == quote)
  (body ++ extra, cs.drop extra.length)

def skipFirstLine : List Char → List Char
  | '\n' :: rest => rest
  | cs => cs

/-- A text in quotes, if there is one, on a single line or on several. -/
def readQuoted? (cs : List Char) : Option (Except Stop (List Char × List Char)) :=
  match cs with
  | '"' :: '"' :: '"' :: rest => some do
    let (body, rest) ← readBasicLines (rest.length + 1) (skipFirstLine rest)
    return extraQuotes '"' body rest
  | '"' :: rest => some (readBasic (rest.length + 1) rest)
  | '\'' :: '\'' :: '\'' :: rest => some do
    let (body, rest) ← readUntil ['\'', '\'', '\''] isControlInLines (skipFirstLine rest)
    return extraQuotes '\'' body rest
  | '\'' :: rest => some (readUntil ['\''] isControl rest)
  | _ => none

def isBare (c : Char) : Bool := c.isAlphanum || c == '-' || c == '_'

def startsKey (c : Char) : Bool := isBare c || c == '"' || c == '\''

/-- One name of a key. A name in quotes is on a single line. -/
def readName : Reader String := fun cs =>
  match cs with
  | '"' :: rest => do
    let (name, rest) ← readBasic (rest.length + 1) rest
    return (String.ofList name, rest)
  | '\'' :: rest => do
    let (name, rest) ← readUntil ['\''] isControl rest
    return (String.ofList name, rest)
  | c :: _ =>
    if isBare c then .ok (String.ofList (cs.takeWhile isBare), cs.dropWhile isBare)
    else .error ⟨.notKey, cs⟩
  | [] => .error ⟨.notKey, []⟩

def readKeyNames : Nat → Reader Key
  | 0, cs => .error ⟨.notKey, cs⟩
  | fuel + 1, cs => do
    let (name, rest) ← readName cs
    match skipSpace rest with
    | '.' :: rest =>
      let (names, rest) ← readKeyNames fuel (skipSpace rest)
      return (name :: names, rest)
    | rest => return ([name], rest)

def readKey : Reader Key := fun cs => readKeyNames (cs.length + 1) cs

end ReleaseMatch.Toml
