import ReleaseMatch.Yaml.Scalar
import ReleaseMatch.Text.Utf8
set_option autoImplicit false

/-!
# Names in documents

Anchors and aliases, tags, and the directives in front of a document.
-/
namespace ReleaseMatch.Yaml

def isWordChar (c : Char) : Bool :=
  c.isAlphanum || c == '-' || c == '_'

def alphanumeric : String := "alphabetic or numeric character"

/-- An anchor or an alias, from its indicator. -/
def scanAnchor (c : Cursor) : Except Fault (String × Cursor) :=
  let start := c.mark
  let context : Context := .scanning (if c.peek = '*' then "an alias" else "an anchor")
  let (name, c) := c.advance.spanWhile isWordChar
  if name.isEmpty || !(isBlankOrEnd c.peek || "?:,]\x7d%@`".contains c.peek) then
    faultIn context start (.expectedChar alphanumeric c.peek) c.mark
  else .ok (String.ofList name, c)

def scanHandle (what : String) (start : Mark) (c : Cursor) : Except Fault (String × Cursor) :=
  let context : Context := .scanning ("a " ++ what)
  if c.peek != '!' then faultIn context start (.expectedChar "'!'" c.peek) c.mark
  else if c.ahead 1 = ' ' then .ok ("!", c.advance)
  else
    let (name, behind) := c.advance.spanWhile isWordChar
    if behind.peek = '!' then
      .ok (String.ofList ('!' :: name ++ ['!']), behind.advance)
    else faultIn context start (.expectedChar "'!'" behind.peek) behind.mark

def isUriChar (c : Char) : Bool :=
  c.isAlphanum || "-;/?:@&=+$,_.!~*'()[]%".contains c

def uriBytes (what : String) (start : Mark) : Nat → Cursor → Except Fault (List UInt8 × Cursor)
  | 0, c => .ok ([], c)
  | fuel + 1, c =>
    if c.peek != '%' then .ok ([], c)
    else
      let c := c.advance
      match hexNumber 2 0 c.rest with
      | .error found =>
        faultIn (.scanning ("a " ++ what)) start
          (.expectedChar "URI escape sequence of 2 hexadecimal numbers" found) c.mark
      | .ok n => do
        let (more, c) ← uriBytes what start fuel (c.forward 2)
        return (n.toUInt8 :: more, c)

def uriEscapes (what : String) (start : Mark) (c : Cursor) : Scanned := do
  let (bytes, behind) ← uriBytes what start c.rest.length c
  match Text.Utf8.decode bytes with
  | .ok cs => return (cs, behind)
  | .error f =>
    faultIn (.scanning ("a " ++ what)) start (.badEncoding f.message) c.mark

def uriChars (what : String) (start : Mark) : Nat → Cursor → Scanned
  | 0, c => .ok ([], c)
  | fuel + 1, c =>
    if c.peek = '%' then do
      let (cs, c) ← uriEscapes what start c
      let (more, c) ← uriChars what start fuel c
      return (cs ++ more, c)
    else if isUriChar c.peek then do
      let (more, behind) ← uriChars what start fuel c.advance
      return (c.peek :: more, behind)
    else .ok ([], c)

def scanUri (what : String) (start : Mark) (c : Cursor) : Except Fault (String × Cursor) := do
  let (cs, behind) ← uriChars what start (c.rest.length + 1) c
  if behind.mark.index = c.mark.index then
    faultIn (.parsing ("a " ++ what)) start (.expectedChar "URI" c.peek) c.mark
  else return (String.ofList cs, behind)

/-- A tag, from its mark of exclamation: the handle, if it has one, and the rest. -/
def scanTag (c : Cursor) : Except Fault ((Option String × String) × Cursor) := do
  let start := c.mark
  let (tag, c) ←
    if c.ahead 1 = '<' then
      let (uri, c) ← scanUri "tag" start (c.forward 2)
      if c.peek != '>' then
        faultIn (.parsing "a tag") start (.expectedChar "'>'" c.peek) c.mark
      else pure (((none : Option String), uri), c.advance)
    else if isBlankOrEnd (c.ahead 1) then pure ((none, "!"), c.advance)
    else
      let word := (c.rest.drop 1).takeWhile (!isSpaceOrEnd ·)
      let (handle, c) ←
        if word.contains '!' then scanHandle "tag" start c else pure ("!", c.advance)
      let (uri, c) ← scanUri "tag" start c
      pure ((some handle, uri), c)
  if isSpaceOrEnd c.peek then return (tag, c)
  else faultIn (.scanning "a tag") start (.expectedChar "' '" c.peek) c.mark

def directiveContext : Context := .scanning "a directive"

def scanVersionNumber (start : Mark) (c : Cursor) : Except Fault (Nat × Cursor) :=
  let (ds, behind) := c.spanWhile Char.isDigit
  if ds.isEmpty then faultIn directiveContext start (.expectedChar "a digit" c.peek) c.mark
  else .ok (ds.foldl (fun n d => 10 * n + (d.toNat - 48)) 0, behind)

def scanVersion (start : Mark) (c : Cursor) : Except Fault (Directive × Cursor) := do
  let (major, c) ← scanVersionNumber start c.skipBlanks
  if c.peek != '.' then
    faultIn directiveContext start (.expectedChar "a digit or '.'" c.peek) c.mark
  else
    let (minor, c) ← scanVersionNumber start c.advance
    if isSpaceOrEnd c.peek then return (.version major minor, c)
    else faultIn directiveContext start (.expectedChar "a digit or ' '" c.peek) c.mark

def scanTagDirective (start : Mark) (c : Cursor) : Except Fault (Directive × Cursor) := do
  let (handle, c) ← scanHandle "directive" start c.skipBlanks
  if c.peek != ' ' then faultIn directiveContext start (.expectedChar "' '" c.peek) c.mark
  else
    let (uri, c) ← scanUri "directive" start c.skipBlanks
    if isSpaceOrEnd c.peek then return (.tag handle uri, c)
    else faultIn directiveContext start (.expectedChar "' '" c.peek) c.mark

/-- A directive with the line it stands on. -/
def scanDirective (c : Cursor) : Except Fault (Directive × Cursor) := do
  let start := c.mark
  let (name, c) := c.advance.spanWhile isWordChar
  if name.isEmpty || !isSpaceOrEnd c.peek then
    faultIn directiveContext start (.expectedChar alphanumeric c.peek) c.mark
  else
    let (directive, c) ←
      match String.ofList name with
      | "YAML" => scanVersion start c
      | "TAG" => scanTagDirective start c
      | s => pure (Directive.unknown s, c.skipWhile (!isBreak ·) c.rest.length)
    return (directive, ← restOfLine directiveContext start c)

end ReleaseMatch.Yaml
