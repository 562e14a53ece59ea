import ReleaseMatch.Value
set_option autoImplicit false

/-!
# JSON text

The written form of values: ASCII only, with an escape for every other character, in pairs of
surrogates beyond the basic plane. One form stands on a single line, the other is indented by two
blanks a level.
-/
namespace ReleaseMatch.Json

open Number

def unit (n : Nat) : List Char :=
  '\\' :: 'u' :: Text.hex 4 n

def escape (c : Char) : List Char :=
  let n := c.toNat
  if c = '"' then ['\\', '"']
  else if c = '\\' then ['\\', '\\']
  else if c = '\n' then ['\\', 'n']
  else if c = '\r' then ['\\', 'r']
  else if c = '\t' then ['\\', 't']
  else if n = 12 then ['\\', 'f']
  else if n = 8 then ['\\', 'b']
  else if 32 ≤ n && n < 127 then [c]
  else if n < 0x10000 then unit n
  else unit (0xD800 + (n - 0x10000) / 0x400) ++ unit (0xDC00 + (n - 0x10000) % 0x400)

def string (s : String) : List Char :=
  '"' :: s.toList.flatMap escape ++ ['"']

def float : Binary64 → List Char
  | .nan => "NaN".toList
  | .infinite negative => (if negative then "-Infinity" else "Infinity").toList
  | x => x.text.toList

def key : Value → List Char
  | .text s => string s
  | v => string v.shown

mutual

def line : Value → List Char
  | .null => "null".toList
  | .bool b => (if b then "true" else "false").toList
  | .int n => (toString n).toList
  | .float x => float x
  | .text s => string s
  | .bytes bs => string (Value.bytesCode bs)
  | .moment m => string m.text
  | .list xs => '[' :: items xs ++ [']']
  | .map entries => '\x7b' :: members entries ++ ['\x7d']

def items : List Value → List Char
  | [] => []
  | [x] => line x
  | x :: rest => line x ++ ',' :: ' ' :: items rest

def members : List (Value × Value) → List Char
  | [] => []
  | [(k, v)] => key k ++ ':' :: ' ' :: line v
  | (k, v) :: rest => key k ++ ':' :: ' ' :: line v ++ ',' :: ' ' :: members rest

end

def newline (depth : Nat) : List Char :=
  '\n' :: List.replicate (2 * depth) ' '

mutual

/-- Over several lines, at a depth. -/
def block (depth : Nat) : Value → List Char
  | .list [] => ['[', ']']
  | .list xs => '[' :: blockItems (depth + 1) xs ++ newline depth ++ [']']
  | .map [] => ['\x7b', '\x7d']
  | .map entries => '\x7b' :: blockMembers (depth + 1) entries ++ newline depth ++ ['\x7d']
  | v => line v

def blockItems (depth : Nat) : List Value → List Char
  | [] => []
  | [x] => newline depth ++ block depth x
  | x :: rest => newline depth ++ block depth x ++ ',' :: blockItems depth rest

def blockMembers (depth : Nat) : List (Value × Value) → List Char
  | [] => []
  | [(k, v)] => newline depth ++ key k ++ ':' :: ' ' :: block depth v
  | (k, v) :: rest =>
    newline depth ++ key k ++ ':' :: ' ' :: block depth v ++ ',' :: blockMembers depth rest

end

def render (v : Value) : String :=
  String.ofList (line v)

def renderBlock (v : Value) : String :=
  String.ofList (block 0 v)

end ReleaseMatch.Json
