import ReleaseMatch.Toml.Scalar
import ReleaseMatch.Toml.Table
set_option autoImplicit false

/-!
# Reading a configuration text

The text is read a statement at a time: a header that opens a table, or a line that adds a value to
the open one. Values nest; each step of the readers takes a character or goes one value deeper, so
that twice the number of characters is fuel enough.
-/
namespace ReleaseMatch.Toml

/-- A table in braces while it is read. -/
structure Inline where
  entries : Entries := []
  marks : Marks := {}

def Inline.add (t : Inline) (key : Key) (v : Value) : Except Fault Inline := do
  if t.marks.isClosed key then throw (.closedNamespace key)
  let name := key.getLast?.getD ""
  let entries ← t.entries.change false (Entries.add name v (.repeatedKey name)) key.dropLast
  return ⟨entries, t.marks.closeValue key v⟩

def stopAt {α : Type} (ahead : List Char) (r : Except Fault α) : Except Stop α :=
  r.mapError (⟨·, ahead⟩)

def readEquals : Reader Key := fun cs => do
  let (key, rest) ← readKey cs
  match rest with
  | '=' :: rest => return (key, skipSpace rest)
  | _ => throw ⟨.noEquals, rest⟩

mutual

def readValue : Nat → Reader Value
  | 0, cs => .error ⟨.notValue, cs⟩
  | fuel + 1, cs =>
    match readQuoted? cs with
    | some r => r.map fun (s, rest) => (.text (String.ofList s), rest)
    | none =>
      match cs with
      | 't' :: 'r' :: 'u' :: 'e' :: rest => .ok (.bool true, rest)
      | 'f' :: 'a' :: 'l' :: 's' :: 'e' :: rest => .ok (.bool false, rest)
      | '[' :: rest => do
        let (xs, rest) ← readItems fuel rest
        return (.list xs, rest)
      | '\x7b' :: rest =>
        match skipSpace rest with
        | '\x7d' :: rest => .ok (.map [], rest)
        | rest => do
          let (entries, rest) ← readPairs fuel {} rest
          return (.map entries, rest)
      | _ => readScalar cs

/-- The values of an array up to its end. After the last one there may be a comma. -/
def readItems : Nat → Reader (List Value)
  | 0, cs => .error ⟨.notValue, cs⟩
  | fuel + 1, cs => do
    match ← skipAllLines cs with
    | ']' :: rest => return ([], rest)
    | cs =>
      let (x, rest) ← readValue fuel cs
      match ← skipAllLines rest with
      | ']' :: rest => return ([x], rest)
      | ',' :: rest =>
        let (xs, rest) ← readItems fuel rest
        return (x :: xs, rest)
      | rest => throw ⟨.openArray, rest⟩

def readPairs : Nat → Inline → Reader Entries
  | 0, _, cs => .error ⟨.notValue, cs⟩
  | fuel + 1, table, cs => do
    let (key, rest) ← readEquals cs
    let (v, rest) ← readValue fuel rest
    let table ← stopAt rest (table.add key v)
    match skipSpace rest with
    | '\x7d' :: rest => return (table.entries, rest)
    | ',' :: rest => readPairs fuel table (skipSpace rest)
    | rest => throw ⟨.openTable, rest⟩

end

def fuelFor (cs : List Char) : Nat := 2 * cs.length + 2

def readStatement (s : Sheet) (cs : List Char) : Except Stop (Sheet × List Char) :=
  match cs with
  | '[' :: '[' :: rest => do
    let (key, rest) ← readKey (skipSpace rest)
    let s ← stopAt rest ({ s with marks := s.marks.declarePending }.openArray key)
    match rest with
    | ']' :: ']' :: rest => return (s, rest)
    | _ => throw ⟨.openArrayHeader, rest⟩
  | '[' :: rest => do
    let (key, rest) ← readKey (skipSpace rest)
    let s ← stopAt rest ({ s with marks := s.marks.declarePending }.openTable key)
    match rest with
    | ']' :: rest => return (s, rest)
    | _ => throw ⟨.openTableHeader, rest⟩
  | '#' :: _ => .ok (s, cs)
  | c :: _ =>
    if startsKey c then do
      let (key, rest) ← readEquals cs
      let (v, rest) ← readValue (fuelFor rest) rest
      return (← stopAt rest (s.add key v), rest)
    else .error ⟨.notStatement, cs⟩
  | [] => .ok (s, [])

/-- Reads statements up to the end of the text. Each takes a line at least. -/
def readStatements : Nat → Sheet → List Char → Except Stop Sheet
  | 0, s, _ => .ok s
  | fuel + 1, s, cs => do
    match skipSpace cs with
    | [] => return s
    | '\n' :: rest => readStatements fuel s rest
    | cs =>
      let (s, rest) ← readStatement s cs
      match ← skipComment (skipSpace rest) with
      | [] => return s
      | '\n' :: rest => readStatements fuel s rest
      | rest => throw ⟨.noLineEnd, rest⟩

/-- A carriage return in front of a line feed does not count. -/
def joinLineEnds : List Char → List Char
  | [] => []
  | '\r' :: '\n' :: rest => '\n' :: joinLineEnds rest
  | c :: rest => c :: joinLineEnds rest

/-- What is wrong with a text. Numbers of too many digits are no fault of its form. -/
inductive ReadFault
  | malformed (stop : Stop) (text : List Char)
  | tooManyDigits (count : Nat)
  deriving DecidableEq, Repr

def ReadFault.message : ReadFault → String
  | .malformed stop text => stop.message text
  | .tooManyDigits count => (Fault.tooManyDigits count).message

def read (text : List Char) : Except ReadFault Entries :=
  let cs := joinLineEnds text
  match readStatements (cs.length + 1) {} cs with
  | .ok s => .ok s.root
  | .error ⟨.tooManyDigits count, _⟩ => .error (.tooManyDigits count)
  | .error stop => .error (.malformed stop cs)

end ReleaseMatch.Toml
