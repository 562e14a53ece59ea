import ReleaseMatch.Toml.Fault
import ReleaseMatch.Value
set_option autoImplicit false

/-!
# Tables under way

The tables of a configuration text while it is read, with the marks that say which of them may still
be declared or added to.
-/
namespace ReleaseMatch.Toml

abbrev Entries := List (Value × Value)

/-- Puts a value in the place of the one at a name, or at the end. -/
def Entries.put (entries : Entries) (name : String) (v : Value) : Entries :=
  match entries with
  | [] => [(.text name, v)]
  | (.text k, w) :: rest =>
    if k = name then (.text k, v) :: rest else (.text k, w) :: Entries.put rest name v
  | row :: rest => row :: Entries.put rest name v

/-- Changes the table that a key leads to. Missing tables are made; with `arrays` an array stands for
its last table. -/
def Entries.change (arrays : Bool) (f : Entries → Except Fault Entries) :
    Key → Entries → Except Fault Entries
  | [], entries => f entries
  | name :: key, entries =>
    match Value.get? entries name with
    | none => do return entries.put name (.map (← change arrays f key []))
    | some (.map inner) => do return entries.put name (.map (← change arrays f key inner))
    | some (.list xs) =>
      match arrays, xs.getLast? with
      | true, some (.map inner) => do
        return entries.put name (.list (xs.dropLast ++ [.map (← change arrays f key inner)]))
      | _, _ => .error .overwritten
    | some _ => .error .overwritten

def Entries.add (name : String) (v : Value) (taken : Fault) (entries : Entries) :
    Except Fault Entries :=
  match Value.get? entries name with
  | none => .ok (entries.put name v)
  | some _ => .error taken

/-- Adds a table to the array at a name, which is made if there is none. -/
def Entries.addTable (name : String) (entries : Entries) : Except Fault Entries :=
  match Value.get? entries name with
  | none => .ok (entries.put name (.list [.map []]))
  | some (.list xs) => .ok (entries.put name (.list (xs ++ [.map []])))
  | some _ => .error .overwritten

/-- Tables that are declared, those that will be as soon as the next header comes, and values that
nothing can be added to. -/
structure Marks where
  declared : List Key := []
  pending : List Key := []
  closed : List Key := []
  deriving DecidableEq, Repr

namespace Marks

def isDeclared (m : Marks) (key : Key) : Bool := m.declared.contains key

/-- Closed is also all that is inside of a closed value. -/
def isClosed (m : Marks) (key : Key) : Bool := m.closed.any (·.isPrefixOf key)

def declare (m : Marks) (key : Key) : Marks := { m with declared := key :: m.declared }

def declareLater (m : Marks) (key : Key) : Marks := { m with pending := key :: m.pending }

def declarePending (m : Marks) : Marks :=
  { m with declared := m.pending ++ m.declared, pending := [] }

def close (m : Marks) (key : Key) : Marks := { m with closed := key :: m.closed }

/-- Takes back what is known of a key and of all inside of it. -/
def forget (m : Marks) (key : Key) : Marks :=
  { m with
    declared := m.declared.filter fun k => !key.isPrefixOf k
    closed := m.closed.filter fun k => !key.isPrefixOf k }

/-- Tables and arrays that are written as a value are closed. -/
def closeValue (m : Marks) (key : Key) : Value → Marks
  | .map _ => m.close key
  | .list _ => m.close key
  | _ => m

end Marks

/-- A text under way: all its tables, and the key of the one that lines are added to. -/
structure Sheet where
  root : Entries := []
  header : Key := []
  marks : Marks := {}

namespace Sheet

/-- The parts of a key from its first name on, without the key itself. -/
def properParts (key : Key) : List Key :=
  (List.range (key.length - 1)).map fun n => key.take (n + 1)

def openTable (s : Sheet) (key : Key) : Except Fault Sheet := do
  if s.marks.isDeclared key || s.marks.isClosed key then throw (.declaredTwice key)
  let root ← s.root.change true .ok key
  return ⟨root, key, s.marks.declare key⟩

def openArray (s : Sheet) (key : Key) : Except Fault Sheet := do
  if s.marks.isClosed key then throw (.closedNamespace key)
  let root ← s.root.change true (Entries.addTable (key.getLast?.getD "")) key.dropLast
  return ⟨root, key, (s.marks.forget key).declare key⟩

/-- Adds a value under the open table. A key with dots makes tables of its own, which no header and
no line of another table may open again. -/
def add (s : Sheet) (key : Key) (v : Value) : Except Fault Sheet := do
  let marks ← (properParts key).foldlM (fun (m : Marks) part =>
    if m.isDeclared (s.header ++ part) then .error (.declaredNamespace (s.header ++ part))
    else .ok (m.declareLater (s.header ++ part))) s.marks
  let parent := s.header ++ key.dropLast
  if marks.isClosed parent then throw (.closedNamespace parent)
  let root ← s.root.change true (Entries.add (key.getLast?.getD "") v .overwritten) parent
  return { s with root := root, marks := marks.closeValue (s.header ++ key) v }

end Sheet
end ReleaseMatch.Toml
