import ReleaseMatch.Text.Quoted
set_option autoImplicit false

/-!
# Operators and combinators

The nine ways in which a condition can ask something of a release name, and the two ways in which
conditions are joined.
-/
namespace ReleaseMatch

/-- A name that stands for nothing, with what it should have stood for. -/
structure UnknownName where
  name : String
  kind : String
  deriving DecidableEq, Repr

def UnknownName.message (u : UnknownName) : String :=
  Text.quoted u.name ++ " is not a valid " ++ u.kind

inductive Operator
  | contains
  | notContains
  | startsWith
  | endsWith
  | equals
  | matches
  | wordBoundary
  | isEmpty
  | isNotEmpty
  deriving DecidableEq, Repr, Inhabited

namespace Operator

def all : List Operator :=
  [.contains, .notContains, .startsWith, .endsWith, .equals, .matches, .wordBoundary, .isEmpty,
    .isNotEmpty]

def name : Operator → String
  | .contains => "contains"
  | .notContains => "notContains"
  | .startsWith => "startsWith"
  | .endsWith => "endsWith"
  | .equals => "equals"
  | .matches => "matches"
  | .wordBoundary => "wordBoundary"
  | .isEmpty => "isEmpty"
  | .isNotEmpty => "isNotEmpty"

def label : Operator → String
  | .contains => "Contains"
  | .notContains => "Does Not Contain"
  | .startsWith => "Starts With"
  | .endsWith => "Ends With"
  | .equals => "Equals (Exact)"
  | .matches => "Matches Pattern (Regex)"
  | .wordBoundary => "Word (Standalone)"
  | .isEmpty => "Is Empty"
  | .isNotEmpty => "Is Not Empty"

def ofName? (s : String) : Option Operator :=
  all.find? fun op => op.name == s

def ofName (s : String) : Except UnknownName Operator :=
  match ofName? s with
  | some op => .ok op
  | none => .error ⟨s, "Operator"⟩

/-- Pins the match to an end of the text. -/
def isPositional : Operator → Bool
  | .startsWith | .endsWith | .equals => true
  | _ => false

/-- Pins the match to both ends of the text all by itself. -/
def isAnchoring : Operator → Bool
  | .notContains | .isEmpty => true
  | _ => false

/-- Has a place in a single anchored expression. -/
def isComposable (op : Operator) : Bool :=
  op.isPositional || op == .contains

def requiresValue : Operator → Bool
  | .isEmpty | .isNotEmpty => false
  | _ => true

/-- Asks something else of upper than of lower case. -/
def honoursCase : Operator → Bool
  | .matches | .isEmpty | .isNotEmpty => false
  | _ => true

theorem mem_all (op : Operator) : op ∈ all := by
  cases op <;> simp [all]

theorem ofName?_name (op : Operator) : ofName? op.name = some op := by
  cases op <;> rfl

end Operator

inductive Combinator
  | and
  | or
  deriving DecidableEq, Repr, Inhabited

namespace Combinator

def name : Combinator → String
  | .and => "AND"
  | .or => "OR"

def ofName? (s : String) : Option Combinator :=
  if s = "AND" then some .and else if s = "OR" then some .or else none

def ofName (s : String) : Except UnknownName Combinator :=
  match ofName? s with
  | some c => .ok c
  | none => .error ⟨s, "Combinator"⟩

theorem ofName?_name (c : Combinator) : ofName? c.name = some c := by
  cases c <;> rfl

end Combinator
end ReleaseMatch
