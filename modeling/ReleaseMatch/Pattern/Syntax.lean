import ReleaseMatch.Pattern.Class
set_option autoImplicit false

/-!
# Syntax of patterns

The tree that a pattern stands for. Characters that stand side by side are read one by one and then
joined into literals, since full case folding works across them.
-/
namespace ReleaseMatch.Pattern

/-- How letters are compared: as they are, up to case, or by their full foldings. -/
inductive CaseMode
  | exact
  | simple
  | full
  deriving DecidableEq, Repr, Inhabited

inductive Anchor
  | textStart
  | textEnd
  | lastLineEnd
  | lineStart
  | lineEnd
  | wideLastLineEnd
  | wideLineStart
  | wideLineEnd
  | boundary (w : Property)
  | notBoundary (w : Property)
  | wordStart (w : Property)
  | wordEnd (w : Property)
  | searchStart
  deriving DecidableEq, Repr

inductive Greed
  | greedy
  | lazy
  | possessive
  deriving DecidableEq, Repr

inductive GroupName
  | number (n : Nat)
  | name (s : String)
  deriving DecidableEq, Repr

inductive Node
  | empty
  | fail
  | char (c : Char) (mode : CaseMode)
  | literal (mode : CaseMode) (cs : List Char)
  | set (ignoreCase : Bool) (cls : Class)
  | seq (a b : Node)
  | alt (a b : Node)
  | group (index : Nat) (body : Node)
  | repeated (body : Node) (least : Nat) (most : Option Nat) (greed : Greed)
  | look (behind positive : Bool) (body : Node)
  | atomic (body : Node)
  | backref (ref : GroupName) (mode : CaseMode)
  | ifGroup (ref : GroupName) (yes no : Node)
  | ifLook (behind positive : Bool) (test yes no : Node)
  | anchor (a : Anchor)
  | keep
  | call (ref : GroupName)
  deriving DecidableEq, Repr

namespace Node

/-- Matches nothing but the empty text and asks nothing of its place. -/
def isEmpty : Node → Bool
  | .empty => true
  | .seq a b => a.isEmpty && b.isEmpty
  | .alt a b => a.isEmpty && b.isEmpty
  | .group _ body => body.isEmpty
  | .repeated body .. => body.isEmpty
  | .look _ _ body => body.isEmpty
  | .atomic body => body.isEmpty
  | .ifGroup _ yes no => yes.isEmpty && no.isEmpty
  | .ifLook _ _ _ yes no => yes.isEmpty && no.isEmpty
  | _ => false

def ofList : List Node → Node
  | [] => .empty
  | [n] => n
  | n :: rest => .seq n (ofList rest)

def alternatives : List Node → Node
  | [] => .empty
  | [n] => n
  | n :: rest => .alt n (alternatives rest)

def groupBody? (index : Nat) : Node → Option Node
  | .group i body => if i = index then some body else body.groupBody? index
  | .seq a b | .alt a b => (a.groupBody? index).or (b.groupBody? index)
  | .repeated body .. | .look _ _ body | .atomic body => body.groupBody? index
  | .ifGroup _ yes no => (yes.groupBody? index).or (no.groupBody? index)
  | .ifLook _ _ test yes no =>
    (test.groupBody? index).or ((yes.groupBody? index).or (no.groupBody? index))
  | _ => none

end Node

structure Regex where
  node : Node
  groupCount : Nat
  names : List (String × Nat)
  backwards : Bool := false
  deriving DecidableEq, Repr

/-- The number of a group; no group has the number 0. -/
def Regex.number (r : Regex) : GroupName → Nat
  | .number n => n
  | .name s => (r.names.lookup s).getD 0

end ReleaseMatch.Pattern
