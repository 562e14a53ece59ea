import ReleaseMatch.Catalog
import ReleaseMatch.Condition.Compile
import ReleaseMatch.Document.Schema
import ReleaseMatch.Log.Level
set_option autoImplicit false

/-!
# Loading condition sets

A sheet with its gaps filled: conditions without a name are numbered, and defaults stand in for the
case flags and the combinator that it leaves open.
-/
namespace ReleaseMatch.Document

/-- What holds where a document says nothing. -/
structure Defaults where
  combinator : Combinator := .and
  caseSensitive : Value := .bool false

structure ConditionSet where
  conditions : List Condition
  combinator : Combinator

def ConditionSet.compile (s : ConditionSet) : Except FlagFault Outcome :=
  ReleaseMatch.compile s.conditions s.combinator

/-- The condition of an entry, which has a number of its own. -/
def Entry.condition (defaults : Defaults) (index : Nat) (e : Entry) : Condition where
  id := match e.id with
    | some s => if s = "" then "c" ++ toString index else s
    | none => "c" ++ toString index
  operator := e.operator
  value := e.value
  caseSensitive := (e.caseSensitive.map Value.bool).getD defaults.caseSensitive
  field := e.field

def Sheet.fill (s : Sheet) (defaults : Defaults) : ConditionSet where
  conditions := s.conditions.zipIdx.map fun (e, i) => e.condition defaults i
  combinator := s.combinator.getD defaults.combinator

def logger : String := loggerName ["conditions", "loader"]

def unknownFields (s : Sheet) : List Notice :=
  s.conditions.zipIdx.filterMap fun (e, i) =>
    if Catalog.isKnown e.field then none
    else some ⟨.warning, logger, "Condition " ++ toString i ++ " uses unknown field "
      ++ Text.quoted e.field ++ "; it is kept for display only"⟩

def summary (s : ConditionSet) : Notice :=
  ⟨.debug, logger, "Loaded " ++ toString s.conditions.length ++ " condition(s) combined with "
    ++ s.combinator.name⟩

inductive Refusal
  | notMapping
  | schema (fault : Fault)
  deriving DecidableEq, Repr

def Refusal.message : Refusal → String
  | .notMapping => "Condition set must be a mapping with a 'conditions' list"
  | .schema fault => fault.message

def Refusal.field : Refusal → Option String
  | .notMapping => none
  | .schema fault => fault.location

def load (data : Value) (defaults : Defaults) : Noted (Except Refusal ConditionSet) :=
  match data with
  | .map entries =>
    match readSheet entries with
    | .ok sheet =>
      let filled := sheet.fill defaults
      ⟨unknownFields sheet ++ [summary filled], .ok filled⟩
    | .error fault => ⟨[], .error (.schema fault)⟩
  | _ => ⟨[], .error .notMapping⟩

end ReleaseMatch.Document
