import ReleaseMatch.Condition.Basic
import ReleaseMatch.Number.Word
import ReleaseMatch.Text.Case
set_option autoImplicit false

/-!
# The schema of condition sets

A condition set is a mapping with a combinator and a list of conditions, each a mapping itself. Of
several faults the first one counts: members in the order of the schema, then keys that do not
belong in the order of the document, and conditions in the order of the list.
-/
namespace ReleaseMatch.Document

inductive Reason
  | missing
  | notText
  | notUnicode
  | notFlag
  | unclearFlag
  | notList
  | notMapping
  | notCombinator
  | unknownOperator (name : String)
  | tooManyDigits
  | extra
  | keyNotText
  deriving DecidableEq, Repr

def Reason.message : Reason → String
  | .missing => "Field required"
  | .notText => "Input should be a valid string"
  | .notUnicode => "Input should be a valid string, unable to parse raw data as a unicode string"
  | .notFlag => "Input should be a valid boolean"
  | .unclearFlag => "Input should be a valid boolean, unable to interpret input"
  | .notList => "Input should be a valid list"
  | .notMapping => "Input should be a valid dictionary or instance of ConditionModel"
  | .notCombinator => "Input should be 'AND' or 'OR'"
  | .unknownOperator name =>
    "Value error, Invalid operator '" ++ name ++ "'. Must be one of: "
      ++ ", ".intercalate (Operator.all.map (·.name))
  | .tooManyDigits =>
    "Value error, Exceeds the limit (4300 digits) for integer string conversion; "
      ++ "use sys.set_int_max_str_digits() to increase the limit"
  | .extra => "Extra inputs are not permitted"
  | .keyNotText => "Keys should be strings"

structure Fault where
  path : List String
  reason : Reason
  deriving DecidableEq, Repr

/-- The way to the place, unless it is the document itself or has no name. -/
def Fault.location (f : Fault) : Option String :=
  let joined := ".".intercalate f.path
  if joined = "" then none else some joined

def Fault.message (f : Fault) : String :=
  match f.location with
  | some l => l ++ ": " ++ f.reason.message
  | none => f.reason.message

def Fault.within (step : String) (f : Fault) : Fault :=
  { f with path := step :: f.path }

abbrev Checked := Except Fault

def refuse {α : Type} (reason : Reason) : Checked α := .error ⟨[], reason⟩

/-- Gives the faults of a part their place. -/
def at_ {α : Type} (step : String) (r : Checked α) : Checked α :=
  r.mapError (Fault.within step)

/-- A condition as it is written down. What is left out stays open. -/
structure Entry where
  id : Option String
  field : String
  operator : Operator
  value : String
  caseSensitive : Option Bool
  deriving DecidableEq, Repr

structure Sheet where
  combinator : Option Combinator
  conditions : List Entry
  deriving DecidableEq, Repr

def decoded? (bs : List UInt8) : Option String :=
  String.fromUTF8? ⟨bs.toArray⟩

def readText : Value → Checked String
  | .text s => .ok s
  | .bytes bs =>
    match decoded? bs with
    | some s => .ok s
    | none => refuse .notUnicode
  | _ => refuse .notText

def maxDigits : Nat := 4300

/-- Values that are not texts may stand for the text by which they are shown. -/
def readValue : Value → Checked String
  | .null => .ok ""
  | .bool b => .ok (if b then "true" else "false")
  | .int n => if Nat.pow 10 maxDigits ≤ n.natAbs then refuse .tooManyDigits else .ok (toString n)
  | .float x => .ok x.text
  | v => readText v

def wordFlag? (s : String) : Option Bool :=
  let w := String.ofList (s.toList.map Char.toLower)
  if ["1", "t", "y", "yes", "on", "true"].contains w then some true
  else if ["0", "f", "n", "no", "off", "false"].contains w then some false
  else none

def clearFlag (b : Option Bool) : Checked Bool :=
  match b with
  | some b => .ok b
  | none => refuse .unclearFlag

def numberFlag (n : Int) : Checked Bool :=
  clearFlag (if n = 0 then some false else if n = 1 then some true else none)

/-- Integers beyond 64 bits, and numbers with a fraction, are no flags at all. -/
def readFlag : Value → Checked Bool
  | .bool b => .ok b
  | .text s => clearFlag (wordFlag? s)
  | .bytes bs => clearFlag ((decoded? bs).bind wordFlag?)
  | .int n => if Number.inWord64 n then numberFlag n else refuse .notFlag
  | .float x =>
    match x.toInt? with
    | some n => if Number.inWord64 (n - 1) && Number.inWord64 n then numberFlag n else refuse .notFlag
    | none => refuse .notFlag
  | _ => refuse .notFlag

def readOperator (v : Value) : Checked Operator := do
  let name ← readText v
  match Operator.ofName? name with
  | some op => return op
  | none => refuse (.unknownOperator name)

def readCombinator : Value → Checked (Option Combinator)
  | .null => .ok none
  | .text s =>
    match Combinator.ofName? (Text.uppered s) with
    | some c => .ok (some c)
    | none => refuse .notCombinator
  | _ => refuse .notCombinator

def optional {α : Type} (read : Value → Checked α) : Value → Checked (Option α)
  | .null => .ok none
  | v => (read v).map some

abbrev Entries := List (Value × Value)

/-- The member under a key, read, or what holds without it. -/
def member {α : Type} (entries : Entries) (key : String) (read : Value → Checked α) (absent : α) :
    Checked α :=
  match Value.get? entries key with
  | some v => at_ key (read v)
  | none => .ok absent

def keyText : Value → String
  | .text s => s
  | .bool b => if b then "1" else "0"
  | v => v.code

def checkKeys (known : List String) : Entries → Checked Unit
  | [] => .ok ()
  | (.text s, _) :: rest =>
    if known.contains s then checkKeys known rest else .error ⟨[s], .extra⟩
  | (k, _) :: _ => .error ⟨[keyText k], .keyNotText⟩

def caseKeys : List String := ["caseSensitive", "case_sensitive"]

/-- The spelling of the case flag that counts in a mapping, if there is one. -/
def caseKey? (entries : Entries) : Option String :=
  caseKeys.find? fun key => (Value.get? entries key).isSome

def readEntry : Value → Checked Entry
  | .map entries => do
    let id ← member entries "id" (optional readText) none
    let field ← member entries "field" readText "releaseTitle"
    let operator ←
      match Value.get? entries "operator" with
      | some v => at_ "operator" (readOperator v)
      | none => .error ⟨["operator"], .missing⟩
    let value ← member entries "value" readValue ""
    let caseKey := caseKey? entries
    let caseSensitive ←
      match caseKey with
      | some key => member entries key (optional readFlag) none
      | none => pure none
    checkKeys (["id", "field", "operator", "value"] ++ caseKey.toList) entries
    return { id, field, operator, value, caseSensitive }
  | _ => refuse .notMapping

def readEntries : Nat → List Value → Checked (List Entry)
  | _, [] => .ok []
  | index, v :: rest => do
    let entry ← at_ (toString index) (readEntry v)
    let entries ← readEntries (index + 1) rest
    return entry :: entries

def readConditions : Value → Checked (List Entry)
  | .list xs => readEntries 0 xs
  | _ => refuse .notList

def readSheet (entries : Entries) : Checked Sheet := do
  let combinator ← member entries "combinator" readCombinator none
  let conditions ← member entries "conditions" readConditions []
  checkKeys ["combinator", "conditions"] entries
  return { combinator, conditions }

end ReleaseMatch.Document
