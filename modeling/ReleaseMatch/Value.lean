import ReleaseMatch.Number.Read
import ReleaseMatch.Number.Shortest
import ReleaseMatch.Text.Quoted
import ReleaseMatch.Calendar
set_option autoImplicit false

/-!
# Data values

What documents, configuration files and requests are made of. Mappings keep the order in which
their entries were written; the keys of a document need not be texts.
-/
namespace ReleaseMatch

open Number Calendar

inductive Value
  | null
  | bool (b : Bool)
  | int (n : Int)
  | float (x : Binary64)
  | text (s : String)
  | bytes (bs : List UInt8)
  | moment (m : Moment)
  | list (xs : List Value)
  | map (entries : List (Value × Value))
  deriving Inhabited

namespace Value

/-- The name of the kind of a value, as messages give it. -/
def kind : Value → String
  | .null => "NoneType"
  | .bool _ => "bool"
  | .int _ => "int"
  | .float _ => "float"
  | .text _ => "str"
  | .bytes _ => "bytes"
  | .moment (.date _) => "datetime.date"
  | .moment (.time _) => "datetime.time"
  | .moment (.dateTime ..) => "datetime.datetime"
  | .list _ => "list"
  | .map _ => "dict"

/-- Absent, false, zero and empty values do not count as set. -/
def isSet : Value → Bool
  | .null => false
  | .bool b => b
  | .int n => n != 0
  | .float x => !x.isZero
  | .text s => s != ""
  | .bytes bs => !bs.isEmpty
  | .moment _ => true
  | .list xs => !xs.isEmpty
  | .map entries => !entries.isEmpty

def byteCode (b : UInt8) : List Char :=
  let n := b.toNat
  if n = 92 then ['\\', '\\']
  else if n = 9 then ['\\', 't']
  else if n = 10 then ['\\', 'n']
  else if n = 13 then ['\\', 'r']
  else if 32 ≤ n && n < 127 then [Char.ofNat n]
  else '\\' :: 'x' :: Text.hex 2 n

def bytesCode (bs : List UInt8) : String :=
  let quote : Char := if 39 ∈ bs && 34 ∉ bs then '"' else '\''
  String.ofList ('b' :: quote :: bs.flatMap (fun b =>
    if b.toNat = quote.toNat then ['\\', quote] else byteCode b) ++ [quote])

mutual

/-- The form of a value inside another one, with texts in quotes. -/
def code : Value → String
  | .null => "None"
  | .bool b => if b then "True" else "False"
  | .int n => toString n
  | .float x => x.text
  | .text s => Text.quoted s
  | .bytes bs => bytesCode bs
  | .moment m => m.code
  | .list xs => "[" ++ ", ".intercalate (codes xs) ++ "]"
  | .map entries => "\x7b" ++ ", ".intercalate (entryCodes entries) ++ "\x7d"

def codes : List Value → List String
  | [] => []
  | x :: rest => x.code :: codes rest

def entryCodes : List (Value × Value) → List String
  | [] => []
  | (k, v) :: rest => (k.code ++ ": " ++ v.code) :: entryCodes rest

end

/-- The form of a value in a message: texts and moments as they are. -/
def shown : Value → String
  | .text s => s
  | .moment m => m.text
  | v => v.code

def longFrom : Nat := Nat.pow 10 maxIntDigits

mutual

/-- There is an integer in a value that has too many digits to be written. -/
def hasLong : Value → Bool
  | .int n => decide (longFrom ≤ n.natAbs)
  | .list xs => itemsHaveLong xs
  | .map entries => entriesHaveLong entries
  | _ => false

def itemsHaveLong : List Value → Bool
  | [] => false
  | x :: rest => x.hasLong || itemsHaveLong rest

def entriesHaveLong : List (Value × Value) → Bool
  | [] => false
  | (k, v) :: rest => k.hasLong || v.hasLong || entriesHaveLong rest

end

def get? (entries : List (Value × Value)) (key : String) : Option Value :=
  match entries with
  | [] => none
  | (.text k, v) :: rest => if k = key then some v else get? rest key
  | _ :: rest => get? rest key

/-- The members of a value that is a mapping, none of any other. -/
def field? : Value → String → Option Value
  | .map entries, key => get? entries key
  | _, _ => none

end Value
end ReleaseMatch
