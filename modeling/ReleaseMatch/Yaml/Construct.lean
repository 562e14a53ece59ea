import ReleaseMatch.Yaml.Reader
import ReleaseMatch.Number.Read
import ReleaseMatch.Number.Shortest
import ReleaseMatch.Text.Case
import ReleaseMatch.Value
set_option autoImplicit false

/-!
# Values from nodes

A scalar is read by its tag. Of two equal keys the later value counts. A mapping may take over the
entries of others; its own entries come after them. Faults are looked for in one generation of
collections after the other, starting from the root.
-/
namespace ReleaseMatch.Yaml

open Number Calendar

/-- Faults that have no place in the document: they come up where a text is turned into a number, a
date or a word. -/
inductive TextFault
  | badInt (base : Nat) (text : String)
  | longInt (count : Nat)
  | badFloat (text : String)
  | badDate (fault : Calendar.Fault)
  | badOffset (seconds : Int)
  | badWord (text : String)
  | emptyText
  | notADate
  deriving DecidableEq, Repr

def spanCode (seconds : Int) : String :=
  let days := Int.fdiv seconds 86400
  let rest := Int.fmod seconds 86400
  let parts :=
    (if days = 0 then [] else ["days=" ++ toString days])
      ++ (if rest = 0 then [] else ["seconds=" ++ toString rest])
  "datetime.timedelta(" ++ (if parts.isEmpty then "0" else ", ".intercalate parts) ++ ")"

def shortQuoted (s : String) : String :=
  String.ofList ((Text.quoted s).toList.take 200)

def TextFault.message : TextFault → String
  | .badInt base text =>
    "invalid literal for int() with base " ++ toString base ++ ": " ++ shortQuoted text
  | .longInt count =>
    "Exceeds the limit (4300 digits) for integer string conversion: value has "
      ++ toString count ++ " digits; use sys.set_int_max_str_digits() to increase the limit"
  | .badFloat text => "could not convert string to float: " ++ Text.quoted text
  | .badDate fault => fault.message
  | .badOffset seconds =>
    "offset must be a timedelta strictly between -timedelta(hours=24) and timedelta(hours=24), not "
      ++ spanCode seconds ++ "."
  | .badWord text => Text.quoted text
  | .emptyText => "string index out of range"
  | .notADate => "'NoneType' object has no attribute 'groupdict'"

def TextFault.kind : TextFault → String
  | .badWord _ => "KeyError"
  | .emptyText => "IndexError"
  | .notADate => "AttributeError"
  | _ => "ValueError"

inductive ReadFault
  | markup (fault : Fault)
  | text (fault : TextFault)
  deriving DecidableEq, Repr

abbrev Result := Except ReadFault

def refuse {α : Type} (context : Option (Context × Mark)) (problem : Problem) (mark : Mark) :
    Result α :=
  .error (.markup ⟨context.map (·.1), context.map (·.2), problem, mark⟩)

/-! ## Scalars -/

mutual

/-- The text of a scalar. A mapping may hold one under the key `=`. -/
def scalarText : Node → Result String
  | .scalar _ text _ => .ok text
  | .sequence _ _ mark => refuse none (.expectedNode "a scalar node" "sequence") mark
  | .mapping _ entries mark => entryText mark entries

def entryText (mark : Mark) : List (Node × Node) → Result String
  | [] => refuse none (.expectedNode "a scalar node" "mapping") mark
  | (key, value) :: rest => if key.tag = .value then scalarText value else entryText mark rest

end

def readBase (base : Nat) (text : List Char) : Result Int :=
  match readInt base text with
  | .ok n => .ok n
  | .error .notAnInteger => .error (.text (.badInt base (String.ofList text)))
  | .error (.tooManyDigits count) => .error (.text (.longInt count))

def withoutBars (text : String) : List Char :=
  text.toList.filter (· != '_')

/-- Numbers in base sixty, with the parts between colons. -/
def splitColons : List Char → List (List Char)
  | [] => [[]]
  | c :: rest =>
    match splitColons rest with
    | part :: parts => if c = ':' then [] :: part :: parts else (c :: part) :: parts
    | [] => [[c]]

def toInt (text : String) : Result Int :=
  match withoutBars text with
  | [] => .error (.text .emptyText)
  | cs@(c :: _) => do
    let sign : Int := if c = '-' then -1 else 1
    let body := if c = '-' || c = '+' then cs.drop 1 else cs
    let n ←
      match body with
      | [] => .error (.text .emptyText)
      | ['0'] => pure 0
      | '0' :: 'b' :: ds => readBase 2 ds
      | '0' :: 'x' :: ds => readBase 16 ds
      | '0' :: _ => readBase 8 body
      | _ =>
        if body.contains ':' then do
          let parts ← (splitColons body).mapM (readBase 10)
          pure (parts.foldl (fun n d => 60 * n + d) 0)
        else readBase 10 body
    return sign * n

def toFloatPart (text : List Char) : Result Binary64 :=
  match readFloat text with
  | some x => .ok x
  | none => .error (.text (.badFloat (String.ofList text)))

/-- The parts of a number in base sixty, the last one first, put together from the last one on. -/
def joinSixtieths : Int → Binary64 → List Binary64 → Binary64
  | _, sum, [] => sum
  | base, sum, d :: rest =>
    joinSixtieths (base * 60) (sum.add (d.mul (Binary64.ofInt base))) rest

def toFloat (text : String) : Result Binary64 :=
  match (withoutBars text).flatMap Text.lower with
  | [] => .error (.text .emptyText)
  | cs@(c :: _) => do
    let negative := c = '-'
    let body := if c = '-' || c = '+' then cs.drop 1 else cs
    let x ←
      if body = ".inf".toList then pure (Binary64.infinite false)
      else if body = ".nan".toList then pure Binary64.nan
      else if body.contains ':' then do
        let parts ← (splitColons body).mapM toFloatPart
        pure (joinSixtieths 1 (Binary64.zero false) parts.reverse)
      else toFloatPart body
    return if negative then x.neg else x

def toBool (text : String) : Result Bool :=
  let word := String.ofList (text.toList.flatMap Text.lower)
  if ["yes", "true", "on"].contains word then .ok true
  else if ["no", "false", "off"].contains word then .ok false
  else .error (.text (.badWord word))

def number (ds : List Char) : Nat :=
  ds.foldl (fun n d => 10 * n + (d.toNat - 48)) 0

def splitDigits (cs : List Char) : Nat × List Char :=
  (number (cs.takeWhile Char.isDigit), cs.dropWhile Char.isDigit)

/-- The first six digits of a fraction, as a number of six digits. -/
def microseconds (ds : List Char) : Nat :=
  let six := ds.take 6
  number (six ++ List.replicate (6 - six.length) '0')

def toOffset (cs : List Char) : Option Int :=
  match cs.dropWhile fun c => c == ' ' || c == '\t' with
  | [] => none
  | 'Z' :: _ => some 0
  | sign :: rest =>
    let (hours, rest) := splitDigits rest
    let (minutes, _) := splitDigits (rest.drop 1)
    let seconds : Int := 3600 * hours + 60 * minutes
    some (if sign = '-' then -seconds else seconds)

def dateFault {α : Type} (r : Except Calendar.Fault α) : Result α :=
  r.mapError fun f => .text (.badDate f)

def timestampParts (cs : List Char) : Date × List Char :=
  let (year, rest) := splitDigits cs
  let (month, rest) := splitDigits (rest.drop 1)
  let (day, rest) := splitDigits (rest.drop 1)
  (⟨year, month, day⟩, rest)

def toMoment (text : String) : Result Moment := do
  let cs := text.toList
  if !timestampForm.fits cs && !(digitsDate.fits cs) then .error (.text .notADate)
  else
    let (date, rest) := timestampParts cs
    match rest with
    | [] => return .date (← dateFault date.check)
    | _ =>
      let rest := rest.dropWhile (!·.isDigit)
      let (hour, rest) := splitDigits rest
      let (minute, rest) := splitDigits (rest.drop 1)
      let (second, rest) := splitDigits (rest.drop 1)
      let (fraction, rest) :=
        match rest with
        | '.' :: beyond => (beyond.takeWhile Char.isDigit, beyond.dropWhile Char.isDigit)
        | _ => ([], rest)
      let offset := toOffset rest
      if offset.any fun s => 86400 ≤ s.natAbs then .error (.text (.badOffset (offset.getD 0)))
      else
        let date ← dateFault date.check
        let time ← dateFault (Time.check ⟨hour, minute, second, microseconds fraction⟩)
        return .dateTime date time offset
where
  /-- A date whose month and day may be of one digit, when the tag says that it is one. -/
  digitsDate : Form :=
    Form.all [digitsForm 4 0, Form.lit '-', digitsForm 1 1, Form.lit '-', digitsForm 1 1]

def sextet? (c : Char) : Option Nat :=
  let n := c.toNat
  if 'A' ≤ c && c ≤ 'Z' then some (n - 65)
  else if 'a' ≤ c && c ≤ 'z' then some (n - 71)
  else if c.isDigit then some (n + 4)
  else if c = '+' then some 62
  else if c = '/' then some 63
  else none

inductive Base64Fault
  | excessDigit (count : Nat)
  | padding
  deriving DecidableEq, Repr

def Base64Fault.message : Base64Fault → String
  | .excessDigit count =>
    "Invalid base64-encoded string: number of data characters (" ++ toString count
      ++ ") cannot be 1 more than a multiple of 4"
  | .padding => "Incorrect padding"

/-- Bytes from base 64. What is no digit does not count; padding ends the text where it completes a
group of four. `quad` is the place in the group, and `left` what is left of the last digit. -/
def fromBase64 (quad left pads : Nat) (done : List UInt8) :
    List Char → Except Base64Fault (List UInt8)
  | [] =>
    if quad = 0 then .ok done.reverse
    else if quad = 1 then .error (.excessDigit (done.length / 3 * 4 + 1))
    else .error .padding
  | c :: rest =>
    if c = '=' then
      if 2 ≤ quad && 4 ≤ quad + pads + 1 then .ok done.reverse
      else fromBase64 quad left (if 2 ≤ quad then pads + 1 else pads) done rest
    else
      match sextet? c with
      | none => fromBase64 quad left pads done rest
      | some d =>
        match quad with
        | 0 => fromBase64 1 d 0 done rest
        | 1 => fromBase64 2 (d % 16) 0 ((left * 4 + d / 16).toUInt8 :: done) rest
        | 2 => fromBase64 3 (d % 4) 0 ((left * 16 + d / 4).toUInt8 :: done) rest
        | _ => fromBase64 0 0 0 ((left * 64 + d).toUInt8 :: done) rest

/-- Characters that are not ASCII, the first of them in a row. -/
def notAsciiMessage (cs : List Char) : String :=
  let before := (cs.takeWhile (·.toNat < 128)).length
  let row := (cs.drop before).takeWhile (128 ≤ ·.toNat)
  let place :=
    if row.length = 1 then
      "character " ++ asciiQuoted (row.headD ' ') ++ " in position " ++ toString before
    else "characters in position " ++ toString before ++ "-" ++ toString (before + row.length - 1)
  "'ascii' codec can't encode " ++ place ++ ": ordinal not in range(128)"
where
  asciiQuoted (c : Char) : String :=
    let n := c.toNat
    let code :=
      if n < 0x100 then 'x' :: Text.hex 2 n
      else if n < 0x10000 then 'u' :: Text.hex 4 n
      else 'U' :: Text.hex 8 n
    String.ofList ('\'' :: '\\' :: code ++ ['\''])

def toBytes (text : String) (mark : Mark) : Result (List UInt8) :=
  let cs := text.toList
  if cs.any (128 ≤ ·.toNat) then
    refuse none (.badBase64 ("failed to convert base64 data into ascii: " ++ notAsciiMessage cs)) mark
  else
    match fromBase64 0 0 0 [] cs with
    | .ok bytes => .ok bytes
    | .error f => refuse none (.badBase64 ("failed to decode base64 data: " ++ f.message)) mark

/-- The value of a node that is read at once. Collections have none yet. -/
def scalarValue (n : Node) : Result (Option Value) :=
  match n.tag with
  | .null => do
    let _ ← scalarText n
    return some .null
  | .bool => do return some (.bool (← toBool (← scalarText n)))
  | .int => do return some (.int (← toInt (← scalarText n)))
  | .float => do return some (.float (← toFloat (← scalarText n)))
  | .binary => do return some (.bytes (← toBytes (← scalarText n) n.mark))
  | .timestamp => do return some (.moment (← toMoment (← scalarText n)))
  | .str => do return some (.text (← scalarText n))
  | .omap | .pairs | .set | .seq | .map => return none
  | t => refuse none (.unknownTag t.name) n.mark

/-! ## Collections -/

/-- Whether two keys of a mapping are one: numbers by value, all else by kind and content. -/
def sameKey : Value → Value → Bool
  | .null, .null => true
  | .text a, .text b => a == b
  | .bytes a, .bytes b => a == b
  | .moment a, .moment b => a == b
  | .float x, .float y => x == y || (x.isZero && y.isZero)
  | a, b =>
    match numeric? a, numeric? b with
    | some n, some m => n == m
    | _, _ => false
where
  numeric? : Value → Option Int
    | .bool b => some (if b then 1 else 0)
    | .int n => some n
    | .float x => x.toInt?
    | _ => none

/-- Puts an entry into a mapping; an equal key stays where it is and gets the new value. -/
def insertEntry (entries : List (Value × Value)) (key value : Value) : List (Value × Value) :=
  match entries with
  | [] => [(key, value)]
  | (k, v) :: rest =>
    if sameKey k key then (k, value) :: rest else (k, v) :: insertEntry rest key value

def dictOf (entries : List (Value × Value)) : List (Value × Value) :=
  entries.foldl (fun d e => insertEntry d e.1 e.2) []

mutual

/-- The value of a node in which there are no faults. -/
def Node.toValue : Node → Value
  | .scalar tag text mark =>
    match scalarValue (.scalar tag text mark) with
    | .ok (some v) => v
    | _ => .null
  | .sequence tag items _ =>
    if tag = .seq then .list (itemValues items)
    else .list (pairValues items)
  | .mapping tag entries mark =>
    match scalarValue (.mapping tag entries mark) with
    | .ok (some v) => v
    | _ =>
      let dict := dictOf (mergedEntries entries ++ ownEntries entries)
      if tag = .set then .list (dict.map (·.1)) else .map dict

def itemValues : List Node → List Value
  | [] => []
  | n :: rest => n.toValue :: itemValues rest

def ownEntries : List (Node × Node) → List (Value × Value)
  | [] => []
  | (key, value) :: rest =>
    if key.tag = .merge then ownEntries rest
    else if key.tag = .value then
      (.text (valueKey key), value.toValue) :: ownEntries rest
    else (key.toValue, value.toValue) :: ownEntries rest

def mergedEntries : List (Node × Node) → List (Value × Value)
  | [] => []
  | (key, value) :: rest =>
    if key.tag = .merge then mergeSource value ++ mergedEntries rest else mergedEntries rest

/-- The entries of a mapping, or of several ones, of which the first has the last word. -/
def mergeSource : Node → List (Value × Value)
  | .scalar .. => []
  | .mapping _ entries _ => mergedEntries entries ++ ownEntries entries
  | .sequence _ items _ => mergeItems items

def mergeItems : List Node → List (Value × Value)
  | [] => []
  | .mapping _ entries _ :: rest =>
    mergeItems rest ++ (mergedEntries entries ++ ownEntries entries)
  | _ :: rest => mergeItems rest

def pairValues : List Node → List Value
  | [] => []
  | .mapping _ [(key, value)] _ :: rest => .list [key.toValue, value.toValue] :: pairValues rest
  | _ :: rest => pairValues rest

def valueKey : Node → String
  | .scalar _ text _ => text
  | _ => "="

end

/-! ## Faults by generations -/

/-- A key as it stands in a mapping of its own: the sign `=` is text there. -/
def Node.asKey : Node → Node
  | .scalar .value text mark => .scalar .str text mark
  | .sequence .value items mark => .sequence .str items mark
  | .mapping .value entries mark => .mapping .str entries mark
  | n => n

def ownNodes (entries : List (Node × Node)) : List (Node × Node) :=
  (entries.filter fun e => e.1.tag != .merge).map fun e => (e.1.asKey, e.2)

def mappingContext (mark : Mark) : Option (Context × Mark) :=
  some (.constructing "a mapping", mark)

mutual

def takenNodes (mark : Mark) : List (Node × Node) → Result (List (Node × Node))
  | [] => .ok []
  | (key, value) :: rest =>
    if key.tag = .merge then do
      let first ← sourceNodes mark value
      let more ← takenNodes mark rest
      return first ++ more
    else takenNodes mark rest

def sourceNodes (mark : Mark) : Node → Result (List (Node × Node))
  | .scalar _ _ m =>
    refuse (mappingContext mark)
      (.expectedNode "a mapping or list of mappings for merging" "scalar") m
  | .mapping _ entries m => do return (← takenNodes m entries) ++ ownNodes entries
  | .sequence _ items _ => itemNodes mark items

def itemNodes (mark : Mark) : List Node → Result (List (Node × Node))
  | [] => .ok []
  | .mapping _ entries m :: rest => do
    let taken ← takenNodes m entries
    let more ← itemNodes mark rest
    return more ++ (taken ++ ownNodes entries)
  | n :: _ =>
    refuse (mappingContext mark) (.expectedNode "a mapping for merging" n.kind) n.mark

end

/-- A node as part of a collection: scalars are read at once, collections wait for their turn. -/
def waiting (n : Node) : Result (List Node) := do
  match ← scalarValue n with
  | some _ => return []
  | none => return [n]

def waitingEntries (mark : Mark) : List (Node × Node) → Result (List Node)
  | [] => .ok []
  | (key, value) :: rest => do
    if (← waiting key).isEmpty then
      let first ← waiting value
      let more ← waitingEntries mark rest
      return first ++ more
    else refuse (mappingContext mark) .unhashableKey key.mark

def waitingItems : List Node → Result (List Node)
  | [] => .ok []
  | n :: rest => do return (← waiting n) ++ (← waitingItems rest)

def waitingPairs (context : Context × Mark) : List Node → Result (List Node)
  | [] => .ok []
  | .mapping _ [(key, value)] _ :: rest => do
    let first ← waitingItems [key, value]
    return first ++ (← waitingPairs context rest)
  | .mapping _ entries mark :: _ => refuse (some context) (.itemCount entries.length) mark
  | n :: _ =>
    refuse (some context) (.expectedNode "a mapping of length 1" n.kind) n.mark

def pairsOf (what : String) : Node → Result (List Node)
  | .sequence _ items mark => waitingPairs (.constructing what, mark) items
  | n => refuse (some (.constructing what, n.mark)) (.expectedNode "a sequence" n.kind) n.mark

/-- The collections inside of a collection, when it is its turn. -/
def inside (n : Node) : Result (List Node) :=
  match n.tag, n with
  | .omap, n => pairsOf "an ordered map" n
  | .pairs, n => pairsOf "pairs" n
  | .seq, .sequence _ items _ => waitingItems items
  | .seq, n => refuse none (.expectedNode "a sequence node" n.kind) n.mark
  | _, .mapping _ entries mark => do
    let taken ← takenNodes mark entries
    waitingEntries mark (taken ++ ownNodes entries)
  | _, n => refuse none (.expectedNode "a mapping node" n.kind) n.mark

def insideAll : List Node → Result (List Node)
  | [] => .ok []
  | n :: rest => do return (← inside n) ++ (← insideAll rest)

def checkGenerations : Nat → List Node → Result Unit
  | 0, _ => .ok ()
  | _, [] => .ok ()
  | fuel + 1, ns => do checkGenerations fuel (← insideAll ns)

def Node.construct (n : Node) (fuel : Nat) : Result Value := do
  checkGenerations fuel (← waiting n)
  return n.toValue

end ReleaseMatch.Yaml
