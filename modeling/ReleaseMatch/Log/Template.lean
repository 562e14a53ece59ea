import ReleaseMatch.Number.Places
import ReleaseMatch.Number.Word
import ReleaseMatch.Value
set_option autoImplicit false

/-!
# Message templates

A template is a text with places that are filled in with values. A place is a percent sign, in
parentheses the key of a value if there is a table of them, flags, a least width, a precision and the
letter of a conversion; a percent sign after another one stands for itself. All values of a row have
to be used up, those of a table do not.
-/
namespace ReleaseMatch.Log.Template

open Number

inductive Fault
  | tooFew
  | tooMany
  | noTable
  | openKey
  | noKey (key : String)
  | notByKey
  | broken
  | unknown (c : Char) (index : Nat)
  | sizeNotInt
  | widthTooBig
  | precisionTooBig
  | widthOutOfRange
  | precisionOutOfRange
  | notReal (c : Char) (kind : String)
  | notInteger (c : Char) (kind : String)
  | notFloat (kind : String)
  | noWholePart (infinite : Bool)
  | tooLarge
  | notCharacter
  | characterOutOfRange
  | tooManyDigits
  | longInteger
  | outOfMemory
  deriving DecidableEq, Repr

def shownChar (c : Char) : Char :=
  if 31 ≤ c.toNat && c.toNat ≤ 126 then c else '?'

def Fault.message : Fault → String
  | .tooFew => "not enough arguments for format string"
  | .tooMany => "not all arguments converted during string formatting"
  | .noTable => "format requires a mapping"
  | .openKey => "incomplete format key"
  | .noKey key => Text.quoted key
  | .notByKey => "list indices must be integers or slices, not str"
  | .broken => "incomplete format"
  | .unknown c index =>
    String.join ["unsupported format character '", String.ofList [shownChar c], "' (0x",
      String.ofList (Nat.toDigits 16 c.toNat), ") at index ", toString index]
  | .sizeNotInt => "* wants int"
  | .widthTooBig => "width too big"
  | .precisionTooBig => "precision too big"
  | .widthOutOfRange => "Python int too large to convert to C ssize_t"
  | .precisionOutOfRange => "Python int too large to convert to C int"
  | .notReal c kind =>
    String.ofList ['%', c] ++ " format: a real number is required, not " ++ kind
  | .notInteger c kind =>
    String.ofList ['%', c] ++ " format: an integer is required, not " ++ kind
  | .notFloat kind => "must be real number, not " ++ kind
  | .noWholePart infinite =>
    "cannot convert float " ++ (if infinite then "infinity" else "NaN") ++ " to integer"
  | .tooLarge => "int too large to convert to float"
  | .notCharacter => "%c requires int or char"
  | .characterOutOfRange => "%c arg not in range(0x110000)"
  | .tooManyDigits => "precision too large"
  | .longInteger =>
    "Exceeds the limit (4300 digits) for integer string conversion; "
      ++ "use sys.set_int_max_str_digits() to increase the limit"
  | .outOfMemory => ""

def Fault.kind : Fault → String
  | .tooFew | .tooMany | .noTable | .notByKey | .sizeNotInt => "TypeError"
  | .notReal .. | .notInteger .. | .notFloat _ | .notCharacter => "TypeError"
  | .noKey _ => "KeyError"
  | .openKey | .broken | .unknown .. | .widthTooBig | .precisionTooBig => "ValueError"
  | .longInteger => "ValueError"
  | .noWholePart infinite => if infinite then "OverflowError" else "ValueError"
  | .widthOutOfRange | .precisionOutOfRange | .tooLarge | .characterOutOfRange => "OverflowError"
  | .tooManyDigits => "OverflowError"
  | .outOfMemory => "MemoryError"

/-- What a template is filled in with: values in a row, or a single one, which may be a table. -/
inductive Filling
  | row (xs : List Value)
  | single (v : Value)

/-- The values that wait for a place, and the table that keys are looked up in. -/
structure Supply where
  waiting : List Value
  table : Option Value

def Filling.supply : Filling → Supply
  | .row xs => ⟨xs, none⟩
  | .single v =>
    ⟨[v], match v with
      | .list _ => some v
      | .map _ => some v
      | .bytes _ => some v
      | _ => none⟩

def Supply.next (s : Supply) : Except Fault (Value × Supply) :=
  match s.waiting with
  | v :: rest => .ok (v, { s with waiting := rest })
  | [] => .error .tooFew

def Supply.lookUp (s : Supply) (key : String) : Except Fault Supply :=
  match s.table with
  | none => .error .noTable
  | some (.map entries) =>
    match Value.get? entries key with
    | some v => .ok { s with waiting := [v] }
    | none => .error (.noKey key)
  | some _ => .error .notByKey

/-- The flags, the least width and the precision of a place. -/
structure Spec where
  left : Bool := false
  plus : Bool := false
  blank : Bool := false
  marked : Bool := false
  zero : Bool := false
  width : Nat := 0
  precision : Option Nat := none
  deriving DecidableEq, Repr

/-- The key up to the parenthesis that closes it; `depth` counts those that are open. -/
def readKey (depth : Nat) : List Char → Option (List Char × List Char)
  | [] => none
  | ')' :: rest =>
    if depth = 0 then some ([], rest)
    else (readKey (depth - 1) rest).map fun (key, rest) => (')' :: key, rest)
  | '(' :: rest => (readKey (depth + 1) rest).map fun (key, rest) => ('(' :: key, rest)
  | c :: rest => (readKey depth rest).map fun (key, rest) => (c :: key, rest)

def readFlags (spec : Spec) : List Char → Spec × List Char
  | '-' :: rest => readFlags { spec with left := true } rest
  | '+' :: rest => readFlags { spec with plus := true } rest
  | ' ' :: rest => readFlags { spec with blank := true } rest
  | '#' :: rest => readFlags { spec with marked := true } rest
  | '0' :: rest => readFlags { spec with zero := true } rest
  | cs => (spec, cs)

def digitsValue (ds : List Char) : Nat :=
  ds.foldl (fun n d => n * 10 + (d.toNat - 48)) 0

def sizeOf : Value → Except Fault Int
  | .int n => .ok n
  | .bool b => .ok (if b then 1 else 0)
  | _ => .error .sizeNotInt

/-- The width, which an asterisk takes from the values. A negative one goes to the left. -/
def readWidth (spec : Spec) (s : Supply) (cs : List Char) :
    Except Fault (Spec × Supply × List Char) := do
  match cs with
  | '*' :: rest =>
    let (v, s) ← s.next
    let n ← sizeOf v
    if !Number.inWord64 n then throw .widthOutOfRange
    let spec := if n < 0 then { spec with left := true } else spec
    return ({ spec with width := n.natAbs }, s, rest)
  | _ =>
    let n := digitsValue (cs.takeWhile Char.isDigit)
    if !Number.inWord64 n then throw .widthTooBig
    return ({ spec with width := n }, s, cs.dropWhile Char.isDigit)

/-- The precision, if there is a point. A negative one counts as zero. -/
def readPrecision (spec : Spec) (s : Supply) (cs : List Char) :
    Except Fault (Spec × Supply × List Char) := do
  match cs with
  | '.' :: '*' :: rest =>
    let (v, s) ← s.next
    let n ← sizeOf v
    if !Number.inWord32 n then throw .precisionOutOfRange
    return ({ spec with precision := some n.toNat }, s, rest)
  | '.' :: rest =>
    let n := digitsValue (rest.takeWhile Char.isDigit)
    if !Number.inWord32 n then throw .precisionTooBig
    return ({ spec with precision := some n }, s, rest.dropWhile Char.isDigit)
  | _ => return (spec, s, cs)

def skipSize : List Char → List Char
  | 'h' :: rest => rest
  | 'l' :: rest => rest
  | 'L' :: rest => rest
  | cs => cs

def padText (spec : Spec) (body : List Char) : List Char :=
  let space := List.replicate (spec.width - body.length) ' '
  if spec.left then body ++ space else space ++ body

def splitSign (spec : Spec) : List Char → List Char × List Char
  | '-' :: ds => (['-'], ds)
  | ds => (if spec.plus then ['+'] else if spec.blank then [' '] else [], ds)

/-- A number put to a width. Zeros go between its sign, with the mark of its base, and its digits. -/
def padNumber (spec : Spec) (marked : Bool) (body : List Char) : List Char :=
  let (sign, ds) := splitSign spec body
  let head := sign ++ if marked then ds.take 2 else []
  let ds := if marked then ds.drop 2 else ds
  if spec.zero && !spec.left then
    head ++ List.replicate (spec.width - head.length - ds.length) '0' ++ ds
  else padText spec (head ++ ds)

/-- A value in one of its forms. No integer in it may be too long. -/
def written (shown : Value → String) (v : Value) : Except Fault (List Char) :=
  if v.hasLong then .error .longInteger else .ok (shown v).toList

/-- The digits of an integer in a base, with zeros up to the precision. -/
def integerDigits (spec : Spec) (base : Nat) (mark : List Char) (n : Int) :
    Except Fault (List Char) :=
  let least := spec.precision.getD 0
  if !Number.inWord32 (least + 3) then .error .tooManyDigits
  else if base = 10 && (Value.int n).hasLong then .error .longInteger
  else
    let ds := Nat.toDigits base n.natAbs
    let ds := List.replicate (least - ds.length) '0' ++ ds
    .ok ((if n < 0 then ['-'] else []) ++ (if spec.marked then mark else []) ++ ds)

/-- The integer in a number, of which a fraction is left out. -/
def wholeOf (c : Char) : Value → Except Fault Int
  | .int n => .ok n
  | .bool b => .ok (if b then 1 else 0)
  | .float x =>
    match x.truncate? with
    | some n => .ok n
    | none => .error (.noWholePart (x != .nan))
  | v => .error (.notReal c v.kind)

def integerOf (c : Char) : Value → Except Fault Int
  | .int n => .ok n
  | .bool b => .ok (if b then 1 else 0)
  | v => .error (.notInteger c v.kind)

def floatOfInt (n : Int) : Except Fault Binary64 :=
  match Binary64.ofInt n with
  | .infinite _ => .error .tooLarge
  | x => .ok x

def floatOf : Value → Except Fault Binary64
  | .float x => .ok x
  | .int n => floatOfInt n
  | .bool b => floatOfInt (if b then 1 else 0)
  | v => .error (.notFloat v.kind)

def characterOf : Value → Except Fault Char
  | .text s =>
    match s.toList with
    | [c] => .ok c
    | _ => .error .notCharacter
  | .int n => character n
  | .bool b => character (if b then 1 else 0)
  | _ => .error .notCharacter
where
  character (n : Int) : Except Fault Char :=
    if n < 0 || 0x110000 ≤ n then .error .characterOutOfRange else .ok (Char.ofNat n.toNat)

/-- A character in ASCII, by its number if need be. -/
def asciiChar (c : Char) : List Char :=
  let n := c.toNat
  if n < 128 then [c]
  else if n < 0x100 then '\\' :: 'x' :: Text.hex 2 n
  else if n < 0x10000 then '\\' :: 'u' :: Text.hex 4 n
  else '\\' :: 'U' :: Text.hex 8 n

def textPlace (spec : Spec) (s : List Char) : List Char :=
  padText spec (match spec.precision with
    | some n => s.take n
    | none => s)

def floatPlace (spec : Spec) (form : Places) (capital : Bool) (v : Value) :
    Except Fault (List Char) := do
  let body := (← floatOf v).toPlaces form spec.marked (spec.precision.getD 6)
  return padNumber spec false (if capital then body.map Char.toUpper else body)

/-- A value in the form that the letter of a conversion asks for; `index` is where the letter is. -/
def convert (spec : Spec) (c : Char) (index : Nat) (v : Value) : Except Fault (List Char) :=
  match c with
  | 's' => (written Value.shown v).map (textPlace spec)
  | 'r' => (written Value.code v).map (textPlace spec)
  | 'a' => (written Value.code v).map fun cs => textPlace spec (cs.flatMap asciiChar)
  | 'd' | 'i' | 'u' => do return padNumber spec false (← integerDigits spec 10 [] (← wholeOf c v))
  | 'x' => do
    return padNumber spec spec.marked (← integerDigits spec 16 ['0', 'x'] (← integerOf c v))
  | 'X' => do
    return padNumber spec spec.marked
      ((← integerDigits spec 16 ['0', 'x'] (← integerOf c v)).map Char.toUpper)
  | 'o' => do
    return padNumber spec spec.marked (← integerDigits spec 8 ['0', 'o'] (← integerOf c v))
  | 'e' => floatPlace spec .exponent false v
  | 'E' => floatPlace spec .exponent true v
  | 'f' => floatPlace spec .fixed false v
  | 'F' => floatPlace spec .fixed true v
  | 'g' => floatPlace spec .general false v
  | 'G' => floatPlace spec .general true v
  | 'c' => do return padText spec [← characterOf v]
  | _ => .error (.unknown c index)

/-- The width for which there is no memory any more. -/
def maxWidth : Nat := 0x1000000000

/-- Fills in a place, unless it is too wide. Other faults come before that. -/
def place (spec : Spec) (c : Char) (index : Nat) (v : Value) : Except Fault (List Char) := do
  if maxWidth ≤ spec.width then
    let _ ← convert { spec with width := 0 } c index v
    throw .outOfMemory
  convert spec c index v

def readPlaceKey (s : Supply) (cs : List Char) : Except Fault (Supply × List Char) :=
  match cs with
  | '(' :: rest =>
    match s.table with
    | none => .error .noTable
    | some _ =>
      match readKey 0 rest with
      | none => .error .openKey
      | some (key, rest) => do return (← s.lookUp (String.ofList key), rest)
  | _ => .ok (s, cs)

/-- Fills in the place after a percent sign; `length` is that of the whole template. -/
def fillPlace (length : Nat) (s : Supply) (cs : List Char) :
    Except Fault (List Char × Supply × List Char) := do
  let (s, cs) ← readPlaceKey s cs
  let (spec, cs) := readFlags {} cs
  let (spec, s, cs) ← readWidth spec s cs
  let (spec, s, cs) ← readPrecision spec s cs
  match skipSize cs with
  | [] => throw .broken
  | c :: rest =>
    let (v, s) ← s.next
    return (← place spec c (length - rest.length - 1) v, s, rest)

/-- Fills in what is left of a template. Each step takes a character at least. -/
def fillFrom (length : Nat) : Nat → Supply → List Char → Except Fault (List Char)
  | 0, _, _ => .ok []
  | fuel + 1, s, cs =>
    match cs with
    | [] => if s.table.isNone && !s.waiting.isEmpty then .error .tooMany else .ok []
    | '%' :: '%' :: rest => do return '%' :: (← fillFrom length fuel s rest)
    | '%' :: rest => do
      let (filled, s, rest) ← fillPlace length s rest
      return filled ++ (← fillFrom length fuel s rest)
    | c :: rest => do return c :: (← fillFrom length fuel s rest)

def fill (template : String) (filling : Filling) : Except Fault String := do
  let cs := template.toList
  return String.ofList (← fillFrom cs.length (cs.length + 1) filling.supply cs)

end ReleaseMatch.Log.Template
