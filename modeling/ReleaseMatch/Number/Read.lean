import ReleaseMatch.Number.Binary64
import ReleaseMatch.Text.Blank
import ReleaseMatch.Text.Category
set_option autoImplicit false

/-!
# Reading numbers

Integers in any base up to 36 and floating point numbers, as they are typed by hand: with a sign,
with blanks around them, with decimal digits of any script, and with single underscores between
digits. In a text of ASCII alone only the blank and the cursor controls count as blanks.
-/
namespace ReleaseMatch.Number

open Text

def isAsciiBlank (c : Char) : Bool :=
  c == ' ' || (9 ≤ c.toNat && c.toNat ≤ 13)

/-- Digits and blanks of all scripts as those of ASCII. What is neither becomes a question mark. -/
def plainChar (c : Char) : Char :=
  if c.toNat < 128 then c
  else if isBlank c then ' '
  else
    match decimalValue? c with
    | some d => Char.ofNat (48 + d)
    | none => '?'

def plainChars (cs : List Char) : List Char :=
  if cs.all (·.toNat < 128) then cs
  else cs.map fun c => if isBlank c then ' ' else plainChar c

def trimAscii (cs : List Char) : List Char :=
  ((cs.dropWhile isAsciiBlank).reverse.dropWhile isAsciiBlank).reverse

def splitSign : List Char → Bool × List Char
  | '-' :: rest => (true, rest)
  | '+' :: rest => (false, rest)
  | cs => (false, cs)

def digitValue? (c : Char) : Option Nat :=
  let n := c.toNat
  if c.isDigit then some (n - 48)
  else if 97 ≤ n && n ≤ 122 then some (n - 87)
  else if 65 ≤ n && n ≤ 90 then some (n - 55)
  else none

def isDigitOf (base : Nat) (c : Char) : Bool :=
  (digitValue? c).any (· < base)

def joinDigits (isDigit : Char → Bool) : List Char → Option (List Char)
  | [] => none
  | [d] => if isDigit d then some [d] else none
  | d :: '_' :: rest => if isDigit d then (joinDigits isDigit rest).map (d :: ·) else none
  | d :: rest => if isDigit d then (joinDigits isDigit rest).map (d :: ·) else none

def digitsOf (base : Nat) (ds : List Char) : Nat :=
  ds.foldl (fun n d => n * base + (digitValue? d).getD 0) 0

inductive IntFault
  | notAnInteger
  | tooManyDigits (count : Nat)
  deriving DecidableEq, Repr

/-- The number of digits up to which a text is read as an integer, if its base is no power of
two. -/
def maxIntDigits : Nat := 4300

def dropBase (base : Nat) (cs : List Char) : List Char :=
  let letters : List Char := if base = 16 then ['x', 'X'] else if base = 8 then ['o', 'O']
    else if base = 2 then ['b', 'B'] else []
  match cs with
  | '0' :: l :: rest => if letters.contains l then rest else cs
  | _ => cs

def readInt (base : Nat) (text : List Char) : Except IntFault Int :=
  let (negative, body) := splitSign (trimAscii (plainChars text))
  match joinDigits (isDigitOf base) (dropBase base body) with
  | none => .error .notAnInteger
  | some ds =>
    if base = 10 && maxIntDigits < ds.length then .error (.tooManyDigits ds.length)
    else
      let n : Int := digitsOf base ds
      .ok (if negative then -n else n)

def readExponent : List Char → Option Int
  | [] => some 0
  | e :: rest =>
    if e = 'e' || e = 'E' then
      let (negative, ds) := splitSign rest
      (joinDigits Char.isDigit ds).map fun ds =>
        let n : Int := digitsOf 10 ds
        if negative then -n else n
    else none

/-- Some digits with underscores between them, or none at all. -/
def joinSomeDigits (ds : List Char) : Option (List Char) :=
  if ds.isEmpty then some [] else joinDigits Char.isDigit ds

def isFloatDigit (c : Char) : Bool := c.isDigit || c == '_'

def readDecimal (negative : Bool) (cs : List Char) : Option Binary64 := do
  let whole ← joinSomeDigits (cs.takeWhile isFloatDigit)
  let rest := cs.dropWhile isFloatDigit
  let (fraction, rest) ←
    match rest with
    | '.' :: beyond =>
      (joinSomeDigits (beyond.takeWhile isFloatDigit)).map fun ds =>
        (ds, beyond.dropWhile isFloatDigit)
    | _ => some ([], rest)
  if whole.isEmpty && fraction.isEmpty then none
  else
    let exponent ← readExponent rest
    return .ofDecimal negative (digitsOf 10 (whole ++ fraction)) (exponent - fraction.length)

/-- A floating point number, or one of the words for infinity and for what is no number. -/
def readFloat (text : List Char) : Option Binary64 :=
  let plain := plainChars text
  let (negative, body) := splitSign (trimAscii plain)
  let word := String.ofList (body.map Char.toLower)
  if word = "inf" || word = "infinity" then some (.infinite negative)
  else if word = "nan" then some .nan
  else readDecimal negative body

end ReleaseMatch.Number
