import ReleaseMatch.Toml.Text
import ReleaseMatch.Value
set_option autoImplicit false

/-!
# Dates, times and numbers

The scalars without quotes. Between two digits of a number there may be an underscore.
-/
namespace ReleaseMatch.Toml

open Calendar Number

def twoDigits? (a b : Char) : Option Nat :=
  if a.isDigit && b.isDigit then some (digitsOf 10 [a, b]) else none

/-- The digits after the decimal point of a second, of which six count. -/
def readFraction (cs : List Char) : Nat × List Char :=
  match cs with
  | '.' :: rest =>
    let ds := rest.takeWhile Char.isDigit
    if ds.isEmpty then (0, cs)
    else (digitsOf 10 ((ds ++ List.replicate 6 '0').take 6), rest.dropWhile Char.isDigit)
  | _ => (0, cs)

def readTime? : List Char → Option (Time × List Char)
  | a :: b :: ':' :: c :: d :: ':' :: e :: f :: rest => do
    let hour ← twoDigits? a b
    let minute ← twoDigits? c d
    let second ← twoDigits? e f
    if 23 < hour || 59 < minute || 59 < second then none
    else
      let (microsecond, rest) := readFraction rest
      return (⟨hour, minute, second, microsecond⟩, rest)
  | _ => none

/-- An offset from universal time in seconds, if there is one. -/
def readOffset (cs : List Char) : Option Int × List Char :=
  match cs with
  | 'Z' :: rest => (some 0, rest)
  | 'z' :: rest => (some 0, rest)
  | sign :: a :: b :: ':' :: c :: d :: rest =>
    match twoDigits? a b, twoDigits? c d with
    | some hours, some minutes =>
      let seconds : Int := hours * 3600 + minutes * 60
      if 23 < hours || 59 < minutes then (none, cs)
      else if sign = '+' then (some seconds, rest)
      else if sign = '-' then (some (-seconds), rest)
      else (none, cs)
    | _, _ => (none, cs)
  | _ => (none, cs)

def readDate? : List Char → Option (Date × List Char)
  | a :: b :: c :: d :: '-' :: e :: f :: '-' :: g :: h :: rest => do
    let century ← twoDigits? a b
    let year ← twoDigits? c d
    let month ← twoDigits? e f
    let day ← twoDigits? g h
    if month < 1 || 12 < month || day < 1 || 31 < day then none
    else return (⟨century * 100 + year, month, day⟩, rest)
  | _ => none

def readTimeOfDate? : List Char → Option (Time × List Char)
  | c :: rest => if c = 'T' || c = 't' || c = ' ' then readTime? rest else none
  | [] => none

def readMoment? (cs : List Char) : Option (Except Stop (Moment × List Char)) :=
  match readDate? cs with
  | some (date, rest) =>
    some <|
      match date.check with
      | .error _ => .error ⟨.notMoment, cs⟩
      | .ok date =>
        match readTimeOfDate? rest with
        | none => .ok (.date date, rest)
        | some (time, rest) =>
          let (offset, rest) := readOffset rest
          .ok (.dateTime date time offset, rest)
  | none => (readTime? cs).map fun (time, rest) => .ok (.time time, rest)

/-- Further digits of a number, each with an underscore in front or without. -/
def moreDigits (isDigit : Char → Bool) : List Char → List Char × List Char
  | [] => ([], [])
  | '_' :: [] => ([], ['_'])
  | '_' :: c :: rest =>
    if isDigit c then
      let (ds, rest) := moreDigits isDigit rest
      (c :: ds, rest)
    else ([], '_' :: c :: rest)
  | c :: rest =>
    if isDigit c then
      let (ds, rest) := moreDigits isDigit rest
      (c :: ds, rest)
    else ([], c :: rest)

def readDigits? (isDigit : Char → Bool) : List Char → Option (List Char × List Char)
  | c :: rest =>
    if isDigit c then
      let (ds, rest) := moreDigits isDigit rest
      some (c :: ds, rest)
    else none
  | [] => none

def baseOf (c : Char) : Option Nat :=
  match c with
  | 'x' => some 16
  | 'o' => some 8
  | 'b' => some 2
  | _ => none

def readBased? : List Char → Option (Int × List Char)
  | '0' :: letter :: rest => do
    let base ← baseOf letter
    let (ds, rest) ← readDigits? (isDigitOf base) rest
    return ((digitsOf base ds : Nat), rest)
  | _ => none

/-- The whole part of a decimal number, which starts with a zero only if it is one. -/
def readWhole? : List Char → Option (List Char × List Char)
  | '0' :: rest => some (['0'], rest)
  | cs => readDigits? Char.isDigit cs

def readDecimals? : List Char → Option (List Char × List Char)
  | '.' :: rest => readDigits? Char.isDigit rest
  | _ => none

def readPower? : List Char → Option (Int × List Char)
  | e :: rest =>
    if e = 'e' || e = 'E' then do
      let (negative, rest) := splitSign rest
      let (ds, rest) ← readDigits? Char.isDigit rest
      let n : Int := digitsOf 10 ds
      return (if negative then -n else n, rest)
    else none
  | [] => none

/-- A decimal number. It is an integer if it has neither decimals nor a power of ten. -/
def readDecimal? (cs : List Char) : Option (Except Stop (Value × List Char)) := do
  let (negative, rest) := splitSign cs
  let (whole, rest) ← readWhole? rest
  let decimals := readDecimals? rest
  let rest := (decimals.map (·.2)).getD rest
  let power := readPower? rest
  let rest := (power.map (·.2)).getD rest
  if decimals.isNone && power.isNone then
    if maxIntDigits < whole.length then
      return .error ⟨.tooManyDigits whole.length, cs⟩
    else
      let n : Int := digitsOf 10 whole
      return .ok (.int (if negative then -n else n), rest)
  else
    let ds := (decimals.map (·.1)).getD []
    let exponent := (power.map (·.1)).getD 0
    return .ok (.float (.ofDecimal negative (digitsOf 10 (whole ++ ds)) (exponent - ds.length)),
      rest)

def readNumberWord? (cs : List Char) : Option (Value × List Char) :=
  let (negative, rest) := splitSign cs
  match rest with
  | 'i' :: 'n' :: 'f' :: rest => some (.float (.infinite negative), rest)
  | 'n' :: 'a' :: 'n' :: rest => some (.float .nan, rest)
  | _ => none

def readScalar : Reader Value := fun cs =>
  match readMoment? cs with
  | some r => r.map fun (m, rest) => (.moment m, rest)
  | none =>
    match readBased? cs with
    | some (n, rest) => .ok (.int n, rest)
    | none =>
      match readDecimal? cs with
      | some r => r
      | none =>
        match readNumberWord? cs with
        | some r => .ok r
        | none => .error ⟨.notValue, cs⟩

end ReleaseMatch.Toml
