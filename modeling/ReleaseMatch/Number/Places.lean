import ReleaseMatch.Number.Shortest
set_option autoImplicit false

/-!
# Numbers to a given number of places

Binary floating point numbers in decimal notation, rounded to so many places after the point or to
so many digits in all; a tie goes to the even neighbour. The point itself may be kept where no place
follows it.
-/
namespace ReleaseMatch.Number

def padDigits (count : Nat) (n : Nat) : List Char :=
  let ds := Nat.toDigits 10 n
  List.replicate (count - ds.length) '0' ++ ds

def afterPoint (keepPoint : Bool) (ds : List Char) : List Char :=
  if ds.isEmpty && !keepPoint then [] else '.' :: ds

def fixedPlaces (keepPoint : Bool) (places num den : Nat) : List Char :=
  let ds := padDigits (places + 1) (roundEven (num * Nat.pow 10 places) den)
  ds.take (ds.length - places) ++ afterPoint keepPoint (ds.drop (ds.length - places))

def leadingDigits (count num den : Nat) : List Char × Int :=
  if num = 0 then (List.replicate count '0', 0)
  else
    let power := leading num den
    let p := powRatio 10 ((count : Int) - 1 - power)
    let n := roundEven (num * p.1) (den * p.2)
    if n = Nat.pow 10 count then (Nat.toDigits 10 (Nat.pow 10 (count - 1)), power + 1)
    else (padDigits count n, power)

def withPower (keepPoint : Bool) (ds : List Char) (power : Int) : List Char :=
  ds.take 1 ++ afterPoint keepPoint (ds.drop 1) ++ 'e' :: exponentText power

/-- The ratio with one digit in front of the point, and a power of ten. -/
def exponentPlaces (keepPoint : Bool) (places num den : Nat) : List Char :=
  let (ds, power) := leadingDigits (places + 1) num den
  withPower keepPoint ds power

/-- More digits than any number has. -/
def manyDigits : Nat := 1100

/-- The ratio with so many digits in all, of which zeros at the end are left out unless the point is
kept. Large and small ratios have a power of ten. -/
def generalPlaces (keepPoint : Bool) (places num den : Nat) : List Char :=
  let count := max 1 (if keepPoint then places else min places manyDigits)
  let (ds, power) := leadingDigits count num den
  if power < -4 || (count : Int) ≤ power then
    let more := ds.drop 1
    withPower keepPoint (ds.take 1 ++ if keepPoint then more else stripZeros more) power
  else
    let (whole, more) :=
      if power < 0 then (['0'], List.replicate (-power - 1).toNat '0' ++ ds)
      else ds.splitAt (power.toNat + 1)
    whole ++ afterPoint keepPoint (if keepPoint then more else stripZeros more)

inductive Places
  | fixed
  | exponent
  | general
  deriving DecidableEq, Repr

def Binary64.toPlaces (form : Places) (keepPoint : Bool) (places : Nat) (x : Binary64) :
    List Char :=
  match x with
  | .nan => "nan".toList
  | .infinite negative => (if negative then "-inf" else "inf").toList
  | .finite negative m exponent =>
    let r := ratio m exponent
    let body :=
      match form with
      | .fixed => fixedPlaces keepPoint places r.1 r.2
      | .exponent => exponentPlaces keepPoint places r.1 r.2
      | .general => generalPlaces keepPoint places r.1 r.2
    if negative then '-' :: body else body

/-- The whole part of a number that has one. -/
def Binary64.truncate? : Binary64 → Option Int
  | .finite negative m exponent =>
    let r := ratio m exponent
    let n : Int := (r.1 / r.2 : Nat)
    some (if negative then -n else n)
  | _ => none

end ReleaseMatch.Number
