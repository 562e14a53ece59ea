set_option autoImplicit false

/-!
# Binary floating point of 64 bits

A finite number is `significand * 2 ^ exponent`, with a significand below `2 ^ 53` and an exponent
from `-1074` to `971`; it is normal when the significand is at least `2 ^ 52` or the exponent the
least one. Ratios of naturals are rounded to the nearest number, ties to the even significand.
-/
namespace ReleaseMatch.Number

inductive Binary64
  | finite (negative : Bool) (significand : Nat) (exponent : Int)
  | infinite (negative : Bool)
  | nan
  deriving DecidableEq, Repr, Inhabited

/-- The quotient to the nearest integer, ties to the even one. -/
def roundEven (num den : Nat) : Nat :=
  let q := num / den
  let twice := 2 * (num % den)
  if twice < den then q
  else if den < twice then q + 1
  else q + q % 2

/-- `base ^ exponent` as a ratio. -/
def powRatio (base : Nat) (exponent : Int) : Nat × Nat :=
  if 0 ≤ exponent then (base.pow exponent.toNat, 1) else (1, base.pow (-exponent).toNat)

namespace Binary64

def zero (negative : Bool) : Binary64 := .finite negative 0 (-1074)

/-- The quotient of `num / den` by `2 ^ exponent`, again as a ratio. -/
def scaled (num den : Nat) (exponent : Int) : Nat × Nat :=
  let p := powRatio 2 exponent
  (num * p.2, den * p.1)

/-- The least significand of a normal number, `2 ^ 52`. -/
def normalFrom : Nat := 0x10000000000000

/-- The exponent at which `num / den` has a significand of 53 bits, or the least one. -/
def exponentFor (num den : Nat) : Int :=
  let guess : Int := (Nat.log2 num : Int) - (Nat.log2 den : Int) - 52
  let s := scaled num den guess
  let exact := if s.1 < normalFrom * s.2 then guess - 1 else guess
  max exact (-1074)

def ofRatio (negative : Bool) (num den : Nat) : Binary64 :=
  if num = 0 then zero negative
  else
    let exponent := exponentFor num den
    let s := scaled num den exponent
    let m := roundEven s.1 s.2
    let (m, exponent) := if m = 2 * normalFrom then (normalFrom, exponent + 1) else (m, exponent)
    if 971 < exponent then .infinite negative
    else if m = 0 then zero negative
    else .finite negative m exponent

/-- The number nearest to `m * 10 ^ exponent`. Far beyond the range nothing is computed. -/
def ofDecimal (negative : Bool) (m : Nat) (exponent : Int) : Binary64 :=
  if m = 0 then zero negative
  else
    let size : Int := (Nat.log2 m : Int) / 4 + exponent
    if 400 < size then .infinite negative
    else if (Nat.log2 m : Int) / 3 + 1 + exponent < -400 then zero negative
    else
      let p := powRatio 10 exponent
      ofRatio negative (m * p.1) p.2

def ofInt (n : Int) : Binary64 :=
  ofRatio (n < 0) n.natAbs 1

def isNegative : Binary64 → Bool
  | .finite negative _ _ => negative
  | .infinite negative => negative
  | .nan => false

def isZero : Binary64 → Bool
  | .finite _ m _ => m == 0
  | _ => false

/-- The magnitude of a finite number as a ratio. -/
def ratio (m : Nat) (exponent : Int) : Nat × Nat :=
  let p := powRatio 2 exponent
  (m * p.1, p.2)

def neg : Binary64 → Binary64
  | .finite negative m exponent => .finite (!negative) m exponent
  | .infinite negative => .infinite (!negative)
  | .nan => .nan

/-- The number nearest to a ratio with a sign; a zero takes the sign that is given for it. -/
def ofSignedRatio (zeroNegative : Bool) (num : Int) (den : Nat) : Binary64 :=
  if num = 0 then zero zeroNegative else ofRatio (num < 0) num.natAbs den

def signedRatio (negative : Bool) (m : Nat) (exponent : Int) : Int × Nat :=
  let r := ratio m exponent
  (if negative then -(r.1 : Int) else r.1, r.2)

def add : Binary64 → Binary64 → Binary64
  | .nan, _ | _, .nan => .nan
  | .infinite a, .infinite b => if a = b then .infinite a else .nan
  | .infinite a, _ | _, .infinite a => .infinite a
  | .finite a m e, .finite b n f =>
    let x := signedRatio a m e
    let y := signedRatio b n f
    ofSignedRatio (a && b) (x.1 * y.2 + y.1 * x.2) (x.2 * y.2)

def mul : Binary64 → Binary64 → Binary64
  | .nan, _ | _, .nan => .nan
  | .infinite a, y => if y.isZero then .nan else .infinite (a != y.isNegative)
  | x, .infinite b => if x.isZero then .nan else .infinite (x.isNegative != b)
  | .finite a m e, .finite b n f =>
    let x := signedRatio a m e
    let y := signedRatio b n f
    ofSignedRatio (a != b) (x.1 * y.1) (x.2 * y.2)

/-- Whether the number lies below an integer. Not-a-number lies below none. -/
def ltInt (x : Binary64) (n : Int) : Bool :=
  match x with
  | .finite negative m exponent =>
    let r := ratio m exponent
    let top : Int := if negative then -(r.1 : Int) else r.1
    decide (top < n * r.2)
  | .infinite negative => negative
  | .nan => false

def leInt (x : Binary64) (n : Int) : Bool :=
  match x with
  | .finite negative m exponent =>
    let r := ratio m exponent
    let top : Int := if negative then -(r.1 : Int) else r.1
    decide (top ≤ n * r.2)
  | .infinite negative => negative
  | .nan => false

def toInt? (x : Binary64) : Option Int :=
  match x with
  | .finite negative m exponent =>
    let r := ratio m exponent
    if r.1 % r.2 = 0 then
      let n : Int := (r.1 / r.2 : Nat)
      some (if negative then -n else n)
    else none
  | _ => none

end Binary64
end ReleaseMatch.Number
