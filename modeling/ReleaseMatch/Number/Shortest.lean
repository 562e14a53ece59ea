import ReleaseMatch.Number.Binary64
set_option autoImplicit false

/-!
# Shortest decimals

Of the decimals that read back as a given number, the one with the fewest digits, and of those the
nearest. Positional notation is used from `0.0001` up to below `10 ^ 16`, and always with a
fractional part; outside it there is an exponent of at least two digits.
-/
namespace ReleaseMatch.Number

/-- Digits and a power of ten: the number is `digits * 10 ^ exponent`. -/
structure Decimal where
  digits : Nat
  exponent : Int
  deriving DecidableEq, Repr

/-- The least `j` from `low` on, in at most `fuel` steps, with `den ≤ num * 10 ^ j`. -/
def scaleUp (num den : Nat) : Nat → Nat → Nat
  | 0, low => low
  | fuel + 1, low => if den ≤ num * Nat.pow 10 low then low else scaleUp num den fuel (low + 1)

def digitCount (n : Nat) : Nat :=
  (Nat.toDigits 10 n).length

/-- The power of ten of the leading digit of `num / den`. -/
def leading (num den : Nat) : Int :=
  if den ≤ num then (digitCount (num / den) : Int) - 1
  else -(scaleUp num den 400 1 : Int)

namespace Binary64

/-- The decimal with `count` digits that reads back as the number, the nearer of the two
neighbours when both do. -/
def shortestWith (m : Nat) (exponent : Int) (count : Nat) : Option Decimal :=
  let r := ratio m exponent
  let grid : Int := leading r.1 r.2 + 1 - count
  let p := powRatio 10 grid
  let num := r.1 * p.2
  let den := r.2 * p.1
  let low := num / den
  let reads (n : Nat) : Bool := ofDecimal false n grid == .finite false m exponent
  let near := roundEven num den
  let far := if near = low then low + 1 else low
  if reads near then some ⟨near, grid⟩
  else if reads far then some ⟨far, grid⟩
  else none

def exactDecimal (m : Nat) (exponent : Int) : Decimal :=
  if 0 ≤ exponent then ⟨m * Nat.pow 2 exponent.toNat, 0⟩
  else ⟨m * Nat.pow 5 (-exponent).toNat, exponent⟩

def shortest (m : Nat) (exponent : Int) : Decimal :=
  ((List.range 17).findSome? fun n => shortestWith m exponent (n + 1)).getD
    (exactDecimal m exponent)

end Binary64

def stripZeros : List Char → List Char :=
  fun cs => (cs.reverse.dropWhile (· == '0')).reverse

def exponentText (n : Int) : List Char :=
  let ds := Nat.toDigits 10 n.natAbs
  (if n < 0 then '-' else '+') :: (if ds.length < 2 then '0' :: ds else ds)

/-- Positional notation of `0.ds * 10 ^ point`, with at least one digit on both sides. -/
def positional (ds : List Char) (point : Int) : List Char :=
  if point ≤ 0 then '0' :: '.' :: List.replicate (-point).toNat '0' ++ ds
  else
    let n := point.toNat
    if ds.length ≤ n then ds ++ List.replicate (n - ds.length) '0' ++ ['.', '0']
    else ds.take n ++ '.' :: ds.drop n

def exponential (ds : List Char) (point : Int) : List Char :=
  match ds with
  | [] => []
  | [d] => d :: 'e' :: exponentText (point - 1)
  | d :: rest => d :: '.' :: rest ++ 'e' :: exponentText (point - 1)

def Decimal.text (d : Decimal) : List Char :=
  let all := Nat.toDigits 10 d.digits
  let point : Int := all.length + d.exponent
  let ds := stripZeros all
  if -4 < point && point ≤ 16 then positional ds point else exponential ds point

def Binary64.text : Binary64 → String
  | .nan => "nan"
  | .infinite negative => if negative then "-inf" else "inf"
  | .finite negative m exponent =>
    let body := if m = 0 then ['0', '.', '0'] else (shortest m exponent).text
    String.ofList (if negative then '-' :: body else body)

end ReleaseMatch.Number
