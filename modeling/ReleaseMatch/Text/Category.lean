import ReleaseMatch.Text.Runs
import ReleaseMatch.Text.Category.Table
set_option autoImplicit false

/-!
# General categories

The general category of a character and what hangs on it: which characters can be shown as they
are, which are letters, which are decimal digits and of what value. ASCII is decided without the table.
-/
namespace ReleaseMatch.Text

inductive Category
  | Lu | Ll | Lt | Lm | Lo | Mn | Mc | Me | Nd | Nl | No | Pc | Pd | Ps | Pe | Pi | Pf | Po
  | Sm | Sc | Sk | So | Zs | Zl | Zp | Cc | Cf | Cs | Co | Cn
  deriving DecidableEq, Repr, Inhabited

namespace Category

def all : List Category :=
  [.Lu, .Ll, .Lt, .Lm, .Lo, .Mn, .Mc, .Me, .Nd, .Nl, .No, .Pc, .Pd, .Ps, .Pe, .Pi, .Pf, .Po,
    .Sm, .Sc, .Sk, .So, .Zs, .Zl, .Zp, .Cc, .Cf, .Cs, .Co, .Cn]

/-- The letters of the table stand for the categories in order. -/
def ofLetter (letter : String) : Category :=
  let letters := "ABCDEFGHIJKLMNOPQRSTUVWXYZabcd".toList
  (((letters.zip all).find? fun pair => letter.toList == [pair.1]).map (·.2)).getD .Cn

def table : Runs Category :=
  Runs.ofLengths ((readRuns categoryRuns.toList 0 []).map fun run => (run.1, ofLetter run.2))

def isLetter : Category → Bool
  | .Lu | .Ll | .Lt | .Lm | .Lo => true
  | _ => false

def isMark : Category → Bool
  | .Mn | .Mc | .Me => true
  | _ => false

end Category

def category (c : Char) : Category :=
  (Category.table.find? c.toNat).getD .Cn

/-- Characters that are shown as they are. The blank is the only separator among them. -/
def isPrintable (c : Char) : Bool :=
  let n := c.toNat
  if n < 128 then 32 ≤ n && n < 127
  else match category c with
    | .Cc | .Cf | .Cs | .Co | .Cn | .Zs | .Zl | .Zp => false
    | _ => true

def isLetter (c : Char) : Bool :=
  if c.toNat < 128 then c.isAlpha else (category c).isLetter

def isDecimal (c : Char) : Bool :=
  if c.toNat < 128 then c.isDigit else category c == .Nd

/-- Decimal digits come in blocks of ten, from zero to nine, and the runs of them start at a zero. -/
def decimalValue? (c : Char) : Option Nat :=
  let n := c.toNat
  if n < 128 then if c.isDigit then some (n - 48) else none
  else if category c == .Nd then
    let table := Category.table
    some ((n - table.starts.getD (Runs.bisect table.starts n 0 table.starts.size) 0) % 10)
  else none

end ReleaseMatch.Text
