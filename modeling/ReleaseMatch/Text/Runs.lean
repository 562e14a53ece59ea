set_option autoImplicit false

/-!
# Runs of code points

A property of characters is constant over long stretches of code points. It is kept as the code
points at which it changes, and looked up by bisection.
-/
namespace ReleaseMatch.Text

structure Runs (α : Type) where
  starts : Array Nat
  values : Array α

namespace Runs

variable {α : Type}

/-- The runs that lie side by side from code point 0 on, given by length. -/
def ofLengths (runs : List (Nat × α)) : Runs α :=
  let all := runs.foldl (fun (acc : Nat × Array Nat × Array α) run =>
    (acc.1 + run.1, acc.2.1.push acc.1, acc.2.2.push run.2)) (0, #[], #[])
  ⟨all.2.1, all.2.2⟩

/-- The last index from `low` up to but not including `high` whose start is at most `n`, when that
of `low` is. -/
def bisect (starts : Array Nat) (n low high : Nat) : Nat :=
  if high ≤ low + 1 then low
  else
    let middle := (low + high) / 2
    if starts.getD middle 0 ≤ n then bisect starts n middle high else bisect starts n low middle
termination_by high - low

def find? (runs : Runs α) (n : Nat) : Option α :=
  runs.values[bisect runs.starts n 0 runs.starts.size]?

end Runs

def addDigit (n : Nat) (c : Char) : Nat :=
  n * 10 + (c.toNat - 48)

/-- Reads `12Ab3C` as `[(12, "Ab"), (3, "C")]`: lengths in decimal, codes in letters. -/
def readRuns : List Char → Nat → List Char → List (Nat × String)
  | [], _, [] => []
  | [], length, code => [(length, String.ofList code.reverse)]
  | c :: rest, length, code =>
    if c.isDigit then
      match code with
      | [] => readRuns rest (addDigit length c) []
      | _ => (length, String.ofList code.reverse) :: readRuns rest (addDigit 0 c) []
    else readRuns rest length (c :: code)

/-- Reads `12,3` as `[12, 3]`. -/
def readLengths (s : String) : List Nat :=
  (s.splitOn ",").map fun part => part.toList.foldl addDigit 0

end ReleaseMatch.Text
