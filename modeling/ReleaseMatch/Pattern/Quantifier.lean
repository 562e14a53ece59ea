import ReleaseMatch.Pattern.Bracket
set_option autoImplicit false

/-!
# Quantifiers

How often a part of a pattern is to be found. Braces that do not hold a count may hold a constraint
on the errors of an approximate match; braces that hold neither are just characters.
-/
namespace ReleaseMatch.Pattern

structure Counts where
  least : Nat
  most : Option Nat
  deriving DecidableEq, Repr

def maxCount : Nat := 0xFFFFFFFF

/-- The counts in braces, from behind the opening one, if there are any. -/
def readCounts (verbose : Bool) (cs : List Char) : Except Fault (Option (Counts × List Char)) :=
  let (least, rest) := spanWhile verbose Char.isDigit cs
  let found : Option (Counts × List Char) :=
    match accept verbose [','] rest with
    | some rest =>
      let (most, rest) := spanWhile verbose Char.isDigit rest
      some (⟨decimal least, if most.isEmpty then none else some (decimal most)⟩, rest)
    | none =>
      if least.isEmpty then none else some (⟨decimal least, some (decimal least)⟩, rest)
  match found with
  | none => .ok none
  | some (counts, rest) =>
    match accept verbose ['\x7d'] rest with
    | none => .ok none
    | some rest =>
      if maxCount ≤ counts.least || counts.most.any (maxCount ≤ ·) then fault .repeatTooBig cs
      else if counts.most.any (· < counts.least) then fault .leastAboveMost cs
      else .ok (some (counts, rest))

/-- Reading that may find nothing, and then may be tried in another way. -/
abbrev Attempt := StateT (List Char) (OptionT (Except Fault))

namespace Attempt

def nothing {α : Type} : Attempt α := fun _ => OptionT.fail

def refuse {α : Type} (cause : Cause) : Attempt α :=
  fun cs => OptionT.lift (fault cause cs)

def refuseAt {α : Type} (cause : Cause) (place : List Char) : Attempt α :=
  fun _ => OptionT.lift (fault cause place)

def char (verbose : Bool) : Attempt Char :=
  fun cs =>
    match next verbose cs with
    | some (c, rest) => pure (c, rest)
    | none => OptionT.fail

def accepts (verbose : Bool) (word : List Char) : Attempt Bool :=
  fun cs =>
    match accept verbose word cs with
    | some rest => pure (true, rest)
    | none => pure (false, cs)

def digits (verbose : Bool) : Attempt (List Char) :=
  fun cs => pure (spanWhile verbose Char.isDigit cs)

end Attempt

open Attempt in
def readComparison (verbose : Bool) : Attempt (Option Bool) := do
  if ← accepts verbose ['<', '='] then return some true
  else if ← accepts verbose ['<'] then return some false
  else return none

open Attempt in
def readCost (verbose : Bool) : Attempt Nat := do
  let place ← get
  let ds ← digits verbose
  if ds.isEmpty then refuseAt .badCost place else return decimal ds

abbrev Limited := List Char

open Attempt in
def readErrorKind (limited : Limited) (c : Char) : Attempt Char :=
  if ['d', 'e', 'i', 's'].contains c && !limited.contains c then return c else nothing

open Attempt in
/-- A limit on one kind of error: a kind with at most a limit after it, or between two limits. -/
def readLimit (verbose : Bool) (limited : Limited) : Attempt Limited := do
  let start ← get
  let c ← char verbose
  if isAsciiLetter c then
    let kind ← readErrorKind limited c
    match ← readComparison verbose with
    | none => return kind :: limited
    | some inclusive =>
      let place ← get
      let most ← readCost verbose
      if !inclusive && most = 0 then refuseAt .badCost place else return kind :: limited
  else if c.isDigit then
    set start
    let least ← readCost verbose
    let some fromInclusive ← readComparison verbose | nothing
    let kind ← readErrorKind limited (← char verbose)
    let some toInclusive ← readComparison verbose | nothing
    let place ← get
    let most ← readCost verbose
    let least := if fromInclusive then least else least + 1
    if (!toInclusive && most = 0) || (if toInclusive then most else most - 1) < least then
      refuseAt .badCost place
    else return kind :: limited
  else nothing

open Attempt in
/-- The terms of a weighted sum of errors. `fuel` bounds their number. -/
def readCostTerms (verbose : Bool) : Nat → List Char → Attempt Unit
  | 0, _ => nothing
  | fuel + 1, seen => do
    let _ ← digits verbose
    let c ← char verbose
    if !(['d', 'i', 's'].contains c) then nothing
    else if seen.contains c then refuse .repeatedCost
    else if ← accepts verbose ['+'] then readCostTerms verbose fuel (c :: seen)
    else return

open Attempt in
/-- A limit on a weighted sum of errors, of which there can be only one. -/
def readCostEquation (verbose : Bool) (limited : Limited) : Attempt Limited := do
  if limited.contains '+' then refuse .secondEquation
  readCostTerms verbose 4 []
  let some inclusive ← readComparison verbose | nothing
  let ds ← digits verbose
  if ds.isEmpty then nothing
  else if !inclusive && decimal ds = 0 then refuse .badCost
  else return '+' :: limited

open Attempt in
def readLimits (verbose : Bool) : Nat → Limited → Attempt Unit
  | 0, _ => nothing
  | fuel + 1, limited => do
    let limited ← readLimit verbose limited <|> readCostEquation verbose limited
    if ← accepts verbose [','] then readLimits verbose fuel limited else return

def readSubstitutes (flags : Flags) (cs : List Char) : Except Fault (List Char) :=
  match next flags.isVerbose cs with
  | none => fault .expectedSet cs
  | some (c, rest) =>
    if c = '\\' then (readEscape flags false rest).map (·.2)
    else if c = '[' then (readSet flags rest).map (·.2)
    else if c = '.' then .ok rest
    else if "()|?*+\x7b^$#".contains c then fault .expectedSet cs
    else .ok rest

/-- What follows a constraint on errors, from behind its opening brace, if there is one. Matches are
exact all the same. -/
def readConstraint (flags : Flags) (cs : List Char) : Except Fault (Option (List Char)) := do
  let verbose := flags.isVerbose
  match ← ((readLimits verbose (cs.length + 1) []).run cs).run with
  | none => return none
  | some (_, rest) =>
    let rest ←
      match accept verbose [':'] rest with
      | some rest => readSubstitutes flags rest
      | none => pure rest
    return some (← expectBrace verbose rest)
where
  expectBrace (verbose : Bool) (rest : List Char) : Except Fault (List Char) :=
    match accept verbose ['\x7d'] rest with
    | some rest => .ok rest
    | none => fault .expectedBrace rest

end ReleaseMatch.Pattern
