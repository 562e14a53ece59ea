import ReleaseMatch.Pattern.Reader
set_option autoImplicit false

/-!
# What a reader does

A step of a reader scans the text for what is to be done, with nothing but the flags in view, and then
does it, with nothing but what has been read so far in view.
-/
namespace ReleaseMatch.Pattern

open Text

/-- What is to be done, apart from the text that is left. What mentions a group has the number of
characters between the place that is to be reported and the text that is left. -/
inductive Action
  | pass
  | push (n : Node)
  | split
  | close
  | quantify (counts : Counts) (greed : Greed)
  | constrain
  | look (behind positive : Bool)
  | test (behind positive : Bool)
  | atomic
  | reset
  | capture (name : Option String)
  | change (on off : Flags) (ownGroup : Bool)
  | back (ref : GroupName) (used : Nat)
  | call (ref : GroupName) (used : Nat)
  | relative (forward : Bool) (offset used : Nat)
  | condition (ref : GroupName) (used : Nat)

abbrev Scan := List Char → Except Fault (Action × List Char)

def Node.times (n : Node) (counts : Counts) (greed : Greed) : Node :=
  if n.isEmpty || (counts.least = 1 && counts.most = some 1) then n
  else .repeated n counts.least counts.most greed

def Level.amend (l : Level) (f : Node → Node) : Option Level :=
  match l.items with
  | some n :: items => some { l with items := none :: some (f n) :: items }
  | _ => none

def Reader.mention (r : Reader) (n : Node) (ref : Reference) (rest : List Char) : Reader :=
  { r.push n rest with references := ref :: r.references }

/-- The number of the group that is so many groups before or after this place. -/
def Reader.numberFrom (r : Reader) (forward : Bool) (offset : Nat) : Nat :=
  if forward then r.groupCount + offset else r.groupCount + 1 - offset

def Reader.act (r : Reader) (action : Action) (rest : List Char) : Option Reader :=
  match action with
  | .pass => some { r with rest }
  | .push n => some (r.push n rest)
  | .split => (r.bar rest).toOption
  | .close => (r.closing rest).toOption
  | .quantify counts greed =>
    (r.level.amend (·.times counts greed)).map fun level => { r with rest, level }
  | .constrain => (r.level.amend id).map fun level => { r with rest, level }
  | .look behind positive => some (r.open_ (.look behind positive) rest)
  | .test behind positive => some (r.open_ (.test behind positive) rest)
  | .atomic => some (r.open_ .atomic rest)
  | .reset => some (r.open_ (.reset r.groupCount r.groupCount) rest)
  | .capture name => some (r.openCapture name rest)
  | .change on off ownGroup =>
    let r := { r with globals := on.filter Flag.isGlobal ++ r.globals }
    let flags := r.flags.change (on.filter fun f : Flag => !f.isGlobal) off
    some (if ownGroup then { r.open_ .plain rest with flags } else { r with rest, flags })
  | .back ref used =>
    some (r.mention (.backref ref r.flags.caseMode) (.back ref (rest.length + used)) rest)
  | .call ref used => some (r.mention (.call ref) (.call ref (rest.length + used)) rest)
  | .relative forward offset used =>
    let number := r.numberFrom forward offset
    if number = 0 then none
    else some (r.mention (.call (.number number)) (.call (.number number) (rest.length + used)) rest)
  | .condition ref used =>
    some { r with
      rest, level := {}
      groups := ⟨.ifGroup ref, r.flags, r.level, r.references⟩ :: r.groups
      references := .condition ref (rest.length + used) :: r.references }

/-! Scanning -/

def done (action : Action) : Scan := fun cs => .ok (action, cs)

def amiss : Scan := fun cs => fault .unknownExtension cs

def Action.placed (used : Nat) : Action → Action
  | .back ref _ => .back ref used
  | .call ref _ => .call ref used
  | .relative forward offset _ => .relative forward offset used
  | .condition ref _ => .condition ref used
  | action => action

def placed (place : List Char) (found : Action × List Char) : Action × List Char :=
  (found.1.placed (place.length - found.2.length), found.2)

def placing (scan : Scan) : Scan := fun cs => (scan cs).map (placed cs)

/-- Goes by the next character that counts if there is a way for it, and by the whole text if not. -/
def byNext (verbose : Bool) (ways : Char → Option Scan) (otherwise : Scan) : Scan := fun cs =>
  match next verbose cs with
  | some (c, rest) =>
    match ways c with
    | some scan => scan rest
    | none => otherwise cs
  | none => otherwise cs

section

variable {verbose : Bool} {ways : Char → Option Scan} {otherwise scan : Scan} {cs rest : List Char}
  {c : Char}

theorem byNext_way (hn : next verbose cs = some (c, rest)) (hc : ways c = some scan) :
    byNext verbose ways otherwise cs = scan rest := by
  simp only [byNext, hn, hc]

theorem byNext_otherwise (h : ∀ c rest, next verbose cs = some (c, rest) → ways c = none) :
    byNext verbose ways otherwise cs = otherwise cs := by
  rw [byNext]
  split
  · next hn => simp only [h _ _ hn]
  · rfl

theorem byNext_past (hn : next verbose cs = some (c, rest)) (hc : ways c = none) :
    byNext verbose ways otherwise cs = otherwise cs := by
  simp only [byNext, hn, hc]

end

def scanQuantifier (verbose : Bool) (counts : Counts) : Scan := fun cs =>
  .ok (.quantify counts (Reader.readGreed verbose cs).1, (Reader.readGreed verbose cs).2)

def scanBrace (flags : Flags) : Scan := fun cs => do
  match ← readCounts flags.isVerbose cs with
  | some (counts, rest) => scanQuantifier flags.isVerbose counts rest
  | none =>
    match ← readConstraint flags cs with
    | some rest => return (.constrain, rest)
    | none => return (.push (.char '\x7b' flags.caseMode), cs)

def scanFlags (verbose : Bool) : Scan := fun cs => do
  let ((on, off), rest) ← readFlagChange verbose cs
  match accept verbose [':'] rest with
  | some rest => return (.change on off true, rest)
  | none =>
    match accept verbose [')'] rest with
    | some rest => return (.change on off false, rest)
    | none => fault .unknownExtension rest

def scanName (verbose : Bool) : Scan := fun cs => do
  match ← readName verbose false cs with
  | (.name s, rest) => return (.capture (some s), ← expect verbose ">" rest)
  | (.number _, rest) => fault .badName rest

def scanCall (verbose : Bool) (ref : GroupName) : Scan := fun cs =>
  expect verbose ")" cs >>= done (.call ref 0)

def scanNamedCall (verbose : Bool) : Scan := fun cs =>
  readName verbose false cs >>= fun found => scanCall verbose found.1 found.2

def scanNumberedCall (verbose : Bool) (first : Char) : Scan := fun cs =>
  let (ds, rest) := spanWhile verbose Char.isDigit cs
  scanCall verbose (.number (decimal (first :: ds))) rest

def scanRelativeCall (verbose forward : Bool) : Scan := fun cs =>
  let (ds, rest) := spanWhile verbose Char.isDigit cs
  if ds.isEmpty then fault .missingRelativeNumber rest
  else expect verbose ")" rest >>= done (.relative forward (decimal ds) 0)

def scanBack (verbose : Bool) : Scan := fun cs =>
  readName verbose true cs >>= fun found => expect verbose ")" found.2 >>= done (.back found.1 0)

def scanCondition (verbose : Bool) : Scan := fun cs =>
  readName verbose true cs >>= fun found => expect verbose ")" found.2 >>= done (.condition found.1 0)

/-- A sign with a digit behind it: a call that counts groups from its place. -/
def isRelative (verbose : Bool) (cs : List Char) : Bool :=
  match next verbose cs with
  | some (c, rest) => (c = '+' || c = '-') && (next verbose rest).any fun n => n.1.isDigit
  | none => false

def behindWays : Char → Option Scan
  | '=' => some (done (.look true true))
  | '!' => some (done (.look true false))
  | _ => none

def behindTestWays : Char → Option Scan
  | '=' => some (done (.test true true))
  | '!' => some (done (.test true false))
  | _ => none

def testWays (verbose : Bool) : Char → Option Scan
  | '=' => some (done (.test false true))
  | '!' => some (done (.test false false))
  | '<' => some (byNext verbose behindTestWays amiss)
  | _ => none

def conditionWays (verbose : Bool) : Char → Option Scan
  | '?' => some (byNext verbose (testWays verbose) amiss)
  | _ => none

def extensionWays (verbose : Bool) : Char → Option Scan
  | '<' => some (scanName verbose)
  | _ => none

def mentionWays (verbose : Bool) : Char → Option Scan
  | '=' => some (scanBack verbose)
  | '>' => some (scanNamedCall verbose)
  | '&' => some (scanNamedCall verbose)
  | _ => none

def scanExtension (verbose : Bool) : Scan :=
  byNext verbose (extensionWays verbose) (placing (byNext verbose (mentionWays verbose) amiss))

def specialWays (verbose : Bool) : Char → Option Scan
  | '<' => some (byNext verbose behindWays (scanName verbose))
  | '=' => some (done (.look false true))
  | '!' => some (done (.look false false))
  | 'P' => some (scanExtension verbose)
  | '#' => some fun cs => (Reader.dropComment cs).map fun rest => (.pass, rest)
  | '(' => some (byNext verbose (conditionWays verbose) (placing (scanCondition verbose)))
  | '>' => some (done (.atomic))
  | '|' => some (done .reset)
  | _ => none

def callWays (verbose : Bool) : Char → Option Scan
  | 'R' => some (scanCall verbose (.number 0))
  | '&' => some (scanNamedCall verbose)
  | c => if c.isDigit then some (scanNumberedCall verbose c) else none

def signWays (verbose : Bool) : Char → Option Scan
  | '+' => some (scanRelativeCall verbose true)
  | '-' => some (scanRelativeCall verbose false)
  | _ => none

def scanSpecial (verbose : Bool) : Scan :=
  byNext verbose (specialWays verbose) <| placing <| byNext verbose (callWays verbose) fun cs =>
    if isRelative verbose cs then byNext verbose (signWays verbose) amiss cs
    else scanFlags verbose cs

def verbNode? : String → Option Node
  | "FAIL" | "F" => some .fail
  | "PRUNE" | "SKIP" => some .empty
  | _ => none

def verbWord (verbose : Bool) (cs : List Char) : List Char × List Char :=
  spanWhile verbose (fun c => c != ')' && c != '>') cs

def scanVerb (verbose : Bool) : Scan := fun cs =>
  match verbNode? (String.ofList (verbWord verbose cs).1) with
  | some n => (expect verbose ")" (verbWord verbose cs).2).map fun rest => (.push n, rest)
  | none => fault .unknownVerb cs

def isVerb (verbose : Bool) (cs : List Char) : Bool :=
  match next verbose cs with
  | some ('*', rest) => (verbWord verbose rest).1.head?.any isLetter
  | _ => false

def parenWays (verbose : Bool) : Char → Option Scan
  | '?' => some (scanSpecial verbose)
  | _ => none

def starWays (verbose : Bool) : Char → Option Scan
  | '*' => some (scanVerb verbose)
  | _ => none

def scanParen (verbose : Bool) : Scan :=
  byNext verbose (parenWays verbose) fun cs =>
    if isVerb verbose cs then byNext verbose (starWays verbose) amiss cs
    else done (.capture none) cs

def pushEscape (flags : Flags) : Escape → Scan
  | .reference ref => done (.back ref 0)
  | e => done (.push (e.toNode flags))

def scanEscape (flags : Flags) : Scan := fun cs =>
  readEscape flags false cs >>= fun found => pushEscape flags found.1 found.2

def scan (flags : Flags) (c : Char) : Scan :=
  match c with
  | '|' => done .split
  | ')' => done .close
  | '(' => scanParen flags.isVerbose
  | '\\' => scanEscape flags
  | '[' => fun cs => (readSet flags cs).map fun found => (.push found.1, found.2)
  | '.' => done (.push (Reader.dot flags))
  | '^' => done (.push (Reader.caret flags))
  | '$' => done (.push (Reader.dollar flags))
  | '?' => scanQuantifier flags.isVerbose ⟨0, some 1⟩
  | '*' => scanQuantifier flags.isVerbose ⟨0, none⟩
  | '+' => scanQuantifier flags.isVerbose ⟨1, none⟩
  | '\x7b' => scanBrace flags
  | c => done (.push (.char c flags.caseMode))

end ReleaseMatch.Pattern
