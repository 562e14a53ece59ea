import ReleaseMatch.Log.Level
import ReleaseMatch.Log.Template
import ReleaseMatch.Number.Word
set_option autoImplicit false

/-!
# Log records

A record has attributes of its own and others that were given with it. One that was given under the
name of an own attribute stands in for it.
-/
namespace ReleaseMatch.Log

/-- The attributes that every record has, and the two that are made from them. -/
def ownNames : List String :=
  ["name", "msg", "args", "levelname", "levelno", "pathname", "filename", "module", "exc_info",
    "exc_text", "stack_info", "lineno", "funcName", "created", "msecs", "relativeCreated", "thread",
    "threadName", "processName", "process", "message", "asctime"]

/-- What a record says about an error: nothing, that there is none, or how the error is reported. -/
inductive Thrown
  | absent
  | vacant
  | error (report : String)
  deriving DecidableEq, Repr

def errorLine (kind message : String) : String :=
  if message = "" then kind else kind ++ ": " ++ message

instance : Coe (Option String) Thrown :=
  ⟨fun message => (message.map fun m => .error (errorLine "ValueError" m)).getD .absent⟩

def noError : String := "NoneType: None"

def Thrown.text? : Thrown → Option String
  | .absent => none
  | .vacant => some noError
  | .error report => some report

/-- `created` is a time in seconds, and `given` holds further attributes. -/
structure Record where
  logger : String
  level : Value
  template : Value
  values : List Value := []
  thrown : Thrown := .absent
  created : Value
  given : List (String × Value) := []

inductive RecordFault
  | template (fault : Template.Fault)
  | year (n : Int)
  | timeNotNumber (kind : String)
  | timeIsNan
  | timeTooLarge
  | yearTooLarge
  | notIndexable (kind : String)
  | indexTooLarge (what : String)
  | noIndex
  | noAttribute (kind name : String)
  | notText (kind : String)
  | longInteger
  deriving DecidableEq, Repr

namespace RecordFault

def message : RecordFault → String
  | .template fault => fault.message
  | .year n => (Calendar.Fault.year n).message
  | .timeNotNumber kind => "'" ++ kind ++ "' object cannot be interpreted as an integer"
  | .timeIsNan => "Invalid value NaN (not a number)"
  | .timeTooLarge => "timestamp out of range for platform time_t"
  | .yearTooLarge => "[Errno 75] Value too large for defined data type"
  | .notIndexable kind => "'" ++ kind ++ "' object is not subscriptable"
  | .indexTooLarge what => what ++ "index out of range"
  | .noIndex => "2"
  | .noAttribute kind name => "'" ++ kind ++ "' object has no attribute '" ++ name ++ "'"
  | .notText kind => "can only concatenate str (not \"" ++ kind ++ "\") to str"
  | .longInteger => Template.Fault.longInteger.message

def kind : RecordFault → String
  | .template fault => fault.kind
  | .year _ => "ValueError"
  | .timeNotNumber _ => "TypeError"
  | .timeIsNan => "ValueError"
  | .timeTooLarge => "OverflowError"
  | .yearTooLarge => "OSError"
  | .notIndexable _ => "TypeError"
  | .indexTooLarge _ => "IndexError"
  | .noIndex => "KeyError"
  | .noAttribute .. => "AttributeError"
  | .notText _ => "TypeError"
  | .longInteger => Template.Fault.longInteger.kind

end RecordFault

namespace Record

def given? (r : Record) (name : String) : Option Value := r.given.lookup name

/-- The integer that a value is equal to. -/
def numberOf : Value → Option Int
  | .int n => some n
  | .bool b => some (if b then 1 else 0)
  | .float x => x.toInt?
  | _ => none

def levelName (level : Value) : String :=
  ((numberOf level).bind Level.named?).getD ("Level " ++ level.shown)

def shownLevel (r : Record) : Value := (r.given? "levelname").getD (.text (levelName r.level))

def shownLogger (r : Record) : Value := (r.given? "name").getD (.text r.logger)

def time (r : Record) : Value := (r.given? "created").getD r.created

/-- What the template is filled in with, if it is filled in at all. A single table among the values
lets the template use its keys. -/
def filling (r : Record) : Option Template.Filling :=
  match r.given? "args" with
  | some v => if v.isSet then some (.single v) else none
  | none =>
    match r.values with
    | [] => none
    | [.map (entry :: rest)] => some (.single (.map (entry :: rest)))
    | xs => some (.row xs)

/-- A value as it is shown. No integer in it may be too long. -/
def shown (v : Value) : Except RecordFault String :=
  if v.hasLong then .error .longInteger else .ok v.shown

/-- The message: the template as it is, or filled in. -/
def message (r : Record) : Except RecordFault String := do
  let text ← shown ((r.given? "msg").getD r.template)
  match r.filling with
  | none => return text
  | some f => (Template.fill text f).mapError .template

/-- The values of the record as they are shown together. A single table stands alone. -/
def arguments (r : Record) : String :=
  match r.given? "args", r.values with
  | some v, _ => v.shown
  | none, [.map (entry :: rest)] => Value.shown (.map (entry :: rest))
  | none, [v] => "(" ++ v.code ++ ",)"
  | none, vs => "(" ++ ", ".intercalate (vs.map Value.code) ++ ")"

def details (r : Record) : String :=
  let template := (r.given? "msg").getD r.template
  if template.hasLong || ((r.given? "args").getD (.list r.values)).hasLong then
    "Unable to print the message and arguments - possible formatting error.\n"
      ++ "Use the traceback above to help find the error.\n"
  else String.join ["Message: ", template.code, "\nArguments: ", r.arguments, "\n"]

/-- What is said of an error that keeps the record from being written, but for the trace of calls. -/
def report (r : Record) (kind message : String) : String :=
  String.join ["--- Logging error ---\nTraceback (most recent call last):\n", errorLine kind message,
    "\nCall stack:\n", r.details]

/-- What an attribute in the place of the error says, which has to be a triple: the last of the three is
a trace, the second one an error. -/
def tripleText : Value → Except RecordFault String
  | .text s => .error (if s.length < 3 then .indexTooLarge "string " else .noAttribute "str" traceName)
  | .bytes bs => .error (if bs.length < 3 then .indexTooLarge "" else .noAttribute "int" traceName)
  | .list (_ :: error :: trace :: _) =>
    match error, trace with
    | .null, .null => .ok noError
    | error, .null => .error (.noAttribute error.kind "__suppress_context__")
    | _, trace => .error (.noAttribute trace.kind traceName)
  | .list _ => .error (.indexTooLarge "list ")
  | .map _ => .error .noIndex
  | v => .error (.notIndexable v.kind)
where
  traceName : String := "tb_frame"

def thrownText (r : Record) : Except RecordFault (Option String) :=
  match r.given? "exc_info" with
  | none => .ok r.thrown.text?
  | some v => if v.isSet then (tripleText v).map some else .ok none

/-- The attributes beyond the record's own, but for private ones. -/
def context (r : Record) : List (String × Value) :=
  r.given.filter fun (name, _) => !ownNames.contains name && !(name.toList.head? == some '_')

/-- Seconds and microseconds of a time, the latter rounded with ties to even. -/
def splitTime : Value → Except RecordFault (Int × Nat)
  | .int n => seconds n
  | .bool b => seconds (if b then 1 else 0)
  | .float x =>
    match x with
    | .nan => .error .timeIsNan
    | .infinite _ => .error .timeTooLarge
    | .finite negative m exponent =>
      let r := Number.Binary64.ratio m exponent
      let whole : Int := (r.1 / r.2 : Nat)
      let part := Number.Binary64.ofRatio false (r.1 % r.2) r.2
      let micros := microsOf (part.mul (.ofInt 1000000))
      let total : Int := whole * 1000000 + micros
      let total := if negative then -total else total
      return ((← seconds (Int.fdiv total 1000000)).1, (Int.fmod total 1000000).toNat)
  | v => .error (.timeNotNumber v.kind)
where
  seconds (n : Int) : Except RecordFault (Int × Nat) :=
    if Number.inWord64 n then .ok (n, 0) else .error .timeTooLarge
  microsOf : Number.Binary64 → Nat
    | .finite _ m exponent =>
      let r := Number.Binary64.ratio m exponent
      Number.roundEven r.1 r.2
    | _ => 0

/-- The whole seconds of a time, rounded down. -/
def floorTime : Value → Except RecordFault Int
  | .float (.finite negative m exponent) =>
    let r := Number.Binary64.ratio m exponent
    let n : Int := if negative then -(r.1 : Int) else r.1
    return (← splitTime.seconds (Int.fdiv n r.2)).1
  | v => do return (← splitTime v).1

end Record
end ReleaseMatch.Log
