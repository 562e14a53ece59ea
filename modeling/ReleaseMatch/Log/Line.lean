import ReleaseMatch.Json.Text
import ReleaseMatch.Log.Record
import ReleaseMatch.Number.Word
import ReleaseMatch.Text.Case
set_option autoImplicit false

/-!
# Lines of the log

A record is written as text: time, level, logger and message; or as a JSON object on a line of its
own.
-/
namespace ReleaseMatch.Log

inductive Format
  | text
  | json
  deriving DecidableEq, Repr

namespace Format

/-- The format of a name. All names but one are those of the text format. -/
def ofName (name : String) : Format := if Text.folded name = "json" then .json else .text

/-- How the format shows up in a report on the state of the log. -/
def name : Format → String
  | .text => "Formatter"
  | .json => "JSONFormatter"

end Format

open Calendar

/-- Years are counted from 1900 in 32 bits. -/
def checkYear (year : Int) : Except RecordFault Unit :=
  if Number.inWord32 (year - 1900) then .ok () else .error .yearTooLarge

/-- A time in universal time, to the microsecond. -/
def isoTime (time : Value) : Except RecordFault String := do
  let (seconds, micros) ← Record.splitTime time
  checkYear (ofDays (Int.fdiv seconds 86400)).1
  match ofSeconds seconds micros with
  | .ok (date, clock) =>
    return String.ofList (date.text ++ 'T' :: clock.text ++ offsetText 0)
  | .error (.year year) => throw (.year year)
  | .error _ => throw .timeTooLarge

/-- A time in universal time, to the second, in any year. -/
def plainTime (time : Value) : Except RecordFault String := do
  let seconds ← Record.floorTime time
  let (year, month, day) := ofDays (Int.fdiv seconds 86400)
  checkYear year
  let rest := (Int.fmod seconds 86400).toNat
  let clock : Time := ⟨rest / 3600, rest / 60 % 60, rest % 60, 0⟩
  return toString year
    ++ String.ofList ('-' :: padded 2 month ++ '-' :: padded 2 day ++ 'T' :: clock.clock)
    ++ "+0000"

def padRight (width : Nat) (s : String) : String :=
  s ++ String.ofList (List.replicate (width - s.length) ' ')

def addLine (line text : String) : String :=
  if line.toList.getLast? == some '\n' then line ++ text else line ++ "\n" ++ text

def optionalText (v : Option Value) : Except RecordFault (Option String) :=
  match v with
  | none => .ok none
  | some (.text s) => .ok (if s = "" then none else some s)
  | some v => if v.isSet then .error (.notText v.kind) else .ok none

def Record.textLine (r : Record) : Except RecordFault String := do
  let message ← r.message
  let time ← plainTime r.time
  let level ← Record.shown r.shownLevel
  let logger ← Record.shown r.shownLogger
  let line := String.join [time, " ", padRight 7 level, " ", logger, ": ", message]
  let thrown ←
    match ← optionalText (r.given? "exc_text") with
    | some s => pure (some s)
    | none => r.thrownText
  let line := (thrown.map (addLine line)).getD line
  let stack ← optionalText (r.given? "stack_info")
  return (stack.map (addLine line)).getD line

/-- The root logger goes without a name. -/
def loggerEntry (r : Record) : List (Value × Value) :=
  match r.shownLogger with
  | .text s => if s = "" || s = "root" then [] else [(.text "logger", .text s)]
  | v => if v.isSet then [(.text "logger", v)] else []

def contextEntry (r : Record) : List (Value × Value) :=
  match r.context with
  | [] => []
  | entries => [(.text "context", .map (entries.map fun (k, v) => (.text k, v)))]

def Record.object (r : Record) : Except RecordFault Value := do
  let time ← isoTime r.time
  let message ← r.message
  let thrown ← r.thrownText
  return .map ([(.text "timestamp", .text time), (.text "level", r.shownLevel),
      (.text "message", .text message)]
    ++ loggerEntry r ++ contextEntry r
    ++ (match thrown with
        | some s => [(.text "exception", .text s)]
        | none => []))

/-- No integer in the object may be too long. -/
def Record.jsonLine (r : Record) : Except RecordFault String := do
  let object ← r.object
  if object.hasLong then throw .longInteger
  return Json.render object

def Record.line (format : Format) (r : Record) : Except RecordFault String :=
  match format with
  | .text => r.textLine
  | .json => r.jsonLine

end ReleaseMatch.Log
