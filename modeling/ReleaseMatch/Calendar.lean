set_option autoImplicit false

/-!
# Dates and times

The proleptic Gregorian calendar for the years 1 to 9999, clock times to the microsecond, and
offsets from universal time in seconds.
-/
namespace ReleaseMatch

namespace Calendar

/-- The last `width` decimal digits of `n`. -/
def padded : Nat → Nat → List Char
  | 0, _ => []
  | width + 1, n => padded width (n / 10) ++ [Char.ofNat (48 + n % 10)]

def isLeap (year : Nat) : Bool :=
  year % 4 == 0 && (year % 100 != 0 || year % 400 == 0)

def daysIn (year month : Nat) : Nat :=
  if month = 2 then if isLeap year then 29 else 28
  else if month = 4 || month = 6 || month = 9 || month = 11 then 30
  else 31

structure Date where
  year : Nat
  month : Nat
  day : Nat
  deriving DecidableEq, Repr

structure Time where
  hour : Nat
  minute : Nat
  second : Nat
  microsecond : Nat
  deriving DecidableEq, Repr

inductive Fault
  | year (n : Int)
  | month
  | day
  | hour
  | minute
  | second
  deriving DecidableEq, Repr

def Fault.message : Fault → String
  | .year n => "year " ++ toString n ++ " is out of range"
  | .month => "month must be in 1..12"
  | .day => "day is out of range for month"
  | .hour => "hour must be in 0..23"
  | .minute => "minute must be in 0..59"
  | .second => "second must be in 0..59"

/-- The year is looked at first, then the month, then the day. -/
def Date.check (d : Date) : Except Fault Date :=
  if d.year < 1 || 9999 < d.year then .error (.year d.year)
  else if d.month < 1 || 12 < d.month then .error .month
  else if d.day < 1 || daysIn d.year d.month < d.day then .error .day
  else .ok d

def Time.check (t : Time) : Except Fault Time :=
  if 23 < t.hour then .error .hour
  else if 59 < t.minute then .error .minute
  else if 59 < t.second then .error .second
  else .ok t

/-- A date, a time of day, or both with an offset if one is known. -/
inductive Moment
  | date (d : Date)
  | time (t : Time)
  | dateTime (d : Date) (t : Time) (offset : Option Int)
  deriving DecidableEq, Repr

def Date.text (d : Date) : List Char :=
  padded 4 d.year ++ '-' :: padded 2 d.month ++ '-' :: padded 2 d.day

def Time.clock (t : Time) : List Char :=
  padded 2 t.hour ++ ':' :: padded 2 t.minute ++ ':' :: padded 2 t.second

/-- The clock time, with the microseconds where there are any. -/
def Time.text (t : Time) : List Char :=
  t.clock ++ (if t.microsecond = 0 then [] else '.' :: padded 6 t.microsecond)

def offsetText (offset : Int) : List Char :=
  let n := offset.natAbs
  (if offset < 0 then '-' else '+') :: padded 2 (n / 3600) ++ ':' :: padded 2 (n / 60 % 60)
    ++ (if n % 60 = 0 then [] else ':' :: padded 2 (n % 60))

def Moment.text : Moment → String
  | .date d => String.ofList d.text
  | .time t => String.ofList t.text
  | .dateTime d t offset =>
    String.ofList (d.text ++ ' ' :: t.text ++ (offset.map offsetText).getD [])

/-- The numbers of a clock time, without zero microseconds, nor then zero seconds. -/
def Time.numbers (t : Time) : List Nat :=
  if t.microsecond ≠ 0 then [t.hour, t.minute, t.second, t.microsecond]
  else if t.second ≠ 0 then [t.hour, t.minute, t.second]
  else [t.hour, t.minute]

def commas (ns : List Nat) : String :=
  ", ".intercalate (ns.map toString)

def zoneCode (offset : Int) : String :=
  if offset = 0 then "datetime.timezone.utc"
  else
    let days := Int.fdiv offset 86400
    let seconds := Int.fmod offset 86400
    "datetime.timezone(datetime.timedelta("
      ++ (if days = 0 then "" else "days=" ++ toString days ++ ", ")
      ++ "seconds=" ++ toString seconds ++ "))"

/-- The form a moment takes inside a list or a mapping. -/
def Moment.code : Moment → String
  | .date d => "datetime.date(" ++ commas [d.year, d.month, d.day] ++ ")"
  | .time t => "datetime.time(" ++ commas t.numbers ++ ")"
  | .dateTime d t offset =>
    "datetime.datetime(" ++ commas ([d.year, d.month, d.day] ++ t.numbers)
      ++ (match offset with
          | none => ""
          | some z => ", tzinfo=" ++ zoneCode z)
      ++ ")"

/-- The date of a day counted from 1970-01-01, in whole eras of 400 years. -/
def ofDays (days : Int) : Int × Nat × Nat :=
  let shifted := days + 719468
  let era := Int.fdiv shifted 146097
  let dayOfEra := (Int.fmod shifted 146097).toNat
  let yearOfEra :=
    (dayOfEra - dayOfEra / 1460 + dayOfEra / 36524 - dayOfEra / 146096) / 365
  let dayOfYear := dayOfEra - (365 * yearOfEra + yearOfEra / 4 - yearOfEra / 100)
  let shiftedMonth := (5 * dayOfYear + 2) / 153
  let day := dayOfYear - (153 * shiftedMonth + 2) / 5 + 1
  let month := if shiftedMonth < 10 then shiftedMonth + 3 else shiftedMonth - 9
  let year := (yearOfEra : Int) + era * 400 + (if month ≤ 2 then 1 else 0)
  (year, month, day)

/-- The date and clock time, in universal time, of a count of seconds from 1970-01-01. -/
def ofSeconds (seconds : Int) (microsecond : Nat) : Except Fault (Date × Time) :=
  let rest := (Int.fmod seconds 86400).toNat
  let (year, month, day) := ofDays (Int.fdiv seconds 86400)
  if year < 1 || 9999 < year then .error (.year year)
  else .ok (⟨year.toNat, month, day⟩, ⟨rest / 3600, rest / 60 % 60, rest % 60, microsecond⟩)

end Calendar
end ReleaseMatch
