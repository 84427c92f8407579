/-
# Dates in YAML

A date, or a date with a time of day, is a value of a kind of its own.  Settings never need one,
so it is kept by its texts: the one that a message shows, and the one it has when written alone.
A date that the calendar does not have is refused with the first field that is wrong.
-/
import PartialLeastSquares.Decimal.Literal
import PartialLeastSquares.Value
import PartialLeastSquares.Yaml.Error
import PartialLeastSquares.Yaml.Tag

namespace PartialLeastSquares.Yaml

/-! ## 1. The calendar -/

def isLeap (year : Nat) : Bool := (year % 4 == 0 && year % 100 != 0) || year % 400 == 0

def daysIn (year month : Nat) : Nat :=
  if month = 2 then (if isLeap year then 29 else 28)
  else if month = 4 ∨ month = 6 ∨ month = 9 ∨ month = 11 then 30
  else 31

def dateFault? (s : Tag.Stamp) : Option String :=
  if s.year = 0 then some "year 0 is out of range"
  else if s.month < 1 ∨ 12 < s.month then some "month must be in 1..12"
  else if s.day < 1 ∨ daysIn s.year s.month < s.day then some "day is out of range for month"
  else none

def clockFault? (c : Tag.Clock) : Option String :=
  if 23 < c.hour then some "hour must be in 0..23"
  else if 59 < c.minute then some "minute must be in 0..59"
  else if 59 < c.second then some "second must be in 0..59"
  else none

/-! ## 2. Offsets -/

def offsetMinutes : Tag.Offset → Option Int
  | .absent => none
  | .universal => some 0
  | .away behind hours minutes =>
    let size : Int := 60 * hours + minutes
    some (if behind then -size else size)

def dayMinutes : Int := 1440

/-- A span of minutes as a message shows it: whole days, and the seconds after them. -/
def spanText (minutes : Int) : String :=
  let days := minutes.fdiv dayMinutes
  let seconds := minutes.fmod dayMinutes * 60
  let parts := (if days = 0 then [] else ["days=" ++ toString days]) ++
    (if seconds = 0 then [] else ["seconds=" ++ toString seconds])
  "datetime.timedelta(" ++ (if parts.isEmpty then "0" else ", ".intercalate parts) ++ ")"

/-- What is wrong with an offset: it must be less than a day. -/
def offsetFault? (minutes : Int) : Option String :=
  if dayMinutes ≤ minutes ∨ minutes ≤ -dayMinutes then
    some ("offset must be a timedelta strictly between -timedelta(hours=24) and " ++
      "timedelta(hours=24), not " ++ spanText minutes ++ ".")
  else none

def zoneText (minutes : Int) : String :=
  if minutes = 0 then "datetime.timezone.utc"
  else "datetime.timezone(" ++ spanText minutes ++ ")"

/-! ## 3. Texts -/

def field (width n : Nat) : String := String.ofList (Decimal.padded width n)

/-- The millionths of a second that the digits behind the point stand for. -/
def millionths (digits : List Char) : Nat :=
  let six := digits.take 6
  Decimal.natOfDigits (six ++ List.replicate (6 - six.length) '0')

def offsetText (minutes : Int) : String :=
  let size := minutes.natAbs
  (if minutes < 0 then "-" else "+") ++ field 2 (size / 60) ++ ":" ++ field 2 (size % 60)

def dateText (s : Tag.Stamp) : String :=
  field 4 s.year ++ "-" ++ field 2 s.month ++ "-" ++ field 2 s.day

def dateValue (s : Tag.Stamp) : Value :=
  .foreign "date"
    ("datetime.date(" ++ ", ".intercalate ([s.year, s.month, s.day].map toString) ++ ")")
    (dateText s)

def momentValue (s : Tag.Stamp) (c : Tag.Clock) : Value :=
  let parts := millionths c.fraction
  let fine := if parts ≠ 0 then [c.second, parts] else if c.second ≠ 0 then [c.second] else []
  let fields := [s.year, s.month, s.day, c.hour, c.minute] ++ fine
  let zone := offsetMinutes c.offset
  let shown := fields.map toString ++ (zone.map fun m => "tzinfo=" ++ zoneText m).toList
  .foreign "datetime"
    ("datetime.datetime(" ++ ", ".intercalate shown ++ ")")
    (dateText s ++ " " ++ field 2 c.hour ++ ":" ++ field 2 c.minute ++ ":" ++ field 2 c.second ++
      (if parts = 0 then "" else "." ++ field 6 parts) ++ ((zone.map offsetText).getD ""))

/-- **The value of a date that is written,** with the first fault of one that the calendar does
not have. -/
def timeValue (text : String) : Except Error Value :=
  match Tag.stamp? text.toList with
  | none => .error .notTime
  | some s =>
    match s.clock with
    | none =>
      match dateFault? s with
      | some what => .error (.time what)
      | none => .ok (dateValue s)
    | some c =>
      match ((offsetMinutes c.offset).bind offsetFault?).or ((dateFault? s).or (clockFault? c)) with
      | some what => .error (.time what)
      | none => .ok (momentValue s c)

end PartialLeastSquares.Yaml
