/-
# Log records as text

A record is written for a reader at a console by `ConsoleFormatter`, with a symbol for its outcome
and colours for its level, or for a machine by `FileFormatter`, in four columns.  Its message is a
template that is filled with the record's arguments when the record is written.
-/
import PartialLeastSquares.Failure
import PartialLeastSquares.Logging.Level
import PartialLeastSquares.Text.Percent

namespace PartialLeastSquares.Logging

/-! ## 1. Records -/

/-- **A log record.** Its `status` is what `extra` has attached to it, a word or null for none,
and `exception` the text of the error that it was logged with. -/
structure Record where
  logger : String
  level : Int
  template : String
  arguments : Text.Arguments
  status : Value
  exception : Option String

namespace Record

def message (r : Record) : Except Text.Misfit String := Text.fill r.template r.arguments

/-- The error attached to a record, as it is written. -/
def exceptionText? (r : Record) : Option String :=
  r.exception.map fun text => if text.isEmpty then "ValueError" else "ValueError: " ++ text

end Record

/-- The class of a misfit of a template and its arguments. -/
def misfitKind : Text.Misfit → FailureKind
  | .wrongArgument => .wrongKind
  | .tooLarge => .overflow
  | .unknownKey _ => .missingKey
  | _ => .value

/-! ## 2. Symbols -/

/-- The symbol of each outcome, `Symbols` with its defaults. -/
structure Symbols where
  starting : Value := .text ">"
  success : Value := .text "[OK]"
  warning : Value := .text "[!]"
  error : Value := .text "[X]"

namespace Symbols

def ofStatus (s : Symbols) : Status → Value
  | .starting => s.starting
  | .success => s.success
  | .warning => s.warning
  | .error => s.error

/-- Symbols with one of them changed, when there is one of that name. -/
def set? (s : Symbols) (name : String) (v : Value) : Option Symbols :=
  if name == "starting" then some { s with starting := v }
  else if name == "success" then some { s with success := v }
  else if name == "warning" then some { s with warning := v }
  else if name == "error" then some { s with error := v }
  else none

/-- The symbol of a word, `get_status_symbol`: none for null and for a word that is no outcome. -/
def ofValue (s : Symbols) (status : Value) : Value :=
  match status with
  | .text word =>
    match Status.ofName? word with
    | some outcome => s.ofStatus outcome
    | none => .text ""
  | _ => .text ""

end Symbols

/-- What is said of a value that is no outcome. -/
def statusRefusal (v : Value) : String := v.display ++ " is not a valid Status"

def readStatus (v : Value) : Except String Value :=
  match v with
  | .null => .ok .null
  | .text word => if (Status.ofName? word).isSome then .ok v else .error (statusRefusal v)
  | _ => .error (statusRefusal v)

/-! ## 3. The console -/

/-- How records are written to a console: `use_colors` and `show_level` of a `ConsoleFormatter`.
-/
structure ConsoleStyle where
  colours : Bool
  levels : Bool
deriving DecidableEq

/-- The code that starts the colour of a level, from `_COLORS`. -/
def colour? (level : Int) : Option String :=
  if level = debug then some "\x1b[2m"
  else if level = warning then some "\x1b[33m"
  else if level = error then some "\x1b[31m"
  else if level = critical then some "\x1b[1;31m"
  else none

/-- A text with blanks behind it, up to a width. -/
def padRight (width : Nat) (s : String) : String :=
  s ++ String.ofList (List.replicate (width - s.length) ' ')

/-- The outcome of a record: the one attached to it, or the one its level stands for, as at the
start of `ConsoleFormatter.format`. -/
def Record.outcome (r : Record) : Value :=
  match r.status with
  | .null =>
    if error ≤ r.level then .text "error"
    else if warning ≤ r.level then .text "warning"
    else .null
  | v => v

/-- **A record as it is written to a console,** `ConsoleFormatter.format`: level, symbol and
message with blanks between them, the error on the next line, and the colour around all of it. -/
def ConsoleStyle.format (style : ConsoleStyle) (r : Record) : Except Text.Misfit String := do
  let message ← r.message
  let symbol := (({} : Symbols).ofValue r.outcome).plain
  let parts :=
    (if style.levels then [padRight 7 (levelName r.level)] else []) ++
      (if symbol.isEmpty then [] else [symbol]) ++ [message]
  let text := " ".intercalate parts
  let text := match r.exceptionText? with
    | some shown => text ++ "\n" ++ shown
    | none => text
  return match (if style.colours then colour? r.level else none) with
    | some start => start ++ text ++ "\x1b[0m"
    | none => text

/-! ## 4. The file -/

/-- A number with zeros in front up to a width. -/
def zeroPadded (width : Nat) (n : Nat) : String := String.ofList (Decimal.padded width n)

/-- The year, month and day of a number of days since the first of January 1970. -/
def civilDate (days : Int) : Int × Nat × Nat :=
  -- Days are counted from the first of March of the year 0, so that a leap day ends its year.
  let shifted := days + 719468
  let era := shifted.fdiv 146097
  let inEra := (shifted - era * 146097).toNat
  let yearInEra := (inEra - inEra / 1460 + inEra / 36524 - inEra / 146096) / 365
  let inYear := inEra - (365 * yearInEra + yearInEra / 4 - yearInEra / 100)
  let monthIndex := (5 * inYear + 2) / 153
  let day := inYear - (153 * monthIndex + 2) / 5 + 1
  let month := if monthIndex < 10 then monthIndex + 3 else monthIndex - 9
  let year := (yearInEra : Int) + era * 400 + (if month ≤ 2 then 1 else 0)
  (year, month, day)

/-- A time in whole seconds since 1970, as it is written. -/
def timeText (seconds : Int) : String :=
  let days := seconds.fdiv 86400
  let rest := (seconds - days * 86400).toNat
  let (year, month, day) := civilDate days
  toString year ++ "-" ++ zeroPadded 2 month ++ "-" ++ zeroPadded 2 day ++ " " ++
    zeroPadded 2 (rest / 3600) ++ ":" ++ zeroPadded 2 (rest / 60 % 60) ++ ":" ++
    zeroPadded 2 (rest % 60)

/-- **A record as it is written to a file,** after the text of its time: the four columns of
`FileFormatter`, and the error on the next line. -/
def fileLine (time : String) (r : Record) : Except Text.Misfit String := do
  let message ← r.message
  let line :=
    time ++ " | " ++ padRight 7 (levelName r.level) ++ " | " ++ r.logger ++ " | " ++ message
  return match r.exceptionText? with
    | some shown => (if line.endsWith "\n" then line else line ++ "\n") ++ shown
    | none => line

end PartialLeastSquares.Logging
