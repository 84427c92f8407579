/-
# Levels of a record

A record has a level, an integer; five of them have names, and zero stands for none.  The outcome
attached to a record is a `Status`, which is shown by a symbol.
-/
import PartialLeastSquares.Text.Quoted

namespace PartialLeastSquares.Logging

def debug : Int := 10
def info : Int := 20
def warning : Int := 30
def error : Int := 40
def critical : Int := 50

def levelName (level : Int) : String :=
  if level = critical then "CRITICAL"
  else if level = error then "ERROR"
  else if level = warning then "WARNING"
  else if level = info then "INFO"
  else if level = debug then "DEBUG"
  else if level = 0 then "NOTSET"
  else "Level " ++ toString level

/-- **The outcome attached to a record,** a member of `Status`. -/
inductive Status where
  | starting
  | success
  | warning
  | error
deriving DecidableEq, Repr

namespace Status

def name : Status → String
  | starting => "starting"
  | success => "success"
  | warning => "warning"
  | error => "error"

def all : List Status := [starting, success, warning, error]

/-- The status that a word stands for, since a member of `Status` is the text of its value. -/
def ofName? (word : String) : Option Status := all.find? fun s => s.name == word

end Status

end PartialLeastSquares.Logging
