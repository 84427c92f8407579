/-
# YAML tags

A tag says what a node stands for.  A scalar without quotes and without a tag of its own has the
tag of the first form that its text matches: `Tag.implicit`.  The forms are those of the first
version of the language, where `yes` is a truth value, `010` an integer in base eight, `1:30` one
in base sixty, and an exponent needs a point before it and a sign.
-/

namespace PartialLeastSquares.Yaml

/-- **What a node stands for,** which decides how its text is read. -/
inductive Tag where
  | null
  | bool
  | int
  | float
  | binary
  | timestamp
  | omap
  | pairs
  | set
  | str
  | seq
  | map
  | merge
  | value
  | unknown
deriving DecidableEq, Repr

namespace Tag

def commonHandle : String := "tag:yaml.org,2002:"

def named : List (String × Tag) :=
  [("null", null), ("bool", bool), ("int", int), ("float", float), ("binary", binary),
    ("timestamp", timestamp), ("omap", omap), ("pairs", pairs), ("set", set), ("str", str),
    ("seq", seq), ("map", map), ("merge", merge), ("value", value)]

def ofName (name : String) : Tag :=
  match named.find? fun e => commonHandle ++ e.1 == name with
  | some (_, tag) => tag
  | none => unknown

/-! ## 1. Words -/

/-- The words for a truth value, with the one each stands for. -/
def truthWords : List (String × Bool) :=
  [("yes", true), ("no", false), ("true", true), ("false", false), ("on", true), ("off", false)]

/-- A word in the three cases that count: lower, capitalised and upper. -/
def cases (word : String) : List String := [word, word.capitalize, word.map Char.toUpper]

def isTruth (text : String) : Bool := truthWords.any fun (word, _) => (cases word).contains text

def isNull (text : String) : Bool := text == "" || text == "~" || (cases "null").contains text

/-! ## 2. Numbers -/

def unsigned (cs : List Char) : List Char :=
  match cs with
  | '+' :: rest => rest
  | '-' :: rest => rest
  | _ => cs

/-- Whether a character is a digit below a base of at most ten, or an underscore. -/
def isDigitOf (base : Nat) (c : Char) : Bool :=
  c == '_' || (c.isDigit && decide (c.toNat - '0'.toNat < base))

/-- Whether a character is a hexadecimal digit or an underscore. -/
def isHexDigit (c : Char) : Bool :=
  isDigitOf 10 c || decide ('a' ≤ c ∧ c ≤ 'f') || decide ('A' ≤ c ∧ c ≤ 'F')

/-- Whether a text is made of characters of a class, one at least. -/
def isRun (p : Char → Bool) (cs : List Char) : Bool := !cs.isEmpty && cs.all p

def isSixtieth (cs : List Char) : Bool :=
  match cs with
  | [d] => d.isDigit
  | [t, d] => isDigitOf 6 t && t != '_' && d.isDigit
  | _ => false

def colonParts : List Char → List (List Char)
  | [] => [[]]
  | c :: rest =>
    if c = ':' then [] :: colonParts rest
    else
      match colonParts rest with
      | [] => [[c]]
      | part :: parts => (c :: part) :: parts

/-- Whether a text without a sign is digits in base sixty: a first part that is a number, and
others below sixty, one at least. -/
def isSexagesimal (first : List Char → Bool) (cs : List Char) : Bool :=
  match colonParts cs with
  | part :: next :: more => first part && isSixtieth next && more.all isSixtieth
  | _ => false

/-- Whether a text is a number that starts with no zero. -/
def isPositiveRun (cs : List Char) : Bool :=
  match cs with
  | c :: rest => decide ('1' ≤ c ∧ c ≤ '9') && rest.all (isDigitOf 10)
  | [] => false

/-- Whether a text is a number that starts with a digit. -/
def isDigitRun (cs : List Char) : Bool :=
  match cs with
  | c :: rest => c.isDigit && rest.all (isDigitOf 10)
  | [] => false

def isInteger (cs : List Char) : Bool :=
  let body := unsigned cs
  match body with
  | ['0'] => true
  | '0' :: 'b' :: digits => isRun (isDigitOf 2) digits
  | '0' :: 'x' :: digits => isRun isHexDigit digits
  | '0' :: digits => isRun (isDigitOf 8) digits
  | _ => isPositiveRun body || isSexagesimal isPositiveRun body

/-- Whether a text is nothing, or an exponent with its sign. -/
def isExponent (cs : List Char) : Bool :=
  match cs with
  | [] => true
  | e :: sign :: digits =>
    (e == 'e' || e == 'E') && (sign == '+' || sign == '-') && isRun Char.isDigit digits
  | _ => false

def isFraction (cs : List Char) : Bool := isExponent (cs.dropWhile (isDigitOf 10))

/-- Whether a text without a sign is a float with digits before its point. -/
def isPointed (body : List Char) : Bool :=
  let whole := body.takeWhile fun c => c != '.'
  match body.drop whole.length with
  | '.' :: rest =>
    (isDigitRun whole && isFraction rest) ||
      (isSexagesimal isDigitRun whole && rest.all (isDigitOf 10))
  | _ => false

def isFloat (cs : List Char) : Bool :=
  let body := unsigned cs
  let word := String.ofList body
  isPointed body || [".inf", ".Inf", ".INF"].contains word ||
    match cs with
    | '.' :: rest =>
      [".nan", ".NaN", ".NAN"].contains word || (rest.head?.any Char.isDigit && isFraction rest)
    | _ => false

/-! ## 3. Dates -/

/-- The digits at the start of a text, between `least` and `most` of them. -/
def someDigits? (least most : Nat) (cs : List Char) : Option (Nat × List Char) :=
  let digits := (cs.take most).takeWhile Char.isDigit
  if digits.length < least then none
  else some (digits.foldl (fun n d => 10 * n + (d.toNat - '0'.toNat)) 0, cs.drop digits.length)

/-- What follows a character at the start of a text. -/
def after? (c : Char) (cs : List Char) : Option (List Char) :=
  match cs with
  | d :: rest => if c = d then some rest else none
  | [] => none

/-- An offset from universal time: none, or so many hours and minutes ahead of it, or behind. -/
inductive Offset where
  | absent
  | universal
  | away (behind : Bool) (hours minutes : Nat)
deriving DecidableEq, Repr

structure Clock where
  hour : Nat
  minute : Nat
  second : Nat
  fraction : List Char
  offset : Offset
deriving DecidableEq, Repr

/-- A date as written, perhaps with a time. -/
structure Stamp where
  year : Nat
  month : Nat
  day : Nat
  clock : Option Clock
deriving DecidableEq, Repr

def offset? (cs : List Char) : Option Offset :=
  let blanks := cs.takeWhile fun c => c == ' ' || c == '\t'
  match cs.drop blanks.length with
  | [] => if blanks.isEmpty then some .absent else none
  | ['Z'] => some .universal
  | sign :: rest =>
    if sign ≠ '+' ∧ sign ≠ '-' then none
    else do
      let (hours, rest) ← someDigits? 1 2 rest
      match rest with
      | [] => some (.away (sign == '-') hours 0)
      | ':' :: rest =>
        let (minutes, rest) ← someDigits? 2 2 rest
        if rest.isEmpty then some (.away (sign == '-') hours minutes) else none
      | _ => none

def clock? (cs : List Char) : Option Clock := do
  let (hour, cs) ← someDigits? 1 2 cs
  let (minute, cs) ← someDigits? 2 2 (← after? ':' cs)
  let (second, cs) ← someDigits? 2 2 (← after? ':' cs)
  let (fraction, cs) := match cs with
    | '.' :: rest => (rest.takeWhile Char.isDigit, rest.dropWhile Char.isDigit)
    | _ => ([], cs)
  let offset ← offset? cs
  some ⟨hour, minute, second, fraction, offset⟩

/-- **The date that a text is,** if it is one. -/
def stamp? (cs : List Char) : Option Stamp := do
  let (year, cs) ← someDigits? 4 4 cs
  let (month, cs) ← someDigits? 1 2 (← after? '-' cs)
  let (day, cs) ← someDigits? 1 2 (← after? '-' cs)
  match cs with
  | [] => some ⟨year, month, day, none⟩
  | c :: rest =>
    if c = 'T' ∨ c = 't' then some ⟨year, month, day, some (← clock? rest)⟩
    else if c = ' ' ∨ c = '\t' then
      some ⟨year, month, day, some (← clock? (rest.dropWhile fun c => c == ' ' || c == '\t'))⟩
    else none

/-- Whether a text without quotes is a date: without a time, month and day have two digits. -/
def isStamp (cs : List Char) : Bool :=
  match stamp? cs with
  | none => false
  | some stamp => stamp.clock.isSome || cs.length == 10

/-! ## 4. Bare scalars -/

/-- **The tag of a scalar without quotes,** the first form that its text matches. -/
def implicit (text : String) : Tag :=
  let cs := text.toList
  if isTruth text then bool
  else if isFloat cs then float
  else if isInteger cs then int
  else if text == "<<" then merge
  else if isNull text then null
  else if isStamp cs then timestamp
  else if text == "=" then value
  else str

end Tag

end PartialLeastSquares.Yaml
