/-
# Message templates

A log message is a template and its arguments.  A directive of the template starts with a
percent sign and names, in this order: a key between parentheses, flags, a width, a precision,
and a letter for the form in which its argument is written.  Each directive without a key takes
the next argument; a template with keys takes them from one table.

Nothing is written when a template and its arguments do not fit, and `Misfit` says why.
-/
import PartialLeastSquares.Value

namespace PartialLeastSquares.Text

/-! ## 1. What can go wrong -/

/-- Why a template cannot be filled: an argument is of the wrong kind, missing or left over, or
too large for the form asked of it, a key is not in the table, or a letter names no form (with its
place in the template). -/
inductive Misfit where
  | wrongArgument
  | tooLarge
  | undefinedInteger
  | unknownKey (key : String)
  | incomplete
  | incompleteKey
  | tooWide (what : String)
  | unknownForm (letter : Char) (index : Nat)

namespace Misfit

def message : Misfit → String
  | wrongArgument => ""
  | tooLarge => ""
  | undefinedInteger => "cannot convert float NaN to integer"
  | unknownKey key => quoted key
  | incomplete => "incomplete format"
  | incompleteKey => "incomplete format key"
  | tooWide what => what ++ " too big"
  | unknownForm c index =>
    let shown := if isPrintable c && c.toNat < 128 then c else '?'
    "unsupported format character '" ++ String.ofList [shown] ++ "' (0x" ++
      String.ofList (hex 1 c.toNat) ++ ") at index " ++ toString index

end Misfit

/-- The arguments of a template: a sequence, or one table. -/
inductive Arguments where
  | sequence (items : List Value)
  | keyed (entries : List (Value × Value))

namespace Arguments

/-- **Arguments as a caller lists them.**  A single table with an entry in it is the table of a
template with keys. -/
def ofList : List Value → Arguments
  | [.table (e :: rest)] => keyed (e :: rest)
  | items => sequence items

def isEmpty : Arguments → Bool
  | sequence items => items.isEmpty
  | keyed _ => false

end Arguments

/-! ## 2. Directives -/

/-- The flags of a directive; `full` asks for the longer form, with a base mark, a point, and
zeros at the end. -/
structure Flags where
  left : Bool := false
  plus : Bool := false
  space : Bool := false
  full : Bool := false
  zeros : Bool := false

namespace Flags

def take (flags : Flags) : List Char → Flags × List Char
  | c :: rest =>
    if c = '-' then take { flags with left := true } rest
    else if c = '+' then take { flags with plus := true } rest
    else if c = ' ' then take { flags with space := true } rest
    else if c = '#' then take { flags with full := true } rest
    else if c = '0' then take { flags with zeros := true } rest
    else (flags, c :: rest)
  | [] => (flags, [])

end Flags

def pad (flags : Flags) (width : Nat) (text : List Char) : List Char :=
  let blanks := List.replicate (width - text.length) ' '
  if flags.left then text ++ blanks else blanks ++ text

/-- A number in a field of a given width: its sign and base mark, then its digits. -/
def padNumber (flags : Flags) (width : Nat) (negative : Bool) (mark body : List Char) : List Char :=
  let sign :=
    if negative then ['-'] else if flags.plus then ['+'] else if flags.space then [' '] else []
  let front := sign ++ mark
  if flags.zeros && !flags.left then
    front ++ List.replicate (width - (front.length + body.length)) '0' ++ body
  else pad flags width (front ++ body)

/-! ## 3. Forms -/

def integerPart : Number → Except Misfit Int
  | .whole n => .ok n
  | .real x =>
    match Number.ratio? x with
    | some (num, den) => .ok (num.tdiv den)
    | none => .error (if x.isNaN then .undefinedInteger else .tooLarge)

def floatArgument (v : Value) : Except Misfit Float :=
  match v.number? with
  | none => .error .wrongArgument
  | some a =>
    match a.toFloat? with
    | some x => .ok x
    | none => .error .tooLarge

/-- An integer in a base, with a mark for the base in the longer form. -/
def integerForm (flags : Flags) (width : Nat) (precision : Option Nat) (base : Nat)
    (mark : List Char) (upper : Bool) (n : Int) : List Char :=
  let digits := Nat.toDigits base n.natAbs
  let digits := if upper then digits.map Char.toUpper else digits
  let digits := List.replicate (precision.getD 0 - digits.length) '0' ++ digits
  padNumber flags width (n < 0) (if flags.full then mark else []) digits

/-- The digits of a float in one of the forms `e`, `f` and `g`. -/
def floatDigits (form : Char) (full : Bool) (precision num den : Nat) : List Char :=
  let text :=
    if form = 'e' then Decimal.scientific num den precision
    else if form = 'f' then Decimal.fixed num den precision
    else Decimal.general num den precision full
  if full && !text.contains '.' then
    let (mantissa, rest) := text.span (· != 'e')
    mantissa ++ '.' :: rest
  else text

/-- A float in one of the forms `e`, `f` and `g`, of either case. -/
def floatForm (flags : Flags) (width : Nat) (precision : Option Nat) (form : Char) (x : Float) :
    List Char :=
  let (negative, body) :=
    match Decimal.Binary.ofFloat? x with
    | none => (decide (x < 0), if x.isNaN then "nan".toList else "inf".toList)
    | some b =>
      let (num, den) := b.fraction
      (b.negative, floatDigits form.toLower flags.full (precision.getD 6) num den)
  padNumber flags width negative [] (if form.isUpper then body.map Char.toUpper else body)

/-- A text with every character beyond the basic Latin ones escaped. -/
def asciiOnly (s : String) : String :=
  String.ofList (s.toList.flatMap fun c => if c.toNat < 128 then [c] else numericEscape c)

/-- One argument in the form that a letter names. -/
def form (flags : Flags) (width : Nat) (precision : Option Nat) (letter : Char) (index : Nat)
    (v : Value) : Except Misfit (List Char) :=
  let cut (s : String) : List Char :=
    let cs := s.toList
    pad flags width (match precision with | some n => cs.take n | none => cs)
  if letter = 's' then .ok (cut v.plain)
  else if letter = 'r' then .ok (cut v.display)
  else if letter = 'a' then .ok (cut (asciiOnly v.display))
  else if letter = 'd' ∨ letter = 'i' ∨ letter = 'u' then
    match v.number? with
    | none => .error .wrongArgument
    | some a => (integerPart a).map (integerForm flags width precision 10 [] false)
  else if letter = 'x' ∨ letter = 'X' ∨ letter = 'o' then
    match v.integer? with
    | none => .error .wrongArgument
    | some n =>
      let base := if letter = 'o' then 8 else 16
      .ok (integerForm flags width precision base ['0', letter] (letter = 'X') n)
  else if letter.toLower = 'e' ∨ letter.toLower = 'f' ∨ letter.toLower = 'g' then
    (floatArgument v).map (floatForm flags width precision letter)
  else if letter = 'c' then
    match v with
    | .text s => if s.length = 1 then .ok (pad flags width s.toList) else .error .wrongArgument
    | _ =>
      match v.integer? with
      | none => .error .wrongArgument
      | some n =>
        if 0 ≤ n ∧ n < 0x110000 then .ok (pad flags width [Char.ofNat n.toNat])
        else .error .tooLarge
  else .error (.unknownForm letter index)

/-! ## 4. Filling a template -/

/-- What a directive can still draw on. -/
structure Supply where
  table : Option (List (Value × Value))
  rest : List Value
  exact : Bool

namespace Supply

/-- The supply that arguments make.  A table is also a single argument of its own. -/
def ofArguments : Arguments → Supply
  | .sequence items => ⟨none, items, true⟩
  | .keyed entries => ⟨some entries, [.table entries], false⟩

def next (s : Supply) : Except Misfit (Value × Supply) :=
  match s.rest with
  | v :: rest => .ok (v, { s with rest })
  | [] => .error .wrongArgument

end Supply

def widthLimit : Nat := Nat.pow 2 63 - 1

def precisionLimit : Nat := Nat.pow 2 31 - 1

/-- A width or precision up to a limit: digits, or a star for the next argument. -/
def takeSize (what : String) (limit : Nat) (supply : Supply) (cs : List Char) :
    Except Misfit (Option Int × Supply × List Char) :=
  match cs with
  | '*' :: rest =>
    match supply.next with
    | .error e => .error e
    | .ok (v, supply) =>
      match v.integer? with
      | some n =>
        if n < -limit - 1 ∨ limit < n then .error .tooLarge else .ok (some n, supply, rest)
      | none => .error .wrongArgument
  | _ =>
    let (ds, rest) := cs.span Char.isDigit
    let size : Nat := ds.foldl (fun n c => 10 * n + (c.toNat - 48)) 0
    if limit < size then .error (.tooWide what)
    else .ok (if ds.isEmpty then none else some size, supply, rest)

/-- The key at the start of a directive, with its parentheses balanced. -/
def takeKey : (depth : Nat) → (key : List Char) → List Char → Option (List Char × List Char)
  | _, _, [] => none
  | depth, key, c :: rest =>
    if c = '(' then takeKey (depth + 1) (c :: key) rest
    else if c = ')' then
      match depth with
      | 0 => some (key.reverse, rest)
      | d + 1 => takeKey d (c :: key) rest
    else takeKey depth (c :: key) rest

/-- Fills one directive, which starts after its percent sign and is no second percent sign. -/
def directive (supply : Supply) (total : Nat) (cs : List Char) :
    Except Misfit (List Char × Supply × List Char) := do
  let (key, cs) ←
    match cs with
    | '(' :: rest =>
      match supply.table with
      | none => .error Misfit.wrongArgument
      | some _ =>
        match takeKey 0 [] rest with
        | none => .error .incompleteKey
        | some (key, rest) => .ok (some key, rest)
    | _ => .ok (none, cs)
  let supply ←
    match key, supply.table with
    | some key, some entries =>
      match Value.find? entries (String.ofList key) with
      | some v => .ok { supply with rest := [v], exact := false }
      | none => .error (.unknownKey (String.ofList key))
    | _, _ => .ok supply
  let (flags, cs) := Flags.take {} cs
  let (width, supply, cs) ← takeSize "width" widthLimit supply cs
  let flags := if (width.getD 0) < 0 then { flags with left := true } else flags
  let width := (width.getD 0).natAbs
  let (precision, supply, cs) ←
    match cs with
    | '.' :: rest => do
      let (size, supply, rest) ← takeSize "precision" precisionLimit supply rest
      .ok (some (size.getD 0).toNat, supply, rest)
    | _ => .ok (none, supply, cs)
  let cs := match cs with
    | 'l' :: rest => rest
    | 'h' :: rest => rest
    | 'L' :: rest => rest
    | _ => cs
  match cs with
  | [] => .error .incomplete
  | letter :: rest =>
    let (v, supply) ← supply.next
    let text ← form flags width precision letter (total - cs.length) v
    .ok (text, supply, rest)

/-- Fills the directives of a template from the left; `fuel` is at least its length. -/
def fillFrom (total : Nat) : (fuel : Nat) → Supply → List Char → Except Misfit (List Char)
  | 0, _, cs => .ok cs
  | fuel + 1, supply, cs =>
    match cs with
    | [] => if supply.exact && !supply.rest.isEmpty then .error .wrongArgument else .ok []
    | '%' :: '%' :: rest => (fillFrom total fuel supply rest).map ('%' :: ·)
    | '%' :: rest =>
      match directive supply total rest with
      | .error e => .error e
      | .ok (text, supply, rest) => (fillFrom total fuel supply rest).map (text ++ ·)
    | c :: rest => (fillFrom total fuel supply rest).map (c :: ·)

/-- **A template filled with its arguments,** the message of a record.  Without arguments it is
left as it is, percent signs included. -/
def fill (template : String) (arguments : Arguments) : Except Misfit String :=
  if arguments.isEmpty then .ok template
  else
    let cs := template.toList
    (fillFrom cs.length (cs.length + 1) (Supply.ofArguments arguments) cs).map String.ofList

end PartialLeastSquares.Text
