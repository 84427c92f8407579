/-
# Quoted text

The text of a string inside a message: between single quotes, or between double quotes when it
holds a single quote and no double one, with a backslash before what would end it and an escape
for every character without a glyph.  An escape has two hexadecimal digits, four or eight,
whichever is the first that suffices.
-/
import PartialLeastSquares.Text.Printable

namespace PartialLeastSquares.Text

/-- A natural number in lower-case hexadecimal digits, with zeros in front up to a width. -/
def hex (width n : Nat) : List Char :=
  let digits := Nat.toDigits 16 n
  List.replicate (width - digits.length) '0' ++ digits

def numericEscape (c : Char) : List Char :=
  let n := c.toNat
  if n < 0x100 then ['\\', 'x'] ++ hex 2 n
  else if n < 0x10000 then ['\\', 'u'] ++ hex 4 n
  else ['\\', 'U'] ++ hex 8 n

def quoteChar (mark : Char) (c : Char) : List Char :=
  if c = mark ∨ c = '\\' then ['\\', c]
  else if c = '\n' then ['\\', 'n']
  else if c = '\r' then ['\\', 'r']
  else if c = '\t' then ['\\', 't']
  else if isPrintable c then [c]
  else numericEscape c

def quoteMark (s : List Char) : Char :=
  if s.contains '\'' && !s.contains '"' then '"' else '\''

/-- **A string as it appears in a message,** where a refused setting is shown as it would be
written. -/
def quoted (s : String) : String :=
  let cs := s.toList
  let mark := quoteMark cs
  String.ofList ([mark] ++ cs.flatMap (quoteChar mark) ++ [mark])

/-- The lower-case form, of the Latin letters without accents: what a name of a scheme, a kernel
or a file's ending is compared in. -/
def lowered (s : String) : String := s.map Char.toLower

def joined (separator : String) (items : List String) : String := separator.intercalate items

end PartialLeastSquares.Text
