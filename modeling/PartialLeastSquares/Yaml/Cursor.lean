/-
# A place in a YAML text

A `Cursor` is what remains of a text together with the column, the line and the number of
characters before it.  Indentation is structure in YAML, so every token is judged by the column
it starts in; `advance` is the one function that keeps count.

The end of the text is `none` wherever the next character is asked for, and each class of
characters that may end a word, a name or a line says whether it includes the end.
-/
import PartialLeastSquares.Yaml.Error

namespace PartialLeastSquares.Yaml

/-! ## 1. Classes of characters -/

def isBreak (c : Char) : Bool :=
  c == '\n' || c == '\r' || c.toNat == 0x85 || c.toNat == 0x2028 || c.toNat == 0x2029

def isBlank (c : Char) : Bool := c == ' ' || c == '\t'

def endsLine (c : Option Char) : Bool := c.all isBreak

/-- Whether a line ends here or a space stands here. -/
def endsField (c : Option Char) : Bool := c.all fun c => isBreak c || c == ' '

/-- Whether a line ends here or a blank stands here. -/
def endsWord (c : Option Char) : Bool := c.all fun c => isBreak c || isBlank c

/-- Whether a character may be in the name of an anchor or a directive. -/
def isNameChar (c : Char) : Bool := c.isAlphanum || c == '-' || c == '_'

/-- The mark that may stand before a text, and takes no column. -/
def byteOrderMark : Char := Char.ofNat 0xfeff

/-- Whether a document may hold a character: the printable ones, the line ends and the tab. -/
def isAllowed (c : Char) : Bool :=
  let n := c.toNat
  n == 9 || n == 10 || n == 13 || (0x20 ≤ n && n ≤ 0x7e) || n == 0x85 ||
    (0xa0 ≤ n && n ≤ 0xd7ff) || (0xe000 ≤ n && n ≤ 0xfffd) || 0x10000 ≤ n

/-! ## 2. The cursor -/

/-- What remains of a text, with the column, the line and the number of characters before it. -/
structure Cursor where
  rest : List Char
  column : Nat
  line : Nat
  index : Nat
deriving Repr

namespace Cursor

def start (text : List Char) : Cursor := ⟨text, 0, 0, 0⟩

def peek (c : Cursor) : Option Char := c.rest.head?

def peekAt (c : Cursor) (n : Nat) : Option Char := c.rest[n]?

def advance (c : Cursor) : Cursor :=
  match c.rest with
  | [] => c
  | ch :: rest =>
    let ends := isBreak ch && !(ch == '\r' && rest.head? == some '\n')
    if ends then ⟨rest, 0, c.line + 1, c.index + 1⟩
    else if ch == byteOrderMark then ⟨rest, c.column, c.line, c.index + 1⟩
    else ⟨rest, c.column + 1, c.line, c.index + 1⟩

def advanceBy : Nat → Cursor → Cursor
  | 0, c => c
  | n + 1, c => advanceBy n c.advance

/-- The characters of a class that come next, and the cursor behind them. -/
def takeWhile (p : Char → Bool) (c : Cursor) : List Char × Cursor :=
  let taken := c.rest.takeWhile p
  (taken, c.advanceBy taken.length)

def skipWhile (p : Char → Bool) (c : Cursor) : Cursor := (c.takeWhile p).2

def skipSpaces (c : Cursor) : Cursor := c.skipWhile (· == ' ')

def skipComment (c : Cursor) : Cursor :=
  if c.peek == some '#' then c.skipWhile (!isBreak ·) else c

/-- **A line end,** and the cursor behind it: every end but the separators of lines and
paragraphs counts as a line feed. -/
def takeBreak (c : Cursor) : Option (Char × Cursor) :=
  match c.rest with
  | '\r' :: '\n' :: _ => some ('\n', c.advanceBy 2)
  | ch :: _ =>
    if !isBreak ch then none
    else some (if ch.toNat == 0x2028 || ch.toNat == 0x2029 then ch else '\n', c.advance)
  | [] => none

/-- Whether three marks of a kind stand here, alone: the start or the end of a document. -/
def atMarker (mark : Char) (c : Cursor) : Bool :=
  c.rest.take 3 == [mark, mark, mark] && endsWord (c.peekAt 3)

/-- Whether a document starts or ends here, for a cursor at the start of a line. -/
def atDocumentMarker (c : Cursor) : Bool := c.atMarker '-' || c.atMarker '.'

/-- The cursor behind what must be an otherwise empty end of line: spaces, a comment and the line
end. -/
def skipLineEnd? (c : Cursor) : Option Cursor :=
  let c := c.skipSpaces.skipComment
  if endsLine c.peek then some ((c.takeBreak.map Prod.snd).getD c) else none

end Cursor

end PartialLeastSquares.Yaml
