/-
# How a scalar is written in YAML

A text stands bare where it would be read back as the same text, between single quotes where it
would not, and between double quotes where only escapes can hold it.  A text that is a key on a
line of its own may not run over several lines.

A line is folded at a single space once it has grown longer than `lineLimit`, and the next line
goes on at the indentation of the scalar.  A `Pen` is what has been written so far together with
what this needs: the column, and what stands before it.
-/
import PartialLeastSquares.Text.Quoted
import PartialLeastSquares.Yaml.Cursor
import PartialLeastSquares.Yaml.Tag

namespace PartialLeastSquares.Yaml

/-! ## 1. The choice of a style -/

/-- The ways a text can be written, from the one that needs the least around it. -/
inductive Style where
  | bare
  | single
  | double
deriving DecidableEq, Repr

/-- Whether a written text may hold a character without an escape: printable ASCII and the line
feed. -/
def isPlainChar (c : Char) : Bool := c == '\n' || (0x20 ≤ c.toNat && c.toNat ≤ 0x7e)

def splitsLine (c : Char) : Bool := isBreak c && c != '\r'

/-- Whether one of two neighbours in a text is of the first class and the next one of the
second. -/
def hasNeighbours (p q : Char → Bool) : List Char → Bool
  | a :: b :: rest => (p a && q b) || hasNeighbours p q (b :: rest)
  | _ => false

/-- Whether a mark of a mapping or a comment stands inside a text: a colon at the end of a word,
or a number sign at the start of one. -/
def hasInnerMark : List Char → Bool
  | a :: b :: rest =>
    (b == ':' && endsWord rest.head?) || (b == '#' && endsWord (some a)) || hasInnerMark (b :: rest)
  | _ => false

/-- Whether a text starts as something else than a bare scalar. -/
def hasLeadingMark (cs : List Char) : Bool :=
  match cs with
  | [] => false
  | c :: rest =>
    "#,[]\x7b\x7d&*!|>\'\"%@`".toList.contains c ||
      ((c == '?' || c == ':' || c == '-') && endsWord rest.head?)

/-- Whether a text starts with the mark of a document. -/
def hasDocumentMark (cs : List Char) : Bool :=
  cs.take 3 == ['-', '-', '-'] || cs.take 3 == ['.', '.', '.']

/-- Whether a text starts or ends with a character of a class. -/
def isEdgedBy (p : Char → Bool) (cs : List Char) : Bool := cs.head?.any p || cs.getLast?.any p

/-- Whether a text could stand bare, as far as its characters go. -/
def canBeBare (cs : List Char) : Bool :=
  cs.all isPlainChar && !cs.any splitsLine && !isEdgedBy (· == ' ') cs && !hasDocumentMark cs &&
    !hasLeadingMark cs && !hasInnerMark cs

/-- Whether a text could stand between single quotes: no blank stands at the edge of a line. -/
def canBeSingle (cs : List Char) : Bool :=
  cs.all isPlainChar && !hasNeighbours splitsLine (· == ' ') cs &&
    !hasNeighbours (· == ' ') splitsLine cs

/-- **The style of a text,** where `isKey` when it is the key of a line. -/
def Style.ofText (isKey : Bool) (text : String) : Style :=
  let cs := text.toList
  if Tag.implicit text == .str && !(isKey && cs.isEmpty) && canBeBare cs then .bare
  else if canBeSingle cs && !(isKey && cs.any splitsLine) then .single
  else .double

/-! ## 2. The pen -/

/-- What has been written, the column, and what stands before it: `spaced` when that is a blank or
the start of a line, `fresh` when the line holds nothing yet but spaces and the marks of blocks.
-/
structure Pen where
  written : String
  column : Nat
  spaced : Bool
  fresh : Bool

namespace Pen

def start : Pen := ⟨"", 0, true, true⟩

def lineLimit : Nat := 80

def put (p : Pen) (cs : List Char) : Pen :=
  { p with written := p.written ++ String.ofList cs, column := p.column + cs.length }

def newLine (p : Pen) : Pen := ⟨p.written ++ "\n", 0, true, true⟩

/-- The pen at an indentation: on the same line while that holds no more than that. -/
def indentTo (p : Pen) (indent : Nat) : Pen :=
  let moves := !p.fresh || decide (indent < p.column) || (p.column == indent && !p.spaced)
  let p := if moves then p.newLine else p
  if p.column < indent then { p.put (List.replicate (indent - p.column) ' ') with spaced := true }
  else p

/-- The pen behind a mark, with a blank before it if `apart`. -/
def mark (p : Pen) (text : String) (apart : Bool) (spaced fresh : Bool) : Pen :=
  let p := if p.spaced || !apart then p.put text.toList else p.put (' ' :: text.toList)
  { p with spaced, fresh := p.fresh && fresh }

def inWord (p : Pen) : Pen := { p with spaced := false, fresh := false }

/-! ## 3. Pieces of a text -/

/-- A piece of a text: some spaces, some line ends, or a word. -/
inductive Piece where
  | spaces (count : Nat)
  | lineEnds (count : Nat)
  | word (cs : List Char)
deriving DecidableEq, Repr

/-- A text in pieces, no two of one sort behind each other. -/
def pieces : List Char → List Piece
  | [] => []
  | c :: rest =>
    match pieces rest with
    | .spaces n :: more =>
      if c = ' ' then .spaces (n + 1) :: more else single c :: .spaces n :: more
    | .lineEnds n :: more =>
      if c = '\n' then .lineEnds (n + 1) :: more else single c :: .lineEnds n :: more
    | .word cs :: more =>
      if c = ' ' ∨ c = '\n' then single c :: .word cs :: more else .word (c :: cs) :: more
    | [] => [single c]
where
  single (c : Char) : Piece :=
    if c = ' ' then .spaces 1 else if c = '\n' then .lineEnds 1 else .word [c]

/-- Whether a line is folded at a piece: at a single space, once the line is too long. -/
def folds (p : Pen) (isKey : Bool) (piece : Piece) : Bool :=
  !isKey && piece == .spaces 1 && decide (lineLimit < p.column)

/-! ## 4. The three styles -/

def barePiece (isKey : Bool) (indent : Nat) (p : Pen) (piece : Piece) : Pen :=
  if p.folds isKey piece then (p.indentTo indent).inWord
  else
    match piece with
    | .spaces n => p.put (List.replicate n ' ')
    | .lineEnds _ => p
    | .word cs => p.put cs

def bare (p : Pen) (isKey : Bool) (indent : Nat) (text : String) : Pen :=
  if text.isEmpty then p
  else
    let p := if p.spaced then p else p.put [' ']
    (pieces text.toList).foldl (barePiece isKey indent) p.inWord

def singleChar (c : Char) : List Char := if c = '\'' then ['\'', '\''] else [c]

/-- The pieces of a scalar between single quotes; the spaces at its ends are never folded. -/
def singlePieces (isKey : Bool) (indent : Nat) : (first : Bool) → Pen → List Piece → Pen
  | _, p, [] => p
  | first, p, piece :: rest =>
    let p := match piece with
      | .spaces n =>
        if !first && !rest.isEmpty && p.folds isKey piece then p.indentTo indent
        else p.put (List.replicate n ' ')
      | .lineEnds n => (Nat.repeat newLine (n + 1) p).indentTo indent
      | .word cs => p.put (cs.flatMap singleChar)
    singlePieces isKey indent false p rest

def single (p : Pen) (isKey : Bool) (indent : Nat) (text : String) : Pen :=
  let p := p.mark "\'" true false false
  (singlePieces isKey indent true p (pieces text.toList)).mark "\'" false false false

def escapeLetters : List (Nat × Char) :=
  [(0, '0'), (7, 'a'), (8, 'b'), (9, 't'), (10, 'n'), (11, 'v'), (12, 'f'), (13, 'r'), (27, 'e'),
    (34, '"'), (92, '\\'), (0x85, 'N'), (0xa0, '_'), (0x2028, 'L'), (0x2029, 'P')]

def escapeOf (c : Char) : List Char :=
  match escapeLetters.lookup c.toNat with
  | some letter => ['\\', letter]
  | none =>
    let upper (width : Nat) : List Char := (Text.hex width c.toNat).map Char.toUpper
    if c.toNat < 0x100 then '\\' :: 'x' :: upper 2
    else if c.toNat < 0x10000 then '\\' :: 'u' :: upper 4
    else '\\' :: 'U' :: upper 8

def needsEscape (c : Char) : Bool :=
  c == '"' || c == '\\' || !(0x20 ≤ c.toNat && c.toNat ≤ 0x7e)

/-- The pen on the next line of a scalar between double quotes; a space that stands there is
marked. -/
def continued (p : Pen) (indent : Nat) (next : Option Char) : Pen :=
  let p := ((p.put ['\\']).indentTo indent).inWord
  if next = some ' ' then p.put ['\\'] else p

/-- The characters between double quotes.  `held` are those that are still to be written; they
and the fold behind them are decided together.  A line is folded before a space or next to an
escape, but not at the first character and not at the last. -/
def doubleChars (isKey : Bool) (indent : Nat) : (first : Bool) → (held : List Char) → Pen →
    List Char → Pen
  | _, held, p, [] => p.put held
  | first, held, p, c :: rest =>
    let inside := !isKey && !first && !rest.isEmpty
    if needsEscape c then
      let p := (p.put held).put (escapeOf c)
      let p := if inside && decide (lineLimit + 1 < p.column) then p.continued indent rest.head?
        else p
      doubleChars isKey indent false [] p rest
    else if inside && (c == ' ' || held.isEmpty) && decide (lineLimit < p.column + held.length) then
      doubleChars isKey indent false [c] ((p.put held).continued indent (some c)) rest
    else doubleChars isKey indent false (held ++ [c]) p rest

def double (p : Pen) (isKey : Bool) (indent : Nat) (text : String) : Pen :=
  let p := p.mark "\"" true false false
  (doubleChars isKey indent true [] p text.toList).mark "\"" false false false

/-- **A text in its style,** folded where the pen has gone too far. -/
def text (p : Pen) (isKey : Bool) (indent : Nat) (s : String) : Pen :=
  match Style.ofText isKey s with
  | .bare => p.bare isKey indent s
  | .single => p.single isKey indent s
  | .double => p.double isKey indent s

end Pen

end PartialLeastSquares.Yaml
