/-
# YAML scalars

The three ways a scalar is written: bare, between quotes, and as a block of indented lines.  In
each of them a line end inside the scalar is folded: alone it is a space, and of several the
first is dropped.  A literal block is the exception and keeps its lines as they are.

Every function takes the cursor at the start of what it reads and gives the text together with
the cursor behind it.
-/
import PartialLeastSquares.Json.Text
import PartialLeastSquares.Yaml.Cursor

namespace PartialLeastSquares.Yaml

/-- What a line end and the empty lines after it fold to. -/
def folded (lineEnd : Char) (more : List Char) : List Char :=
  if lineEnd ≠ '\n' then lineEnd :: more
  else if more.isEmpty then [' ']
  else more

/-! ## 1. Quoted scalars -/

/-- The empty lines inside a quoted scalar and the blanks before the next word; no document may
start or end there. -/
def quotedLines : (fuel : Nat) → Cursor → Except Error (List Char × Cursor)
  | 0, _ => .error .token
  | fuel + 1, c =>
    if c.atDocumentMarker then .error .token
    else
      let c := c.skipWhile isBlank
      match c.takeBreak with
      | none => .ok ([], c)
      | some (lineEnd, c) => do
        let (more, c) ← quotedLines fuel c
        .ok (lineEnd :: more, c)

/-- The blanks and line ends between two words of a quoted scalar. -/
def quotedGap (c : Cursor) : Except Error (List Char × Cursor) :=
  let (blanks, c) := c.takeWhile isBlank
  if c.peek.isNone then .error .token
  else
    match c.takeBreak with
    | none => .ok (blanks, c)
    | some (lineEnd, c) => do
      let (more, c) ← quotedLines (c.rest.length + 1) c
      .ok (folded lineEnd more, c)

/-- The characters that a backslash and one character stand for. -/
def shortEscapes : List (Char × Nat) :=
  [('0', 0), ('a', 7), ('b', 8), ('t', 9), ('\t', 9), ('n', 10), ('v', 11), ('f', 12), ('r', 13),
    ('e', 27), (' ', 32), ('"', 34), ('\\', 92), ('/', 47), ('N', 0x85), ('_', 0xa0),
    ('L', 0x2028), ('P', 0x2029)]

/-- How many hexadecimal digits an escape by number has. -/
def escapeWidth? (c : Char) : Option Nat :=
  if c = 'x' then some 2 else if c = 'u' then some 4 else if c = 'U' then some 8 else none

/-- The character with a number; the halves of a pair become the replacement character. -/
def characterOf (n : Nat) : Except Error Char :=
  if 0x10ffff < n then .error (.codePoint (decide (Nat.pow 2 31 ≤ n)))
  else if 0xd800 ≤ n ∧ n < 0xe000 then .ok (Char.ofNat 0xfffd)
  else .ok (Char.ofNat n)

/-- What an escape stands for, from behind its backslash on. -/
def escape (c : Cursor) : Except Error (List Char × Cursor) :=
  match c.peek with
  | none => .error .token
  | some ch =>
    match shortEscapes.lookup ch, escapeWidth? ch with
    | some n, _ => .ok ([Char.ofNat n], c.advance)
    | none, some width =>
      let digits := (c.rest.drop 1).take width
      match digits.mapM Json.hexDigit? with
      | none => .error .token
      | some values =>
        if values.length < width then .error .token
        else do
          let found ← characterOf (values.foldl (fun n d => 16 * n + d) 0)
          .ok ([found], c.advanceBy (width + 1))
    | none, none =>
      match c.takeBreak with
      | none => .error .token
      | some (_, c) => quotedLines (c.rest.length + 1) c

/-- The characters of a quoted scalar up to the next blank, the next line end or its closing
mark.  Between single quotes a mark is written twice; between double quotes there are escapes. -/
def quotedWord (mark : Char) : (fuel : Nat) → Cursor → Except Error (List Char × Cursor)
  | 0, _ => .error .token
  | fuel + 1, c =>
    match c.peek with
    | none => .ok ([], c)
    | some ch =>
      if isBlank ch || isBreak ch then .ok ([], c)
      else if ch = mark then
        if mark = '\'' ∧ c.peekAt 1 = some mark then do
          let (more, c) ← quotedWord mark fuel (c.advanceBy 2)
          .ok (mark :: more, c)
        else .ok ([], c)
      else if ch = '\\' ∧ mark = '"' then do
        let (found, c) ← escape c.advance
        let (more, c) ← quotedWord mark fuel c
        .ok (found ++ more, c)
      else do
        let (more, c) ← quotedWord mark fuel c.advance
        .ok (ch :: more, c)

def quotedWords (mark : Char) : (fuel : Nat) → Cursor → Except Error (List Char × Cursor)
  | 0, _ => .error .token
  | fuel + 1, c => do
    let (word, c) ← quotedWord mark (c.rest.length + 1) c
    if c.peek = some mark then .ok (word, c.advance)
    else
      let (gap, c) ← quotedGap c
      let (more, c) ← quotedWords mark fuel c
      .ok (word ++ gap ++ more, c)

/-- **A quoted scalar,** from its opening mark on, with its lines folded. -/
def quotedScalar (mark : Char) (c : Cursor) : Except Error (String × Cursor) := do
  let (text, c) ← quotedWords mark (c.rest.length + 1) c.advance
  .ok (String.ofList text, c)

/-! ## 2. Bare scalars -/

/-- Whether a character separates the members of a flow collection or closes it. -/
def isFlowMark (c : Char) : Bool :=
  c == ',' || c == '[' || c == ']' || c == '\x7b' || c == '\x7d'

/-- Whether a bare scalar ends before a colon, from what comes after it. -/
def colonEnds (flow : Bool) (next : Option Char) : Bool :=
  endsWord next || (flow && next.any isFlowMark)

/-- The characters of a bare scalar up to the next blank or to where it ends. -/
def bareWord (flow : Bool) : List Char → List Char
  | [] => []
  | c :: rest =>
    if endsWord (some c) then []
    else if c == ':' && colonEnds flow rest.head? then []
    else if flow && (c == '?' || isFlowMark c) then []
    else c :: bareWord flow rest

/-- The empty lines inside a bare scalar, nothing when a document starts or ends after one. -/
def bareLines : (fuel : Nat) → Cursor → Option (List Char) × Cursor
  | 0, c => (none, c)
  | fuel + 1, c =>
    let c := c.skipSpaces
    match c.takeBreak with
    | none => (some [], c)
    | some (lineEnd, c) =>
      if c.atDocumentMarker then (none, c)
      else
        let (more, c) := bareLines fuel c
        (more.map (lineEnd :: ·), c)

/-- What lies between two words of a bare scalar, whether a line ended there, and the cursor
behind it; nothing when a document starts or ends there. -/
def bareGap (c : Cursor) : Option (List Char) × Bool × Cursor :=
  let (spaces, c) := c.takeWhile (· == ' ')
  match c.takeBreak with
  | none => (some spaces, false, c)
  | some (lineEnd, c) =>
    if c.atDocumentMarker then (none, true, c)
    else
      let (more, c) := bareLines (c.rest.length + 1) c
      (more.map (folded lineEnd), true, c)

/-- The rest of a bare scalar whose lines are indented by `indent` at least, and whether a line
ended behind its last word. -/
def bareWords (flow : Bool) (indent : Int) : (fuel : Nat) → Cursor → List Char × Bool × Cursor
  | 0, c => ([], false, c)
  | fuel + 1, c =>
    let word := bareWord flow c.rest
    let (gap, ended, after) := bareGap (c.advanceBy word.length)
    match gap with
    | none => (word, ended, after)
    | some gap =>
      if gap.isEmpty || after.peek == some '#' || (!flow && (after.column : Int) < indent) ||
          (bareWord flow after.rest).isEmpty then
        (word, ended, after)
      else
        let (more, ended, after) := bareWords flow indent fuel after
        (word ++ gap ++ more, ended, after)

/-- **A bare scalar,** whether a line ended behind it, and the cursor behind it. -/
def bareScalar (flow : Bool) (indent : Int) (c : Cursor) : String × Bool × Cursor :=
  let (text, ended, c) := bareWords flow indent (c.rest.length + 1) c
  (String.ofList text, ended, c)

/-! ## 3. Block scalars -/

/-- What happens to the line ends behind a block: all but one go, all go, or all stay. -/
inductive Chomping where
  | clip
  | strip
  | keep
deriving DecidableEq, Repr

def chomping? (c : Option Char) : Option Chomping :=
  if c = some '+' then some .keep else if c = some '-' then some .strip else none

/-- The indentation that a digit asks for; zero is refused. -/
def increment? (c : Option Char) : Except Error (Option Nat) :=
  match c with
  | none => .ok none
  | some ch =>
    if ch = '0' then .error .token
    else if ch.isDigit then .ok (some (ch.toNat - '0'.toNat))
    else .ok none

/-- The header of a block: chomping and indentation, in either order. -/
def blockHeader (c : Cursor) : Except Error (Chomping × Option Nat × Cursor) := do
  let (chomping, increment, c) ← (match chomping? c.peek with
    | some chomping => do
      let increment ← increment? (c.peekAt 1)
      .ok (chomping, increment, c.advanceBy (if increment.isSome then 2 else 1))
    | none => do
      match ← increment? c.peek with
      | none => .ok (.clip, none, c)
      | some n =>
        match chomping? (c.peekAt 1) with
        | some chomping => .ok (chomping, some n, c.advanceBy 2)
        | none => .ok (.clip, some n, c.advance))
  if !endsField c.peek then .error .token
  else
    match c.skipLineEnd? with
    | none => .error .token
    | some c => .ok (chomping, increment, c)

def skipIndent (indent : Nat) (c : Cursor) : Cursor :=
  c.advanceBy (min (indent - c.column) (c.rest.takeWhile (· == ' ')).length)

/-- The line ends of the empty lines of a block, up to the next line with text. -/
def blockGap (indent : Nat) : (fuel : Nat) → Cursor → List Char × Cursor
  | 0, c => ([], c)
  | fuel + 1, c =>
    let c := skipIndent indent c
    match c.takeBreak with
    | none => ([], c)
    | some (lineEnd, c) =>
      let (more, c) := blockGap indent fuel c
      (lineEnd :: more, c)

/-- The line ends before the first line of a block with text, and the deepest column that a space
reaches there. -/
def blockLead : (fuel deepest : Nat) → Cursor → List Char × Nat × Cursor
  | 0, deepest, c => ([], deepest, c)
  | fuel + 1, deepest, c =>
    let spaces := (c.rest.takeWhile (· == ' ')).length
    let c := c.advanceBy spaces
    let deepest := if spaces = 0 then deepest else max deepest c.column
    match c.takeBreak with
    | none => ([], deepest, c)
    | some (lineEnd, c) =>
      let (more, deepest, c) := blockLead fuel deepest c
      (lineEnd :: more, deepest, c)

/-- The lines of a block as read: the text up to the last character of the last line, and the line
ends behind it. -/
structure BlockLines where
  body : List Char
  lineEnd : Option Char
  trailing : List Char
  after : Cursor

def startsLine (indent : Nat) (c : Cursor) : Bool := c.column == indent && c.peek.isSome

/-- What stands between two lines of a block, of which the first one is `flush` when it starts
without a blank. -/
def blockJoint (folding flush : Bool) (lineEnd : Option Char) (gap : List Char) (next : Cursor) :
    List Char :=
  if folding && flush && lineEnd == some '\n' && !next.peek.any isBlank then
    if gap.isEmpty then [' '] else []
  else lineEnd.toList

/-- The lines of a block from the next one on; `gap` are the line ends before it. -/
def blockLines (folding : Bool) (indent : Nat) : (fuel : Nat) → (gap : List Char) → Cursor →
    BlockLines
  | 0, gap, c => ⟨[], none, gap, c⟩
  | fuel + 1, gap, c =>
    if !startsLine indent c then ⟨[], none, gap, c⟩
    else
      let flush := !c.peek.any isBlank
      let (line, c) := c.takeWhile (!isBreak ·)
      let (lineEnd, c) := match c.takeBreak with
        | some (lineEnd, c) => (some lineEnd, c)
        | none => (none, c)
      let (next, c) := blockGap indent (c.rest.length + 1) c
      if startsLine indent c then
        let rest := blockLines folding indent fuel next c
        { rest with body := gap ++ line ++ blockJoint folding flush lineEnd next c ++ rest.body }
      else ⟨gap ++ line, lineEnd, next, c⟩

/-- **A block scalar,** from its mark on, inside a block that is indented by `indent`. -/
def blockScalar (folding : Bool) (indent : Int) (c : Cursor) : Except Error (String × Cursor) := do
  let (chomping, increment, c) ← blockHeader c.advance
  let least := (max (indent + 1) 1).toNat
  let fuel := c.rest.length + 1
  let (gap, column, c) := match increment with
    | none =>
      let (gap, deepest, c) := blockLead fuel 0 c
      (gap, max least deepest, c)
    | some n =>
      let column := least + n - 1
      let (gap, c) := blockGap column fuel c
      (gap, column, c)
  let lines := blockLines folding column fuel gap c
  let ending := match chomping with
    | .strip => []
    | .clip => lines.lineEnd.toList
    | .keep => lines.lineEnd.toList ++ lines.trailing
  .ok (String.ofList (lines.body ++ ending), lines.after)

end PartialLeastSquares.Yaml
