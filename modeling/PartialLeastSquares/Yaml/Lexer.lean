/-
# From a text to YAML tokens

Tokens are found one at a time from left to right, with one exception: that something is a key is
only known at the colon behind it.  So every place where a key without a mark may start is kept
as a `PendingKey`, and when the colon comes the mark, and the start of a block where there is
one, go in front of the tokens found since.  A pending key is dropped at the end of its line, or
when it has become too long; if the indentation leaves no choice but a key, that is an error.

A text may fail behind tokens that are already certain.  `Tokens` therefore holds the tokens that
come before the failure together with the failure.
-/
import PartialLeastSquares.Yaml.Scalar
import PartialLeastSquares.Yaml.Token

namespace PartialLeastSquares.Yaml

/-! ## 1. State -/

/-- A place where a key without a mark may have started. -/
structure PendingKey where
  level : Nat
  number : Nat
  required : Bool
  place : Cursor

/-- **What is known at one place of a text:** the tokens found so far, the blocks that are open,
and the places where a key may have started. -/
structure Lexer where
  cursor : Cursor
  found : List Token
  level : Nat
  indent : Int
  outer : List Int
  keyAllowed : Bool
  pending : List PendingKey
  done : Bool

namespace Lexer

def start (text : List Char) : Lexer := ⟨Cursor.start text, [], 0, -1, [], true, [], false⟩

def emit (s : Lexer) (tokens : List Token) : Lexer := { s with found := s.found ++ tokens }

def moveTo (s : Lexer) (c : Cursor) : Lexer := { s with cursor := c }

/-- The state in which a key without a mark may start, or may not. -/
def allow (s : Lexer) (allowed : Bool) : Lexer := { s with keyAllowed := allowed }

def inFlow (s : Lexer) : Bool := s.level != 0

/-! ## 2. Pending keys -/

/-- How many characters a key without a mark may have before its colon. -/
def keyLimit : Nat := 1024

/-- Whether a pending key can no longer become a key. -/
def isStale (s : Lexer) (k : PendingKey) : Bool :=
  k.place.line != s.cursor.line || decide (keyLimit < s.cursor.index - k.place.index)

/-- The state without the pending keys of a class; none of them may be required. -/
def dropKeys (s : Lexer) (p : PendingKey → Bool) : Except Error Lexer :=
  if s.pending.any fun k => p k && k.required then .error .token
  else .ok { s with pending := s.pending.filter (!p ·) }

def dropStale (s : Lexer) : Except Error Lexer := s.dropKeys s.isStale

/-- The state without the pending key of the innermost collection. -/
def dropKey (s : Lexer) : Except Error Lexer := s.dropKeys (·.level == s.level)

/-- The state in which a key may have started here. -/
def saveKey (s : Lexer) : Except Error Lexer :=
  if !s.keyAllowed then .ok s
  else do
    let s ← s.dropKey
    let required := !s.inFlow && s.indent == s.cursor.column
    .ok { s with pending := ⟨s.level, s.found.length, required, s.cursor⟩ :: s.pending }

/-- **How many tokens are certain:** those before the first pending key. -/
def certain (s : Lexer) : Nat := (s.pending.map (·.number)).foldl min s.found.length

/-! ## 3. Indentation -/

/-- The state in which a block that is indented by `column` has been opened, by the given token;
unless the open block is indented as much already. -/
def openBlock (s : Lexer) (column : Nat) (token : Token) (position : Nat) : Lexer :=
  if s.indent < column then
    { s with
      indent := column
      outer := s.indent :: s.outer
      found := s.found.take position ++ [token] ++ s.found.drop position }
  else s

/-- Closes the blocks that are indented by more than `column`. -/
def closeBlocks (column indent : Int) : List Int → Int × List Int × List Token
  | [] => (indent, [], [])
  | around :: rest =>
    if column < indent then
      let (indent, outer, ends) := closeBlocks column around rest
      (indent, outer, .blockEnd :: ends)
    else (indent, around :: rest, [])

/-- The state with the blocks closed that are indented by more than `column`. -/
def unwind (s : Lexer) (column : Int) : Lexer :=
  if s.inFlow then s
  else
    let (indent, outer, ends) := closeBlocks column s.indent s.outer
    { s with indent, outer, found := s.found ++ ends }

/-! ## 4. Blanks between tokens -/

/-- The state before the next token: behind spaces, comments and line ends. -/
def skipToToken : (fuel : Nat) → Lexer → Lexer
  | 0, s => s
  | fuel + 1, s =>
    let c := s.cursor.skipSpaces.skipComment
    match c.takeBreak with
    | some (_, c) =>
      skipToToken fuel { s with cursor := c, keyAllowed := s.keyAllowed || !s.inFlow }
    | none => s.moveTo c

/-- The state before the next token; a byte order mark may start the text. -/
def toNextToken (s : Lexer) : Lexer :=
  let c := s.cursor
  let c := if c.index = 0 ∧ c.peek = some byteOrderMark then c.advance else c
  skipToToken (c.rest.length + 1) (s.moveTo c)

/-! ## 5. Marks -/

def endStream (s : Lexer) : Except Error Lexer := do
  let s ← (s.unwind (-1)).dropKey
  .ok { s.emit [.streamEnd] with keyAllowed := false, pending := [], done := true }

def documentMark (s : Lexer) (token : Token) : Except Error Lexer := do
  let s ← (s.unwind (-1)).dropKey
  .ok (((s.allow false).emit [token]).moveTo (s.cursor.advanceBy 3))

def openFlow (s : Lexer) (token : Token) : Except Error Lexer := do
  let s ← s.saveKey
  .ok { (s.emit [token]).moveTo s.cursor.advance with level := s.level + 1, keyAllowed := true }

def closeFlow (s : Lexer) (token : Token) : Except Error Lexer := do
  let s ← s.dropKey
  .ok { (s.emit [token]).moveTo s.cursor.advance with level := s.level - 1, keyAllowed := false }

def flowEntry (s : Lexer) : Except Error Lexer := do
  let s ← (s.allow true).dropKey
  .ok ((s.emit [.flowEntry]).moveTo s.cursor.advance)

def blockEntry (s : Lexer) : Except Error Lexer := do
  if !s.inFlow && !s.keyAllowed then .error .token
  else
    let s := if s.inFlow then s
      else s.openBlock s.cursor.column .blockSequenceStart s.found.length
    let s ← (s.allow true).dropKey
    .ok ((s.emit [.blockEntry]).moveTo s.cursor.advance)

def keyMark (s : Lexer) : Except Error Lexer := do
  if !s.inFlow && !s.keyAllowed then .error .token
  else
    let s := if s.inFlow then s
      else s.openBlock s.cursor.column .blockMappingStart s.found.length
    let s ← (s.allow (!s.inFlow)).dropKey
    .ok ((s.emit [.key]).moveTo s.cursor.advance)

/-- **The colon.**  If a key is pending in the same collection, it has become one. -/
def valueMark (s : Lexer) : Except Error Lexer :=
  match s.pending.find? (·.level == s.level) with
  | some k =>
    let s := { s with
      pending := s.pending.filter (·.level != s.level)
      found := s.found.take k.number ++ [Token.key] ++ s.found.drop k.number
      keyAllowed := false }
    let s := if s.inFlow then s else s.openBlock k.place.column .blockMappingStart k.number
    .ok ((s.emit [.value]).moveTo s.cursor.advance)
  | none =>
    if !s.inFlow && !s.keyAllowed then .error .token
    else
      let s := if s.inFlow then s
        else s.openBlock s.cursor.column .blockMappingStart s.found.length
      .ok (((s.allow (!s.inFlow)).emit [.value]).moveTo s.cursor.advance)

/-! ## 6. Names and tags -/

/-- The name of an anchor or an alias, from its mark on. -/
def anchorName (c : Cursor) : Except Error (String × Cursor) :=
  let (name, c) := c.advance.takeWhile isNameChar
  if name.isEmpty then .error .token
  else if endsWord c.peek || c.peek.any "?:,]\x7d%@`".toList.contains then
    .ok (String.ofList name, c)
  else .error .token

/-- A handle of tags: an exclamation mark, or a name between two. -/
def tagHandle (c : Cursor) : Except Error (String × Cursor) :=
  if c.peek ≠ some '!' then .error .token
  else if c.peekAt 1 = some ' ' then .ok ("!", c.advance)
  else
    let (name, after) := c.advance.takeWhile isNameChar
    if after.peek = some '!' then .ok ("!" ++ String.ofList name ++ "!", after.advance)
    else .error .token

def isTagChar (c : Char) : Bool := c.isAlphanum || "-;/?:@&=+$,_.!~*\'()[]".toList.contains c

/-- A byte that is written as a percent sign and two hexadecimal digits. -/
def escapedByte (c : Cursor) : Except Error UInt8 :=
  match (c.peekAt 1).bind Json.hexDigit?, (c.peekAt 2).bind Json.hexDigit? with
  | some high, some low => .ok (16 * high + low).toUInt8
  | _, _ => .error .token

def escapedBytes : (fuel : Nat) → Cursor → Except Error (List UInt8 × Cursor)
  | 0, c => .ok ([], c)
  | fuel + 1, c =>
    if c.peek ≠ some '%' then .ok ([], c)
    else do
      let byte ← escapedByte c
      let (more, c) ← escapedBytes fuel (c.advanceBy 3)
      .ok (byte :: more, c)

/-- The characters of a tag, where characters may be given by their escaped bytes. -/
def tagChars : (fuel : Nat) → Cursor → Except Error (String × Cursor)
  | 0, c => .ok ("", c)
  | fuel + 1, c => do
    let (plain, c) := c.takeWhile isTagChar
    if c.peek ≠ some '%' then .ok (String.ofList plain, c)
    else
      let (bytes, c) ← escapedBytes (c.rest.length + 1) c
      match String.fromUTF8? ⟨bytes.toArray⟩ with
      | none => .error .token
      | some text =>
        let (more, c) ← tagChars fuel c
        .ok (String.ofList plain ++ text ++ more, c)

/-- What comes after a handle; it may not be empty. -/
def tagEnding (c : Cursor) : Except Error (String × Cursor) := do
  if c.peek.any fun ch => isTagChar ch || ch == '%' then tagChars (c.rest.length + 1) c
  else .error .token

/-- Whether a handle with a name stands here: a second exclamation mark in the same word. -/
def hasNamedHandle (c : Cursor) : Bool :=
  ((c.rest.drop 1).takeWhile fun ch => !isBreak ch && ch != ' ').contains '!'

/-- A tag, from its exclamation mark on. -/
def tagToken (c : Cursor) : Except Error (Token × Cursor) := do
  let (token, c) ← (
    if c.peekAt 1 = some '<' then do
      let (ending, c) ← tagEnding (c.advanceBy 2)
      if c.peek = some '>' then .ok (Token.tag none ending, c.advance) else .error .token
    else if endsWord (c.peekAt 1) then .ok (Token.tag none "!", c.advance)
    else do
      let (handle, c) ← if hasNamedHandle c then tagHandle c else .ok ("!", c.advance)
      let (ending, c) ← tagEnding c
      .ok (Token.tag (some handle) ending, c))
  if endsField c.peek then .ok (token, c) else .error .token

/-! ## 7. Directives -/

def versionPart (c : Cursor) : Except Error (Nat × Cursor) :=
  let (digits, c) := c.takeWhile Char.isDigit
  if digits.isEmpty then .error .token
  else .ok (digits.foldl (fun n d => 10 * n + (d.toNat - '0'.toNat)) 0, c)

/-- What a directive with a name says, from behind the name on. -/
def directiveBody (name : String) (c : Cursor) : Except Error (Directive × Cursor) :=
  if name = "YAML" then do
    let (major, c) ← versionPart c.skipSpaces
    if c.peek ≠ some '.' then .error .token
    else
      let (minor, c) ← versionPart c.advance
      if endsField c.peek then .ok (.version major minor, c) else .error .token
  else if name = "TAG" then do
    let (handle, c) ← tagHandle c.skipSpaces
    if c.peek ≠ some ' ' then .error .token
    else
      let (meaning, c) ← tagEnding c.skipSpaces
      if endsField c.peek then .ok (.tag handle meaning, c) else .error .token
  else .ok (.other, c.skipWhile (!isBreak ·))

/-- A directive, from its percent sign on. -/
def directiveMark (s : Lexer) : Except Error Lexer := do
  let s ← (s.unwind (-1)).dropKey
  let (name, c) := s.cursor.advance.takeWhile isNameChar
  if name.isEmpty || !endsField c.peek then .error .token
  else
    let (directive, c) ← directiveBody (String.ofList name) c
    match c.skipLineEnd? with
    | none => .error .token
    | some c => .ok (((s.allow false).emit [.directive directive]).moveTo c)

/-! ## 8. One token more -/

/-- A token that a key may start with: an anchor, an alias, a tag or a scalar. -/
def keyStart (s : Lexer) (read : Cursor → Except Error (Token × Cursor)) : Except Error Lexer := do
  let s ← s.saveKey
  let (token, c) ← read s.cursor
  .ok (((s.allow false).emit [token]).moveTo c)

def quoted (s : Lexer) (mark : Char) : Except Error Lexer :=
  s.keyStart fun c => do
    let (text, c) ← quotedScalar mark c
    .ok (.scalar text false, c)

def block (s : Lexer) (folding : Bool) : Except Error Lexer := do
  let s ← (s.allow true).dropKey
  let (text, c) ← blockScalar folding s.indent s.cursor
  .ok ((s.emit [.scalar text false]).moveTo c)

def bare (s : Lexer) : Except Error Lexer := do
  let s ← s.saveKey
  let (text, ended, c) := bareScalar s.inFlow (s.indent + 1) s.cursor
  .ok (((s.allow ended).emit [.scalar text true]).moveTo c)

def startsBare (s : Lexer) (c : Char) : Bool :=
  if "-?:,[]\x7b\x7d#&*!|>\'\"%@`".toList.contains c || isBlank c || isBreak c then
    !endsWord (s.cursor.peekAt 1) && (c == '-' || (!s.inFlow && (c == '?' || c == ':')))
  else true

def dispatch (s : Lexer) (c : Char) : Except Error Lexer :=
  let alone := endsWord (s.cursor.peekAt 1)
  let lineStart := s.cursor.column == 0
  if c == '%' && lineStart then s.directiveMark
  else if lineStart && s.cursor.atMarker '-' then s.documentMark .documentStart
  else if lineStart && s.cursor.atMarker '.' then s.documentMark .documentEnd
  else if c == '[' then s.openFlow .flowSequenceStart
  else if c == '\x7b' then s.openFlow .flowMappingStart
  else if c == ']' then s.closeFlow .flowSequenceEnd
  else if c == '\x7d' then s.closeFlow .flowMappingEnd
  else if c == ',' then s.flowEntry
  else if c == '-' && alone then s.blockEntry
  else if c == '?' && (s.inFlow || alone) then s.keyMark
  else if c == ':' && (s.inFlow || alone) then s.valueMark
  else if c == '*' then s.keyStart fun c => do
    let (name, c) ← anchorName c
    .ok (.alias name, c)
  else if c == '&' then s.keyStart fun c => do
    let (name, c) ← anchorName c
    .ok (.anchor name, c)
  else if c == '!' then s.keyStart tagToken
  else if c == '|' && !s.inFlow then s.block false
  else if c == '>' && !s.inFlow then s.block true
  else if c == '\'' || c == '"' then s.quoted c
  else if s.startsBare c then s.bare
  else .error .token

/-- **The state behind the next token,** which the character at hand and the one behind it choose.
-/
def step (s : Lexer) : Except Error Lexer := do
  let s ← s.toNextToken.dropStale
  let s := s.unwind s.cursor.column
  match s.cursor.peek with
  | none => s.endStream
  | some c => s.dispatch c

end Lexer

/-! ## 9. All tokens -/

/-- The tokens of a text, as far as it can be read, and why no further. -/
structure Tokens where
  rest : List Token
  failure : Option Error

namespace Tokens

/-- The tokens from a state on, of which the first `given` are certain. -/
def run : (fuel given : Nat) → Lexer → Tokens
  | 0, given, s => ⟨s.found.take given, some .token⟩
  | fuel + 1, given, s =>
    if s.done then ⟨s.found, none⟩
    else
      match s.dropStale with
      | .error e => ⟨s.found.take given, some e⟩
      | .ok s =>
        match s.step with
        | .error e => ⟨s.found.take s.certain, some e⟩
        | .ok next => run fuel s.certain next

/-- **The tokens of a text,** up to its end or to what fails. -/
def ofText (text : List Char) : Tokens := run (text.length + 2) 0 (Lexer.start text)

end Tokens

end PartialLeastSquares.Yaml
