/-
# Strings in JSON

A string stands between double quotes.  Written, it holds printable ASCII characters only: every
other character is a short escape or the hexadecimal number of its 16-bit units.  Read, it may
hold any character but the control characters, and any escape; two escapes that are halves of one
character make that character.
-/
import PartialLeastSquares.Text.Quoted

namespace PartialLeastSquares.Json

/-! ## 1. Writing -/

def unitEscape (n : Nat) : List Char := ['\\', 'u'] ++ Text.hex 4 n

/-- The 16-bit units of a character: one, or two halves. -/
def units (c : Char) : List Nat :=
  let n := c.toNat
  if n < 0x10000 then [n]
  else [0xd800 + (n - 0x10000) / 0x400, 0xdc00 + (n - 0x10000) % 0x400]

def writeChar (c : Char) : List Char :=
  if c = '"' then ['\\', '"']
  else if c = '\\' then ['\\', '\\']
  else if c = '\n' then ['\\', 'n']
  else if c = '\r' then ['\\', 'r']
  else if c = '\t' then ['\\', 't']
  else if c.toNat = 8 then ['\\', 'b']
  else if c.toNat = 12 then ['\\', 'f']
  else if 0x20 ≤ c.toNat ∧ c.toNat < 0x7f then [c]
  else (units c).flatMap unitEscape

/-- **A string as it is written,** between double quotes and in printable characters. -/
def writeString (s : String) : String :=
  String.ofList (['"'] ++ s.toList.flatMap writeChar ++ ['"'])

/-! ## 2. Reading -/

def hexDigit? (c : Char) : Option Nat :=
  if '0' ≤ c ∧ c ≤ '9' then some (c.toNat - '0'.toNat)
  else if 'a' ≤ c ∧ c ≤ 'f' then some (c.toNat - 'a'.toNat + 10)
  else if 'A' ≤ c ∧ c ≤ 'F' then some (c.toNat - 'A'.toNat + 10)
  else none

def hexUnit? : List Char → Option (Nat × List Char)
  | a :: b :: c :: d :: rest => do
    let a ← hexDigit? a
    let b ← hexDigit? b
    let c ← hexDigit? c
    let d ← hexDigit? d
    some (((a * 16 + b) * 16 + c) * 16 + d, rest)
  | _ => none

/-- The character of a 16-bit unit; a half on its own has none and becomes the replacement
character. -/
def unitChar (n : Nat) : Char := if 0xd800 ≤ n ∧ n < 0xe000 then Char.ofNat 0xfffd else Char.ofNat n

/-- A character by its number, after the mark of such an escape. -/
def readUnit? (cs : List Char) : Option (Char × List Char) :=
  match hexUnit? cs with
  | none => none
  | some (high, rest) =>
    if 0xd800 ≤ high ∧ high < 0xdc00 then
      match rest with
      | '\\' :: 'u' :: more =>
        match hexUnit? more with
        | none => none
        | some (low, rest') =>
          if 0xdc00 ≤ low ∧ low < 0xe000 then
            some (Char.ofNat (0x10000 + (high - 0xd800) * 0x400 + (low - 0xdc00)), rest')
          else some (unitChar high, rest)
      | _ => some (unitChar high, rest)
    else some (unitChar high, rest)

def shortEscape? (c : Char) : Option Char :=
  if c = '"' ∨ c = '\\' ∨ c = '/' then some c
  else if c = 'n' then some '\n'
  else if c = 'r' then some '\r'
  else if c = 't' then some '\t'
  else if c = 'b' then some (Char.ofNat 8)
  else if c = 'f' then some (Char.ofNat 12)
  else none

/-- The rest of a string after its opening quote, and what follows it; `fuel` is at least its
length. -/
def readStringFrom : (fuel : Nat) → (seen : List Char) → List Char → Option (String × List Char)
  | 0, _, _ => none
  | fuel + 1, seen, cs =>
    match cs with
    | [] => none
    | c :: rest =>
      if c = '"' then some (String.ofList seen.reverse, rest)
      else if c = '\\' then
        match rest with
        | [] => none
        | 'u' :: more =>
          match readUnit? more with
          | none => none
          | some (d, rest) => readStringFrom fuel (d :: seen) rest
        | d :: more =>
          match shortEscape? d with
          | none => none
          | some d => readStringFrom fuel (d :: seen) more
      else if c.toNat < 0x20 then none
      else readStringFrom fuel (c :: seen) rest

end PartialLeastSquares.Json
