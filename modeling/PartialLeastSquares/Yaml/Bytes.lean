/-
# Bytes in YAML

Bytes are written in base 64: every character stands for six bits, and equals signs fill up the
last group of four.  Characters outside the alphabet are passed over.
-/
import PartialLeastSquares.Value
import PartialLeastSquares.Yaml.Error

namespace PartialLeastSquares.Yaml

def sextet? (c : Char) : Option Nat :=
  if 'A' ≤ c ∧ c ≤ 'Z' then some (c.toNat - 'A'.toNat)
  else if 'a' ≤ c ∧ c ≤ 'z' then some (c.toNat - 'a'.toNat + 26)
  else if c.isDigit then some (c.toNat - '0'.toNat + 52)
  else if c = '+' then some 62
  else if c = '/' then some 63
  else none

/-- The bytes of a text, given the bits of the open group, how many characters it has, and how
many equals signs followed the last one. -/
def decodeGroups : (held place pads : Nat) → List Char → Except Error (List Nat)
  | _, place, _, [] => if place = 0 then .ok [] else .error .construction
  | held, place, pads, c :: rest =>
    if c = '=' then
      if 2 ≤ place ∧ 4 ≤ place + (pads + 1) then .ok []
      else decodeGroups held place (if 2 ≤ place then pads + 1 else pads) rest
    else
      match sextet? c with
      | none => decodeGroups held place pads rest
      | some bits =>
        if place = 0 then decodeGroups bits 1 0 rest
        else if place = 1 then (decodeGroups (bits % 16) 2 0 rest).map ((held * 4 + bits / 16) :: ·)
        else if place = 2 then (decodeGroups (bits % 4) 3 0 rest).map ((held * 16 + bits / 4) :: ·)
        else (decodeGroups 0 0 0 rest).map ((held * 64 + bits) :: ·)

def byteText (mark : Char) (n : Nat) : List Char :=
  let c := Char.ofNat n
  if 0x7f ≤ n then ['\\', 'x'] ++ Text.hex 2 n else Text.quoteChar mark c

/-- **The bytes that a text stands for,** which no setting takes: they are kept by their texts. -/
def bytesValue (text : String) : Except Error Value :=
  if text.toList.any fun c => 0x80 ≤ c.toNat then .error .construction
  else do
    let bytes ← decodeGroups 0 0 0 text.toList
    let mark := Text.quoteMark (bytes.map Char.ofNat)
    let shown := "b" ++ String.ofList ([mark] ++ bytes.flatMap (byteText mark) ++ [mark])
    .ok (.foreign "bytes" shown shown)

end PartialLeastSquares.Yaml
