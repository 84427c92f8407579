/-
# Reading YAML

A document is a value, as `safe_load` gives it to `from_yaml_file`: scalars by their tags,
sequences as lists, mappings as tables.  A key that occurs twice keeps its place and takes the
last value; a merge key puts the entries of other mappings before those of its own.
-/
import PartialLeastSquares.Yaml.Bytes
import PartialLeastSquares.Yaml.Node
import PartialLeastSquares.Yaml.Time

namespace PartialLeastSquares.Yaml

/-! ## 1. Numbers -/

/-- The digits behind a mark of their base, if the mark stands there. -/
def dropBaseMark (base : Nat) (cs : List Char) : List Char :=
  match cs with
  | '0' :: c :: rest =>
    let mark := c.toLower
    if (base = 2 ∧ mark = 'b') ∨ (base = 8 ∧ mark = 'o') ∨ (base = 16 ∧ mark = 'x') then rest
    else cs
  | _ => cs

/-- The natural number of digits in a base, one digit at least. -/
def digitsIn? (base : Nat) (cs : List Char) : Option Nat := do
  let values ← cs.mapM Json.hexDigit?
  if values.isEmpty || values.any (base ≤ ·) then none
  else some (values.foldl (fun n d => base * n + d) 0)

/-- An integer in a base, with blanks around it, a sign, and a mark of the base. -/
def integerIn (base : Nat) (cs : List Char) : Except Error Int :=
  let body := Decimal.stripBlanks cs
  let digits := dropBaseMark base (Tag.unsigned (body.map Text.commonDigit))
  match digitsIn? base digits with
  | none => .error (.integer base (String.ofList cs))
  | some n => .ok (if body.head? = some '-' then -n else n)

/-- A text of a number, without the underscores, as its sign and the rest. -/
def signed (text : String) : Except Error (Bool × List Char) :=
  let cs := text.toList.filter (· != '_')
  match cs with
  | [] => .error .emptyNumber
  | c :: rest =>
    if c = '-' then .ok (true, rest)
    else if c = '+' then .ok (false, rest)
    else .ok (false, cs)

/-- The magnitude of an integer: in base two, sixteen, eight, sixty or ten. -/
def magnitude (cs : List Char) : Except Error Int :=
  match cs with
  | [] => .error .emptyNumber
  | ['0'] => .ok 0
  | '0' :: 'b' :: rest => integerIn 2 rest
  | '0' :: 'x' :: rest => integerIn 16 rest
  | '0' :: _ => integerIn 8 cs
  | _ =>
    if cs.contains ':' then do
      let parts ← (Tag.colonParts cs).mapM (integerIn 10)
      .ok (parts.foldl (fun n d => 60 * n + d) 0)
    else integerIn 10 cs

def integerValue (text : String) : Except Error Value := do
  let (negative, cs) ← signed text
  let n ← magnitude cs
  .ok (.int (if negative then -n else n))

def realPart (cs : List Char) : Except Error Float :=
  match Decimal.floatOfText? (Decimal.stripBlanks cs) with
  | some x => .ok x
  | none => .error (.real (String.ofList cs))

/-- The sum of parts in base sixty, from the last one on. -/
def sexagesimalSum (parts : List Float) : Float :=
  (parts.reverse.foldl (fun (sum, unit) x => (sum + x * Float.ofNat unit, unit * 60)) (0.0, 1)).1

def realValue (text : String) : Except Error Value := do
  let (negative, cs) ← signed text
  let cs := cs.map Char.toLower
  let size ← (
    if cs == ".inf".toList then .ok (1.0 / 0.0)
    else if cs == ".nan".toList then .ok (0.0 / 0.0)
    else if cs.contains ':' then do
      let parts ← (Tag.colonParts cs).mapM realPart
      .ok (sexagesimalSum parts)
    else realPart cs)
  .ok (.float (if negative then -size else size))

/-! ## 2. Scalars -/

/-- **The value of a scalar,** whose text may not be what its tag promises. -/
def scalarValue (tag : Tag) (text : String) : Except Error Value :=
  match tag with
  | .null => .ok .null
  | .bool =>
    let word := Text.lowered text
    match Tag.truthWords.lookup word with
    | some b => .ok (.bool b)
    | none => .error (.truth word)
  | .int => integerValue text
  | .float => realValue text
  | .binary => bytesValue text
  | .timestamp => timeValue text
  | .str => .ok (.text text)
  | _ => .error .construction

/-! ## 3. Collections -/

def setValue (entries : List (Value × Value)) : Value :=
  let shown := if entries.isEmpty then "set()"
    else "\x7b" ++ ", ".intercalate (entries.map fun e => e.1.display) ++ "\x7d"
  .foreign "set" shown shown

def isKey : Value → Bool
  | .list _ => false
  | .table _ => false
  | .foreign kind _ _ => kind != "set"
  | _ => true

/-- The table of entries, in which the last value of a key counts. -/
def tableOfEntries (entries : List (Value × Value)) : List (Value × Value) :=
  entries.foldl (fun seen (k, v) => Value.insert seen k v) []

mutual

/-- **The value of a node.** A node inside itself has none. -/
def Node.toValue : Node → Except Error Value
  | .cycle => .error .circular
  | .scalar tag text => scalarValue tag text
  | .sequence .seq items => (itemValues items).map .list
  | .sequence .omap items => (pairValues items).map .list
  | .sequence .pairs items => (pairValues items).map .list
  | .sequence _ _ => .error .construction
  | .mapping .map entries =>
    (entryValues entries).map fun (merged, own) => .table (tableOfEntries (merged ++ own))
  | .mapping .set entries =>
    (entryValues entries).map fun (merged, own) => setValue (tableOfEntries (merged ++ own))
  | .mapping _ _ => .error .construction

def itemValues : List Node → Except Error (List Value)
  | [] => .ok []
  | item :: rest => do
    let v ← item.toValue
    let more ← itemValues rest
    .ok (v :: more)

/-- The pairs of a sequence of mappings with one entry each. -/
def pairValues : List Node → Except Error (List Value)
  | [] => .ok []
  | .mapping _ [(k, v)] :: rest => do
    let k ← k.toValue
    let v ← v.toValue
    let more ← pairValues rest
    .ok (.list [k, v] :: more)
  | _ :: _ => .error .construction

def keyValue : Node → Except Error Value
  | .scalar .value text => .ok (.text text)
  | node => do
    let v ← node.toValue
    if isKey v then .ok v else .error .construction

/-- The entries that a mapping merges in, and its own. -/
def entryValues : List (Node × Node) → Except Error (List (Value × Value) × List (Value × Value))
  | [] => .ok ([], [])
  | (.scalar .merge _, v) :: rest => do
    let offered ← v.offered
    let (merged, own) ← entryValues rest
    .ok (offered ++ merged, own)
  | (k, v) :: rest => do
    let k ← keyValue k
    let v ← v.toValue
    let (merged, own) ← entryValues rest
    .ok (merged, (k, v) :: own)

/-- The entries that a node offers where it is merged in: a mapping, or a sequence of mappings of
which the first one wins. -/
def Node.offered : Node → Except Error (List (Value × Value))
  | .mapping _ entries => (entryValues entries).map fun (merged, own) => merged ++ own
  | .sequence _ items => offeredByAll items
  | .scalar _ _ => .error .construction
  | .cycle => .error .circular

/-- The entries that mappings offer, those of the first one last. -/
def offeredByAll : List Node → Except Error (List (Value × Value))
  | [] => .ok []
  | .mapping _ entries :: rest => do
    let (merged, own) ← entryValues entries
    let more ← offeredByAll rest
    .ok (more ++ (merged ++ own))
  | _ :: _ => .error .construction

end

/-- **The value of a text,** `safe_load`: null for a text without a document. -/
def read (text : String) : Except Error Value := do
  let cs := text.toList
  if !cs.all isAllowed then .error .character
  else
    match ← Node.ofTokens (Tokens.ofText cs) with
    | none => .ok .null
    | some node => node.toValue

end PartialLeastSquares.Yaml
