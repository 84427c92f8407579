/-
# YAML documents as nodes

A document is a tree of nodes: scalars, sequences and mappings, each with its tag.  Reading it
from tokens is a descent along the grammar.  An alias is replaced by the node of its anchor; an
alias inside the node that it names is kept as the node `cycle`, which no value has.
-/
import PartialLeastSquares.Yaml.Lexer
import PartialLeastSquares.Yaml.Tag

namespace PartialLeastSquares.Yaml

/-! ## 1. Nodes -/

/-- **A node of a document:** a scalar, a sequence or a mapping with its tag, or the place of an
alias inside its own node. -/
inductive Node where
  | scalar (tag : Tag) (text : String)
  | sequence (tag : Tag) (items : List Node)
  | mapping (tag : Tag) (entries : List (Node × Node))
  | cycle

instance : Inhabited Node := ⟨.cycle⟩

namespace Node

def empty : Node := .scalar .null ""

end Node

/-! ## 2. The state of reading -/

/-- What is known while tokens are read: what is left of them, the handles of tags, and the nodes
of the anchors, where an anchor whose node is still open has none. -/
structure Reading where
  tokens : Tokens
  handles : List (String × String)
  anchors : List (String × Option Node)

/-- A step of reading, which may fail. -/
abbrev ReadM := StateT Reading (Except Error)

namespace Reading

def standardHandles : List (String × String) := [("!", "!"), ("!!", Tag.commonHandle)]

def peek : ReadM Token := do
  let s ← get
  match s.tokens.rest with
  | token :: _ => pure token
  | [] => throw (s.tokens.failure.getD .grammar)

def skip : ReadM Unit :=
  modify fun s => { s with tokens := { s.tokens with rest := s.tokens.rest.tail } }

/-- Goes past the next token if it is the given one. -/
def skipIf (token : Token) : ReadM Bool := do
  if (← peek) = token then
    skip
    pure true
  else pure false

/-- Goes past the next token, which must be the given one. -/
def expect (token : Token) : ReadM Unit := do
  if !(← skipIf token) then throw .grammar

/-! ## 3. Properties -/

def tagName (handle : Option String) (ending : String) : ReadM String := do
  match handle with
  | none => pure ending
  | some handle =>
    match (← get).handles.lookup handle with
    | some meaning => pure (meaning ++ ending)
    | none => throw .grammar

/-- The anchor of a node and the full name of its tag, in either order. -/
def properties : ReadM (Option String × Option String) := do
  match ← peek with
  | .anchor name =>
    skip
    match ← peek with
    | .tag handle ending =>
      skip
      pure (some name, some (← tagName handle ending))
    | _ => pure (some name, none)
  | .tag handle ending =>
    skip
    match ← peek with
    | .anchor name =>
      skip
      pure (some name, some (← tagName handle ending))
    | _ => pure (none, some (← tagName handle ending))
  | _ => pure (none, none)

def isOpenTag (name : Option String) : Bool := name.isNone || name == some "!"

def scalarTag (name : Option String) (text : String) (bare : Bool) : Tag :=
  match name with
  | none => if bare then .implicit text else .str
  | some name => if name == "!" then .implicit text else .ofName name

/-- The tag of a collection that has `standard` when it is left open. -/
def collectionTag (name : Option String) (standard : Tag) : Tag :=
  if isOpenTag name then standard else .ofName (name.getD "")

def aliased (name : String) : ReadM Node := do
  match (← get).anchors.lookup name with
  | none => throw .reference
  | some none => pure .cycle
  | some (some node) => pure node

/-- Opens an anchor, which may not be there yet. -/
def openAnchor (anchor : Option String) : ReadM Unit := do
  match anchor with
  | none => pure ()
  | some name =>
    if ((← get).anchors.lookup name).isSome then throw .reference
    else modify fun s => { s with anchors := (name, none) :: s.anchors }

def closeAnchor (anchor : Option String) (node : Node) : ReadM Node := do
  match anchor with
  | none => pure node
  | some name =>
    modify fun s => { s with anchors := (name, some node) :: s.anchors }
    pure node

/-! ## 4. The grammar -/

mutual

/-- **A node.**  Blocks are allowed when `block`, and a sequence without indentation of its own
when `flat`. -/
def node (block flat : Bool) : (fuel : Nat) → ReadM Node
  | 0 => throw .grammar
  | fuel + 1 => do
    if let .alias name ← peek then
      skip
      aliased name
    else
      let (anchor, name) ← properties
      let token ← peek
      if flat && token == .blockEntry then
        openAnchor anchor
        closeAnchor anchor (.sequence (collectionTag name .seq) (← flatItems fuel))
      else
        match token with
        | .scalar text bare =>
          skip
          openAnchor anchor
          closeAnchor anchor (.scalar (scalarTag name text bare) text)
        | .flowSequenceStart =>
          openAnchor anchor
          skip
          closeAnchor anchor (.sequence (collectionTag name .seq) (← flowItems true fuel))
        | .flowMappingStart =>
          openAnchor anchor
          skip
          closeAnchor anchor (.mapping (collectionTag name .map) (← flowEntries true fuel))
        | _ =>
          if block && token == .blockSequenceStart then
            openAnchor anchor
            skip
            closeAnchor anchor (.sequence (collectionTag name .seq) (← blockItems fuel))
          else if block && token == .blockMappingStart then
            openAnchor anchor
            skip
            closeAnchor anchor (.mapping (collectionTag name .map) (← blockEntries fuel))
          else if anchor.isSome || name.isSome then
            openAnchor anchor
            closeAnchor anchor (.scalar (scalarTag name "" true) "")
          else throw .grammar

def blockItems : (fuel : Nat) → ReadM (List Node)
  | 0 => throw .grammar
  | fuel + 1 => do
    if ← skipIf .blockEntry then
      let token ← peek
      let item ← if token == .blockEntry || token == .blockEnd then pure Node.empty
        else node true false fuel
      pure (item :: (← blockItems fuel))
    else
      expect .blockEnd
      pure []

/-- The members of a sequence that is indented no more than the key it belongs to. -/
def flatItems : (fuel : Nat) → ReadM (List Node)
  | 0 => throw .grammar
  | fuel + 1 => do
    if ← skipIf .blockEntry then
      let token ← peek
      let item ← if [.blockEntry, .key, .value, .blockEnd].contains token then pure Node.empty
        else node true false fuel
      pure (item :: (← flatItems fuel))
    else
      let _ ← peek
      pure []

/-- What stands behind the mark of a key or a value in a block mapping. -/
def blockPart : (fuel : Nat) → ReadM Node
  | 0 => throw .grammar
  | fuel + 1 => do
    let token ← peek
    if [.key, .value, .blockEnd].contains token then pure Node.empty
    else node true true fuel

def blockEntries : (fuel : Nat) → ReadM (List (Node × Node))
  | 0 => throw .grammar
  | fuel + 1 => do
    if ← skipIf .key then
      let key ← blockPart fuel
      let value ← if ← skipIf .value then blockPart fuel else pure Node.empty
      pure ((key, value) :: (← blockEntries fuel))
    else
      expect .blockEnd
      pure []

/-- What stands behind the mark of a key or a value in a flow collection that ends with `last`. -/
def flowPart (last : List Token) : (fuel : Nat) → ReadM Node
  | 0 => throw .grammar
  | fuel + 1 => do
    let token ← peek
    if last.contains token then pure Node.empty else node false false fuel

/-- The members of a flow sequence, `first` for the first one; a member with the mark of a key is
a mapping with one entry. -/
def flowItems (first : Bool) : (fuel : Nat) → ReadM (List Node)
  | 0 => throw .grammar
  | fuel + 1 => do
    if ← skipIf .flowSequenceEnd then pure []
    else
      if !first then expect .flowEntry
      if ← skipIf .key then
        let key ← flowPart [.value, .flowEntry, .flowSequenceEnd] fuel
        let value ← if ← skipIf .value then flowPart [.flowEntry, .flowSequenceEnd] fuel
          else pure Node.empty
        pure (.mapping .map [(key, value)] :: (← flowItems false fuel))
      else if ← skipIf .flowSequenceEnd then pure []
      else
        let item ← node false false fuel
        pure (item :: (← flowItems false fuel))

/-- The entries of a flow mapping, `first` for the first one; an entry without the mark of a key
has an empty value. -/
def flowEntries (first : Bool) : (fuel : Nat) → ReadM (List (Node × Node))
  | 0 => throw .grammar
  | fuel + 1 => do
    if ← skipIf .flowMappingEnd then pure []
    else
      if !first then expect .flowEntry
      if ← skipIf .key then
        let key ← flowPart [.value, .flowEntry, .flowMappingEnd] fuel
        let value ← if ← skipIf .value then flowPart [.flowEntry, .flowMappingEnd] fuel
          else pure Node.empty
        pure ((key, value) :: (← flowEntries false fuel))
      else if ← skipIf .flowMappingEnd then pure []
      else
        let key ← node false false fuel
        pure ((key, Node.empty) :: (← flowEntries false fuel))

end

/-! ## 5. Documents -/

/-- The directives before a document: at most one version, which must be the first one, and a
meaning for each handle. -/
def directives : (fuel : Nat) → (versioned : Bool) → (handles : List (String × String)) →
    ReadM Unit
  | 0, _, _ => throw .grammar
  | fuel + 1, versioned, handles => do
    match ← peek with
    | .directive d =>
      skip
      match d with
      | .version major _ =>
        if versioned || major ≠ 1 then throw .grammar
        directives fuel true handles
      | .tag handle meaning =>
        if (handles.lookup handle).isSome then throw .grammar
        directives fuel versioned ((handle, meaning) :: handles)
      | .other => directives fuel versioned handles
    | _ => modify fun s => { s with handles := handles ++ standardHandles }

def documentStart (fuel : Nat) : ReadM Unit := do
  directives fuel false []
  expect .documentStart

def skipDocumentEnds : (fuel : Nat) → ReadM Unit
  | 0 => throw .grammar
  | fuel + 1 => do
    if ← skipIf .documentEnd then skipDocumentEnds fuel

/-- What a document with a mark at its start holds. -/
def documentBody (fuel : Nat) : ReadM Node := do
  match ← peek with
  | .directive _ => pure Node.empty
  | .documentStart => pure Node.empty
  | .documentEnd => pure Node.empty
  | .streamEnd => pure Node.empty
  | _ => node true false fuel

def firstDocument (fuel : Nat) : ReadM (Option Node) := do
  match ← peek with
  | .streamEnd => pure none
  | .directive _ =>
    documentStart fuel
    pure (some (← documentBody fuel))
  | .documentStart =>
    documentStart fuel
    pure (some (← documentBody fuel))
  | _ => pure (some (← node true false fuel))

/-- The only document: behind it the text must end, and another one is refused once it is seen to
start. -/
def onlyDocument (fuel : Nat) : ReadM (Option Node) := do
  let found ← firstDocument fuel
  skipDocumentEnds fuel
  if (← peek) = .streamEnd then pure found
  else
    documentStart fuel
    throw .reference

end Reading

/-- **The node of a text,** nothing for a text without a document. -/
def Node.ofTokens (tokens : Tokens) : Except Error (Option Node) := do
  let fuel := 3 * tokens.rest.length + 8
  let (found, _) ← (Reading.onlyDocument fuel).run ⟨tokens, Reading.standardHandles, []⟩
  .ok found

end PartialLeastSquares.Yaml
