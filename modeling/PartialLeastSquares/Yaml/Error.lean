/-
# Why a text is no YAML document

A document is refused at one of five stages, and each has its causes here: a character that no
document may hold, characters that form no token, tokens that form no document, a reference
without a target, and a node whose text is not what its tag promises.
-/
import PartialLeastSquares.Failure
import PartialLeastSquares.Text.Quoted

namespace PartialLeastSquares.Yaml

/-- Why a text is not read, in the order of the stages.  An escape may name a character beyond the
last one (`large` when the number is beyond every machine integer too); a `reference` is an alias
without an anchor, an anchor that is there twice, or a second document; a date may have a field
outside its range. -/
inductive Error where
  | character
  | token
  | codePoint (large : Bool)
  | grammar
  | reference
  | construction
  | circular
  | emptyNumber
  | integer (base : Nat) (text : String)
  | real (text : String)
  | truth (text : String)
  | notTime
  | time (what : String)
deriving DecidableEq, Repr

namespace Error

def kind : Error → FailureKind
  | character => .character
  | token => .token
  | codePoint large => if large then .overflow else .value
  | grammar => .grammar
  | reference => .reference
  | construction => .construction
  | circular => .recursion
  | emptyNumber => .index
  | integer _ _ => .value
  | real _ => .value
  | truth _ => .missingKey
  | notTime => .missingProperty
  | time _ => .value

/-- The text of an error, empty where its class says it all. -/
def message : Error → String
  | codePoint false => "chr() arg not in range(0x110000)"
  | integer base text =>
    "invalid literal for int() with base " ++ toString base ++ ": " ++ Text.quoted text
  | real text => "could not convert string to float: " ++ Text.quoted text
  | truth text => Text.quoted text
  | time what => what
  | _ => ""

end Error

end PartialLeastSquares.Yaml
