/-
# YAML tokens

The tokens of a YAML text.  Indentation is among them: a block opens where a line is indented
more than the one around it, and closes where a line is indented less.  A key that is written
without a mark of its own gets one once its colon has been found.
-/

namespace PartialLeastSquares.Yaml

/-- What a directive says. -/
inductive Directive where
  | version (major minor : Nat)
  | tag (handle meaning : String)
  | other
deriving DecidableEq, Repr

/-- **A token.** A tag is its handle, if it has one, and what comes after it; a scalar is `bare`
when it stands without quotes. -/
inductive Token where
  | streamEnd
  | directive (d : Directive)
  | documentStart
  | documentEnd
  | blockSequenceStart
  | blockMappingStart
  | blockEnd
  | flowSequenceStart
  | flowSequenceEnd
  | flowMappingStart
  | flowMappingEnd
  | blockEntry
  | flowEntry
  | key
  | value
  | alias (name : String)
  | anchor (name : String)
  | tag (handle : Option String) (ending : String)
  | scalar (text : String) (bare : Bool)
deriving DecidableEq, Repr

end PartialLeastSquares.Yaml
