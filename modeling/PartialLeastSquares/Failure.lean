/-
# Classes of failure

Each part of the library has its own causes of failure, and each cause belongs to one of the
classes of this file: what a caller can tell apart without reading a message.  A cause of class
`validation`, a `ValidationError`, was found before any numerical work began; one of class
`numerical`, a `NumericalError`, surfaced in the middle of it.  The other classes are those that
operations on values and files raise by themselves.
-/

namespace PartialLeastSquares

/-- **What kind of thing went wrong:** a `ValidationError`, a `NumericalError`, or one of the
errors of the operations below them. -/
inductive FailureKind where
  | validation
  | numerical
  | value
  | notFitted
  | parameter
  | unsupported
  | wrongKind
  | missingProperty
  | missingKey
  | index
  | overflow
  | zeroDivision
  | linearAlgebra
  | unset
  | recursion
  | json
  | token
  | grammar
  | reference
  | construction
  | character
  | missingFile
  | fileInTheWay
  | notDirectory
  | isDirectory
deriving DecidableEq, Repr


end PartialLeastSquares
