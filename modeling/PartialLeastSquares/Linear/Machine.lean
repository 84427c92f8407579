/-
# The tools of a run

The toolkit that a model is fitted with in machine floats: elimination for `inverse`, plane
rotations for `dominant_eigenvector` and the condition number, and the seeded normal deviates of
`initial_vector` for the start of an iteration.
-/
import PartialLeastSquares.Linear.Elimination
import PartialLeastSquares.Linear.Guard
import PartialLeastSquares.Linear.Jacobi
import PartialLeastSquares.Random.Normal

namespace PartialLeastSquares

/-- **The toolkit in machine floats,** which every fit of a run is given.  An eigenvector does not
depend on the component here. -/
def Toolkit.machine : Toolkit Float where
  inverse := Elimination.inverse?
  condition := Jacobi.condition
  eigenvector := fun _ _ a => (Jacobi.dominant? a).getD Vec.zero
  start := Random.normalVector

end PartialLeastSquares
