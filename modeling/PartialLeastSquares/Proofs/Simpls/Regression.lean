/-
# The regression vector from cross-products

The scores of this method have length one and are orthogonal, so its regression vector is the
sum of the weights, each times what its score explains of the response.  That makes it the
least-squares solution within the Krylov space (`regression_isLeastSquaresOn`), the same problem
that the method with one response solves by deflation.
-/
import Mathlib
import PartialLeastSquares.Proofs.Simpls.Component

namespace PartialLeastSquares.Simpls

open Matrix

variable {n p : ℕ}

theorem chain_of_extraction {tools : Toolkit ℝ} (ht : tools.Exact) {x : Mat ℝ n p} {y : Vec ℝ n}
    {count : ℕ} {r : Cross ℝ p} (h : (extraction tools x y count).ending = .ok r) :
    Chain Extracts (Cross.start x y) (extraction tools x y count).components r :=
  chain_of_extract (fun _ _ _ _ => extracts_of_step ht x.norm_nonneg y.norm_nonneg) h

/-- The weights times the loadings of the response. -/
def regression {K : Type} [Scalar K] (cs : List (Component K p)) : Vec K p :=
  (weights cs).apply (responseLoadings cs)

section Regression

variable {x : Mat ℝ n p} {y : Vec ℝ n} {cs : List (Component ℝ p)} {r : Cross ℝ p}

def scores {K : Type} [Scalar K] (x : Mat K n p) (cs : List (Component K p)) :
    Mat K n cs.length :=
  Mat.ofCols cs fun c => x.apply c.weight

theorem matrix_scores (x : Mat ℝ n p) (cs : List (Component ℝ p)) :
    (scores x cs).matrix = x.matrix * (weights cs).matrix := by
  ext i j
  rw [scores, weights, Mat.matrix_ofCols_apply, Mat.matrix_ofCols, Mat.coords_apply]
  rfl

theorem scores_transpose_mul (h : Chain Extracts (Cross.start x y) cs r) :
    (scores x cs).matrixᵀ * (scores x cs).matrix = 1 := by
  have hpair : cs.Pairwise fun c d => (x.apply c.weight).coords ⬝ᵥ (x.apply d.weight).coords = 0 :=
    (chain_pairwise h (tracks_start x y)).imp fun hcd => by
      rw [Mat.coords_apply, Mat.coords_apply, hcd]
  have hunit : ∀ j : Fin cs.length,
      (x.apply (cs.get j).weight).coords ⬝ᵥ (x.apply (cs.get j).weight).coords = 1 := fun j => by
    rw [Mat.coords_apply]
    exact (chain_each h (tracks_start x y) _ (List.get_mem _ _)).2.1
  rw [scores, Mat.ofCols_gram_eq_diagonal hpair, ← diagonal_one]
  exact congrArg diagonal (funext hunit)

/-- The loadings of the response are what the scores explain of it. -/
theorem scores_transpose_mulVec (h : Chain Extracts (Cross.start x y) cs r) :
    (scores x cs).matrixᵀ *ᵥ y.coords = (responseLoadings cs).coords := by
  funext j
  rw [scores, Mat.matrix_ofCols, responseLoadings, Vec.coords_ofFn,
    (chain_each h (tracks_start x y) _ (List.get_mem _ _)).2.2, ← Mat.coords_apply]
  rfl

/-- **The regression vector of a chain is the least-squares solution within the Krylov space.** -/
theorem regression_of_chain (h : Chain Extracts (Cross.start x y) cs r) :
    IsLeastSquaresOn x.matrix y.coords (krylov x.matrix y.coords cs.length)
      (regression cs).coords := by
  have hmem : ∀ c ∈ cs, c.weight.coords ∈ krylov x.matrix y.coords cs.length := fun c hc => by
    have hw := (chain_each h (tracks_start x y) c hc).1
    rwa [zero_add] at hw
  have hindep : ∀ z, (scores x cs).matrix *ᵥ z = 0 → z = 0 := fun z hz => by
    rw [← one_mulVec z, ← scores_transpose_mul h, ← mulVec_mulVec, hz, mulVec_zero]
  have hrest : (scores x cs).matrixᵀ *ᵥ
      (y.coords - (scores x cs).matrix *ᵥ (responseLoadings cs).coords) = 0 := by
    rw [mulVec_sub, scores_transpose_mulVec h, mulVec_mulVec, scores_transpose_mul h, one_mulVec,
      sub_self]
  have hsolution := (isLeastSquaresOn_of_factor (W := (weights cs).matrix) finrank_krylov_le
    (Mat.ofCols_mulVec_mem hmem) ((matrix_scores x cs).symm.trans (Matrix.mul_one _).symm)
    (Matrix.one_mul 1) hindep hrest).1
  rwa [one_mulVec, ← Mat.coords_apply] at hsolution

end Regression

/-- **The regression vector of an extraction** is the least-squares solution within the Krylov
space of as many dimensions as components were asked for. -/
theorem regression_isLeastSquaresOn {tools : Toolkit ℝ} (ht : tools.Exact) {x : Mat ℝ n p}
    {y : Vec ℝ n} {count : ℕ} {r : Cross ℝ p}
    (h : (extraction tools x y count).ending = .ok r) :
    IsLeastSquaresOn x.matrix y.coords (krylov x.matrix y.coords count)
      (regression (extraction tools x y count).components).coords := by
  have hlen : (extraction tools x y count).components.length = count :=
    length_components_extract h
  have hsolution := regression_of_chain (chain_of_extraction ht h)
  rwa [hlen] at hsolution

end PartialLeastSquares.Simpls
