/-
# What the method in feature space starts from

The method centers predictors and responses, applies its kernel to the rows of the centered
predictors, and centers that kernel in feature space.  Over the reals the first step never fails,
and the second fails for the parameters of the kernel or for data without rows or columns and for
nothing else (`Kernel.selfGram_eq_ok_iff`).  New rows are mapped by the same kernel, so a kernel
that could be applied to the training rows can be applied to any rows but none
(`Kernel.gram_eq_ok`).

On the training rows themselves the kernel of new rows is the kernel that was learned
(`KernelFn.selfGram_eq_gram`): a row is at no distance from itself.
-/
import Mathlib
import PartialLeastSquares.Method.KernelPls
import PartialLeastSquares.Proofs.LinearKernel

namespace PartialLeastSquares

open Matrix

variable {n m p q : ℕ}

/-! ## 1. Kernels of rows -/

/-- **Over the reals, nothing is cut off a squared distance.** -/
theorem squaredDistance_real (x y : Vec ℝ p) :
    squaredDistance x y = ∑ j, (x.get j - y.get j) ^ 2 := by
  have hexpand : -Scalar.ofNat 2 * x.dot y + x.normSq + y.normSq =
      ∑ j, (x.get j - y.get j) ^ 2 := by
    rw [Scalar.ofNat_real, Vec.normSq, Vec.normSq, Vec.dot, Vec.dot, Vec.dot, Scalar.sum_real,
      Scalar.sum_real, Scalar.sum_real, Finset.mul_sum, ← Finset.sum_add_distrib,
      ← Finset.sum_add_distrib]
    refine Finset.sum_congr rfl fun j _ => ?_
    push_cast
    ring
  unfold squaredDistance
  dsimp only
  rw [hexpand, if_neg]
  exact not_lt.mpr (Finset.sum_nonneg fun j _ => sq_nonneg _)

@[simp] theorem squaredDistance_self (x : Vec ℝ p) : squaredDistance x x = 0 := by
  rw [squaredDistance_real]
  simp

/-- **The kernel of rows with themselves** is that of two sets of rows that are the same. -/
theorem KernelFn.selfGram_eq_gram (f : KernelFn ℝ) (a : Mat ℝ n p) : f.selfGram a = f.gram a a := by
  cases f with
  | linear => rfl
  | poly degree gamma coef0 => rfl
  | rbf gamma =>
    refine Mat.ext fun i j => ?_
    rw [selfGram, Mat.get_ofFn, get_gram]
    split
    · rename_i hij
      rw [hij, value, squaredDistance_self]
    · rfl

namespace Kernel

variable {kernel : Kernel} {a : Mat ℝ n p} {b : Mat ℝ m p}

/-- **A kernel is applied to the rows of a matrix** if its parameters are accepted and there are
rows and columns. -/
theorem selfGram_eq_ok_iff {g : Mat ℝ n n} :
    kernel.selfGram a = .ok g ↔ kernel.checkParameters = .ok () ∧ (n ≠ 0 ∧ p ≠ 0) ∧
      ∃ f, kernel.function = .ok f ∧ f.gram a a = g := by
  unfold selfGram
  rw [← checkMatrix_eq_ok_iff (a := a)]
  constructor
  · intro h
    obtain ⟨_, hparameters, h⟩ := bind_eq_ok_iff.mp h
    obtain ⟨_, hcheck, h⟩ := bind_eq_ok_iff.mp h
    obtain ⟨f, hf, h⟩ := bind_eq_ok_iff.mp h
    exact ⟨hparameters, hcheck, f, hf, f.selfGram_eq_gram a ▸ Except.ok.inj h⟩
  · rintro ⟨hparameters, hcheck, f, hf, rfl⟩
    exact bind_eq_ok_iff.mpr ⟨(), hparameters, bind_eq_ok_iff.mpr ⟨(), hcheck,
      bind_eq_ok_iff.mpr ⟨f, hf, congrArg _ (f.selfGram_eq_gram a)⟩⟩⟩

theorem gram_eq_ok {f : KernelFn ℝ} (hparameters : kernel.checkParameters = .ok ())
    (hf : kernel.function = .ok f) (hn : n ≠ 0) (hm : m ≠ 0) (hp : p ≠ 0) :
    kernel.gram a b = .ok (f.gram a b) :=
  bind_eq_ok_iff.mpr ⟨(), hparameters, bind_eq_ok_iff.mpr ⟨(),
    checkMatrix_eq_ok_iff.mpr ⟨hn, hp⟩, bind_eq_ok_iff.mpr ⟨(), checkMatrix_eq_ok_iff.mpr ⟨hm, hp⟩,
      bind_eq_ok_iff.mpr ⟨f, hf, rfl⟩⟩⟩⟩

end Kernel

/-! ## 2. Centering -/

/-- **Centering takes from an entry the mean of its column.** -/
theorem matrix_centering_mul_apply (a : Mat ℝ n p) (i : Fin n) (j : Fin p) :
    ((centering n).mul a).matrix i j = a.matrix i j - (∑ l, a.matrix l j) / n := by
  rw [centering, Mat.matrix_mul, Mat.matrix_sub, Mat.matrix_identity, Matrix.sub_mul,
    Matrix.one_mul, Mat.matrix_const, Matrix.sub_apply, mul_apply, share, Scalar.ofNat_real,
    Finset.sum_div]
  exact congrArg _ (Finset.sum_congr rfl fun l _ => one_div_mul_eq_div _ _)

theorem centered_centering_mul (a : Mat ℝ n p) : ((centering n).mul a).Centered := fun j => by
  simp only [matrix_centering_mul_apply]
  rw [Finset.sum_sub_distrib, Finset.sum_const, Finset.card_univ, Fintype.card_fin, nsmul_eq_mul]
  rcases Nat.eq_zero_or_pos n with rfl | hn
  · simp
  · rw [mul_div_cancel₀ _ (Nat.cast_ne_zero.mpr hn.ne'), sub_self]

/-- **A kernel that has been centered is centered.** -/
theorem centered_centerKernel (k : Mat ℝ n n) : (centerKernel k).Centered :=
  (centered_centering_mul k).mul _

/-- **The kernel of the training rows, taken for that of new rows,** is centered in the same way. -/
theorem centerCrossKernel_self (k : Mat ℝ n n) : centerCrossKernel k k = centerKernel k := by
  have hcenter : k.sub (Mat.mul (Mat.const (share n)) k) = (centering n).mul k := by
    refine Mat.matrix_injective ?_
    rw [centering, Mat.matrix_mul, Mat.matrix_sub, Mat.matrix_sub, Mat.matrix_mul,
      Mat.matrix_identity, Matrix.sub_mul, Matrix.one_mul]
  rw [centerCrossKernel, hcenter, centerKernel]

/-- **Of rows that are all the same nothing is left.** -/
theorem centering_mul_of_constant {a : Mat ℝ n p} (h : a.Constant) :
    ((centering n).mul a).matrix = 0 := by
  ext i j
  have hsum : ∑ l, a.matrix l j = n * a.matrix i j := by
    rw [Finset.sum_congr rfl fun l _ => h.matrix_eq l i j, Finset.sum_const, Finset.card_univ,
      Fintype.card_fin, nsmul_eq_mul]
  rw [matrix_centering_mul_apply, hsum,
    mul_div_cancel_left₀ _ (Nat.cast_ne_zero.mpr i.pos.ne'), sub_self, Matrix.zero_apply]

/-! ## 3. Preparation -/

namespace KernelPls

variable {kernel : Kernel} {x : Mat ℝ n p} {y : Mat ℝ n q}
  {stats : ColumnStats ℝ p × ColumnStats ℝ q} {data : Prepared ℝ n p q}

theorem center_real (x : Mat ℝ n p) (y : Mat ℝ n q) :
    center x y = .ok (Scheme.center.learn x, Scheme.center.learn y) := by
  unfold center
  rw [Mat.entryProblem?_real, Mat.entryProblem?_real]

/-- **What data is prepared to,** when its kernel can be applied. -/
theorem prepare_kernel_eq_ok_iff :
    prepare kernel x y stats = .ok data ↔
      kernel.checkParameters = .ok () ∧ (n ≠ 0 ∧ p ≠ 0) ∧ ∃ f, kernel.function = .ok f ∧
        ⟨kernel, stats.1, stats.2, stats.1.apply x, stats.2.apply y,
          f.gram (stats.1.apply x) (stats.1.apply x),
          centerKernel (f.gram (stats.1.apply x) (stats.1.apply x))⟩ = data := by
  unfold prepare
  constructor
  · intro h
    obtain ⟨raw, hraw, h⟩ := bind_eq_ok_iff.mp h
    obtain ⟨hparameters, hsize, f, hf, rfl⟩ := Kernel.selfGram_eq_ok_iff.mp hraw
    exact ⟨hparameters, hsize, f, hf, Except.ok.inj h⟩
  · rintro ⟨hparameters, hsize, f, hf, rfl⟩
    exact bind_eq_ok_iff.mpr
      ⟨_, Kernel.selfGram_eq_ok_iff.mpr ⟨hparameters, hsize, f, hf, rfl⟩, rfl⟩

/-! ## 4. New rows -/

/-- **What a fit keeps of its data:** a kernel function that can be applied, since its parameters
are accepted and there are rows with columns; the centered predictors and the means of both sides;
and the kernel of the predictors, raw and centered. -/
structure Fit.Keeps (f : Fit ℝ n p q) (fn : KernelFn ℝ) (x : Mat ℝ n p) (y : Mat ℝ n q) :
    Prop where
  parameters : f.kernel.checkParameters = .ok ()
  function : f.kernel.function = .ok fn
  rows : n ≠ 0
  columns : p ≠ 0
  xStats : f.xStats = Scheme.center.learn x
  yStats : f.yStats = Scheme.center.learn y
  training : f.training = f.xStats.apply x
  raw : f.raw = fn.gram f.training f.training
  centered : f.centered = centerKernel f.raw

/-- **A fit keeps the data that it was prepared from.** -/
theorem keeps_of_fit {tools : Toolkit ℝ} {cs : List (Component ℝ n q)} {r : Residual ℝ n q}
    {f : Fit ℝ n p q} (hstats : center x y = .ok stats) (hdata : prepare kernel x y stats = .ok data)
    (hfit : fit tools data cs r = .ok f) : ∃ fn, f.Keeps fn x y := by
  obtain rfl := Except.ok.inj ((center_real x y).symm.trans hstats)
  obtain ⟨hparameters, ⟨hn, hp⟩, fn, hfn, rfl⟩ := prepare_kernel_eq_ok_iff.mp hdata
  unfold fit at hfit
  obtain ⟨b, -, hfit⟩ := bind_eq_ok_iff.mp hfit
  obtain rfl := Except.ok.inj hfit
  exact ⟨fn, hparameters, hfn, hn, hp, rfl, rfl, rfl, rfl, rfl⟩

namespace Fit

variable {f : Fit ℝ n p q} {fn : KernelFn ℝ} {new : Mat ℝ m p}

/-- **Any rows but none are mapped.** -/
theorem Keeps.transform_eq (h : f.Keeps fn x y) (hm : m ≠ 0) (new : Mat ℝ m p) :
    f.transform new = .ok ((centerCrossKernel (fn.gram (f.xStats.apply new) f.training) f.raw).mul
      (responseScores f.components)) := by
  unfold transform
  rw [Mat.entryProblem?_real]
  simp only [Kernel.gram_eq_ok h.parameters h.function hm h.rows h.columns]

/-- **The training rows are mapped** by their own centered kernel. -/
theorem Keeps.transform_training (h : f.Keeps fn x y) :
    f.transform x = .ok (f.centered.mul (responseScores f.components)) := by
  rw [h.transform_eq h.rows x, ← h.training, ← h.raw, centerCrossKernel_self, ← h.centered]

theorem predict_of_transform {t : Mat ℝ m f.components.length} (h : f.transform new = .ok t) :
    f.predict new = .ok (f.yStats.unapply (t.mul f.coefficients)) := by
  unfold predict
  rw [h]
  simp only [Mat.entryProblem?_real]

end Fit

end KernelPls

end PartialLeastSquares
