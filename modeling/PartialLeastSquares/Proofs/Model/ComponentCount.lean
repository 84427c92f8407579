/-
# Asking for more components

A model that is asked for more components goes on where it would have stopped.  What it had found
by then it keeps: the columns of its matrices that belong to the first components are the columns
that a model asked for no more would have (`Fitted.Extends`).  And a component that cannot be
extracted cannot be extracted by a model that goes further either (`Stops`).

Both follow from the two laws of the loop (`components_extract_of_le`, `stopsAt_extract_of_lt`).
What remains is what each method makes of its components afterwards: it lists them as columns, or
as entries, and one method thins out its weights, which it does column by column.
-/
import PartialLeastSquares.Proofs.Extraction
import PartialLeastSquares.Proofs.Model.Matrices
import PartialLeastSquares.Proofs.OrthogonalFilter.Agreement

namespace PartialLeastSquares

open Matrix

variable {K : Type} {n p q : ℕ}

/-! ## 1. The first columns of a table -/

namespace Table

def firstColumns (t : Table K) (j : ℕ) : Table K :=
  ⟨t.rows, min j t.cols, Mat.ofFn fun i l => t.mat.get i (l.castLE (Nat.min_le_right j t.cols))⟩

def firstRows (t : Table K) (j : ℕ) : Table K :=
  ⟨min j t.rows, t.cols, Mat.ofFn fun i l => t.mat.get (i.castLE (Nat.min_le_right j t.rows)) l⟩

end Table

namespace Fitted

/-- The members of the beginning of a list are members of the list. -/
theorem get_take {α : Type} (cs : List α) (j : ℕ) (l : Fin (cs.take j).length) :
    (cs.take j).get l = cs.get ((l.cast List.length_take).castLE (Nat.min_le_right j cs.length)) :=
  List.getElem_take

/-- A table has the first columns of another if its entries are theirs. -/
theorem table_eq_firstColumns {m m' j : ℕ} {a : Mat K n m} {b : Mat K n m'} (hm : m' = min j m)
    (h : ∀ i l, b.get i l = a.get i ((l.cast hm).castLE (Nat.min_le_right j m))) :
    table b = (table a).firstColumns j := by
  refine table_ext rfl hm fun i l => (h i l).trans ?_
  exact (Mat.get_ofFn (fun i (l : Fin (min j m)) =>
    a.get i (l.castLE (Nat.min_le_right j m))) i (l.cast hm)).symm

theorem table_eq_firstRows {m m' j : ℕ} {a : Mat K m n} {b : Mat K m' n} (hm : m' = min j m)
    (h : ∀ l i, b.get l i = a.get ((l.cast hm).castLE (Nat.min_le_right j m)) i) :
    table b = (table a).firstRows j := by
  refine table_ext hm rfl fun l i => (h l i).trans ?_
  exact (Mat.get_ofFn (fun (l : Fin (min j m)) i =>
    a.get (l.castLE (Nat.min_le_right j m)) i) (l.cast hm) i).symm

/-- **The first members of a list as columns** are its first columns. -/
theorem table_ofCols_take {α : Type} (cs : List α) (f : α → Vec K n) (j : ℕ) :
    table (Mat.ofCols (cs.take j) f) = (table (Mat.ofCols cs f)).firstColumns j := by
  refine table_eq_firstColumns List.length_take fun i l => ?_
  rw [Mat.get_ofCols, Mat.get_ofCols, get_take]

theorem rowTable_take {α : Type} (cs : List α) (f : α → K) (j : ℕ) :
    rowTable (Vec.ofFn fun l => f ((cs.take j).get l)) =
      (rowTable (Vec.ofFn fun l => f (cs.get l))).firstColumns j := by
  refine table_eq_firstColumns List.length_take fun i l => ?_
  rw [Mat.get_ofFn, Mat.get_ofFn, Vec.get_ofFn, Vec.get_ofFn, get_take]

/-- **The first members of a list as the entries of a column** are its first rows. -/
theorem table_ofCol_take {α : Type} (cs : List α) (f : α → K) (j : ℕ) :
    table (Mat.ofCol (Vec.ofFn fun l => f ((cs.take j).get l))) =
      (table (Mat.ofCol (Vec.ofFn fun l => f (cs.get l)))).firstRows j := by
  refine table_eq_firstRows List.length_take fun l i => ?_
  rw [Mat.get_ofCol, Mat.get_ofCol, Vec.get_ofFn, Vec.get_ofFn, get_take]

end Fitted

namespace Simpls

variable [Scalar K]

/-- **Each column of weights is thinned out by itself.** -/
theorem table_slim_take (cs : List (Component K p)) (count : ℤ) (j : ℕ) :
    Fitted.table (slim (weights (cs.take j)) count) =
      (Fitted.table (slim (weights cs) count)).firstColumns j := by
  unfold slim
  by_cases hall : count ≤ 0 ∨ (p : ℤ) ≤ count
  · rw [if_pos hall, if_pos hall]
    exact Fitted.table_ofCols_take cs Component.weight j
  · rw [if_neg hall, if_neg hall]
    refine Fitted.table_eq_firstColumns List.length_take fun i l => ?_
    have hcol : (weights (cs.take j)).col l =
        (weights cs).col ((l.cast List.length_take).castLE (Nat.min_le_right j cs.length)) := by
      refine Vec.ext fun i => ?_
      rw [Mat.get_col, Mat.get_col, weights, weights, Mat.get_ofCols, Mat.get_ofCols,
        Fitted.get_take]
    rw [Mat.get_ofFn, Mat.get_ofFn, ← Mat.get_col, ← Mat.get_col, hcol]

/-- **The fit of the first components** has the first columns of the fit of all. -/
theorem fit_take {thinning : Thinning} {cs : List (Component K p)} {j : ℕ} {f g : Fit K p}
    (hf : fit thinning (cs.take j) = some f) (hg : fit thinning cs = some g) :
    f.components = cs.take j ∧ g.components = cs ∧
      Fitted.table f.slimmed = (Fitted.table g.slimmed).firstColumns j := by
  cases thinning with
  | keepAll =>
    obtain rfl := Option.some.inj hf
    obtain rfl := Option.some.inj hg
    exact ⟨rfl, rfl, Fitted.table_ofCols_take cs Component.weight j⟩
  | keep count =>
    obtain rfl := Option.some.inj hf
    obtain rfl := Option.some.inj hg
    exact ⟨rfl, rfl, table_slim_take cs count j⟩
  | meaningless => cases hf

end Simpls

/-! ## 2. Fits with more components -/

namespace Estimator

/-- The matrices that have one column for each component. -/
def columnNames : Estimator → List String
  | simpls _ => ["W", "P", "Q"]
  | kernelPls _ _ _ _ => ["T", "U", "P", "Q"]
  | opls _ => ["P_orth", "W_orth", "T_orth"]
  | _ => ["P", "W", "T"]

/-- The matrices that have one row for each component and are known without the others. -/
def rowNames : Estimator → List String
  | simpls _ => []
  | kernelPls _ _ _ _ => []
  | opls _ => []
  | _ => ["b_hat"]

end Estimator

variable [Scalar K]

/-- **A fit with `k` components extends one with `j`:** of the matrices named in `columns` it has
`k` columns, the first of which are those of the other fit, and of the matrices named in `rows`
it has `k` rows, the first of which are those of the other fit. -/
structure Fitted.Extends (columns rows : List String) (j k : ℕ) (f g : Fitted K n p q) : Prop where
  columns : ∀ name ∈ columns, ∃ a : Table K, g.matrix? name = some a ∧ a.cols = k ∧
    f.matrix? name = some (a.firstColumns j)
  rows : ∀ name ∈ rows, ∃ a : Table K, g.matrix? name = some a ∧ a.rows = k ∧
    f.matrix? name = some (a.firstRows j)

section Methods

variable {tools : Toolkit K} {x : Mat K n p} {j k : ℕ}

theorem Fitted.extends_pls1 {y : Vec K n} {env env' : Envelope K p 1} {predicts : Bool}
    {f g : Pls1.Fit K n p} (hjk : j ≤ k)
    (hf : Pls1.fit tools (Pls1.extraction x y j) = .ok f)
    (hg : Pls1.fit tools (Pls1.extraction x y k) = .ok g) :
    (pls1 env predicts f).Extends ["P", "W", "T"] ["b_hat"] j k (pls1 env' predicts g) := by
  obtain ⟨-, hf, -⟩ := Pls1.fit_eq_ok_iff.mp hf
  obtain ⟨⟨r, hend⟩, hg, -⟩ := Pls1.fit_eq_ok_iff.mp hg
  have hlen : g.components.length = k := hg ▸ length_components_extract hend
  have htake : f.components = g.components.take j := by
    rw [← hf, ← hg]
    exact components_extract_of_le hjk _ _
  obtain ⟨cs, v⟩ := f
  obtain rfl : cs = g.components.take j := htake
  refine ⟨fun name hname => ?_, fun name hname => ?_⟩
  · simp only [List.mem_cons, List.not_mem_nil, or_false] at hname
    rcases hname with rfl | rfl | rfl <;>
      exact ⟨_, rfl, hlen, congrArg some (table_ofCols_take g.components _ j)⟩
  · obtain rfl := List.mem_singleton.mp hname
    exact ⟨_, rfl, hlen, congrArg some (table_ofCol_take g.components _ j)⟩

theorem Fitted.extends_simpls {y : Vec K n} {env env' : Envelope K p 1}
    {thinning : Simpls.Thinning} {f g : Simpls.Fit K p} {r : Simpls.Cross K p} (hjk : j ≤ k)
    (hend : (Simpls.extraction tools x y k).ending = .ok r)
    (hf : Simpls.fit thinning (Simpls.extraction tools x y j).components = some f)
    (hg : Simpls.fit thinning (Simpls.extraction tools x y k).components = some g) :
    (simpls env f : Fitted K n p 1).Extends ["W", "P", "Q"] [] j k (simpls env' g) := by
  have hlen : (Simpls.extraction tools x y k).components.length = k :=
    length_components_extract hend
  rw [show (Simpls.extraction tools x y j).components =
    (Simpls.extraction tools x y k).components.take j from components_extract_of_le hjk _ _] at hf
  obtain ⟨hf, hg, hslimmed⟩ := Simpls.fit_take hf hg
  rw [← hg] at hf hlen
  obtain ⟨cs, slimmed⟩ := f
  obtain rfl : cs = g.components.take j := hf
  refine ⟨fun name hname => ?_, fun name hname => absurd hname List.not_mem_nil⟩
  simp only [List.mem_cons, List.not_mem_nil, or_false] at hname
  rcases hname with rfl | rfl | rfl
  · exact ⟨_, rfl, hlen, congrArg some hslimmed⟩
  · exact ⟨_, rfl, hlen, congrArg some (table_ofCols_take g.components _ j)⟩
  · exact ⟨_, rfl, hlen, congrArg some (rowTable_take g.components _ j)⟩

/-- A fit in feature space keeps the components of its extraction. -/
theorem KernelPls.components_of_fit {data : KernelPls.Prepared K n p q}
    {cs : List (KernelPls.Component K n q)} {r : KernelPls.Residual K n q}
    {f : KernelPls.Fit K n p q} (h : KernelPls.fit tools data cs r = .ok f) : f.components = cs := by
  unfold KernelPls.fit at h
  obtain ⟨matrix, -, h⟩ := bind_eq_ok_iff.mp h
  obtain rfl := Except.ok.inj h
  rfl

theorem Fitted.extends_kernelPls {settings : KernelPls.Settings K}
    {data : KernelPls.Prepared K n p q} {env env' : Envelope K p q} {f g : KernelPls.Fit K n p q}
    {r s : KernelPls.Residual K n q} (hjk : j ≤ k)
    (hend : (KernelPls.extraction tools settings data.centered data.y k).ending = .ok s)
    (hf : KernelPls.fit tools data
      (KernelPls.extraction tools settings data.centered data.y j).components r = .ok f)
    (hg : KernelPls.fit tools data
      (KernelPls.extraction tools settings data.centered data.y k).components s = .ok g) :
    (kernelPls env f).Extends ["T", "U", "P", "Q"] [] j k (kernelPls env' g) := by
  have hf := KernelPls.components_of_fit hf
  have hg := KernelPls.components_of_fit hg
  have hlen : g.components.length = k := hg ▸ length_components_extract hend
  have htake : f.components = g.components.take j := by
    rw [hf, hg]
    exact components_extract_of_le hjk _ _
  obtain ⟨_, _, _, _, _, _, _, cs, _⟩ := f
  obtain rfl : cs = g.components.take j := htake
  refine ⟨fun name hname => ?_, fun name hname => absurd hname List.not_mem_nil⟩
  simp only [List.mem_cons, List.not_mem_nil, or_false] at hname
  rcases hname with rfl | rfl | rfl | rfl <;>
    exact ⟨_, rfl, hlen, congrArg some (table_ofCols_take g.components _ j)⟩

/-- The components of a shorter filter are the first of a longer one. -/
theorem OrthogonalFilter.components_extraction_of_le (hjk : j ≤ k) (x : Mat K n p) (y : Vec K n) :
    (OrthogonalFilter.extraction x y j).components =
      (OrthogonalFilter.extraction x y k).components.take j := by
  unfold OrthogonalFilter.extraction
  cases OrthogonalFilter.initialWeight x y with
  | error e => exact List.take_nil.symm
  | ok w => exact components_extract_of_le hjk _ _

/-- A filter that ends well has as many components as were asked for. -/
theorem OrthogonalFilter.length_components_extraction {y : Vec K n} {r : Mat K n p}
    (h : (OrthogonalFilter.extraction x y k).ending = .ok r) :
    (OrthogonalFilter.extraction x y k).components.length = k := by
  unfold OrthogonalFilter.extraction at h ⊢
  cases hw : OrthogonalFilter.initialWeight x y with
  | error e =>
    rw [hw] at h
    cases h
  | ok w =>
    rw [hw] at h
    exact length_components_extract h

theorem Fitted.extends_opls {y : Vec K n} {env env' : Envelope K p 1} {r s : Mat K n p}
    {base base' : Fitted K n p 1} (hjk : j ≤ k)
    (hend : (OrthogonalFilter.extraction x y k).ending = .ok s) :
    (opls env ⟨(OrthogonalFilter.extraction x y j).components, r⟩ base).Extends
      ["P_orth", "W_orth", "T_orth"] [] j k
      (opls env' ⟨(OrthogonalFilter.extraction x y k).components, s⟩ base') := by
  have hlen := OrthogonalFilter.length_components_extraction hend
  rw [OrthogonalFilter.components_extraction_of_le hjk x y]
  refine ⟨fun name hname => ?_, fun name hname => absurd hname List.not_mem_nil⟩
  simp only [List.mem_cons, List.not_mem_nil, or_false] at hname
  rcases hname with rfl | rfl | rfl <;>
    exact ⟨_, rfl, hlen, congrArg some (table_ofCols_take _ _ j)⟩

end Methods

/-- **A training with more components extends one with fewer,** whatever the method, if both
succeed. -/
theorem train_extends {tools : Toolkit K} {method : Estimator} {scheme : Scheme} {flat : Bool}
    {x : Mat K n p} {y : Mat K n q} {j k : ℕ} {f g : Fitted K n p q} (hjk : j ≤ k)
    (hf : (train tools method ⟨j, scheme⟩ flat x y).outcome = .ok f)
    (hg : (train tools method ⟨k, scheme⟩ flat x y).outcome = .ok g) :
    f.Extends method.columnNames method.rowNames j k g := by
  cases method with
  | plain v =>
    cases v with
    | null =>
      rw [train, ← train] at hf hg
      obtain rfl := eq_one_of_train_pls1 hf
      obtain ⟨fit, hfit, rfl⟩ := train_pls1_eq_ok_iff.mp hf
      obtain ⟨fit', hfit', rfl⟩ := train_pls1_eq_ok_iff.mp hg
      exact Fitted.extends_pls1 hjk hfit hfit'
    | _ => cases hf
  | kernel k => cases hf
  | model algorithm count scheme => cases hf
  | pls1 =>
    obtain rfl := eq_one_of_train_pls1 hf
    obtain ⟨fit, hfit, rfl⟩ := train_pls1_eq_ok_iff.mp hf
    obtain ⟨fit', hfit', rfl⟩ := train_pls1_eq_ok_iff.mp hg
    exact Fitted.extends_pls1 hjk hfit hfit'
  | transformOnly =>
    obtain rfl := eq_one_of_train_transformOnly hf
    obtain ⟨fit, hfit, rfl⟩ := train_transformOnly_eq_ok_iff.mp hf
    obtain ⟨fit', hfit', rfl⟩ := train_transformOnly_eq_ok_iff.mp hg
    exact Fitted.extends_pls1 hjk hfit hfit'
  | simpls coefficients =>
    obtain rfl := eq_one_of_train_simpls hf
    obtain ⟨r, number, fit, -, hnumber, hfit, rfl⟩ := train_simpls_eq_ok_iff.mp hf
    obtain ⟨r', number', fit', hend', hnumber', hfit', rfl⟩ := train_simpls_eq_ok_iff.mp hg
    obtain rfl := Except.ok.inj (hnumber.symm.trans hnumber')
    exact Fitted.extends_simpls hjk hend' hfit hfit'
  | kernelPls kernel tol maxIter seed =>
    obtain ⟨settings, stats, κ, data, r, fit, hsettings, hstats, hκ, hdata, hend, hfit, rfl⟩ :=
      train_kernelPls_eq_ok_iff.mp hf
    obtain ⟨settings', stats', κ', data', r', fit', hsettings', hstats', hκ', hdata', hend', hfit',
      rfl⟩ := train_kernelPls_eq_ok_iff.mp hg
    obtain rfl := Except.ok.inj (hsettings.symm.trans hsettings')
    obtain rfl := Except.ok.inj (hstats.symm.trans hstats')
    obtain rfl := Except.ok.inj (hκ.symm.trans hκ')
    obtain rfl := Except.ok.inj (hdata.symm.trans hdata')
    exact Fitted.extends_kernelPls hjk hend' hfit hfit'
  | opls base =>
    obtain rfl := eq_one_of_train_opls hf
    obtain ⟨_, _, _, r, inner, follower, -, -, -, -, rfl⟩ := train_opls_eq_ok_iff.mp hf
    obtain ⟨_, _, _, r', inner', follower', -, hend', -, -, rfl⟩ := train_opls_eq_ok_iff.mp hg
    exact Fitted.extends_opls hjk hend'

/-! ## 3. Components that cannot be extracted -/

/-- A filter that stops does so for every count beyond the component that fails. -/
theorem OrthogonalFilter.stopsAt_extraction_of_lt {x : Mat K n p} {y : Vec K n} {k k' c : ℕ}
    {e : NumericalError K} (h : (OrthogonalFilter.extraction x y k).StopsAt c e) (hc : c < k') :
    (OrthogonalFilter.extraction x y k').StopsAt c e := by
  unfold OrthogonalFilter.extraction at h ⊢
  cases hw : OrthogonalFilter.initialWeight x y with
  | error e =>
    rw [hw] at h
    exact h
  | ok w =>
    rw [hw] at h
    exact stopsAt_extract_of_lt h hc

theorem outcome_trainPls1 {tools : Toolkit K} {predicts : Bool} {env : Envelope K p 1}
    {x : Mat K n p} {y : Mat K n 1} {k c : ℕ} {e : NumericalError K}
    (h : (Pls1.extraction x y.only k).StopsAt c e) :
    (trainPls1 tools predicts k env x y).outcome = .error (.numerical e) := by
  unfold trainPls1
  rw [Run.outcome_record_bind]
  have hfit : Pls1.fit tools (Pls1.extraction x y.only k) = .error e :=
    bind_eq_error_iff.mpr (.inl h.ending)
  exact Run.outcome_bind_eq_error_iff.mpr (.inl (Run.outcome_numerical_error hfit))

/-- The failure of a fit whose extraction in feature space ends early. -/
def KernelPls.Halt.failure : KernelPls.Halt K → ModelError K
  | inPass e => .numerical e
  | afterPasses _ e => .numerical e
  | noPass => .noScore

/-- **Where the extraction of a method stops:** with `c` components found, the next one fails.  A
filter extracts the components that it filters; those of the model that follows it are components
of another fit. -/
inductive Stops (tools : Toolkit K) : {q : ℕ} → Estimator → Plan → Mat K n p → Mat K n q → ℕ →
    ModelError K → Prop
  | pls1 {plan : Plan} {x : Mat K n p} {y : Mat K n 1} {c : ℕ} {e : NumericalError K}
      (stops : (Pls1.extraction (plan.predictors x) (plan.response y) plan.components).StopsAt c e) :
      Stops tools .pls1 plan x y c (.numerical e)
  | transformOnly {plan : Plan} {x : Mat K n p} {y : Mat K n 1} {c : ℕ} {e : NumericalError K}
      (stops : (Pls1.extraction (plan.predictors x) (plan.response y) plan.components).StopsAt c e) :
      Stops tools .transformOnly plan x y c (.numerical e)
  | simpls {coefficients : Value} {plan : Plan} {x : Mat K n p} {y : Mat K n 1} {c : ℕ}
      {e : NumericalError K}
      (stops : (Simpls.extraction tools (plan.predictors x) (plan.response y)
        plan.components).StopsAt c e) :
      Stops tools (.simpls coefficients) plan x y c (.numerical e)
  | kernelPls {q : ℕ} {kernel : Estimator} {tol maxIter seed : Value} {plan : Plan} {x : Mat K n p}
      {y : Mat K n q} {settings : KernelPls.Settings K}
      {stats : ColumnStats K p × ColumnStats K q} {κ : Kernel} {data : KernelPls.Prepared K n p q}
      {c : ℕ} {halt : KernelPls.Halt K} (accepted : checkIteration tol maxIter seed = .ok settings)
      (centered : KernelPls.center (plan.predictors x) ((plan.scheme.learn y).apply y) = .ok stats)
      (named : kernelOf (K := K) kernel = .ok κ)
      (prepared : KernelPls.prepare κ (plan.predictors x) ((plan.scheme.learn y).apply y) stats =
        .ok data)
      (stops : (KernelPls.extraction tools settings data.centered data.y
        plan.components).StopsAt c halt) :
      Stops tools (.kernelPls kernel tol maxIter seed) plan x y c halt.failure
  | opls {base algorithm : Estimator} {count scheme : Value} {plan : Plan} {x : Mat K n p}
      {y : Mat K n 1} {c : ℕ} {e : NumericalError K}
      (following : base.following = some (algorithm, count, scheme))
      (stops : (OrthogonalFilter.extraction (plan.predictors x) (plan.response y)
        plan.components).StopsAt c e) :
      Stops tools (.opls base) plan x y c (.numerical e)

namespace Stops

variable {tools : Toolkit K} {method : Estimator} {plan : Plan} {scheme : Scheme} {x : Mat K n p}
  {y : Mat K n q} {k k' c : ℕ} {e : ModelError K}

/-- **What cannot be extracted fails the training.** -/
theorem outcome (h : Stops tools method plan x y c e) (flat : Bool) :
    (train tools method plan flat x y).outcome = .error e := by
  cases h with
  | pls1 stops =>
    rw [train, outcome_around, forOne_one]
    exact outcome_trainPls1 stops
  | transformOnly stops =>
    rw [train, outcome_around, forOne_one]
    exact outcome_trainPls1 stops
  | simpls stops =>
    rw [train, outcome_around, forOne_one]
    unfold trainSimpls
    rw [Run.outcome_record_bind]
    exact Run.outcome_bind_eq_error_iff.mpr (.inl (Run.outcome_numerical_error stops.ending))
  | @kernelPls q kernel tol maxIter seed plan x y settings stats κ data c halt accepted centered
      named prepared stops =>
    have hcenter : KernelPls.center ((plan.scheme.learn x).apply x)
        ((plan.scheme.learn y).apply y) = .ok stats := centered
    have hprepare : KernelPls.prepare κ ((plan.scheme.learn x).apply x)
        ((plan.scheme.learn y).apply y) stats = .ok data := prepared
    rw [train, outcome_around]
    unfold trainKernelPls
    simp only [accepted, hcenter, Run.outcome_ok_bind]
    refine Run.outcome_bind_eq_error_iff.mpr (.inr ⟨κ, named, ?_⟩)
    simp only [hprepare, Run.outcome_ok_bind, Run.outcome_record_bind, stops.ending]
    cases halt <;> rfl
  | opls following stops =>
    rw [train_opls_of_following following, outcome_around, forOne_one]
    unfold trainOpls
    rw [Run.outcome_record_bind]
    exact Run.outcome_bind_eq_error_iff.mpr (.inl (Run.outcome_numerical_error stops.ending))

/-- **And it cannot be extracted by a training that goes further.** -/
theorem of_lt (h : Stops tools method ⟨k, scheme⟩ x y c e) (hc : c < k') :
    Stops tools method ⟨k', scheme⟩ x y c e := by
  cases h with
  | pls1 stops => exact .pls1 (stopsAt_extract_of_lt stops hc)
  | transformOnly stops => exact .transformOnly (stopsAt_extract_of_lt stops hc)
  | simpls stops => exact .simpls (stopsAt_extract_of_lt stops hc)
  | kernelPls accepted centered named prepared stops =>
    exact .kernelPls accepted centered named prepared (stopsAt_extract_of_lt stops hc)
  | opls following stops =>
    exact .opls following (OrthogonalFilter.stopsAt_extraction_of_lt stops hc)

end Stops

/-! ## 4. Models -/

namespace Model

/-- A model that is asked for another number of components. -/
def withComponents (m : Model K) (k : ℕ) : Model K := { m with nComponents := .int k }

/-- **Where the fit of a model stops:** settings and data are accepted, and with `c` components
extracted the next one fails. -/
def StopsAt (tools : Toolkit K) (m : Model K) (x y : Reading K) (c : ℕ) (e : ModelError K) : Prop :=
  ∃ (plan : Plan) (sample : Sample K), m.validate x y = .ok ⟨plan, sample⟩ ∧
    Stops tools m.algorithm.methodOr plan sample.x sample.y c e

variable {tools : Toolkit K} {m : Model K} {x y : Reading K} {j k k' c : ℕ} {e : ModelError K}

theorem checkPlan_int_eq_ok_iff {preprocessing : Value} {plan : Plan} :
    checkPlan (.int k) preprocessing = .ok plan ↔
      1 ≤ k ∧ ∃ scheme, Scheme.ofValue? preprocessing = some scheme ∧ ⟨k, scheme⟩ = plan := by
  have hpos : (k : ℤ) < 1 ↔ ¬ 1 ≤ k := by omega
  simp only [checkPlan, Value.strictInteger?, hpos, Int.toNat_natCast]
  by_cases hk : 1 ≤ k
  · rw [if_neg (not_not.mpr hk)]
    cases Scheme.ofValue? preprocessing with
    | none => simp
    | some scheme => simp [hk]
  · rw [if_pos hk]
    simp [hk]

/-- **Models that are asked for another number of components** accept the same data. -/
theorem validate_withComponents_eq_ok_iff {plan : Plan} {sample : Sample K} :
    (m.withComponents k).validate x y = .ok (⟨plan, sample⟩ : Accepted K) ↔
      (1 ≤ k ∧ ∃ scheme, Scheme.ofValue? m.preprocessing = some scheme ∧ ⟨k, scheme⟩ = plan) ∧
        readSample x y = .ok sample ∧
        checkMethod (K := K) m.algorithm.methodOr sample.targets = .ok () := by
  rw [validate_eq_ok_iff, ← checkPlan_int_eq_ok_iff]
  rfl

theorem StopsAt.outcome (h : m.StopsAt tools x y c e) : (m.fit tools x y).2.outcome = .error e := by
  obtain ⟨plan, sample, hvalid, hstops⟩ := h
  unfold fit
  rw [hvalid]
  dsimp only
  rw [hstops.outcome sample.flat]

/-- **A fit that is asked for more stops where it did.** -/
theorem StopsAt.of_lt (h : (m.withComponents k).StopsAt tools x y c e) (hc : c < k') :
    (m.withComponents k').StopsAt tools x y c e := by
  obtain ⟨plan, sample, hvalid, hstops⟩ := h
  obtain ⟨⟨-, scheme, hscheme, rfl⟩, hdata⟩ := validate_withComponents_eq_ok_iff.mp hvalid
  have hpos : 1 ≤ k' := Nat.one_le_of_lt hc
  exact ⟨⟨k', scheme⟩, sample, validate_withComponents_eq_ok_iff.mpr
    ⟨⟨hpos, scheme, hscheme, rfl⟩, hdata⟩, hstops.of_lt hc⟩

/-- **A model that is asked for more components keeps those that it had.**  If two fits of one model
to the same data, asked for `j` and for `k` components, both succeed, the second one has `k` columns
in every matrix with a column for each component, and the first `j` of them are the columns of the
first one; likewise for a matrix with a row for each component.  If a fit fails with `c` components
extracted, every fit that is asked for more fails there in the same way. -/
theorem fit_with_more_components (tools : Toolkit K) (m : Model K) (x y : Reading K) :
    (∀ j k, j ≤ k → ((m.withComponents j).fit tools x y).2.outcome = .ok () →
      ((m.withComponents k).fit tools x y).2.outcome = .ok () →
      (∀ name ∈ m.algorithm.methodOr.columnNames, ∃ a : Table K,
        ((m.withComponents k).fit tools x y).1.matrix? name = some a ∧ a.cols = k ∧
        ((m.withComponents j).fit tools x y).1.matrix? name = some (a.firstColumns j)) ∧
      ∀ name ∈ m.algorithm.methodOr.rowNames, ∃ a : Table K,
        ((m.withComponents k).fit tools x y).1.matrix? name = some a ∧ a.rows = k ∧
        ((m.withComponents j).fit tools x y).1.matrix? name = some (a.firstRows j)) ∧
    ∀ k c e, (m.withComponents k).StopsAt tools x y c e →
      ((m.withComponents k).fit tools x y).2.outcome = .error e ∧
      ∀ k', c < k' → (m.withComponents k').StopsAt tools x y c e ∧
        ((m.withComponents k').fit tools x y).2.outcome = .error e := by
  refine ⟨fun j k hjk hj hk => ?_, fun k c e h => ⟨h.outcome, fun k' hc =>
    ⟨h.of_lt hc, (h.of_lt hc).outcome⟩⟩⟩
  obtain ⟨plan, sample, f, hvalid, hf, hm⟩ := fit_eq_ok_iff.mp ⟨hj, rfl⟩
  obtain ⟨plan', sample', g, hvalid', hg, hm'⟩ := fit_eq_ok_iff.mp ⟨hk, rfl⟩
  obtain ⟨⟨-, scheme, hscheme, rfl⟩, hsample, -⟩ := validate_withComponents_eq_ok_iff.mp hvalid
  obtain ⟨⟨-, scheme', hscheme', rfl⟩, hsample', -⟩ := validate_withComponents_eq_ok_iff.mp hvalid'
  obtain rfl := Option.some.inj (hscheme.symm.trans hscheme')
  obtain rfl := Except.ok.inj (hsample.symm.trans hsample')
  obtain ⟨hcolumns, hrows⟩ := train_extends hjk hf hg
  rw [← hm, ← hm']
  exact ⟨hcolumns, hrows⟩

end Model

/-! ## 5. Two components of crossed rows, and no third -/

namespace CrossedRows

noncomputable def one : Pls1.Fit ℝ 4 2 := ⟨[first], Vec.ofRat ![1 / 2, 0]⟩

theorem fit_one {start : (n seed : ℕ) → Vec ℝ n} :
    Pls1.fit (.exact start) (Pls1.extraction x y 1) = .ok one := by
  rw [Pls1.extraction, extract_succ_ok step_first, extract_zero]
  refine Pls1.fit_of_one ?_ (funext fun i => ?_)
  · simp [first, dotProduct]
  · fin_cases i <;> simp [first]

theorem pls1_fit_one :
    ((pls1.withComponents 1).fit tools predictors responses).2.outcome = .ok () := by
  refine (Model.fit_eq_ok_iff.mpr ⟨⟨1, .center⟩, _, _,
    Model.validate_eq_ok_iff.mpr ⟨by cbv, readSample_eq, rfl⟩,
    train_pls1_eq_ok_iff.mpr ⟨one, ?_, rfl⟩, rfl⟩).1
  dsimp only
  rw [Plan.predictors_of_centered x_centered, response_eq]
  exact fit_one

/-- Nothing is left that a third component could have for its direction. -/
theorem step_rest : Pls1.step x.norm y.norm 2 rest = .error (.zeroNorm (.weight 2)) := by
  have hnorm : (rest.x.applyT rest.y).norm = 0 := by
    rw [Vec.norm_real, Mat.coords_applyT]
    simp [rest]
  have hsmall : (rest.x.applyT rest.y).norm ≤ Scalar.zeroNorm * (x.norm * y.norm) := by
    rw [hnorm]
    exact mul_nonneg Scalar.zeroNorm_pos.le (mul_nonneg x.norm_nonneg y.norm_nonneg)
  refine bind_eq_error_iff.mpr (.inl ?_)
  unfold normalize
  dsimp only
  rw [Scalar.isFinite_real, if_neg (by decide), if_pos hsmall]

theorem stops_three : (pls1.withComponents 3).StopsAt tools predictors responses 2
    (.numerical (.zeroNorm (.weight 2))) := by
  refine ⟨⟨3, .center⟩, _, Model.validate_eq_ok_iff.mpr ⟨by cbv, readSample_eq, rfl⟩, .pls1 ?_⟩
  dsimp only
  rw [Plan.predictors_of_centered x_centered, response_eq, Pls1.extraction,
    extract_succ_ok step_first, extract_succ_ok step_second, extract_succ_error step_rest]
  exact ⟨rfl, rfl⟩

end CrossedRows

open CrossedRows in
/-- Of the crossed rows two components can be extracted.  Asked for two, a model has the first one
and goes on; asked for a third or for more, it fails at the third. -/
theorem Model.fit_with_more_components_crossed_rows :
    (∃ a : Table ℝ, ((pls1.withComponents 2).fit tools predictors responses).1.matrix? "T" = some a ∧
      a.cols = 2 ∧ ((pls1.withComponents 1).fit tools predictors responses).1.matrix? "T" =
        some (a.firstColumns 1)) ∧
    ∀ k, 2 < k → ((pls1.withComponents k).fit tools predictors responses).2.outcome =
      .error (.numerical (.zeroNorm (.weight 2))) := by
  obtain ⟨hextends, hstops⟩ := Model.fit_with_more_components tools pls1 predictors responses
  have hcolumns := (hextends 1 2 one_le_two pls1_fit_one pls1_fit).1
  exact ⟨hcolumns "T" (by decide), fun k hk => ((hstops 3 2 _ stops_three).2 k hk).2⟩

end PartialLeastSquares
