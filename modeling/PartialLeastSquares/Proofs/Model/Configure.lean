/-
# Changing settings by name

A caller changes settings by name with `set_params`, and a fit is discarded once all of them are
changed.  The call is no transaction: a name that is refused ends it, the changes made before it
stay, and the fit stays with them.

What is left of a refused call are the settings that the accepted call with a part of the changes
leaves.  So a refused call has changed nothing exactly if the object held that part before
(`configure_outcome`).
-/
import Mathlib
import PartialLeastSquares.Proofs.Model.Lifecycle
import PartialLeastSquares.Proofs.Settings

namespace PartialLeastSquares

/-! ## 1. Names as texts -/

namespace Estimator

namespace SettingName

/-- The pieces of a text put together again, with a double underscore between them. -/
def spell (pieces : List Char × List (List Char)) : List Char :=
  pieces.1 ++ pieces.2.flatMap fun piece => '_' :: '_' :: piece

theorem spell_cut (name : List Char) : spell (cut name) = name := by
  fun_induction cut name with
  | case1 rest ih =>
    simp only [spell, List.nil_append, List.flatMap_cons, List.cons_append] at ih ⊢
    rw [ih]
  | case2 c rest hne ih =>
    simp only [spell, List.cons_append] at ih ⊢
    rw [ih]
  | case3 => rfl

theorem ofString_injective : Function.Injective ofString := by
  intro a b h
  simp only [ofString, SettingName.mk.injEq] at h
  obtain ⟨hown, hinner⟩ := h
  have hfirst : (cut a.toList).1 = (cut b.toList).1 := String.ofList_injective hown
  have hrest : (cut a.toList).2 = (cut b.toList).2 :=
    List.map_injective_iff.mpr (fun _ _ => String.ofList_injective) hinner
  have hcut : cut a.toList = cut b.toList := Prod.ext hfirst hrest
  have hlist : a.toList = b.toList := by rw [← spell_cut a.toList, hcut, spell_cut]
  exact String.toList_injective hlist

end SettingName

theorem distinct_ofList {changes : List (String × Estimator)}
    (h : (changes.map Prod.fst).Nodup) : (Changes.ofList changes).Distinct := by
  have hnames : (Changes.ofList changes).map Prod.fst =
      (changes.map Prod.fst).map SettingName.ofString := by
    simp [Changes.ofList]
  rw [Changes.Distinct, hnames]
  exact h.map SettingName.ofString_injective

end Estimator

/-! ## 2. Objects -/

namespace ModelObject

open Estimator

variable {K : Type} {o : ModelObject K}

/-- Settings of a model are the settings of an object that takes them on. -/
theorem estimator_withSettings {e : Estimator} (h : e.blank = o.estimator.blank) :
    (o.withSettings e).estimator = e := by
  cases e with
  | model algorithm nComponents preprocessing => rfl
  | _ => cases h

/-- **Changing settings by name, whether it is accepted or refused.**  If the call returns, every
name holds the value given for it and the fit is gone.  If it fails, the fit is still there, and the
settings are those that an accepted call with a part of the changes leaves; they are the settings
from before exactly if that part was there already. -/
theorem configure_outcome (o : ModelObject K) (changes : List (String × Estimator))
    (distinct : (changes.map Prod.fst).Nodup) :
    match o.configure changes with
    | (o', .ok ()) => o'.estimator.Holds (.ofList changes) ∧ o'.attributes = .absent
    | (o', .error _) => o'.attributes = o.attributes ∧ ∃ done, done.Sublist changes ∧
        (o.configure done).2 = .ok () ∧ o'.estimator = (o.configure done).1.estimator ∧
        (o' = o ↔ o.estimator.Holds (.ofList done)) := by
  have hdistinct := distinct_ofList distinct
  unfold configure
  rcases hchange : o.estimator.configure changes with ⟨e, err | ⟨⟩⟩
  · obtain ⟨part, hsub, hpart⟩ := madeInPart _ hdistinct e err hchange
    obtain ⟨done, hdone, rfl⟩ := List.sublist_map_iff.mp hsub
    have hdone' : o.estimator.configure done = (e, .ok ()) := hpart
    have hchanged := changed_of_ok hpart (hdistinct.sublist (hsub.map _))
    have hestimator : (o.withSettings e).estimator = e := estimator_withSettings hchanged.blank
    refine ⟨attributes_withSettings o e, done, hdone, ?_, ?_, ?_, ?_⟩
    · rw [hdone']
    · rw [hdone']
      rfl
    · intro hkept
      rw [hkept] at hestimator
      exact hestimator ▸ holds_of_changed (hdistinct.sublist (hsub.map _)) hchanged
    · intro held
      rw [eq_of_holds (hdistinct.sublist (hsub.map _)) hchanged held]
      rfl
  · have hchanged := changed_of_ok hchange hdistinct
    have hestimator : (o.withSettings e).estimator = e := estimator_withSettings hchanged.blank
    refine ⟨?_, Attributes.reset_eq_absent _⟩
    show (o.withSettings e).estimator.Holds _
    rw [hestimator]
    exact holds_of_changed hdistinct hchanged

open TwoPredictors in
/-- A fitted object, a known name and one that is not known: the number of components is another one
afterwards, and the fit is the one from before. -/
theorem configure_outcome_unknown_name :
    let o := ((new .pls1 (.int 1) (.text "none")).fit tools predictors responses).1
    let changes := [("n_components", .plain (.int 3)), ("zeta", .plain (.int 1))]
    (changes.map Prod.fst).Nodup ∧ o.attributes.state = some earlier ∧
      (o.configure changes).2 = .error (.setting (.unknown "zeta")) ∧
      (o.configure changes).1.attributes = o.attributes ∧ o.nComponents = .int 1 ∧
      (o.configure changes).1.nComponents = .int 3 := by
  intro o changes
  have hdistinct : (changes.map Prod.fst).Nodup := by decide
  have hmodel : o.model = { TwoPredictors.pls1 with trained := some earlier } := by
    rw [← pls1_fit.2]
    exact (congrArg Prod.fst (fit_model tools (new .pls1 (.int 1) (.text "none")) _ _)).symm
  have hchange : o.configure changes = (o.withSettings (.model .pls1 (.int 3) (.text "none")),
      .error (.setting (.unknown "zeta"))) := by
    unfold configure
    rw [show o.estimator = TwoPredictors.pls1.estimator from congrArg Model.estimator hmodel]
    rfl
  have h := configure_outcome o changes hdistinct
  rw [hchange] at h ⊢
  exact ⟨hdistinct, congrArg Model.trained hmodel, rfl, h.1, congrArg Model.nComponents hmodel, rfl⟩

end ModelObject

end PartialLeastSquares
