/-
# Settings by name

What changing settings by name comes to: the loop over names that `PLSModel.set_params` inherits.
An object has the settings of its class, and putting something into one of them leaves the others
alone (`setting?_set_self`, `setting?_set_of_ne`); an object is known by its class and its
settings (`eq_of_settings`).

A list of changes is made in the object first and then inside its settings, and stops at the first
name that is refused.  Two facts describe it:

* if it is accepted, every setting holds what has been put there with the changes inside it, and
  nothing but that (`changed_of_ok`), so that the object holds all that was asked for
  (`holds_of_changed`);
* if it is refused, what has been made of it is a list of changes of its own, which is accepted
  (`madeInPart`).
-/
import Mathlib
import PartialLeastSquares.Model.Estimator

namespace PartialLeastSquares

/-! ## 1. One setting -/

def Kernel.blank : Kernel → Kernel
  | linear => linear
  | poly _ _ _ => poly .null .null .null
  | rbf _ => rbf .null

namespace Estimator

/-- **The class of an object:** the object with its settings forgotten.  A value is its own. -/
def blank : Estimator → Estimator
  | kernel k => kernel k.blank
  | simpls _ => simpls .null
  | kernelPls _ _ _ _ => kernelPls (.plain .null) .null .null .null
  | opls _ => opls (.plain .null)
  | model _ _ _ => model (.plain .null) .null .null
  | e => e

/-- What a setting holds once something has been put there: an object stays one only where an
object belongs. -/
def kept (setting : String) (v : Estimator) : Estimator :=
  if setting ∈ ["algorithm", "base", "kernel"] then v else .plain v.toValue

/-- Changing a setting leaves the class. -/
@[simp]
theorem blank_set (e : Estimator) (name : String) (v : Estimator) :
    (e.set name v).blank = e.blank := by
  cases e with
  | kernel k => cases k with
    | linear => rfl
    | poly _ _ _ => simp only [set, Kernel.set?]; split_ifs <;> rfl
    | rbf _ => simp only [set, Kernel.set?]; split_ifs <;> rfl
  | kernelPls _ _ _ _ => simp only [set]; split_ifs <;> rfl
  | model _ _ _ => simp only [set]; split_ifs <;> rfl
  | simpls _ => simp only [set]; split_ifs <;> rfl
  | opls _ => simp only [set]; split_ifs <;> rfl
  | plain _ => rfl
  | pls1 => rfl
  | transformOnly => rfl

theorem setting?_kernel (k : Kernel) (name : String) :
    (kernel k).setting? name = match k with
      | .linear => none
      | .poly degree gamma coef0 =>
        if name = "degree" then some (plain degree)
        else if name = "gamma" then some (plain gamma)
        else if name = "coef0" then some (plain coef0)
        else none
      | .rbf gamma => if name = "gamma" then some (plain gamma) else none := by
  cases k with
  | linear => rfl
  | poly _ _ _ => simp only [setting?, Kernel.parameters, List.find?_cons]; grind
  | rbf _ => simp only [setting?, Kernel.parameters, List.find?_cons]; grind

theorem setting?_set_self {e old : Estimator} {name : String} (h : e.setting? name = some old)
    (v : Estimator) : (e.set name v).setting? name = some (kept name v) := by
  cases e with
  | kernel k =>
    rw [setting?_kernel] at h
    cases k with
    | linear => cases h
    | poly _ _ _ =>
      simp only [] at h
      split_ifs at h <;> simp_all [set, setting?_kernel, kept, Kernel.set?]
    | rbf _ =>
      simp only [] at h
      split_ifs at h; simp_all [set, setting?_kernel, kept, Kernel.set?]
  | kernelPls _ _ _ _ =>
    simp only [setting?] at h
    split_ifs at h <;> simp_all [set, setting?, kept]
  | model _ _ _ =>
    simp only [setting?] at h
    split_ifs at h <;> simp_all [set, setting?, kept]
  | simpls _ =>
    simp only [setting?] at h
    split_ifs at h; simp_all [set, setting?, kept]
  | opls _ =>
    simp only [setting?] at h
    split_ifs at h; simp_all [set, setting?, kept]
  | plain _ => cases h
  | pls1 => cases h
  | transformOnly => cases h

theorem setting?_set_of_ne {m name : String} (h : m ≠ name) (e v : Estimator) :
    (e.set name v).setting? m = e.setting? m := by
  cases e with
  | kernel k =>
    cases k with
    | linear => rfl
    | poly _ _ _ =>
      simp only [set, Kernel.set?]
      split_ifs <;> simp_all [setting?_kernel]
    | rbf _ =>
      simp only [set, Kernel.set?]
      split_ifs <;> simp_all [setting?_kernel]
  | kernelPls _ _ _ _ => simp only [set]; split_ifs <;> simp_all [setting?]
  | model _ _ _ => simp only [set]; split_ifs <;> simp_all [setting?]
  | simpls _ => simp only [set]; split_ifs <;> simp_all [setting?]
  | opls _ => simp only [set]; split_ifs <;> simp_all [setting?]
  | plain _ => rfl
  | pls1 => rfl
  | transformOnly => rfl

theorem isSome_setting?_of_blank {e e' : Estimator} (h : e.blank = e'.blank) (name : String) :
    (e.setting? name).isSome = (e'.setting? name).isSome := by
  cases e <;> cases e' <;> simp_all [blank, setting?_kernel]
  · rename_i k k'
    cases k <;> cases k' <;> simp_all [Kernel.blank] <;> split_ifs <;> rfl
  all_goals simp only [setting?]; split_ifs <;> rfl

/-- **An object is known by its class and its settings.** -/
theorem eq_of_settings {e e' : Estimator} (h : e.blank = e'.blank)
    (hs : ∀ name, e.setting? name = e'.setting? name) : e = e' := by
  cases e <;> cases e' <;> simp_all [blank]
  · rename_i k k'
    have h1 := hs "gamma"
    have h2 := hs "coef0"
    have h3 := hs "degree"
    cases k <;> cases k' <;> simp_all [setting?_kernel, Kernel.blank]
  · simpa [setting?] using hs "num_coefficients"
  · have h1 := hs "kernel"
    have h2 := hs "tol"
    have h3 := hs "max_iter"
    have h4 := hs "seed"
    simp_all [setting?]
  · simpa [setting?] using hs "base"
  · have h1 := hs "algorithm"
    have h2 := hs "n_components"
    have h3 := hs "preprocessing"
    simp_all [setting?]

theorem kept_of_configurable {e inner : Estimator} {name : String}
    (h : e.setting? name = some inner) (hc : inner.configurable) (v : Estimator) :
    kept name v = v := by
  cases e with
  | kernel k =>
    obtain ⟨s, -, rfl⟩ := Option.map_eq_some_iff.1 h
    cases hc
  | kernelPls _ _ _ _ =>
    simp only [setting?] at h
    split_ifs at h <;> simp_all [kept, configurable] <;> grind
  | model _ _ _ =>
    simp only [setting?] at h
    split_ifs at h <;> simp_all [kept, configurable] <;> grind
  | simpls _ =>
    simp only [setting?] at h
    split_ifs at h
    cases h
    cases hc
  | opls _ =>
    simp only [setting?] at h
    split_ifs at h
    simp_all [kept]
  | plain _ => cases h
  | pls1 => cases h
  | transformOnly => cases h

/-! ## 2. Lists of changes -/

namespace Changes

variable {changes : Changes} {own : String}

def Distinct (changes : Changes) : Prop := (changes.map Prod.fst).Nodup

/-- The value given for a setting of the object itself. -/
def own? (changes : Changes) (own : String) : Option Estimator :=
  (changes.find? fun c => c.1 = ⟨own, []⟩).map Prod.snd

@[simp]
theorem depth_cons (c : SettingName × Estimator) (changes : Changes) :
    depth (c :: changes) = max (c.1.inner.length + 1) changes.depth := rfl

theorem within_cons_inner (own o first : String) (rest : List String) (v : Estimator)
    (changes : Changes) :
    within own ((⟨o, first :: rest⟩, v) :: changes) =
      if o = own then (⟨first, rest⟩, v) :: changes.within own else changes.within own := by
  unfold within
  rw [List.filterMap_cons]
  split_ifs with h <;> simp [h]

theorem mem_within {c : SettingName × Estimator} :
    c ∈ changes.within own ↔ (⟨own, c.1.own :: c.1.inner⟩, c.2) ∈ changes := by
  simp only [within, List.mem_filterMap]
  constructor
  · rintro ⟨⟨⟨o, inner⟩, v⟩, hmem, hc⟩
    cases inner with
    | nil => cases hc
    | cons first rest =>
      simp only at hc
      split_ifs at hc with ho
      cases hc
      exact ho ▸ hmem
  · intro hmem
    exact ⟨_, hmem, by simp⟩

theorem Distinct.within (h : changes.Distinct) (own : String) : (changes.within own).Distinct := by
  unfold Distinct at *
  induction changes with
  | nil => exact List.nodup_nil
  | cons c rest ih =>
    rw [List.map_cons, List.nodup_cons] at h
    obtain ⟨⟨o, inner⟩, v⟩ := c
    cases inner with
    | nil => exact ih h.2
    | cons first inner =>
      rw [within_cons_inner]
      split_ifs with ho
      · subst ho
        refine List.nodup_cons.2 ⟨?_, ih h.2⟩
        intro hmem
        obtain ⟨c, hc, hname⟩ := List.mem_map.1 hmem
        exact h.1 (List.mem_map.2 ⟨_, mem_within.1 hc, by rw [hname]⟩)
      · exact ih h.2

theorem own?_cons (c : SettingName × Estimator) (changes : Changes) (n : String) :
    own? (c :: changes) n = if c.1 = ⟨n, []⟩ then some c.2 else changes.own? n := by
  unfold own?
  rw [List.find?_cons]
  split <;> simp_all

theorem own?_eq_some (h : changes.Distinct) {v : Estimator}
    (hmem : (⟨own, []⟩, v) ∈ changes) : changes.own? own = some v := by
  unfold Distinct at h
  induction changes with
  | nil => cases hmem
  | cons c rest ih =>
    rw [List.map_cons, List.nodup_cons] at h
    rw [own?_cons]
    rcases List.mem_cons.1 hmem with rfl | hmem
    · exact if_pos rfl
    · have hne : c.1 ≠ ⟨own, []⟩ := by
        intro heq
        exact h.1 (List.mem_map.2 ⟨_, hmem, heq.symm⟩)
      rw [if_neg hne]
      exact ih h.2 hmem

theorem own?_eq_none (h : ∀ v, (⟨own, []⟩, v) ∉ changes) : changes.own? own = none := by
  unfold own?
  rw [Option.map_eq_none_iff, List.find?_eq_none]
  intro c hc heq
  exact h c.2 ((of_decide_eq_true heq) ▸ hc)

theorem nodup_eraseDups (names : List String) : names.eraseDups.Nodup := by
  match names with
  | [] => exact List.nodup_nil
  | name :: rest =>
    rw [List.eraseDups_cons, List.nodup_cons]
    refine ⟨?_, nodup_eraseDups _⟩
    simp [List.mem_eraseDups]
termination_by names.length
decreasing_by exact Nat.lt_succ_of_le (List.length_filter_le _ _)

theorem nodup_owners (changes : Changes) : changes.owners.Nodup := nodup_eraseDups _

theorem mem_owners : own ∈ changes.owners ↔ changes.within own ≠ [] := by
  unfold owners
  rw [List.mem_eraseDups, List.mem_filterMap]
  constructor
  · rintro ⟨⟨⟨o, inner⟩, v⟩, hmem, h⟩
    cases inner with
    | nil => cases h
    | cons first rest =>
      cases h
      exact List.ne_nil_of_mem (mem_within.2 hmem : (⟨first, rest⟩, v) ∈ _)
  · intro h
    obtain ⟨c, hc⟩ := List.exists_mem_of_ne_nil _ h
    exact ⟨_, mem_within.1 hc, rfl⟩

theorem length_lt_depth {c : SettingName × Estimator} (h : c ∈ changes) :
    c.1.inner.length < changes.depth := by
  induction changes with
  | nil => cases h
  | cons first rest ih =>
    rw [depth_cons]
    rcases List.mem_cons.1 h with rfl | h
    · omega
    · have := ih h
      omega

theorem depth_le {d : Nat} (h : ∀ c ∈ changes, c.1.inner.length < d) : changes.depth ≤ d := by
  induction changes with
  | nil => exact Nat.zero_le d
  | cons first rest ih =>
    rw [depth_cons]
    have hfirst := h first (by simp)
    have hrest := ih fun c hc => h c (by simp [hc])
    omega

theorem depth_within_le {d : Nat} (h : changes.depth ≤ d + 1) (own : String) :
    (changes.within own).depth ≤ d := by
  refine depth_le fun c hc => ?_
  have := length_lt_depth (mem_within.1 hc)
  simp only [List.length_cons] at this
  omega

theorem depth_within_lt {o : String} (h : o ∈ changes.owners) :
    (changes.within o).depth < changes.depth := by
  obtain ⟨c, hc⟩ := List.exists_mem_of_ne_nil _ (mem_owners.1 h)
  have hpos : 0 < changes.depth := Nat.lt_of_le_of_lt (Nat.zero_le _)
    (length_lt_depth (mem_within.1 hc))
  have hle : (changes.within o).depth ≤ changes.depth - 1 := depth_within_le (by omega) o
  omega

theorem depth_le_of_sublist {done : Changes} (h : done.Sublist changes) :
    done.depth ≤ changes.depth :=
  depth_le fun _ hc => length_lt_depth (h.subset hc)

theorem eq_nil_of_depth (h : changes.depth ≤ 0) : changes = [] := by
  cases changes with
  | nil => rfl
  | cons c rest =>
    have : c.1.inner.length < depth (c :: rest) := length_lt_depth List.mem_cons_self
    omega

/-- **Parts of the changes inside settings make a part of the changes,** the changes of the object
itself being kept. -/
theorem exists_sublist {part : String → Changes}
    (h : ∀ o, (part o).Sublist (changes.within o)) :
    ∃ done : Changes, done.Sublist changes ∧ (∀ n, done.own? n = changes.own? n) ∧
      ∀ o, done.within o = part o := by
  induction changes generalizing part with
  | nil => exact ⟨[], .slnil, fun _ => rfl, fun o => (List.sublist_nil.1 (h o)).symm⟩
  | cons c rest ih =>
    obtain ⟨⟨o, inner⟩, v⟩ := c
    cases inner with
    | nil =>
      obtain ⟨done, hsub, hown, hwithin⟩ := ih h
      exact ⟨_ :: done, hsub.cons_cons _, fun n => by simp only [own?_cons, hown], hwithin⟩
    | cons first inner =>
      have hskip : ∀ m, m ≠ o → (part m).Sublist (within m rest) := by
        intro m hm
        simpa [within_cons_inner, Ne.symm hm] using h m
      have ho := h o
      rw [within_cons_inner, if_pos rfl] at ho
      rcases List.sublist_cons_iff.1 ho with hdrop | ⟨sub, hpart, hkeep⟩
      · have hall : ∀ m, (part m).Sublist (within m rest) := by
          intro m
          by_cases hm : m = o
          · exact hm ▸ hdrop
          · exact hskip m hm
        obtain ⟨done, hsub, hown, hwithin⟩ := ih hall
        exact ⟨done, hsub.cons _, fun n => by simp [own?_cons, hown], hwithin⟩
      · have hall : ∀ m, (Function.update part o sub m).Sublist (within m rest) := by
          intro m
          by_cases hm : m = o
          · rw [hm, Function.update_self]
            exact hkeep
          · rw [Function.update_of_ne hm]
            exact hskip m hm
        obtain ⟨done, hsub, hown, hwithin⟩ := ih hall
        refine ⟨_ :: done, hsub.cons_cons _, fun n => by simp [own?_cons, hown], fun m => ?_⟩
        rw [within_cons_inner, hwithin]
        by_cases hm : m = o
        · rw [hm, if_pos rfl, Function.update_self, hpart]
        · rw [if_neg (Ne.symm hm), Function.update_of_ne hm]

end Changes

/-! ## 3. An object's own settings -/

/-- What a setting holds when the object's own changes have been made. -/
def slot? (e : Estimator) (changes : Changes) (name : String) : Option Estimator :=
  (e.setting? name).map fun old => ((changes.own? name).map (kept name)).getD old

/-- **Own changes that are accepted** name settings that the object has, and change no others. -/
theorem assignOwn_ok {e e' : Estimator} {changes : Changes}
    (h : assignOwn e changes = (e', .ok ())) (distinct : changes.Distinct) :
    e'.blank = e.blank ∧ (∀ c ∈ changes, (e.setting? c.1.own).isSome) ∧
      ∀ n, e'.setting? n = e.slot? changes n := by
  induction changes generalizing e with
  | nil =>
    cases h
    refine ⟨rfl, by simp, fun n => ?_⟩
    simp [slot?, Changes.own?]
  | cons c rest ih =>
    obtain ⟨⟨own, inner⟩, v⟩ := c
    rw [Changes.Distinct, List.map_cons, List.nodup_cons] at distinct
    obtain ⟨hnew, distinct⟩ := distinct
    unfold assignOwn at h
    cases hold : e.setting? own with
    | none => simp [hold] at h
    | some old =>
      rw [hold] at h
      cases inner with
      | nil =>
        obtain ⟨hblank, hknown, hsettings⟩ := ih (e := e.set own v) h distinct
        rw [blank_set] at hblank
        have hsome n := isSome_setting?_of_blank (blank_set e own v) n
        refine ⟨hblank, fun c hc => ?_, fun n => ?_⟩
        · rcases List.mem_cons.1 hc with rfl | hc
          · simp [hold]
          · rw [← hsome]
            exact hknown c hc
        · rw [hsettings, slot?, slot?, Changes.own?_cons]
          by_cases hn : own = n
          · subst hn
            have hrest : Changes.own? rest own = none := by
              refine Changes.own?_eq_none fun w hw => hnew ?_
              exact List.mem_map.2 ⟨_, hw, rfl⟩
            rw [setting?_set_self hold, hold, hrest, if_pos rfl]
            rfl
          · rw [setting?_set_of_ne (Ne.symm hn), if_neg (by simpa using hn)]
      | cons first inner =>
        obtain ⟨hblank, hknown, hsettings⟩ := ih (e := e) h distinct
        refine ⟨hblank, fun c hc => ?_, fun n => ?_⟩
        · rcases List.mem_cons.1 hc with rfl | hc
          · simp [hold]
          · exact hknown c hc
        · rw [hsettings, slot?, slot?, Changes.own?_cons, if_neg (by simp)]

/-- Own changes are accepted when every name begins with a setting of the object. -/
theorem exists_assignOwn {e : Estimator} {changes : Changes}
    (h : ∀ c ∈ changes, (e.setting? c.1.own).isSome) :
    ∃ e', assignOwn e changes = (e', .ok ()) := by
  induction changes generalizing e with
  | nil => exact ⟨e, rfl⟩
  | cons c rest ih =>
    obtain ⟨⟨own, inner⟩, v⟩ := c
    obtain ⟨old, hold⟩ := Option.isSome_iff_exists.1 (h _ List.mem_cons_self)
    unfold assignOwn
    rw [show e.setting? own = some old from hold]
    refine ih fun c hc => ?_
    have hc := h c (List.mem_cons_of_mem _ hc)
    split_ifs
    · rwa [isSome_setting?_of_blank (blank_set e own v)]
    · exact hc

/-- Own changes that are refused have been made up to the refusal. -/
theorem assignOwn_error {e e' : Estimator} {changes : Changes} {err : SettingError}
    (h : assignOwn e changes = (e', .error err)) :
    ∃ done : Changes, done.Sublist changes ∧ (∀ c ∈ done, c.1.inner = []) ∧
      assignOwn e done = (e', .ok ()) := by
  induction changes generalizing e with
  | nil => cases h
  | cons c rest ih =>
    obtain ⟨⟨own, inner⟩, v⟩ := c
    unfold assignOwn at h
    cases hold : e.setting? own with
    | none =>
      rw [hold] at h
      cases h
      exact ⟨[], List.nil_sublist _, by simp, rfl⟩
    | some old =>
      rw [hold] at h
      obtain ⟨done, hsub, hown, hdone⟩ := ih h
      cases inner with
      | nil =>
        refine ⟨(⟨own, []⟩, v) :: done, hsub.cons_cons _, ?_, ?_⟩
        · simpa using hown
        · simpa [assignOwn, hold] using hdone
      | cons first inner => exact ⟨done, hsub.cons _, hown, hdone⟩

/-! ## 4. Changes inside settings -/

theorem change_nil (e : Estimator) : e.change [] = (e, .ok ()) := rfl

theorem forward_congr {f g : Estimator → Changes → Estimator × Except SettingError Unit}
    (changes : Changes) (owners : List String)
    (h : ∀ o ∈ owners, ∀ inner, f inner (changes.within o) = g inner (changes.within o))
    (e : Estimator) : forward f changes e owners = forward g changes e owners := by
  induction owners generalizing e with
  | nil => rfl
  | cons owner rest ih =>
    simp only [forward]
    simp only [h owner List.mem_cons_self, ih fun o ho => h o (List.mem_cons_of_mem _ ho)]

/-- A bound on the depth that is large enough makes no difference. -/
theorem changeWithin_eq {d d' : Nat} {changes : Changes} (h : changes.depth ≤ d)
    (h' : changes.depth ≤ d') (e : Estimator) :
    changeWithin d e changes = changeWithin d' e changes := by
  induction d generalizing d' e changes with
  | zero =>
    cases Changes.eq_nil_of_depth h
    cases d' <;> rfl
  | succ d ih =>
    cases d' with
    | zero => cases Changes.eq_nil_of_depth h'; rfl
    | succ d' =>
      unfold changeWithin
      have hforward := forward_congr changes changes.owners
        fun o _ inner => ih (Changes.depth_within_le h o) (Changes.depth_within_le h' o) inner
      simp only [hforward]

/-- **Changes by name are made in the object first, and then inside its settings.** -/
theorem change_eq (e : Estimator) (changes : Changes) :
    e.change changes = match assignOwn e changes with
      | (e, .error err) => (e, .error err)
      | (e, .ok ()) => forward change changes e changes.owners := by
  have hforward := forward_congr (f := changeWithin changes.depth) (g := change) changes
    changes.owners
    fun o _ inner => changeWithin_eq (Changes.depth_within_le (Nat.le_succ _) o) (le_refl _) inner
  calc e.change changes = changeWithin (changes.depth + 1) e changes :=
        changeWithin_eq (le_refl _) (Nat.le_succ _) e
    _ = _ := by
        rw [changeWithin]
        rcases assignOwn e changes with ⟨e, err | ⟨⟩⟩
        · rfl
        · exact hforward e

/-- **What changes inside settings come to:** `part` says which have been made in which setting.
Where something has been changed there is an object that accepts it; the class is the same, and
the settings are those from before with the changes in them. -/
structure Forwarded (e e' : Estimator) (part : String → Changes) : Prop where
  accepted : ∀ o, part o ≠ [] → ∃ inner, e.setting? o = some inner ∧ inner.configurable ∧
    (inner.change (part o)).2 = .ok ()
  blank : e'.blank = e.blank
  setting : ∀ n, e'.setting? n = (e.setting? n).map fun inner => (inner.change (part n)).1

namespace Forwarded

variable {e e' e'' : Estimator} {part : String → Changes}

theorem refl (e : Estimator) : Forwarded e e fun _ => [] where
  accepted o h := absurd rfl h
  blank := rfl
  setting n := by simp [change_nil]

theorem unique (h : Forwarded e e' part) (h' : Forwarded e e'' part) : e' = e'' :=
  eq_of_settings (h.blank.trans h'.blank.symm) fun n => (h.setting n).trans (h'.setting n).symm

theorem cons {owner : String} {inner changed : Estimator} {done : Changes}
    (hinner : e.setting? owner = some inner) (hobject : inner.configurable)
    (hdone : inner.change done = (changed, .ok ()))
    (h : Forwarded (e.set owner changed) e' part) (hpart : part owner = []) :
    Forwarded e e' (Function.update part owner done) where
  accepted o ho := by
    by_cases heq : o = owner
    · subst heq
      rw [Function.update_self]
      exact ⟨inner, hinner, hobject, by rw [hdone]⟩
    · rw [Function.update_of_ne heq] at ho ⊢
      rw [← setting?_set_of_ne heq e changed]
      exact h.accepted o ho
  blank := h.blank.trans (blank_set e owner changed)
  setting n := by
    rw [h.setting]
    by_cases heq : n = owner
    · subst heq
      rw [Function.update_self, setting?_set_self hinner, kept_of_configurable hinner hobject,
        hinner, hpart, Option.map_some, Option.map_some, hdone]
      rfl
    · rw [Function.update_of_ne heq, setting?_set_of_ne heq]

end Forwarded

/-- A refused change has made a part of the changes asked for, which is accepted by itself. -/
def MadeInPart (e : Estimator) (changes : Changes) : Prop :=
  ∀ e' err, e.change changes = (e', .error err) →
    ∃ done : Changes, done.Sublist changes ∧ e.change done = (e', .ok ())

/-- A part of the changes for each setting, and a part of those for one setting in particular. -/
theorem sublist_update {changes : Changes} {part : String → Changes} {owner : String}
    {done : Changes} (hpart : ∀ o, (part o).Sublist (changes.within o))
    (hdone : done.Sublist (changes.within owner)) (o : String) :
    (Function.update part owner done o).Sublist (changes.within o) := by
  by_cases heq : o = owner
  · rw [heq, Function.update_self]
    exact hdone
  · rw [Function.update_of_ne heq]
    exact hpart o

theorem exists_forwarded {changes : Changes} {owners : List String} {e e' : Estimator}
    {r : Except SettingError Unit}
    (h : forward change changes e owners = (e', r))
    (distinct : owners.Nodup)
    (inside : ∀ o ∈ owners, ∀ inner, MadeInPart inner (changes.within o)) :
    ∃ part : String → Changes, Forwarded e e' part ∧
      (∀ o, (part o).Sublist (changes.within o)) ∧ (∀ o, o ∉ owners → part o = []) ∧
      (r = .ok () → ∀ o ∈ owners, part o = changes.within o) := by
  induction owners generalizing e with
  | nil =>
    cases h
    exact ⟨_, .refl _, fun o => List.nil_sublist _, fun o _ => rfl, by simp⟩
  | cons owner rest ih =>
    rw [List.nodup_cons] at distinct
    have stopped (err : SettingError) (h : (e, Except.error err) = (e', r)) :
        ∃ part : String → Changes, Forwarded e e' part ∧
          (∀ o, (part o).Sublist (changes.within o)) ∧ (∀ o, o ∉ owner :: rest → part o = []) ∧
          (r = .ok () → ∀ o ∈ owner :: rest, part o = changes.within o) := by
      cases h
      exact ⟨_, .refl _, fun o => List.nil_sublist _, fun o _ => rfl, by simp⟩
    unfold forward at h
    cases hinner : e.setting? owner with
    | none =>
      rw [hinner] at h
      exact stopped _ h
    | some inner =>
      rw [hinner] at h
      by_cases hobject : inner.configurable
      · simp only [hobject, if_true] at h
        rcases hchange : inner.change (changes.within owner) with ⟨changed, err | ⟨⟩⟩
        · rw [hchange] at h
          cases h
          obtain ⟨done, hsub, hdone⟩ := inside owner List.mem_cons_self inner changed err hchange
          refine ⟨_, (Forwarded.refl _).cons hinner hobject hdone rfl,
            sublist_update (fun o => List.nil_sublist _) hsub, fun o ho => ?_, by simp⟩
          rw [Function.update_of_ne (by grind)]
        · rw [hchange] at h
          obtain ⟨part, hforwarded, hpart, hothers, hall⟩ := ih h distinct.2
            fun o ho => inside o (List.mem_cons_of_mem _ ho)
          refine ⟨_, hforwarded.cons hinner hobject hchange (hothers owner distinct.1),
            sublist_update hpart (List.Sublist.refl _), fun o ho => ?_, fun hr o ho => ?_⟩
          · rw [List.mem_cons, not_or] at ho
            rw [Function.update_of_ne ho.1]
            exact hothers o ho.2
          · by_cases heq : o = owner
            · rw [heq, Function.update_self]
            · rw [Function.update_of_ne heq]
              exact hall hr o (by simpa [heq] using ho)
      · simp only [hobject] at h
        exact stopped _ h

theorem forwarded_of_ok {changes : Changes} {e e' : Estimator}
    (h : forward change changes e changes.owners = (e', .ok ()))
    (inside : ∀ o ∈ changes.owners, ∀ inner, MadeInPart inner (changes.within o)) :
    Forwarded e e' changes.within := by
  obtain ⟨part, hforwarded, -, hothers, hall⟩ := exists_forwarded h changes.nodup_owners inside
  have hpart : part = changes.within := by
    funext o
    by_cases ho : o ∈ changes.owners
    · exact hall rfl o ho
    · rw [hothers o ho]
      exact (not_not.1 (mt Changes.mem_owners.2 ho)).symm
  exact hpart ▸ hforwarded

/-- Changes inside settings are accepted when the objects there accept them. -/
theorem exists_forward {changes : Changes} {owners : List String} {e : Estimator}
    (distinct : owners.Nodup)
    (h : ∀ o ∈ owners, ∃ inner, e.setting? o = some inner ∧ inner.configurable ∧
      (inner.change (changes.within o)).2 = .ok ()) :
    ∃ e', forward change changes e owners = (e', .ok ()) := by
  induction owners generalizing e with
  | nil => exact ⟨e, rfl⟩
  | cons owner rest ih =>
    rw [List.nodup_cons] at distinct
    obtain ⟨inner, hinner, hobject, hok⟩ := h owner List.mem_cons_self
    rcases hchange : inner.change (changes.within owner) with ⟨changed, r⟩
    rw [hchange] at hok
    cases hok
    unfold forward
    simp only [hinner, hobject, if_true, hchange]
    refine ih distinct.2 fun o ho => ?_
    have hne : o ≠ owner := by
      rintro rfl
      exact distinct.1 ho
    rw [setting?_set_of_ne hne]
    exact h o (List.mem_cons_of_mem _ ho)

/-! ## 5. Changes as a whole -/

/-- **A refused change has made a part of the changes asked for.** -/
theorem madeInPart (e : Estimator) {changes : Changes} (distinct : changes.Distinct) :
    MadeInPart e changes := by
  induction hd : changes.depth using Nat.strong_induction_on generalizing e changes with
  | _ d ih =>
  intro e' err h
  rw [change_eq] at h
  rcases hown : e.assignOwn changes with ⟨e₁, err' | ⟨⟩⟩
  · rw [hown] at h
    cases h
    obtain ⟨done, hsub, hinner, hdone⟩ := assignOwn_error hown
    have howners : done.owners = [] := by
      refine List.eq_nil_iff_forall_not_mem.2 fun o ho => ?_
      obtain ⟨c, hc⟩ := List.exists_mem_of_ne_nil _ (Changes.mem_owners.1 ho)
      exact List.cons_ne_nil _ _ (hinner _ (Changes.mem_within.1 hc))
    refine ⟨done, hsub, ?_⟩
    rw [change_eq, hdone, howners]
    rfl
  · rw [hown] at h
    have inside {part : Changes} (hsub : part.Sublist changes) :
        ∀ o ∈ part.owners, ∀ inner, MadeInPart inner (part.within o) := by
      intro o ho inner
      have hlt := Changes.depth_within_lt ho
      have hle := Changes.depth_le_of_sublist hsub
      exact ih _ (by omega) inner (Changes.Distinct.within (distinct.sublist (hsub.map _)) o) rfl
    obtain ⟨part, hforwarded, hpart, -, -⟩ :=
      exists_forwarded h changes.nodup_owners (inside (.refl _))
    obtain ⟨done, hsub, hsame, hwithin⟩ := Changes.exists_sublist hpart
    obtain ⟨hblank, hknown, hsettings⟩ := assignOwn_ok hown distinct
    -- the object's own changes are the same, so that the rest begins at the same object
    have hown' : e.assignOwn done = (e₁, .ok ()) := by
      obtain ⟨e₂, h₂⟩ := exists_assignOwn fun c hc => hknown c (hsub.subset hc)
      obtain ⟨hblank₂, -, hsettings₂⟩ := assignOwn_ok h₂ (distinct.sublist (hsub.map _))
      rw [h₂, eq_of_settings (hblank₂.trans hblank.symm) fun n => ?_]
      rw [hsettings, hsettings₂, slot?, slot?, hsame]
    have haccepted : ∀ o ∈ done.owners, ∃ inner, e₁.setting? o = some inner ∧ inner.configurable ∧
        (inner.change (done.within o)).2 = .ok () := by
      intro o ho
      have := Changes.mem_owners.1 ho
      rw [hwithin] at this ⊢
      exact hforwarded.accepted o this
    obtain ⟨e₂, h₂⟩ := exists_forward done.nodup_owners haccepted
    have hforwarded₂ := forwarded_of_ok h₂ (inside hsub)
    rw [funext hwithin] at hforwarded₂
    refine ⟨done, hsub, ?_⟩
    rw [change_eq, hown', hforwarded.unique hforwarded₂]
    exact h₂

/-- **What a change leaves when it is accepted:** an object of the same class, in which every name
begins with a setting, and every setting holds what has been put there, with the changes inside
it, which the object there accepts. -/
structure Changed (e e' : Estimator) (changes : Changes) : Prop where
  known : ∀ c ∈ changes, (e.setting? c.1.own).isSome
  accepted : ∀ o, changes.within o ≠ [] → ∃ inner, e.slot? changes o = some inner ∧
    (inner.change (changes.within o)).2 = .ok ()
  blank : e'.blank = e.blank
  setting : ∀ n, e'.setting? n =
    (e.slot? changes n).map fun inner => (inner.change (changes.within n)).1

theorem changed_of_ok {e e' : Estimator} {changes : Changes} (h : e.change changes = (e', .ok ()))
    (distinct : changes.Distinct) : Changed e e' changes := by
  rw [change_eq] at h
  rcases hown : e.assignOwn changes with ⟨e₁, err | ⟨⟩⟩
  · rw [hown] at h
    cases h
  · rw [hown] at h
    obtain ⟨hblank, hknown, hsettings⟩ := assignOwn_ok hown distinct
    have hforwarded := forwarded_of_ok h fun o _ inner => madeInPart inner (distinct.within o)
    exact {
      known := hknown
      accepted := fun o ho => by
        obtain ⟨inner, hinner, -, hok⟩ := hforwarded.accepted o ho
        exact ⟨inner, (hsettings o).symm.trans hinner, hok⟩
      blank := hforwarded.blank.trans hblank
      setting := fun n => by rw [hforwarded.setting, hsettings] }

/-! ## 6. What is asked for -/

/-- The object or value at the end of a path. -/
def at? (e : Estimator) : List String → Option Estimator
  | [] => some e
  | name :: rest => (e.setting? name).bind fun inner => inner.at? rest

def SettingName.path (name : SettingName) : List String := name.own :: name.inner

/-- The changes further inside than a path leads, named from its end. -/
def Changes.below (changes : Changes) : List String → Changes
  | [] => changes
  | name :: rest => (changes.within name).below rest

/-- **An object holds what changes ask for:** at every name stands the value given for it, with
the changes that lead further inside it. -/
def Holds (e : Estimator) (changes : Changes) : Prop :=
  ∀ c ∈ changes, e.at? c.1.path =
    some ((kept (c.1.path.getLast (List.cons_ne_nil _ _)) c.2).change (changes.below c.1.path)).1

theorem holds_of_changed {e e' : Estimator} {changes : Changes} (distinct : changes.Distinct)
    (h : Changed e e' changes) : e'.Holds changes := by
  rintro ⟨⟨own, inner⟩, v⟩ hc
  induction inner generalizing own e e' changes with
  | nil =>
    obtain ⟨old, hold⟩ := Option.isSome_iff_exists.1 (h.known _ hc)
    simp only [SettingName.path, at?, h.setting, slot?, hold, Changes.own?_eq_some distinct hc]
    rfl
  | cons first rest ih =>
    have hmem : (⟨first, rest⟩, v) ∈ changes.within own := Changes.mem_within.2 hc
    obtain ⟨s, hs, hok⟩ := h.accepted own (List.ne_nil_of_mem hmem)
    rcases hchange : s.change (changes.within own) with ⟨s', r⟩
    rw [hchange] at hok
    cases hok
    have := ih (distinct.within own) (changed_of_ok hchange (distinct.within own)) first hmem
    simp only [SettingName.path, at?, h.setting, hs, hchange, Option.map_some, Option.bind_some,
      Changes.below] at this ⊢
    exact this

/-- **Nothing changes when everything asked for is there already.** -/
theorem eq_of_holds {e e' : Estimator} {changes : Changes} (distinct : changes.Distinct)
    (h : Changed e e' changes) (held : e.Holds changes) : e' = e := by
  induction hd : changes.depth using Nat.strong_induction_on generalizing e e' changes with
  | _ d ih =>
  refine eq_of_settings h.blank fun n => ?_
  rw [h.setting, slot?]
  cases hold : e.setting? n with
  | none => rfl
  | some old =>
    by_cases hown : ∃ v, (⟨n, []⟩, v) ∈ changes
    · obtain ⟨v, hv⟩ := hown
      have hat := held _ hv
      simp only [SettingName.path, at?, hold, Option.bind_some] at hat
      rw [Changes.own?_eq_some distinct hv, hat]
      rfl
    · have hnone : changes.own? n = none := Changes.own?_eq_none fun v hv => hown ⟨v, hv⟩
      simp only [hnone, Option.map_some, Option.map_none, Option.getD_none, Option.some.injEq]
      by_cases hwithin : changes.within n = []
      · rw [hwithin, change_nil]
      · obtain ⟨s, hs, hok⟩ := h.accepted n hwithin
        simp only [slot?, hold, hnone, Option.map_some, Option.map_none, Option.getD_none,
          Option.some.injEq] at hs
        subst hs
        rcases hchange : old.change (changes.within n) with ⟨changed, r⟩
        rw [hchange] at hok
        cases hok
        have hheld : old.Holds (changes.within n) := by
          intro c hc
          have hat := held _ (Changes.mem_within.1 hc)
          simp only [SettingName.path, at?, hold, Option.bind_some] at hat ⊢
          exact hat
        have hlt := Changes.depth_within_lt (Changes.mem_owners.2 hwithin)
        exact ih _ (hd ▸ hlt) (distinct.within n) (changed_of_ok hchange (distinct.within n))
          hheld rfl

end Estimator
end PartialLeastSquares
