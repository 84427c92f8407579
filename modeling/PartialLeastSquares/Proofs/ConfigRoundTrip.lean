/-
# Configurations and their tables

A configuration is written by `to_dict` as a table of all its settings, and read by `from_dict`
from a table that may leave some of them out.  The two go through the chain of what follows in
different ways: writing puts the table of what follows in its place, and reading takes it out and
looks at its keys first.

* What has been written is read back (`Config.ofEntries_toTable`).
* A table is refused if it, or a table on its chain, has a key that names no setting, and for
  nothing else; what is read from any other table is written as that table with the defaults filled
  in (`Config.ofEntries_of_described`).

Both are inductions over the chain.  The settings of one level are looked up by name throughout
(`ModelSettings.get?`), so that no law is stated once for each setting.
-/
import Mathlib
import PartialLeastSquares.Config

namespace PartialLeastSquares

/-! ## 1. Objects -/

namespace Value

/-- **An object:** every key is a text, and no key comes twice. -/
structure IsObject (entries : List (Value × Value)) : Prop where
  texts : ∀ e ∈ entries, ∃ name, e.1 = .text name
  distinct : (entries.map Prod.fst).Nodup

theorem IsObject.tail {e : Value × Value} {rest : List (Value × Value)}
    (h : IsObject (e :: rest)) : IsObject rest :=
  ⟨fun e' he => h.texts e' (List.mem_cons_of_mem _ he), (List.nodup_cons.mp h.distinct).2⟩

/-- No key is the same as a text but that text. -/
theorem sameKey_text_iff {k : Value} {name : String} :
    sameKey k (.text name) = true ↔ k = .text name := by
  cases k <;> simp [sameKey, number?]

theorem find?_cons_self (name : String) (v : Value) (rest : List (Value × Value)) :
    find? ((.text name, v) :: rest) name = some v := by
  simp [find?, sameKey]

theorem find?_cons_of_ne {k : Value} {name : String} (h : k ≠ .text name) (v : Value)
    (rest : List (Value × Value)) : find? ((k, v) :: rest) name = find? rest name := by
  have hkey : sameKey k (.text name) = false :=
    Bool.eq_false_iff.mpr fun hsame => h (sameKey_text_iff.mp hsame)
  simp [find?, hkey]

/-- What is not in the first of two tables is looked for in the second. -/
theorem find?_append (xs ys : List (Value × Value)) (name : String) :
    find? (xs ++ ys) name = (find? xs name).or (find? ys name) := by
  rw [find?, List.find?_append, Option.map_or, find?, find?]

theorem mem_of_find? {entries : List (Value × Value)} {name : String} {v : Value}
    (h : find? entries name = some v) : (.text name, v) ∈ entries := by
  obtain ⟨⟨k, w⟩, hfound, hw⟩ := Option.map_eq_some_iff.mp h
  obtain rfl : w = v := hw
  have hkey := List.find?_some hfound
  obtain rfl : k = .text name := sameKey_text_iff.mp hkey
  exact List.mem_of_find?_eq_some hfound

theorem find?_eq_none {entries : List (Value × Value)} {name : String}
    (h : .text name ∉ entries.map Prod.fst) : find? entries name = none := by
  rw [find?, Option.map_eq_none_iff, List.find?_eq_none]
  exact fun e he hsame => h (sameKey_text_iff.mp hsame ▸ List.mem_map_of_mem he)

/-- **One value changed in place:** at its key there is the new value, if there was one, and
everywhere else what was there before. -/
theorem find?_update (entries : List (Value × Value)) (name name' : String) (v : Value) :
    find? (entries.map fun e => (e.1, if sameKey e.1 (.text name) then v else e.2)) name' =
      if name' = name then (find? entries name').map fun _ => v else find? entries name' := by
  induction entries with
  | nil => split <;> rfl
  | cons e rest ih =>
    obtain ⟨k, w⟩ := e
    rw [List.map_cons]
    by_cases hk : k = .text name'
    · subst hk
      rw [find?_cons_self, find?_cons_self]
      by_cases hname : name' = name
      · rw [if_pos hname, if_pos (sameKey_text_iff.mpr (congrArg _ hname)), Option.map_some]
      · have hkey : ¬ sameKey (.text name') (.text name) = true := fun hsame =>
          hname (Value.text.inj (sameKey_text_iff.mp hsame))
        rw [if_neg hname, if_neg hkey]
    · rw [find?_cons_of_ne hk, find?_cons_of_ne hk, ih]

end Value

open Value (find? IsObject)

/-! ## 2. The settings of one level -/

namespace ModelSettings

def fieldNames : List String := names ++ ["base"]

def get? (s : ModelSettings) (name : String) : Option Value := find? s.entries name

theorem keys_entries (s : ModelSettings) : s.entries.map Prod.fst = names.map Value.text := rfl

theorem set_of_notMem (s : ModelSettings) {name : String} (h : name ∉ names) (v : Value) :
    s.set name v = s := by
  simp only [names, List.mem_cons, List.not_mem_nil, or_false, not_or] at h
  simp [set, h]

theorem entries_set (s : ModelSettings) (name : String) (v : Value) : (s.set name v).entries =
    s.entries.map fun e => (e.1, if Value.sameKey e.1 (.text name) then v else e.2) := by
  by_cases hname : name ∈ names
  · simp only [names, List.mem_cons, List.not_mem_nil, or_false] at hname
    rcases hname with rfl | rfl | rfl | rfl | rfl | rfl | rfl | rfl | rfl <;> rfl
  · rw [s.set_of_notMem hname]
    have hkeep : ∀ e ∈ s.entries,
        (e.1, if Value.sameKey e.1 (.text name) then v else e.2) = e := fun e he => by
      obtain ⟨known, hknown, hkey⟩ := List.mem_map.mp (s.keys_entries ▸ List.mem_map_of_mem he)
      have hother : ¬ Value.sameKey e.1 (.text name) = true := fun hsame =>
        hname (Value.text.inj (hkey.trans (Value.sameKey_text_iff.mp hsame)) ▸ hknown)
      rw [if_neg hother]
    exact ((List.map_congr_left hkeep).trans (List.map_id' _)).symm

theorem exists_get? (s : ModelSettings) {name : String} (h : name ∈ names) :
    ∃ v, s.get? name = some v := by
  simp only [names, List.mem_cons, List.not_mem_nil, or_false] at h
  rcases h with rfl | rfl | rfl | rfl | rfl | rfl | rfl | rfl | rfl <;> exact ⟨_, rfl⟩

theorem get?_set (s : ModelSettings) (name name' : String) (v : Value) :
    (s.set name v).get? name' = if name' = name then (s.get? name').map fun _ => v
      else s.get? name' := by
  rw [get?, entries_set, Value.find?_update]
  rfl

/-- The settings that a table gives, the others as they are. -/
def update (s : ModelSettings) (entries : List (Value × Value)) : ModelSettings :=
  entries.foldl (fun s (k, v) => match k with
    | .text name => s.set name v
    | _ => s) s

/-- **What a table gives is taken from it,** and what it does not give stays as it is. -/
theorem get?_update {entries : List (Value × Value)} (h : IsObject entries) (s : ModelSettings)
    {name : String} (hname : name ∈ names) :
    (s.update entries).get? name = (find? entries name).or (s.get? name) := by
  induction entries generalizing s with
  | nil => rfl
  | cons e rest ih =>
    obtain ⟨k, v⟩ := e
    obtain ⟨key, rfl⟩ : ∃ key, k = .text key := h.texts _ List.mem_cons_self
    have hrest : (s.update ((.text key, v) :: rest)).get? name =
        (find? rest name).or ((s.set key v).get? name) := ih h.tail (s.set key v)
    rw [hrest, get?_set]
    by_cases hkey : name = key
    · subst hkey
      obtain ⟨w, hw⟩ := s.exists_get? hname
      rw [Value.find?_eq_none (List.nodup_cons.mp h.distinct).1, if_pos rfl, hw,
        Value.find?_cons_self]
      rfl
    · rw [if_neg hkey, Value.find?_cons_of_ne fun heq => hkey (Value.text.inj heq).symm]

/-- **All settings of a table are read from it,** whatever else follows. -/
theorem ofEntries_entries (s : ModelSettings) (b : Value) :
    ofEntries (s.entries ++ [(.text "base", b)]) = s := by
  cases s
  rfl

end ModelSettings

open ModelSettings (fieldNames)

/-! ## 3. Keys that name no setting -/

/-- A table whose keys are all known has no unknown ones. -/
theorem unknownKeys_of_known {entries : List (Value × Value)}
    (h : ∀ e ∈ entries, ∃ name ∈ fieldNames, e.1 = .text name) : unknownKeys entries = .ok [] := by
  unfold unknownKeys
  dsimp only
  rw [List.filter_eq_nil_iff.mpr]
  · rw [List.mapM_nil]
    simp
  · intro e he
    obtain ⟨k, v⟩ := e
    obtain ⟨name, hname, rfl⟩ : ∃ name ∈ fieldNames, k = .text name := h _ he
    rcases List.mem_append.mp hname with hname | hname
    · simp [hname]
    · simp [List.mem_singleton.mp hname]

/-- If all keys are texts, there is a text for each of them. -/
theorem texts_of_mapM {f : Value × Value → Option String}
    (hf : ∀ name v, f (.text name, v) = some name) {entries : List (Value × Value)}
    (h : ∀ e ∈ entries, ∃ name, e.1 = .text name) {named : Option (List String)}
    (hnamed : entries.mapM f = named) : ∃ keys, named = some keys ∧ keys.length = entries.length := by
  subst hnamed
  induction entries with
  | nil => exact ⟨[], rfl, rfl⟩
  | cons e rest ih =>
    obtain ⟨k, v⟩ := e
    obtain ⟨name, rfl⟩ : ∃ name, k = .text name := h _ List.mem_cons_self
    obtain ⟨keys, hkeys, hlen⟩ := ih fun e he => h e (List.mem_cons_of_mem _ he)
    refine ⟨name :: keys, ?_, congrArg (· + 1) hlen⟩
    rw [List.mapM_cons, hf, hkeys]
    rfl

/-- An object with a key that is not known has unknown ones. -/
theorem unknownKeys_of_unknown {entries : List (Value × Value)} (hobject : IsObject entries)
    {name : String} (hmem : .text name ∈ entries.map Prod.fst) (hname : name ∉ fieldNames) :
    ∃ key rest, unknownKeys entries = .ok (key :: rest) := by
  obtain ⟨⟨k, v⟩, he, hk⟩ := List.mem_map.mp hmem
  obtain rfl : k = .text name := hk
  simp only [ModelSettings.fieldNames, List.mem_append, List.mem_singleton, not_or] at hname
  unfold unknownKeys
  dsimp only
  generalize hstrange : (entries.filter _) = strange
  have hfound : (Value.text name, v) ∈ strange := by
    rw [← hstrange]
    exact List.mem_filter.mpr ⟨he, by simp [hname]⟩
  generalize hnamed : (strange.mapM _ : Option (List String)) = named
  obtain ⟨keys, rfl, hlen⟩ := texts_of_mapM (fun _ _ => rfl)
    (fun e he => hobject.texts e (List.mem_of_mem_filter (hstrange ▸ he))) hnamed
  have hsome : (keys.mergeSort fun a b => decide (a ≤ b)) ≠ [] := fun hnil => by
    have hzero : strange.length = 0 := by
      rw [← hlen, ← List.length_mergeSort keys, hnil, List.length_nil]
    rw [List.length_eq_zero_iff.mp hzero] at hfound
    exact absurd hfound List.not_mem_nil
  obtain ⟨key, rest, hsorted⟩ := List.exists_cons_of_ne_nil hsome
  exact ⟨key, rest, congrArg Except.ok hsorted⟩

namespace Config

/-! ## 4. Chains of tables -/

/-- **A table that describes a configuration:** an object, in which nothing stands in the place of
what follows, or null, or another such table. -/
inductive Described : List (Value × Value) → Prop
  | single {d : List (Value × Value)} (object : IsObject d)
      (base : find? d "base" = none ∨ find? d "base" = some .null) : Described d
  | followed {d inner : List (Value × Value)} (object : IsObject d)
      (base : find? d "base" = some (.table inner)) (follows : Described inner) : Described d

/-- **A key that names no setting,** in a table itself or further along its chain. -/
inductive HasUnknown : List (Value × Value) → Prop
  | here {d : List (Value × Value)} {name : String} (key : .text name ∈ d.map Prod.fst)
      (unknown : name ∉ fieldNames) : HasUnknown d
  | within {d inner : List (Value × Value)} (base : find? d "base" = some (.table inner))
      (unknown : HasUnknown inner) : HasUnknown d

/-- **A table has been filled in at its own level:** it has every key there is, in order, and at
the name of a setting what was given, or else the default. -/
structure Fills (given filled : List (Value × Value)) : Prop where
  keys : filled.map Prod.fst = fieldNames.map Value.text
  settings : ∀ name ∈ ModelSettings.names,
    find? filled name = (find? given name).or (({} : ModelSettings).get? name)

/-- **A table has been filled in at every level.** Where nothing follows, null stands for it. -/
inductive Completes : List (Value × Value) → List (Value × Value) → Prop
  | single {given filled : List (Value × Value)} (own : Fills given filled)
      (base : find? given "base" = none ∨ find? given "base" = some .null)
      (absent : find? filled "base" = some .null) : Completes given filled
  | followed {given filled inner inner' : List (Value × Value)} (own : Fills given filled)
      (base : find? given "base" = some (.table inner))
      (base' : find? filled "base" = some (.table inner')) (follows : Completes inner inner') :
      Completes given filled

/-- A configuration in which every value stands for what it is, to the end of its chain. -/
def Whole : Config → Prop
  | single _ => True
  | followed _ base => base.Whole
  | stray _ _ => False

theorem depth_le_depthOfEntries {e : Value × Value} :
    ∀ {d : List (Value × Value)}, e ∈ d → depth e.2 ≤ depthOfEntries d
  | (_, v) :: rest, h => by
    rw [depthOfEntries]
    rcases List.mem_cons.mp h with rfl | h
    · exact Nat.le_max_left _ _
    · exact (depth_le_depthOfEntries h).trans (Nat.le_max_right _ _)

/-- **What follows is nested less deeply.** -/
theorem depthOfEntries_lt {d inner : List (Value × Value)} {name : String}
    (h : find? d name = some (.table inner)) : depthOfEntries inner < depthOfEntries d := by
  have hle : depth (.table inner) ≤ depthOfEntries d :=
    depth_le_depthOfEntries (Value.mem_of_find? h)
  rw [depth] at hle
  exact hle

theorem find?_base (s : ModelSettings) (b : Value) :
    find? (s.entries ++ [(.text "base", b)]) "base" = some b := by
  rw [Value.find?_append, Value.find?_cons_self]
  rfl

theorem unknownKeys_entries (s : ModelSettings) (b : Value) :
    unknownKeys (s.entries ++ [(.text "base", b)]) = .ok [] := by
  refine unknownKeys_of_known fun e he => ?_
  have hkey : e.1 ∈ fieldNames.map Value.text := List.mem_map_of_mem (f := Prod.fst) he
  obtain ⟨name, hname, hkey⟩ := List.mem_map.mp hkey
  exact ⟨name, hname, hkey.symm⟩

/-- **The settings of an object are written as the object filled in.** -/
theorem fills_entries {d : List (Value × Value)} (h : IsObject d) (b : Value) :
    Fills d ((ModelSettings.ofEntries d).entries ++ [(.text "base", b)]) where
  keys := rfl
  settings name hname := by
    obtain ⟨v, hv⟩ := ({} : ModelSettings).exists_get? hname
    have hown : find? (ModelSettings.ofEntries d).entries name =
        (find? d name).or (({} : ModelSettings).get? name) := ModelSettings.get?_update h {} hname
    rw [Value.find?_append, hown, hv]
    cases find? d name <;> rfl

/-! ## 5. Reading and writing -/

section Reading

variable {d inner : List (Value × Value)} {fuel : ℕ}

theorem ofEntries_single (h : unknownKeys d = .ok [])
    (base : find? d "base" = none ∨ find? d "base" = some .null) :
    ofEntries (fuel + 1) d = .ok (.single (ModelSettings.ofEntries d)) := by
  rw [ofEntries, h]
  dsimp only
  rcases base with base | base <;> rw [base]

/-- A table that another one follows is read after that one. -/
theorem ofEntries_followed (h : unknownKeys d = .ok []) (base : find? d "base" = some (.table inner))
    {c : Config} (hc : ofEntries fuel inner = .ok c) :
    ofEntries (fuel + 1) d = .ok (.followed (ModelSettings.ofEntries d) c) := by
  rw [ofEntries, h]
  dsimp only
  rw [base]
  dsimp only
  rw [hc]

theorem ofEntries_followed_error (h : unknownKeys d = .ok [])
    (base : find? d "base" = some (.table inner)) {e : ConfigError}
    (he : ofEntries fuel inner = .error e) : ofEntries (fuel + 1) d = .error e := by
  rw [ofEntries, h]
  dsimp only
  rw [base]
  dsimp only
  rw [he]

end Reading

/-- **What has been written is read back.**  The induction is on the chain; the bound on the depth
is for what follows one less. -/
theorem ofEntries_toTable {c : Config} (h : c.Whole) :
    ∃ d, c.toTable = .ok (.table d) ∧ ∀ fuel, depthOfEntries d < fuel → ofEntries fuel d = .ok c := by
  induction c with
  | single s =>
    refine ⟨_, rfl, fun fuel hfuel => ?_⟩
    obtain ⟨fuel, rfl⟩ := Nat.exists_eq_succ_of_ne_zero (Nat.ne_zero_of_lt hfuel)
    rw [ofEntries_single (unknownKeys_entries s _) (.inr (find?_base s _)),
      ModelSettings.ofEntries_entries]
  | followed s base ih =>
    obtain ⟨inner, htable, hread⟩ := ih h
    refine ⟨s.entries ++ [(.text "base", .table inner)], by rw [toTable, htable],
      fun fuel hfuel => ?_⟩
    obtain ⟨fuel, rfl⟩ := Nat.exists_eq_succ_of_ne_zero (Nat.ne_zero_of_lt hfuel)
    have hless := depthOfEntries_lt (find?_base s (.table inner))
    rw [ofEntries_followed (unknownKeys_entries s _) (find?_base s _) (hread fuel (by omega)),
      ModelSettings.ofEntries_entries]
  | stray s base => exact absurd h id

/-- What is told of an object whose own keys are not all known, and of one whose keys are. -/
theorem unknownKeys_cases {d : List (Value × Value)} (h : IsObject d) :
    (∃ name, .text name ∈ d.map Prod.fst ∧ name ∉ fieldNames) ∨ unknownKeys d = .ok [] := by
  by_cases hunknown : ∃ name, .text name ∈ d.map Prod.fst ∧ name ∉ fieldNames
  · exact .inl hunknown
  · refine .inr (unknownKeys_of_known fun e he => ?_)
    obtain ⟨name, hkey⟩ := h.texts e he
    by_contra hnone
    refine hunknown ⟨name, hkey ▸ List.mem_map_of_mem he, fun hname => ?_⟩
    exact hnone ⟨name, hname, hkey⟩

/-- A table with a key that names no setting is refused, whatever follows. -/
theorem ofEntries_of_unknown {d : List (Value × Value)} (h : IsObject d) {name : String}
    (hmem : .text name ∈ d.map Prod.fst) (hname : name ∉ fieldNames) (fuel : ℕ) :
    ∃ e, ofEntries (fuel + 1) d = .error e ∧ e.kind = .validation := by
  obtain ⟨key, rest, hkeys⟩ := unknownKeys_of_unknown h hmem hname
  refine ⟨.unknown (key :: rest), ?_, rfl⟩
  rw [ofEntries, hkeys]

/-- **What a table describes is refused or read,** by its keys along the chain; and what is read is
written as the table filled in. -/
theorem ofEntries_of_described {d : List (Value × Value)} (h : Described d) :
    ∀ fuel, depthOfEntries d < fuel →
      (HasUnknown d → ∃ e, ofEntries fuel d = .error e ∧ e.kind = .validation) ∧
      (¬ HasUnknown d → ∃ c filled, ofEntries fuel d = .ok c ∧ c.toTable = .ok (.table filled) ∧
        Completes d filled) := by
  induction h with
  | @single d object base =>
    intro fuel hfuel
    obtain ⟨fuel, rfl⟩ := Nat.exists_eq_succ_of_ne_zero (Nat.ne_zero_of_lt hfuel)
    refine ⟨fun hunknown => ?_, fun hknown => ?_⟩
    · cases hunknown with
      | here key unknown => exact ofEntries_of_unknown object key unknown fuel
      | within base' _ => rcases base with base | base <;> cases base.symm.trans base'
    · rcases unknownKeys_cases object with ⟨name, hmem, hname⟩ | hkeys
      · exact absurd (.here hmem hname) hknown
      · exact ⟨.single (ModelSettings.ofEntries d), _, ofEntries_single hkeys base, rfl,
          .single (fills_entries object .null) base (find?_base _ _)⟩
  | @followed d inner object base _ ih =>
    intro fuel hfuel
    obtain ⟨fuel, rfl⟩ := Nat.exists_eq_succ_of_ne_zero (Nat.ne_zero_of_lt hfuel)
    have hless := depthOfEntries_lt base
    obtain ⟨hrefused, hread⟩ := ih fuel (by omega)
    rcases unknownKeys_cases object with ⟨name, hmem, hname⟩ | hkeys
    · exact ⟨fun _ => ofEntries_of_unknown object hmem hname fuel,
        fun hknown => absurd (.here hmem hname) hknown⟩
    · refine ⟨fun hunknown => ?_, fun hknown => ?_⟩
      · have hinner : HasUnknown inner := by
          cases hunknown with
          | here key unknown =>
            obtain ⟨_, _, hsome⟩ := unknownKeys_of_unknown object key unknown
            cases hkeys.symm.trans hsome
          | within base' unknown =>
            obtain rfl := Value.table.inj (Option.some.inj (base.symm.trans base'))
            exact unknown
        obtain ⟨e, he, hkind⟩ := hrefused hinner
        exact ⟨e, ofEntries_followed_error hkeys base he, hkind⟩
      · obtain ⟨c, filled, hc, htable, hcompletes⟩ :=
          hread fun hinner => hknown (.within base hinner)
        exact ⟨.followed (ModelSettings.ofEntries d) c, _, ofEntries_followed hkeys base hc,
          by rw [toTable, htable],
          .followed (fills_entries object (.table filled)) base (find?_base _ _) hcompletes⟩

/-- **Configurations are written and read without loss.**  Of every configuration, nested as deeply
as may be, the table that is written is read as that configuration.  A table that describes one is
refused for its keys if and only if it, or a table on its chain, has one that names no setting; and
from every other one a configuration is read that is written as the table with the defaults filled
in at every level. -/
theorem read_write_round_trip :
    (∀ c : Config, c.Whole → ∃ d, c.toTable = .ok (.table d) ∧ ofValue (.table d) = .ok c) ∧
    ∀ d, Described d →
      ((∃ e, ofValue (.table d) = .error e ∧ e.kind = .validation) ↔ HasUnknown d) ∧
      (¬ HasUnknown d → ∃ c filled, ofValue (.table d) = .ok c ∧ c.toTable = .ok (.table filled) ∧
        Completes d filled) := by
  constructor
  · intro c hc
    obtain ⟨d, htable, hread⟩ := ofEntries_toTable hc
    exact ⟨d, htable, hread _ (Nat.lt_succ_self _)⟩
  · intro d hd
    obtain ⟨hrefused, hread⟩ := ofEntries_of_described hd _ (Nat.lt_succ_self _)
    refine ⟨⟨fun ⟨e, he, _⟩ => ?_, hrefused⟩, hread⟩
    by_contra hknown
    obtain ⟨c, _, hc, -⟩ := hread hknown
    cases he.symm.trans hc

/-! ## 6. Two levels -/

namespace TwoLevels

/-- A filter that is followed by a model whose kernel has a parameter called like the place of what
follows. -/
def nested : Config :=
  .followed { algorithm := .text "opls", nComponents := .int 2 }
    (.single { algorithm := .text "simpls", kernelParams := .table [(.text "base", .list [.null])] })

/-- A table that is followed by another, and leaves most settings out. -/
def brief : List (Value × Value) :=
  [(.text "base", .table [(.text "seed", .int 3)]), (.text "algorithm", .text "opls")]

/-- A table that is followed by another with a key that names no setting. -/
def misspelt : List (Value × Value) := [(.text "base", .table [(.text "n_comp", .int 3)])]

theorem described_of_one (name : String) (v : Value) (h : name ≠ "base") :
    Described [(.text name, v)] := by
  refine .single ⟨fun e he => ⟨name, ?_⟩, List.nodup_singleton _⟩ (.inl ?_)
  · rw [List.mem_singleton.mp he]
  · exact Value.find?_cons_of_ne (fun heq => h (Value.text.inj heq)) v []

theorem described_brief : Described brief := by
  refine .followed ⟨fun e he => ?_, by simp [brief]⟩ (Value.find?_cons_self _ _ _)
    (described_of_one "seed" (.int 3) (by decide))
  simp only [brief, List.mem_cons, List.not_mem_nil, or_false] at he
  rcases he with rfl | rfl
  · exact ⟨"base", rfl⟩
  · exact ⟨"algorithm", rfl⟩

theorem described_misspelt : Described misspelt := by
  refine .followed ⟨fun e he => ⟨"base", ?_⟩, List.nodup_singleton _⟩
    (Value.find?_cons_self _ _ _) (described_of_one "n_comp" (.int 3) (by decide))
  rw [List.mem_singleton.mp he]

theorem known_brief : ¬ HasUnknown brief := by
  intro h
  cases h with
  | @here _ name key unknown =>
    simp only [brief, List.map_cons, List.map_nil, List.mem_cons, List.not_mem_nil, or_false,
      Value.text.injEq] at key
    rcases key with rfl | rfl <;> exact unknown (by decide)
  | within base hinner =>
    obtain rfl := Value.table.inj (Option.some.inj ((Value.find?_cons_self _ _ _).symm.trans base))
    cases hinner with
    | @here _ name key unknown =>
      simp only [List.map_cons, List.map_nil, List.mem_singleton, Value.text.injEq] at key
      exact unknown (key ▸ by decide)
    | within base' _ =>
      rw [Value.find?_cons_of_ne (by simp)] at base'
      cases base'

theorem unknown_misspelt : HasUnknown misspelt :=
  .within (Value.find?_cons_self _ _ _) (.here (List.mem_singleton.mpr rfl) (by decide))

end TwoLevels

open TwoLevels in
/-- Two levels are read back, two levels are filled in, and a key misspelt at the second level is
refused. -/
theorem read_write_round_trip_two_levels :
    (∃ d, nested.toTable = .ok (.table d) ∧ ofValue (.table d) = .ok nested) ∧
      (∃ c filled, ofValue (.table brief) = .ok c ∧ c.toTable = .ok (.table filled) ∧
        Completes brief filled) ∧
      ∃ e, ofValue (.table misspelt) = .error e ∧ e.kind = .validation :=
  ⟨read_write_round_trip.1 nested trivial,
    (read_write_round_trip.2 brief described_brief).2 known_brief,
    (read_write_round_trip.2 misspelt described_misspelt).1.mpr unknown_misspelt⟩

end Config

end PartialLeastSquares
