import FragmentSearch.Answer
import FragmentSearch.Config.Validate
import FragmentSearch.Indexing.Pipeline
import FragmentSearch.Proofs.Index.Views

/-!
# Settings that pass the check, and those who use them

The check reads tables with the names of vendors, and so does everyone who uses the settings: the keys and models, the
client for answers, the embedder. Each has its own tables. Here these are shown to agree:

* `Vendor.get?_tabulate_eq_some_iff`, `Vendor.lower_name` -- a vendor has one name in all tables, in lower case;
* `keyCheck_eq_ok_iff`, `keyCheck_eq_error_iff` -- the check of a vendor and its key, which is made twice;
* `Usable` -- everyone who uses the settings can;
* `Refused` -- what is wrong with settings that do not pass: the first of the checks that fails says so;
* `validate_usable` -- settings pass the check exactly if they are usable, and otherwise are refused.
-/

namespace FragmentSearch

/-! ## 1. Names of vendors -/

namespace Vendor

variable {among : List Vendor} {v w : Vendor} {s : String}

theorem name_inj : v.name = w.name ↔ v = w := by
  cases v <;> cases w <;> simp [name]

theorem mem_completing (v : Vendor) : v ∈ completing := by
  cases v <;> decide

/-- The names of vendors are in lower case. -/
@[simp] theorem lower_name (v : Vendor) : Text.lower v.name = v.name := by
  cases v <;> decide +kernel

theorem ofName?_eq_some_iff : ofName? among s = some v ↔ v ∈ among ∧ v.name = s := by
  unfold ofName?
  constructor
  · intro h
    exact ⟨List.mem_of_find?_eq_some h, by simpa using List.find?_some h⟩
  · intro h
    obtain ⟨hv, rfl⟩ := h
    have hsome : (among.find? (·.name = v.name)).isSome = true :=
      List.find?_isSome.mpr ⟨v, hv, decide_eq_true rfl⟩
    obtain ⟨w, hw⟩ := Option.isSome_iff_exists.mp hsome
    have hname : w.name = v.name := by simpa using List.find?_some hw
    rw [hw, name_inj.mp hname]

theorem ofName?_eq_none_iff : ofName? among s = none ↔ ∀ v ∈ among, v.name ≠ s := by
  unfold ofName?
  simp only [List.find?_eq_none, decide_eq_true_eq, ne_eq]

variable {α : Type} {f : Vendor → α} {a : α}

theorem get?_tabulate_eq_some_iff :
    Table.get? s (tabulate among f) = some a ↔ ∃ v ∈ among, v.name = s ∧ f v = a := by
  simp only [get?_tabulate, Option.map_eq_some_iff, ofName?_eq_some_iff, and_assoc]

theorem get?_tabulate_eq_none_iff : Table.get? s (tabulate among f) = none ↔ ∀ v ∈ among, v.name ≠ s := by
  rw [get?_tabulate, Option.map_eq_none_iff, ofName?_eq_none_iff]

theorem get?_tabulate_name (hv : v ∈ among) (f : Vendor → α) : Table.get? v.name (tabulate among f) = some (f v) :=
  get?_tabulate_eq_some_iff.mpr ⟨v, hv, rfl, rfl⟩

theorem keys_tabulate (among : List Vendor) (f : Vendor → α) : Table.keys (tabulate among f) = among.map name :=
  List.map_map

end Vendor

namespace Config

variable {c : Config} {among : List Vendor} {name : String} {v : Vendor} {e : ConfigError}

/-! ## 2. The single checks -/

section Checks

theorem entry_eq_ok_iff {α : Type} {t : Table String α} {a : α} : entry name t = .ok a ↔ Table.get? name t = some a := by
  unfold entry
  cases Table.get? name t <;> simp

/-- Is a key given, and not an empty one? -/
def hasKey (c : Config) (v : Vendor) : Bool := Fragment.isGiven (c.keyOf v)

/-- Is there a vendor of this name, and a key for it? -/
def Keyed (c : Config) (among : List Vendor) (name : String) : Prop :=
  ∃ v ∈ among, v.name = name ∧ c.hasKey v = true

/-- The variables and keys of some vendors. -/
def keyTable (c : Config) (among : List Vendor) : Table String (String × Option String) :=
  Vendor.tabulate among fun v => (v.keyVariable, c.keyOf v)

variable {unknown : String → List String → ConfigError} {missing : String → String → ConfigError}

theorem keyCheck_eq_ok_iff : keyCheck (c.keyTable among) name unknown missing = .ok () ↔ c.Keyed among name := by
  unfold keyCheck Keyed keyTable
  cases h : Table.get? name (Vendor.tabulate among fun v => (v.keyVariable, c.keyOf v)) with
  | none =>
      have hnone := Vendor.get?_tabulate_eq_none_iff.mp h
      exact ⟨nofun, fun ⟨v, hv, hname, _⟩ => absurd hname (hnone v hv)⟩
  | some p =>
      obtain ⟨v, hv, rfl, rfl⟩ := Vendor.get?_tabulate_eq_some_iff.mp h
      constructor
      · intro hcheck
        by_cases hkey : c.hasKey v = true
        · exact ⟨v, hv, rfl, hkey⟩
        · cases hcheck.symm.trans (if_neg hkey)
      · rintro ⟨w, _, hw, hkey⟩
        obtain rfl := Vendor.name_inj.mp hw
        exact if_pos hkey

theorem keyCheck_eq_error_iff : keyCheck (c.keyTable among) name unknown missing = .error e ↔
    ((∀ v ∈ among, v.name ≠ name) ∧ e = unknown name (among.map Vendor.name)) ∨
      ∃ v ∈ among, v.name = name ∧ c.hasKey v = false ∧ e = missing v.keyVariable v.name := by
  unfold keyCheck keyTable
  rw [Vendor.keys_tabulate]
  cases h : Table.get? name (Vendor.tabulate among fun v => (v.keyVariable, c.keyOf v)) with
  | none =>
      have hnone := Vendor.get?_tabulate_eq_none_iff.mp h
      constructor
      · intro hcheck
        exact Or.inl ⟨hnone, (Except.error.inj hcheck).symm⟩
      · rintro (⟨_, rfl⟩ | ⟨v, hv, hname, _⟩)
        · rfl
        · exact absurd hname (hnone v hv)
  | some p =>
      obtain ⟨v, hv, rfl, rfl⟩ := Vendor.get?_tabulate_eq_some_iff.mp h
      constructor
      · intro hcheck
        by_cases hkey : c.hasKey v = true
        · cases hcheck.symm.trans (if_pos hkey)
        · have hmissing := hcheck.symm.trans (if_neg hkey)
          exact Or.inr ⟨v, hv, rfl, Bool.eq_false_iff.mpr hkey, Except.error.inj hmissing⟩
      · rintro (⟨hnone, _⟩ | ⟨w, _, hw, hkey, rfl⟩)
        · exact absurd rfl (hnone v hv)
        · obtain rfl := Vendor.name_inj.mp hw
          exact if_neg (Bool.eq_false_iff.mp hkey)

theorem mem_unknownWeights {k : String} :
    k ∈ c.unknownWeights ↔ k ∈ (c.hybridWeights.getD []).map (·.1) ∧ k ∉ weightNames := by
  rw [unknownWeights, Index.mem_inOrder, List.mem_filter, mem_distinct]
  simp

/-- The weights of the ranking have no other names. -/
theorem unknownWeights_eq_nil_iff : c.unknownWeights = [] ↔ ∀ k ∈ Table.keys c.weights, k ∈ weightNames := by
  have hnone : c.unknownWeights = [] ↔ ∀ k ∈ (c.hybridWeights.getD []).map (·.1), k ∈ weightNames := by
    simp only [List.eq_nil_iff_forall_not_mem, mem_unknownWeights, not_and, not_not]
  rw [hnone, weights]
  cases c.hybridWeights with
  | some given => rfl
  | none => cases c.usesEmbeddings <;> simp [resolveWeights, Table.keys, weightNames]

end Checks

/-! ## 3. One check after the other -/

section Sequence

/-- Of two checks the second is made if the first one passes. -/
theorem check_eq_ok_iff {x y : Except ConfigError Unit} : (x >>= fun _ => y) = .ok () ↔ x = .ok () ∧ y = .ok () := by
  cases x <;> simp [bind, Except.bind]

theorem check_eq_error_iff {x y : Except ConfigError Unit} :
    (x >>= fun _ => y) = .error e ↔ x = .error e ∨ x = .ok () ∧ y = .error e := by
  cases x <;> simp [bind, Except.bind]

/-- The check of the settings for vectors, if vectors are used. -/
def vectorCheck (c : Config) : Except ConfigError Unit := if c.usesEmbeddings then c.validateEmbeddings else .ok ()

/-- The check of the size of a batch. -/
def batchCheck (c : Config) : Except ConfigError Unit := if c.batchSize ≤ 0 then .error .batchSize else .ok ()

/-- The check of the names of the weights. -/
def weightCheck (c : Config) : Except ConfigError Unit :=
  if c.unknownWeights ≠ [] then .error (.unknownWeights c.unknownWeights) else .ok ()

/-- **The checks are made one after the other.** -/
theorem validate_eq (c : Config) : c.validate =
    (keyCheck (c.keyTable Vendor.completing) c.llmProvider .unknownProvider .keyMissing >>= fun _ =>
      c.vectorCheck >>= fun _ => c.batchCheck >>= fun _ => c.weightCheck) := by
  unfold validate vectorCheck batchCheck weightCheck
  rw [checkedKeys_eq]
  refine congrArg (_ >>= ·) (funext fun _ => ?_)
  cases c.usesEmbeddings <;> by_cases hsize : c.batchSize ≤ 0 <;> simp only [hsize, if_true, if_false] <;> rfl

theorem validateEmbeddings_eq (c : Config) : c.validateEmbeddings =
    keyCheck (c.keyTable Vendor.embedding) c.embeddingProvider .unknownEmbeddingProvider .embeddingKeyMissing := by
  unfold validateEmbeddings
  rw [checkedEmbeddingKeys_eq]
  rfl

theorem vectorCheck_eq_ok_iff :
    c.vectorCheck = .ok () ↔ (c.usesEmbeddings = true → c.Keyed Vendor.embedding c.embeddingProvider) := by
  unfold vectorCheck
  rw [validateEmbeddings_eq]
  by_cases huses : c.usesEmbeddings = true
  · rw [if_pos huses]
    exact keyCheck_eq_ok_iff.trans ⟨fun h _ => h, fun h => h huses⟩
  · rw [if_neg huses]
    exact ⟨fun _ h => absurd h huses, fun _ => rfl⟩

theorem vectorCheck_eq_error_iff : c.vectorCheck = .error e ↔ c.usesEmbeddings = true ∧
    (((∀ v ∈ Vendor.embedding, v.name ≠ c.embeddingProvider) ∧
        e = .unknownEmbeddingProvider c.embeddingProvider (Vendor.embedding.map Vendor.name)) ∨
      ∃ v ∈ Vendor.embedding, v.name = c.embeddingProvider ∧ c.hasKey v = false ∧
        e = .embeddingKeyMissing v.keyVariable v.name) := by
  unfold vectorCheck
  rw [validateEmbeddings_eq]
  by_cases huses : c.usesEmbeddings = true
  · rw [if_pos huses, and_iff_right huses]
    exact keyCheck_eq_error_iff
  · rw [if_neg huses]
    exact ⟨nofun, fun h => absurd h.1 huses⟩

theorem batchCheck_eq_ok_iff : c.batchCheck = .ok () ↔ 0 < c.batchSize := by
  unfold batchCheck
  split <;> simp <;> omega

theorem batchCheck_eq_error_iff : c.batchCheck = .error e ↔ c.batchSize ≤ 0 ∧ e = .batchSize := by
  unfold batchCheck
  split <;> simp [*, eq_comm]

theorem weightCheck_eq_ok_iff : c.weightCheck = .ok () ↔ c.unknownWeights = [] := by
  unfold weightCheck
  by_cases hweights : c.unknownWeights = [] <;> simp [hweights]

theorem weightCheck_eq_error_iff :
    c.weightCheck = .error e ↔ c.unknownWeights ≠ [] ∧ e = .unknownWeights c.unknownWeights := by
  unfold weightCheck
  by_cases hweights : c.unknownWeights ≠ []
  · rw [if_pos hweights, and_iff_right hweights, Except.error.injEq, eq_comm]
  · rw [if_neg hweights]
    exact ⟨nofun, fun h => absurd h.1 hweights⟩

/-- What is wrong with settings that do not pass: the first check that fails says so. -/
inductive Refused (c : Config) : ConfigError → Prop
  | provider : (∀ v ∈ Vendor.completing, v.name ≠ c.llmProvider) →
      Refused c (.unknownProvider c.llmProvider (Vendor.completing.map Vendor.name))
  | key {v : Vendor} : v ∈ Vendor.completing → v.name = c.llmProvider → c.hasKey v = false →
      Refused c (.keyMissing v.keyVariable v.name)
  | embeddingProvider : c.Keyed Vendor.completing c.llmProvider → c.usesEmbeddings = true →
      (∀ v ∈ Vendor.embedding, v.name ≠ c.embeddingProvider) →
      Refused c (.unknownEmbeddingProvider c.embeddingProvider (Vendor.embedding.map Vendor.name))
  | embeddingKey {v : Vendor} : c.Keyed Vendor.completing c.llmProvider → c.usesEmbeddings = true →
      v ∈ Vendor.embedding → v.name = c.embeddingProvider → c.hasKey v = false →
      Refused c (.embeddingKeyMissing v.keyVariable v.name)
  | batchSize : c.Keyed Vendor.completing c.llmProvider →
      (c.usesEmbeddings = true → c.Keyed Vendor.embedding c.embeddingProvider) → c.batchSize ≤ 0 → Refused c .batchSize
  | weights : c.Keyed Vendor.completing c.llmProvider →
      (c.usesEmbeddings = true → c.Keyed Vendor.embedding c.embeddingProvider) → 0 < c.batchSize →
      c.unknownWeights ≠ [] → Refused c (.unknownWeights c.unknownWeights)

/-- **Settings are refused for the first check that fails.** -/
theorem validate_eq_error_iff : c.validate = .error e ↔ c.Refused e := by
  rw [validate_eq, check_eq_error_iff, check_eq_error_iff, check_eq_error_iff, keyCheck_eq_ok_iff, keyCheck_eq_error_iff,
    vectorCheck_eq_ok_iff, vectorCheck_eq_error_iff, batchCheck_eq_ok_iff, batchCheck_eq_error_iff,
    weightCheck_eq_error_iff]
  constructor
  · rintro ((⟨hnone, rfl⟩ | ⟨v, hv, hname, hkey, rfl⟩) | ⟨hanswers, hrest⟩)
    · exact .provider hnone
    · exact .key hv hname hkey
    · rcases hrest with ⟨huses, ⟨hnone, rfl⟩ | ⟨v, hv, hname, hkey, rfl⟩⟩ | ⟨hvectors, hrest⟩
      · exact .embeddingProvider hanswers huses hnone
      · exact .embeddingKey hanswers huses hv hname hkey
      · rcases hrest with ⟨hsize, rfl⟩ | ⟨hsize, hweights, rfl⟩
        · exact .batchSize hanswers hvectors hsize
        · exact .weights hanswers hvectors hsize hweights
  · intro h
    cases h with
    | provider hnone => exact Or.inl (Or.inl ⟨hnone, rfl⟩)
    | key hv hname hkey => exact Or.inl (Or.inr ⟨_, hv, hname, hkey, rfl⟩)
    | embeddingProvider hanswers huses hnone => exact Or.inr ⟨hanswers, Or.inl ⟨huses, Or.inl ⟨hnone, rfl⟩⟩⟩
    | embeddingKey hanswers huses hv hname hkey =>
        exact Or.inr ⟨hanswers, Or.inl ⟨huses, Or.inr ⟨_, hv, hname, hkey, rfl⟩⟩⟩
    | batchSize hanswers hvectors hsize => exact Or.inr ⟨hanswers, Or.inr ⟨hvectors, Or.inl ⟨hsize, rfl⟩⟩⟩
    | weights hanswers hvectors hsize hweights =>
        exact Or.inr ⟨hanswers, Or.inr ⟨hvectors, Or.inr ⟨hsize, hweights, rfl⟩⟩⟩

end Sequence

/-! ## 4. Those who use the settings -/

section Consumers

theorem hasKey_eq_true_iff : c.hasKey v = true ↔ ∃ key, c.keyOf v = some key ∧ key ≠ "" := by
  unfold hasKey Fragment.isGiven
  cases c.keyOf v <;> simp

theorem apiKey_eq (hname : v.name = c.llmProvider) : c.apiKey = .ok (c.keyOf v) := by
  unfold apiKey
  rw [entry_eq_ok_iff, ← hname, apiKeys_eq, Vendor.get?_tabulate_name v.mem_completing]

theorem model_eq (hname : v.name = c.llmProvider) : c.model = .ok (c.modelOf v) := by
  unfold model
  rw [entry_eq_ok_iff, ← hname, models_eq, Vendor.get?_tabulate_name v.mem_completing]

theorem embeddingKey_eq (hv : v ∈ Vendor.embedding) (hname : v.name = c.embeddingProvider) :
    c.embeddingKey = .ok (c.keyOf v) := by
  unfold embeddingKey
  rw [entry_eq_ok_iff, ← hname, embeddingKeys_eq, Vendor.get?_tabulate_name hv]

theorem embeddingModel_eq (hv : v ∈ Vendor.embedding) (hname : v.name = c.embeddingProvider) :
    c.embeddingModel = .ok (c.embeddingModelOf v) := by
  unfold embeddingModel
  rw [entry_eq_ok_iff, ← hname, embeddingModels_eq, Vendor.get?_tabulate_name hv]

/-- The client for answers is that of the vendor whose name the settings hold. -/
theorem create_eq {o : Outside} (hname : v.name = c.llmProvider) (hkit : o.kit = some v) (j : Journal) :
    Completer.create o c none j = (.ok ⟨v, c.modelOf v⟩, j.withCompletionClient (c.keyOf v)) := by
  have hfind : Completer.find c none = .ok (⟨v, c.modelOf v⟩, c.keyOf v) := by
    unfold Completer.find
    simp only [← hname, Vendor.lower_name, Completer.registry_eq, Completer.apiKeys_eq, Completer.models_eq,
      Vendor.get?_tabulate_name v.mem_completing, id_eq]
  unfold Completer.create
  simp only [hfind, if_pos hkit]

/-- The embedder is that of the vendor whose name the settings hold. -/
theorem ofConfig_eq (huses : c.usesEmbeddings = true) (hv : v ∈ Vendor.embedding) (hname : v.name = c.embeddingProvider) :
    Embedder.ofConfig c = .ok (.vendor v (c.keyOf v) (c.embeddingModelOf v)) := by
  have hvendor : Table.get? (Text.lower c.embeddingProvider) Embedder.registry = some v := by
    rw [← hname, Vendor.lower_name, Embedder.registry_eq, Vendor.get?_tabulate_name hv, id_eq]
  unfold Embedder.ofConfig
  simp only [if_pos huses, hvendor, embeddingKey_eq hv hname, embeddingModel_eq hv hname]

/-- A phase in which vectors are wanted is refused if a batch has no size, and for no other size. -/
theorem batchSize_pos_iff : 0 < c.batchSize ↔ ∀ (o : Outside) (e : Embedder) (ix : Index) (j : Journal),
    (ix.withVectors o { c with usesEmbeddings := true } e j).1 ≠ .error .batchSize := by
  constructor
  · intro hsize o e ix j h
    have hsome : ¬ c.batchSize ≤ 0 := by omega
    unfold Index.withVectors at h
    cases hrun : ix.embed o e c.batchSize.toNat j with
    | mk run after =>
        simp only [if_true, if_neg hsome, Session.bind_run, hrun] at h
        cases hbroken : run.broken <;> rw [hbroken] at h <;> cases h
  · intro h
    by_contra hsize
    have hnone : c.batchSize ≤ 0 := by omega
    refine h (.scripted none fun _ => .text "") .disabled (Index.ofFragments false []) {} ?_
    unfold Index.withVectors
    simp only [if_true, if_pos hnone]
    rfl

/-- Everyone who uses the settings can. -/
structure Usable (c : Config) : Prop where
  /-- There are a key and a model for answers. If the kit is there, the client is made from them. -/
  answers : ∃ v key model, v.name = c.llmProvider ∧ c.apiKey = .ok (some key) ∧ key ≠ "" ∧ c.model = .ok model ∧
    ∀ (o : Outside) (j : Journal), o.kit = some v →
      Completer.create o c none j = (.ok ⟨v, model⟩, j.withCompletionClient (some key))
  answerer : ({ config := c, model := none } : Answerer).isAvailable = true
  /-- No phase in which vectors are wanted is refused for the size of a batch. -/
  batches : ∀ (o : Outside) (e : Embedder) (ix : Index) (j : Journal),
    (ix.withVectors o { c with usesEmbeddings := true } e j).1 ≠ .error .batchSize
  weights : ∀ k ∈ Table.keys c.weights, k ∈ weightNames
  /-- If vectors are used, there are a key and a model for them, and the embedder has these and can be asked. -/
  vectors : c.usesEmbeddings = true → ∃ v key model, v.name = c.embeddingProvider ∧ c.embeddingKey = .ok (some key) ∧
    c.embeddingModel = .ok model ∧ Embedder.ofConfig c = .ok (.vendor v (some key) model) ∧
    (Embedder.vendor v (some key) model).isAvailable = true

/-- The settings are usable if there are keys for the vendors, a batch has a size and the weights have known names. -/
theorem usable_iff : c.Usable ↔ c.Keyed Vendor.completing c.llmProvider ∧
    (c.usesEmbeddings = true → c.Keyed Vendor.embedding c.embeddingProvider) ∧ 0 < c.batchSize ∧
    c.unknownWeights = [] := by
  constructor
  · intro h
    refine ⟨?_, fun huses => ?_, batchSize_pos_iff.mpr h.batches, unknownWeights_eq_nil_iff.mpr h.weights⟩
    · obtain ⟨v, key, _, hname, hapi, hne, _⟩ := h.answers
      have hkey : c.keyOf v = some key := Except.ok.inj ((apiKey_eq hname).symm.trans hapi)
      exact ⟨v, v.mem_completing, hname, hasKey_eq_true_iff.mpr ⟨key, hkey, hne⟩⟩
    · obtain ⟨v, key, _, _, hkey, _, _, havailable⟩ := h.vectors huses
      unfold embeddingKey at hkey
      rw [entry_eq_ok_iff, embeddingKeys_eq] at hkey
      obtain ⟨w, hmem, hwname, hkeyOf⟩ := Vendor.get?_tabulate_eq_some_iff.mp hkey
      refine ⟨w, hmem, hwname, ?_⟩
      rw [hasKey, hkeyOf]
      exact havailable
  · intro h
    obtain ⟨⟨v, _, hname, hkey⟩, hvectors, hsize, hweights⟩ := h
    obtain ⟨key, hkeyOf, hne⟩ := hasKey_eq_true_iff.mp hkey
    have hapi : c.apiKey = .ok (some key) := (apiKey_eq hname).trans (congrArg Except.ok hkeyOf)
    refine ⟨⟨v, key, c.modelOf v, hname, hapi, hne, model_eq hname, fun o j hkit => ?_⟩, ?_, batchSize_pos_iff.mp hsize,
      unknownWeights_eq_nil_iff.mp hweights, fun huses => ?_⟩
    · rw [create_eq hname hkit, hkeyOf]
    · unfold Answerer.isAvailable
      rw [hapi, ← hkeyOf]
      exact hkey
    · obtain ⟨w, hmem, hwname, hwkey⟩ := hvectors huses
      obtain ⟨wkey, hwkeyOf, _⟩ := hasKey_eq_true_iff.mp hwkey
      refine ⟨w, wkey, c.embeddingModelOf w, hwname, ?_, embeddingModel_eq hmem hwname, ?_, ?_⟩
      · rw [embeddingKey_eq hmem hwname, hwkeyOf]
      · rw [ofConfig_eq huses hmem hwname, hwkeyOf]
      · rw [← hwkeyOf]
        exact hwkey

/-- **Settings pass the check exactly if everyone who uses them can.** Whatever names, keys, weights and sizes they hold,
otherwise they are refused, and the first check that fails says what is wrong. -/
theorem validate_usable (c : Config) :
    (c.validate = .ok () ↔ c.Usable) ∧ (∀ e, c.validate = .error e ↔ c.Refused e) ∧
      (¬ c.Usable ↔ ∃ e, c.Refused e) := by
  have hpass : c.validate = .ok () ↔ c.Usable := by
    rw [usable_iff, validate_eq, check_eq_ok_iff, check_eq_ok_iff, check_eq_ok_iff, keyCheck_eq_ok_iff,
      vectorCheck_eq_ok_iff, batchCheck_eq_ok_iff, weightCheck_eq_ok_iff]
  refine ⟨hpass, fun e => validate_eq_error_iff, ?_⟩
  rw [← hpass]
  cases h : c.validate with
  | ok u => exact ⟨fun hne => absurd rfl hne, fun ⟨e, he⟩ => by rw [validate_eq_error_iff.mpr he] at h; cases h⟩
  | error e => exact ⟨fun _ => ⟨e, validate_eq_error_iff.mp h⟩, fun _ => nofun⟩

end Consumers

end Config

end FragmentSearch
