import FragmentSearch.Index.Graph
import FragmentSearch.Proofs.Index.Views

/-!
# Dependencies and dependents are converse

Forwards, a dependency is looked up among ids and names; backwards, all recorded references are searched for
the id and the name of the fragment. Both are compared with one relation on fragments:

* `Names resolves a b` -- a dependency of `a` is the id of `b`, or in a resolving index its name;
* `mem_resolve` -- the ids that a dependency stands for, whether ids occur twice or not;
* `mem_dependencies_iff`, `mem_dependents_iff` -- without repeated ids, `b` is found forwards from `a` exactly
  if `a` names it, and `a` backwards from `b` exactly then;
* `mem_siblings_iff` -- siblings are different fragments of one package.
-/

namespace FragmentSearch.Index

variable {resolves : Bool} {fs : List Fragment} {a b : Fragment}

/-! ## 1. What a dependency stands for -/

/-- A dependency of `a` is the id of `b`, or in a resolving index its name. -/
def Names (resolves : Bool) (a b : Fragment) : Prop :=
  b.id ∈ a.dependencies ∨ resolves = true ∧ ∃ n ∈ a.dependencies, b.name = some n

theorem mem_getAll {ix : Index} {ids : List String} : a ∈ ix.getAll ids ↔ ∃ id ∈ ids, ix.get? id = some a :=
  List.mem_filterMap

/-- A dependency stands for the fragments with its id, in a resolving index also for those with its name. -/
theorem mem_resolve {id reference : String} :
    id ∈ (ofFragments resolves fs).resolve reference ↔
      ∃ f ∈ fs, f.id = id ∧ (id = reference ∨ resolves = true ∧ f.name = some reference) := by
  have hknown : (∃ f ∈ fs, f.id = reference) ∧ id = reference ↔ ∃ f ∈ fs, f.id = id ∧ id = reference := by
    constructor
    · rintro ⟨⟨f, hf, e⟩, rfl⟩
      exact ⟨f, hf, e, rfl⟩
    · rintro ⟨f, hf, e, rfl⟩
      exact ⟨⟨f, hf, e⟩, rfl⟩
  have hplace : (Table.get? reference (ofFragments resolves fs).place).isSome = true ↔ ∃ f ∈ fs, f.id = reference :=
    isSome_place
  have hnamed : id ∈ (Table.get? reference (ofFragments resolves fs).idsOfName).getD [] ↔
      resolves = true ∧ ∃ f ∈ fs, f.id = id ∧ f.name = some reference := mem_idsOfName
  unfold resolve
  rw [resolvesNames_ofFragments]
  cases resolves with
  | false =>
      simp only [Bool.false_eq_true, if_false, false_and, or_false]
      rw [← hknown, ← hplace]
      split
      · next h => simp [h]
      · next h => simp [h]
  | true =>
      simp only [if_true, true_and] at hnamed ⊢
      simp only [and_or_left, exists_or, ← hnamed, ← hknown, ← hplace]
      split
      · next h =>
          rw [mem_addOnce]
          simp only [h, true_and]
          exact or_comm
      · next h => simp [h]

/-- The references of an id are the dependencies of its fragment, if it has any. -/
theorem references_eq_some (hids : (fs.map (·.id)).Nodup) {id : String} {refs : List String} :
    Table.get? id (ofFragments resolves fs).references = some refs ↔
      ∃ f ∈ fs, f.id = id ∧ f.dependencies ≠ [] ∧ distinct f.dependencies = refs := by
  rw [get?_references, Option.map_eq_some_iff]
  constructor
  · rintro ⟨f, hf, rfl⟩
    obtain ⟨hmem, hq⟩ := List.mem_filter.mp (List.mem_of_getLast? hf)
    obtain ⟨hid, hd⟩ := of_decide_eq_true hq
    exact ⟨f, hmem, hid, hd, rfl⟩
  · rintro ⟨f, hf, rfl, hd, rfl⟩
    have hmem : f ∈ fs.filter fun g => g.id = f.id ∧ g.dependencies ≠ [] :=
      List.mem_filter.mpr ⟨hf, decide_eq_true ⟨rfl, hd⟩⟩
    have hlast := List.getLast?_eq_some_getLast (List.ne_nil_of_mem hmem)
    obtain ⟨hg, hq⟩ := List.mem_filter.mp (List.mem_of_getLast? hlast)
    have e := List.inj_on_of_nodup_map hids hg hf (of_decide_eq_true hq).1
    exact ⟨_, hlast, by rw [e]⟩

theorem mem_referencesOf (hids : (fs.map (·.id)).Nodup) (ha : a ∈ fs) {r : String} :
    r ∈ (ofFragments resolves fs).referencesOf a.id ↔ r ∈ a.dependencies := by
  unfold referencesOf
  cases h : Table.get? a.id (ofFragments resolves fs).references with
  | some refs =>
      obtain ⟨f, hf, hid, _, rfl⟩ := (references_eq_some hids).mp h
      rw [List.inj_on_of_nodup_map hids hf ha hid]
      exact mem_distinct
  | none =>
      -- a fragment without references has no dependencies
      have hnil : a.dependencies = [] := by
        by_contra hd
        rw [(references_eq_some hids).mpr ⟨a, ha, rfl, hd, rfl⟩] at h
        cases h
      rw [hnil]
      exact Iff.rfl

/-! ## 2. The relations -/

/-- **Forwards** from `a` are found the fragments that it names. -/
theorem mem_dependencies_iff (hids : (fs.map (·.id)).Nodup) (ha : a ∈ fs) :
    b ∈ (ofFragments resolves fs).dependencies a.id ↔ b ∈ fs ∧ Names resolves a b := by
  unfold dependencies
  simp only [mem_getAll, mem_inOrder, mem_distinct, List.mem_flatMap, mem_referencesOf hids ha, mem_resolve]
  constructor
  · rintro ⟨id, ⟨r, hr, f, hf, rfl, h⟩, hb⟩
    rw [get?_of_mem hids hf] at hb
    obtain rfl := Option.some.inj hb
    refine ⟨hf, ?_⟩
    rcases h with h | ⟨hres, hname⟩
    · exact Or.inl (h ▸ hr)
    · exact Or.inr ⟨hres, r, hr, hname⟩
  · rintro ⟨hb, h⟩
    refine ⟨b.id, ?_, get?_of_mem hids hb⟩
    rcases h with h | ⟨hres, n, hn, hname⟩
    · exact ⟨b.id, h, b, hb, rfl, Or.inl rfl⟩
    · exact ⟨n, hn, b, hb, rfl, Or.inr ⟨hres, hname⟩⟩

theorem namedIn_iff (hids : (fs.map (·.id)).Nodup) (hb : b ∈ fs) {f : Fragment} :
    (ofFragments resolves fs).namedIn b.id (distinct f.dependencies) = true ↔ Names resolves f b := by
  unfold namedIn Names
  rw [get?_of_mem hids hb, resolvesNames_ofFragments]
  cases hname : b.name with
  | none => simp [hname]
  | some n => simp [hname]

/-- The ids whose references name a fragment. -/
theorem mem_map_namedIn {ix : Index} (hkeys : (Table.keys ix.references).Nodup) {id i : String} :
    i ∈ (ix.references.filter fun e => ix.namedIn id e.2).map (·.1) ↔
      ∃ refs, Table.get? i ix.references = some refs ∧ ix.namedIn id refs = true := by
  simp only [List.mem_map, List.mem_filter]
  constructor
  · rintro ⟨e, ⟨he, hnamed⟩, rfl⟩
    exact ⟨e.2, (Table.mem_iff_get? hkeys).mp he, hnamed⟩
  · rintro ⟨refs, hrefs, hnamed⟩
    exact ⟨(i, refs), ⟨(Table.mem_iff_get? hkeys).mpr hrefs, hnamed⟩, rfl⟩

/-- **Backwards** from `b` are found the fragments that name it. -/
theorem mem_dependents_iff (hids : (fs.map (·.id)).Nodup) (hb : b ∈ fs) :
    a ∈ (ofFragments resolves fs).dependents b.id ↔ a ∈ fs ∧ Names resolves a b := by
  unfold dependents
  rw [mem_getAll]
  simp only [mem_inOrder, mem_map_namedIn nodup_references, references_eq_some hids]
  constructor
  · rintro ⟨_, ⟨_, ⟨f, hf, rfl, _, rfl⟩, hnamed⟩, ha⟩
    rw [get?_of_mem hids hf] at ha
    obtain rfl := Option.some.inj ha
    exact ⟨hf, (namedIn_iff hids hb).mp hnamed⟩
  · rintro ⟨ha, h⟩
    have hd : a.dependencies ≠ [] := by
      rcases h with h | ⟨_, n, h, _⟩ <;> exact List.ne_nil_of_mem h
    exact ⟨a.id, ⟨_, ⟨a, ha, rfl, hd, rfl⟩, (namedIn_iff hids hb).mpr h⟩, get?_of_mem hids ha⟩

/-- **Siblings** are different fragments of one package. -/
theorem mem_siblings_iff :
    b ∈ (ofFragments resolves fs).siblings a ↔
      b ∈ fs ∧ b.id ≠ a.id ∧ ∃ p, a.package = some p ∧ b.package = some p := by
  unfold siblings
  cases ha : a.package with
  | none => simp
  | some p =>
      simp only [byPackage_ofFragments, List.mem_filter, decide_eq_true_eq, Option.some.injEq, exists_eq_left', and_assoc]
      exact and_congr_right fun _ => and_comm

/-! ## 3. Converse relations -/

/-- **Dependencies and dependents are converse.** Of two fragments of an index without repeated ids, `b` is a
dependency of `a` exactly if `a` is a dependent of `b`, and exactly if `a` names `b`: by its id, or in a
resolving index by its name. Being siblings is symmetric. -/
theorem dependencies_converse (resolves : Bool) (fs : List Fragment) (hids : (fs.map (·.id)).Nodup) (a b : Fragment)
    (ha : a ∈ fs) (hb : b ∈ fs) :
    (b ∈ (ofFragments resolves fs).dependencies a.id ↔ a ∈ (ofFragments resolves fs).dependents b.id) ∧
    (b ∈ (ofFragments resolves fs).dependencies a.id ↔
      b.id ∈ a.dependencies ∨ resolves = true ∧ ∃ n ∈ a.dependencies, b.name = some n) ∧
    (b ∈ (ofFragments resolves fs).siblings a ↔ a ∈ (ofFragments resolves fs).siblings b) := by
  have hforwards : b ∈ (ofFragments resolves fs).dependencies a.id ↔ b ∈ fs ∧ Names resolves a b :=
    mem_dependencies_iff hids ha
  have hbackwards : a ∈ (ofFragments resolves fs).dependents b.id ↔ a ∈ fs ∧ Names resolves a b :=
    mem_dependents_iff hids hb
  refine ⟨?_, ?_, ?_⟩
  · rw [hforwards, hbackwards, and_iff_right ha, and_iff_right hb]
  · rw [hforwards, and_iff_right hb]
    exact Iff.rfl
  · rw [mem_siblings_iff, mem_siblings_iff, and_iff_right ha, and_iff_right hb]
    exact and_congr ne_comm (exists_congr fun _ => and_comm)

/-- Where one name is that of two methods and the id of a third one, each of the three is a dependency, and a
method that names itself depends on itself. -/
theorem dependencies_converse_collision :
    let run := member "m.run" "run" ["load", "run"]
    let others := [member "m.load" "load" [], member "n.load" "load" [], member "load" "open" []]
    ((run :: others).map (·.id)).Nodup ∧
    (∀ b ∈ run :: others, b ∈ (ofFragments true (run :: others)).dependencies "m.run" ∧
      run ∈ (ofFragments true (run :: others)).dependents b.id) ∧
    ∀ b ∈ others, run ∈ (ofFragments true (run :: others)).siblings b := by
  intro run others
  have hids : ((run :: others).map (·.id)).Nodup := by decide
  have hrun : run ∈ run :: others := List.mem_cons_self
  refine ⟨hids, fun b hb => ?_, fun b hb => ?_⟩
  · obtain ⟨hconverse, hnames, _⟩ := dependencies_converse true (run :: others) hids run b hrun hb
    have hdep : b ∈ (ofFragments true (run :: others)).dependencies run.id := by
      rw [hnames]
      simp only [run, others, member, List.mem_cons, List.not_mem_nil, or_false] at hb ⊢
      rcases hb with rfl | rfl | rfl | rfl <;> simp
    exact ⟨hdep, hconverse.mp hdep⟩
  · obtain ⟨_, _, hsiblings⟩ := dependencies_converse true (run :: others) hids run b hrun (List.mem_cons_of_mem _ hb)
    rw [← hsiblings, mem_siblings_iff]
    refine ⟨List.mem_cons_of_mem _ hb, ?_⟩
    simp only [run, others, member, List.mem_cons, List.not_mem_nil, or_false] at hb ⊢
    rcases hb with rfl | rfl | rfl <;> simp

end FragmentSearch.Index
