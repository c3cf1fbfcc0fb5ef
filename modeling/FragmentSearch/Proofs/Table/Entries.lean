import FragmentSearch.Table
import Mathlib.Data.List.Induction
import Mathlib.Data.List.Nodup

/-!
# What tables hold

* `keys_adjust` -- entering a key appends it or leaves the keys as they are, so no key comes to stand in a
  table twice (`nodup_adjust`);
* `mem_keys`, `mem_iff_get?` -- the keys are those with a value, and without a key twice the entries are the
  keys with their values;
* `get?_ofList`, `getD_file` -- of entries put into a table the last one of a key counts, and of entries filed
  all of them do, in their order.
-/

namespace FragmentSearch.Table

variable {κ ν : Type} [DecidableEq κ]

/-! ## 1. Keys -/

section Keys

theorem keys_adjust (k : κ) (f : Option ν → ν) (t : Table κ ν) :
    keys (adjust k f t) = if k ∈ keys t then keys t else keys t ++ [k] := by
  induction t with
  | nil => rfl
  | cons e t ih =>
      obtain ⟨j, v⟩ := e
      by_cases hjk : j = k
      · have hmem : k ∈ keys ((j, v) :: t) := List.mem_cons.mpr (Or.inl hjk.symm)
        rw [adjust, if_pos hjk, if_pos hmem]
        rfl
      · have hmem : k ∈ keys ((j, v) :: t) ↔ k ∈ keys t :=
          List.mem_cons.trans ⟨fun h => h.resolve_left fun e => hjk e.symm, Or.inr⟩
        rw [adjust, if_neg hjk]
        show j :: keys (adjust k f t) = _
        rw [ih]
        by_cases ht : k ∈ keys t
        · rw [if_pos ht, if_pos (hmem.mpr ht)]
          rfl
        · rw [if_neg ht, if_neg fun h => ht (hmem.mp h)]
          rfl

theorem mem_keys_adjust {j k : κ} {f : Option ν → ν} {t : Table κ ν} : j ∈ keys (adjust k f t) ↔ j ∈ keys t ∨ j = k := by
  rw [keys_adjust]
  split
  · next hk => exact ⟨Or.inl, fun h => h.elim id fun e => e ▸ hk⟩
  · rw [List.mem_append, List.mem_singleton]

/-- No key comes to stand in a table twice. -/
theorem nodup_adjust {k : κ} {f : Option ν → ν} {t : Table κ ν} (h : (keys t).Nodup) :
    (keys (adjust k f t)).Nodup := by
  rw [keys_adjust]
  split
  · exact h
  · next hk => exact List.nodup_append.mpr ⟨h, List.nodup_singleton k, fun j hj i hi e =>
      hk (List.mem_singleton.mp hi ▸ e ▸ hj)⟩

theorem nodup_put {k : κ} {v : ν} {t : Table κ ν} (h : (keys t).Nodup) : (keys (put k v t)).Nodup := nodup_adjust h

theorem mem_keys {k : κ} {t : Table κ ν} : k ∈ keys t ↔ ∃ v, get? k t = some v := by
  induction t with
  | nil => exact ⟨fun h => absurd h List.not_mem_nil, fun ⟨_, h⟩ => nomatch h⟩
  | cons e t ih =>
      obtain ⟨j, v⟩ := e
      by_cases hjk : j = k
      · refine ⟨fun _ => ⟨v, by rw [get?, if_pos hjk]⟩, fun _ => List.mem_cons.mpr (Or.inl hjk.symm)⟩
      · rw [get?, if_neg hjk, ← ih]
        exact List.mem_cons.trans ⟨fun h => h.resolve_left fun e => hjk e.symm, Or.inr⟩

theorem get?_eq_none {k : κ} {t : Table κ ν} : get? k t = none ↔ k ∉ keys t := by
  rw [mem_keys, Option.eq_none_iff_forall_ne_some, not_exists]

/-- Without a key twice, the entries are the keys with their values. -/
theorem mem_iff_get? {k : κ} {v : ν} {t : Table κ ν} (h : (keys t).Nodup) : (k, v) ∈ t ↔ get? k t = some v := by
  induction t with
  | nil => exact ⟨fun h => absurd h List.not_mem_nil, fun h => nomatch h⟩
  | cons e t ih =>
      obtain ⟨j, w⟩ := e
      obtain ⟨hj, ht⟩ := List.nodup_cons.mp h
      by_cases hjk : j = k
      · subst hjk
        rw [get?, if_pos rfl, List.mem_cons]
        constructor
        · rintro (h | h)
          · rw [(Prod.mk.inj h).2]
          · exact absurd (List.mem_map_of_mem h) hj
        · intro h
          rw [Option.some.inj h]
          exact Or.inl rfl
      · rw [get?, if_neg hjk, ← ih ht, List.mem_cons]
        exact ⟨fun h => h.resolve_left fun e => hjk (Prod.mk.inj e).1.symm, Or.inr⟩

end Keys

/-! ## 2. Many entries -/

section Many

/-- A new key is entered at the end. -/
theorem put_of_not_mem {k : κ} {t : Table κ ν} (v : ν) (h : k ∉ keys t) : put k v t = t ++ [(k, v)] := by
  induction t with
  | nil => rfl
  | cons e t ih =>
      obtain ⟨j, w⟩ := e
      have hjk : ¬ j = k := fun e => h (List.mem_cons.mpr (Or.inl e.symm))
      have ht : k ∉ keys t := fun h' => h (List.mem_cons_of_mem _ h')
      rw [put, adjust, if_neg hjk, List.cons_append]
      exact congrArg _ (ih ht)

theorem ofList_snoc (es : List (κ × ν)) (e : κ × ν) : ofList (es ++ [e]) = put e.1 e.2 (ofList es) := by
  unfold ofList
  rw [List.foldl_append]
  rfl

theorem nodup_ofList (es : List (κ × ν)) : (keys (ofList es)).Nodup := by
  induction es using List.reverseRecOn with
  | nil => exact List.nodup_nil
  | append_singleton es e ih =>
      rw [ofList_snoc]
      exact nodup_put ih

theorem mem_keys_ofList {k : κ} {es : List (κ × ν)} : k ∈ keys (ofList es) ↔ k ∈ es.map (·.1) := by
  induction es using List.reverseRecOn with
  | nil => exact Iff.rfl
  | append_singleton es e ih =>
      rw [ofList_snoc, put, mem_keys_adjust, ih, List.map_append, List.mem_append]
      exact or_congr_right List.mem_singleton.symm

/-- Entries with different keys are a table already. -/
theorem ofList_of_nodup {es : List (κ × ν)} (h : (es.map (·.1)).Nodup) : ofList es = es := by
  induction es using List.reverseRecOn with
  | nil => rfl
  | append_singleton es e ih =>
      rw [List.map_append, List.nodup_append] at h
      obtain ⟨hes, _, hdisj⟩ := h
      have hnew : e.1 ∉ keys es := fun hk => hdisj _ hk _ (List.mem_singleton.mpr rfl) rfl
      rw [ofList_snoc, ih hes, put_of_not_mem _ hnew]

/-- Of the entries of a key the last one counts. -/
theorem get?_ofList (k : κ) (es : List (κ × ν)) :
    get? k (ofList es) = (es.filter (·.1 = k)).getLast?.map (·.2) := by
  induction es using List.reverseRecOn with
  | nil => rfl
  | append_singleton es e ih =>
      rw [ofList_snoc, get?_put, List.filter_append]
      by_cases hk : e.1 = k
      · rw [if_pos hk, List.filter_cons_of_pos (by simpa using hk), List.filter_nil, List.getLast?_concat]
        rfl
      · rw [if_neg hk, List.filter_cons_of_neg (by simpa using hk), List.filter_nil, List.append_nil, ih]

theorem mem_of_get?_ofList {k : κ} {v : ν} {es : List (κ × ν)} (h : get? k (ofList es) = some v) : (k, v) ∈ es := by
  rw [get?_ofList, Option.map_eq_some_iff] at h
  obtain ⟨e, he, rfl⟩ := h
  obtain ⟨hmem, hk⟩ := List.mem_filter.mp (List.mem_of_getLast? he)
  rw [← of_decide_eq_true hk]
  exact hmem

theorem mem_of_mem_ofList {e : κ × ν} {es : List (κ × ν)} (h : e ∈ ofList es) : e ∈ es :=
  mem_of_get?_ofList ((mem_iff_get? (nodup_ofList es)).mp h)

/-- If a key is given one value only, this is what stands under it. -/
theorem get?_ofList_of_forall {k : κ} {v : ν} {es : List (κ × ν)} (hk : k ∈ es.map (·.1))
    (hv : ∀ e ∈ es, e.1 = k → e.2 = v) : get? k (ofList es) = some v := by
  obtain ⟨w, hw⟩ := mem_keys.mp (mem_keys_ofList.mpr hk)
  rw [hw, ← hv (k, w) (mem_of_get?_ofList hw) rfl]

/-- Of the members of a list that give entries for a key the last one counts. -/
theorem get?_ofList_map {α : Type} (f : α → κ) (g : α → ν) (k : κ) (xs : List α) :
    get? k (ofList (xs.map fun x => (f x, g x))) = (xs.filter (f · = k)).getLast?.map g := by
  have hfilter : (xs.map fun x => (f x, g x)).filter (·.1 = k) = (xs.filter (f · = k)).map fun x => (f x, g x) :=
    List.filter_map
  rw [get?_ofList, hfilter, List.getLast?_map, Option.map_map]
  rfl

theorem get?_file (j k : κ) (v : ν) (t : Table κ (List ν)) :
    get? j (file k v t) = if k = j then some ((get? k t).getD [] ++ [v]) else get? j t := get?_adjust j k _ t

theorem nodup_foldl_file (es : List (κ × ν)) : (keys (es.foldl (fun t e => file e.1 e.2 t) [])).Nodup := by
  induction es using List.reverseRecOn with
  | nil => exact List.nodup_nil
  | append_singleton es e ih =>
      rw [List.foldl_append, List.foldl_cons, List.foldl_nil, file]
      exact nodup_adjust ih

theorem mem_keys_foldl_file {k : κ} {es : List (κ × ν)} :
    k ∈ keys (es.foldl (fun t e => file e.1 e.2 t) []) ↔ k ∈ es.map (·.1) := by
  induction es using List.reverseRecOn with
  | nil => exact Iff.rfl
  | append_singleton es e ih =>
      rw [List.foldl_append, List.foldl_cons, List.foldl_nil, file, mem_keys_adjust, ih, List.map_append, List.mem_append]
      exact or_congr_right List.mem_singleton.symm

/-- Of the entries that are filed under a key all count, in their order. -/
theorem getD_file (k : κ) (es : List (κ × ν)) :
    (get? k (es.foldl (fun t e => file e.1 e.2 t) [])).getD [] = (es.filter (·.1 = k)).map (·.2) := by
  induction es using List.reverseRecOn with
  | nil => rfl
  | append_singleton es e ih =>
      rw [List.foldl_append, List.foldl_cons, List.foldl_nil, get?_file, List.filter_append, List.map_append]
      by_cases hk : e.1 = k
      · rw [if_pos hk, List.filter_cons_of_pos (by simpa using hk), hk, ih]
        rfl
      · rw [if_neg hk, List.filter_cons_of_neg (by simpa using hk), ih, List.filter_nil, List.map_nil, List.append_nil]

/-- Changing the values of different keys, one after the other. -/
theorem get?_foldl_adjust (j : κ) (f : Option ν → ν) {ks : List κ} (hn : ks.Nodup) : ∀ t : Table κ ν,
    get? j (ks.foldl (fun t k => adjust k f t) t) = if j ∈ ks then some (f (get? j t)) else get? j t := by
  induction ks with
  | nil => intro t; rfl
  | cons k ks ih =>
      intro t
      obtain ⟨hk, hks⟩ := List.nodup_cons.mp hn
      rw [List.foldl_cons, ih hks, get?_adjust]
      by_cases hkj : k = j
      · subst hkj
        rw [if_neg hk, if_pos rfl, if_pos List.mem_cons_self]
      · have hmem : j ∈ k :: ks ↔ j ∈ ks :=
          List.mem_cons.trans ⟨fun h => h.resolve_left fun e => hkj e.symm, Or.inr⟩
        simp only [if_neg hkj, hmem]

theorem keys_foldl_adjust (f : Option ν → ν) {ks : List κ} (hn : ks.Nodup) : ∀ t : Table κ ν,
    keys (ks.foldl (fun t k => adjust k f t) t) = keys t ++ ks.filter (· ∉ keys t) := by
  induction ks with
  | nil => intro t; exact (List.append_nil _).symm
  | cons k ks ih =>
      intro t
      obtain ⟨hk, hks⟩ := List.nodup_cons.mp hn
      rw [List.foldl_cons, ih hks, keys_adjust]
      by_cases ht : k ∈ keys t
      · rw [if_pos ht, List.filter_cons_of_neg (by simpa using ht)]
      · have hrest : ks.filter (· ∉ keys t ++ [k]) = ks.filter (· ∉ keys t) := by
          refine List.filter_congr fun i hi => decide_eq_decide.mpr ?_
          have hik : i ≠ k := fun e => hk (e ▸ hi)
          rw [List.mem_append, List.mem_singleton, or_iff_left hik]
        rw [if_neg ht, List.filter_cons_of_pos (by simpa using ht), hrest, List.append_assoc, List.singleton_append]

end Many

end FragmentSearch.Table
