import FragmentSearch.Proofs.Provider.Vectors
import Mathlib.Data.List.Nodup
import Mathlib.Data.List.Perm.Basic

/-!
# Vectors with the numbers of their texts

A kit may return the vectors in any order, each with the number of its text as its label:

* `Labelled n vs` -- the labels of `vs` are the numbers below `n`, each once;
* `getElem?_ordered` -- the vector with a label is then put at the place of that number;
* `ordered_congr` -- with labels of which none occurs twice, the order of a reply does not matter;
* `askVendor_eq` -- what a vendor is asked, what it returns and what the journal records; `exists_ask_labelled` --
  what it returns for a reply with labels;
* `ask_congr` -- a request is answered alike by replies that are `Rearranged`.
-/

namespace FragmentSearch

/-! ## 1. Labels -/

section Labels

/-- Do the labels number the texts, each of them once? -/
def Labelled (n : Nat) (vs : List (Int × Json)) : Prop :=
  (vs.map (·.1)).Perm ((List.range n).map fun i : Nat => (i : Int))

variable {n i : Nat} {v : Json} {vs ws : List (Int × Json)}

theorem Labelled.length (h : Labelled n vs) : vs.length = n := by
  have hlen := List.Perm.length_eq h
  simpa using hlen

/-- The labelled vectors in the order of their labels. -/
theorem pairwise_label_le (vs : List (Int × Json)) :
    ((vs.mergeSort fun a b => a.1 ≤ b.1).map (·.1)).Pairwise (· ≤ ·) := by
  have hsorted : (vs.mergeSort fun a b => a.1 ≤ b.1).Pairwise fun a b => decide (a.1 ≤ b.1) = true := by
    refine List.pairwise_mergeSort (fun a b c hab hbc => ?_) (fun a b => ?_) vs
    · simp only [decide_eq_true_eq] at hab hbc ⊢
      omega
    · simp only [Bool.or_eq_true, decide_eq_true_eq]
      omega
  exact List.pairwise_map.mpr (hsorted.imp fun h => of_decide_eq_true h)

/-- Sorted by their labels, the vectors are numbered from 0 on. -/
theorem Labelled.map_fst_mergeSort (h : Labelled n vs) :
    (vs.mergeSort fun a b => a.1 ≤ b.1).map (·.1) = (List.range n).map fun i : Nat => (i : Int) := by
  have hperm : ((vs.mergeSort fun a b => a.1 ≤ b.1).map (·.1)).Perm ((List.range n).map fun i : Nat => (i : Int)) :=
    ((List.mergeSort_perm vs _).map _).trans h
  have hrange : ((List.range n).map fun i : Nat => (i : Int)).Pairwise (· ≤ ·) :=
    List.pairwise_map.mpr (List.pairwise_lt_range.imp fun h => by omega)
  exact hperm.eq_of_pairwise (fun a b _ _ hab hba => Int.le_antisymm hab hba) (pairwise_label_le vs) hrange

/-- **The vector labelled with a number stands at the place of that number**, and no other one does. -/
theorem Labelled.getElem?_ordered (h : Labelled n vs) :
    (Embedder.ordered vs)[i]? = some v ↔ ((i : Int), v) ∈ vs := by
  -- at each place the label is the number of the place
  have hlabel : ∀ (k : Nat) (p : Int × Json), (vs.mergeSort fun a b => a.1 ≤ b.1)[k]? = some p → p.1 = k := by
    intro k p hp
    have hk := congrArg (·[k]?) h.map_fst_mergeSort
    simp only [List.getElem?_map, hp, Option.map_some] at hk
    obtain ⟨m, hm, he⟩ := Option.map_eq_some_iff.mp hk.symm
    have hmk : m = k := by
      obtain ⟨_, hget⟩ := List.getElem?_eq_some_iff.mp hm
      simpa using hget.symm
    rw [← he, hmk]
  unfold Embedder.ordered
  rw [List.getElem?_map]
  constructor
  · intro hv
    obtain ⟨p, hp, rfl⟩ := Option.map_eq_some_iff.mp hv
    have hmem : p ∈ vs := (List.mergeSort_perm vs _).mem_iff.mp (List.mem_of_getElem? hp)
    rw [← hlabel i p hp]
    exact hmem
  · intro hv
    obtain ⟨k, hk⟩ := List.mem_iff_getElem?.mp ((List.mergeSort_perm vs fun a b => a.1 ≤ b.1).mem_iff.mpr hv)
    have hik : i = k := by
      have := hlabel k _ hk
      omega
    rw [hik, hk]
    rfl

theorem length_ordered (vs : List (Int × Json)) : (Embedder.ordered vs).length = vs.length := by
  rw [Embedder.ordered, List.length_map, List.length_mergeSort]

/-- There is a vector for each text. -/
theorem Labelled.exists_of_lt (h : Labelled n vs) (hi : i < n) : ∃ v, ((i : Int), v) ∈ vs := by
  have hlt : i < (Embedder.ordered vs).length := by rw [length_ordered, h.length]; exact hi
  exact ⟨_, h.getElem?_ordered.mp (List.getElem?_eq_getElem hlt)⟩

/-- Where no label occurs twice, the order of a reply does not matter. -/
theorem ordered_congr (h : vs.Perm ws) (hlabels : (vs.map (·.1)).Nodup) :
    Embedder.ordered vs = Embedder.ordered ws := by
  unfold Embedder.ordered
  refine congrArg (List.map Prod.snd) ?_
  have hperm : (vs.mergeSort fun a b => a.1 ≤ b.1).Perm (ws.mergeSort fun a b => a.1 ≤ b.1) :=
    ((List.mergeSort_perm vs _).trans h).trans (List.mergeSort_perm ws _).symm
  refine hperm.eq_of_pairwise (fun p q hp hq hpq hqp => ?_) (List.pairwise_map.mp (pairwise_label_le vs))
    (List.pairwise_map.mp (pairwise_label_le ws))
  have hp' : p ∈ vs := (List.mergeSort_perm vs _).mem_iff.mp hp
  have hq' : q ∈ vs := h.mem_iff.mpr ((List.mergeSort_perm ws _).mem_iff.mp hq)
  exact List.inj_on_of_nodup_map hlabels hp' hq' (Int.le_antisymm hpq hqp)

end Labels

/-! ## 2. The items of a reply -/

section Items

/-- The items of a value as a list. -/
def itemList (v : Json) : Except ServiceFailure Json :=
  match v.items with
  | .error e => .error (.unreadable e)
  | .ok xs => .ok (.list xs)

variable {v w : Json} {vs ws : List Json}

theorem itemList_eq_ok_iff : itemList v = .ok w ↔ ∃ xs, v.items = .ok xs ∧ w = .list xs := by
  unfold itemList
  cases v.items <;> simp [eq_comm]

theorem itemLists_eq_mapM (vs : List Json) : Embedder.itemLists vs = vs.mapM itemList := by
  induction vs with
  | nil => rfl
  | cons v vs ih =>
      rw [Embedder.itemLists, List.mapM_cons, ih, itemList]
      cases v.items with
      | error e => rfl
      | ok xs => cases vs.mapM itemList <;> rfl

/-- A vector is read alike from its items. -/
theorem vector?_itemList (h : itemList v = .ok w) : w.vector? = v.vector? := by
  obtain ⟨xs, hxs, rfl⟩ := itemList_eq_ok_iff.mp h
  unfold Json.vector?
  rw [toFloats_eq, toFloats_eq, hxs]
  rfl

/-- A vector has items. -/
theorem exists_itemList_of_vector? {xs : List Float} (h : v.vector? = some xs) : ∃ w, itemList v = .ok w := by
  obtain ⟨items, hitems, _⟩ := vector?_eq_some_iff.mp h
  exact ⟨.list items, itemList_eq_ok_iff.mpr ⟨items, hitems, rfl⟩⟩

theorem mem_of_mem_ordered {labels : List (Int × Json)} (h : v ∈ Embedder.ordered labels) : ∃ p ∈ labels, p.2 = v := by
  obtain ⟨p, hp, rfl⟩ := List.mem_map.mp h
  exact ⟨p, (List.mergeSort_perm labels _).mem_iff.mp hp, rfl⟩

/-- **A reply with labels is the list of its vectors in the order of the labels**, if all of them have items. -/
theorem exists_replyVectors {labels : List (Int × Json)} (vendor : Vendor)
    (hitems : ∀ p ∈ labels, ∃ w, itemList p.2 = .ok w) :
    ∃ ws, Embedder.replyVectors vendor (.indexed labels) = .ok (.list ws) ∧
      List.Forall₂ (fun u w => itemList u = .ok w) (Embedder.ordered labels) ws := by
  have hordered : ∀ u ∈ Embedder.ordered labels, ∃ w, itemList u = .ok w := by
    intro u hu
    obtain ⟨p, hp, rfl⟩ := mem_of_mem_ordered hu
    exact hitems p hp
  obtain ⟨ws, hws⟩ := exists_mapM_ok hordered
  refine ⟨ws, ?_, mapM_eq_ok_iff.mp hws⟩
  rw [Embedder.replyVectors, itemLists_eq_mapM, hws]
  rfl

/-- **A reply that labels a vector for each of some texts is read**, and the vector labelled with a number is read at the
place of that number. -/
theorem exists_checkVectors_replyVectors {n : Nat} {labels : List (Int × Json)} (vendor : Vendor) (h : Labelled n labels)
    (hvectors : ∀ p ∈ labels, p.2.vector?.isSome = true) :
    ∃ v vectors, Embedder.replyVectors vendor (.indexed labels) = .ok v ∧ checkVectors v n = .ok vectors ∧
      ∀ (i : Nat) (u : Json), ((i : Int), u) ∈ labels → ∃ xs, u.vector? = some xs ∧ vectors[i]? = some xs := by
  have hitems : ∀ p ∈ labels, ∃ w, itemList p.2 = .ok w := by
    intro p hp
    obtain ⟨xs, hxs⟩ := Option.isSome_iff_exists.mp (hvectors p hp)
    exact exists_itemList_of_vector? hxs
  obtain ⟨ws, hws, hall⟩ := exists_replyVectors vendor hitems
  have hlength : ws.length = n := by rw [← hall.length_eq, length_ordered, h.length]
  have hread : ∀ w ∈ ws, ∃ xs, checkVector w = .ok xs := by
    intro w hw
    obtain ⟨k, hk⟩ := List.mem_iff_getElem?.mp hw
    obtain ⟨u, hu, huw⟩ := exists_getElem?_of_forall₂ hall.flip hk
    obtain ⟨p, hp, rfl⟩ := mem_of_mem_ordered (List.mem_of_getElem? hu)
    obtain ⟨xs, hxs⟩ := Option.isSome_iff_exists.mp (hvectors p hp)
    exact ⟨xs, checkVector_eq_ok_iff.mpr ((vector?_itemList huw).trans hxs)⟩
  obtain ⟨vectors, hvs⟩ := exists_mapM_ok hread
  refine ⟨.list ws, vectors, hws, ?_, fun i u hu => ?_⟩
  · rw [checkVectors_list, if_pos hlength, hvs]
  · obtain ⟨w, hw, huw⟩ := exists_getElem?_of_forall₂ hall (h.getElem?_ordered.mpr hu)
    obtain ⟨xs, hxs, hwxs⟩ := exists_getElem?_of_forall₂ (mapM_eq_ok_iff.mp hvs) hw
    exact ⟨xs, (vector?_itemList huw).symm.trans (checkVector_eq_ok_iff.mp hwxs), hxs⟩

end Items

/-! ## 3. One request -/

section Request

variable {o o' : Outside} {v : Vendor} {key : Option String} {model : String} {texts : List String} {j : Journal}

/-- The journal once there is a client for vectors. -/
def Journal.withClient (j : Journal) (key : Option String) : Journal :=
  if j.embeddingClient then j else j.withEmbeddingClient key

@[simp]
theorem Journal.withClient_replies : (j.withClient key).replies = j.replies := by
  unfold Journal.withClient
  split <;> rfl

@[simp]
theorem Journal.withClient_embeddingClient : (j.withClient key).embeddingClient = true := by
  unfold Journal.withClient
  split
  · assumption
  · rfl

/-- Is there a client for vectors, or can one of the vendor be made? -/
def Reachable (o : Outside) (v : Vendor) (j : Journal) : Prop := j.embeddingClient = true ∨ o.kit = some v

instance : Decidable (Reachable o v j) := inferInstanceAs (Decidable (_ ∨ _))

theorem ensureClient_eq (o : Outside) (v : Vendor) (key : Option String) (j : Journal) :
    Embedder.ensureClient o v key j =
      if Reachable o v j then (.ok (), j.withClient key) else (.error (.refused (Embedder.kitMissing v)), j) := by
  unfold Embedder.ensureClient Journal.withClient Reachable
  by_cases hclient : j.embeddingClient = true
  · simp [hclient]
  · by_cases hkit : o.kit = some v <;> simp [hclient, hkit]

/-- **One request to a vendor.** Without a key, without texts or without a client nothing is asked; otherwise the next
reply answers it, and the journal records the request. -/
theorem askVendor_eq (o : Outside) (v : Vendor) (key : Option String) (model : String) (texts : List String)
    (j : Journal) :
    Embedder.askVendor o v key model texts j =
      if Fragment.isGiven key = false then (.error (.refused (Embedder.noKey v)), j)
      else if texts = [] then (.ok (.list []), j)
      else if Reachable o v j then
        (Embedder.replyVectors v (o.reply j.replies), (j.withClient key).withCall (.embed v model texts))
      else (.error (.refused (Embedder.kitMissing v)), j) := by
  unfold Embedder.askVendor
  by_cases hkey : Fragment.isGiven key = true
  · by_cases htexts : texts = []
    · simp [hkey, htexts]
      rfl
    · have hclient := ensureClient_eq o v key j
      by_cases h : Reachable o v j
      · rw [if_pos h] at hclient
        simp [hkey, htexts, h, hclient, bind, StateT.bind, Outside.ask]
        rfl
      · rw [if_neg h] at hclient
        simp [hkey, htexts, h, hclient, bind, StateT.bind]
        rfl
  · simp [hkey]
    rfl

/-- A vendor with a key and a client is asked, and the next reply answers the request. -/
theorem ask_of_reachable (hkey : Fragment.isGiven key = true) (htexts : texts ≠ []) (h : Reachable o v j) :
    (Embedder.vendor v key model).ask o texts j =
      (Embedder.replyVectors v (o.reply j.replies), (j.withClient key).withCall (.embed v model texts)) := by
  show Embedder.askVendor o v key model texts j = _
  rw [askVendor_eq, if_neg (by simp [hkey]), if_neg htexts, if_pos h]

/-- **A request answered with labels** gives the vectors in the order of the texts. -/
theorem exists_ask_labelled (hkey : Fragment.isGiven key = true) (htexts : texts ≠ []) (hreach : Reachable o v j)
    {labels : List (Int × Json)} (hreply : o.reply j.replies = .indexed labels) (h : Labelled texts.length labels)
    (hitems : ∀ p ∈ labels, ∃ items, p.2.items = .ok items) :
    ∃ ws, ((Embedder.vendor v key model).ask o texts j).1 = .ok (.list ws) ∧ ws.length = texts.length ∧
      ∀ (i : Nat) (u : Json) (items : List Json), ((i : Int), u) ∈ labels → u.items = .ok items →
        ws[i]? = some (.list items) := by
  have hlists : ∀ p ∈ labels, ∃ w, itemList p.2 = .ok w := by
    intro p hp
    obtain ⟨items, hitem⟩ := hitems p hp
    exact ⟨.list items, itemList_eq_ok_iff.mpr ⟨items, hitem, rfl⟩⟩
  obtain ⟨ws, hws, hall⟩ := exists_replyVectors v hlists
  refine ⟨ws, ?_, ?_, fun i u items hu hitem => ?_⟩
  · rw [ask_of_reachable hkey htexts hreach, hreply]
    exact hws
  · rw [← hall.length_eq, length_ordered, h.length]
  · obtain ⟨w, hw, huw⟩ := exists_getElem?_of_forall₂ hall (h.getElem?_ordered.mpr hu)
    obtain ⟨items', hitems', rfl⟩ := itemList_eq_ok_iff.mp huw
    rw [hw, Except.ok.inj (hitem.symm.trans hitems')]

/-- A request takes at most one reply. -/
theorem replies_ask (o : Outside) (e : Embedder) (texts : List String) (j : Journal) :
    (e.ask o texts j).2.replies = j.replies ∨ (e.ask o texts j).2.replies = j.replies + 1 := by
  cases e with
  | disabled => exact Or.inl rfl
  | vendor v key model =>
      show (Embedder.askVendor o v key model texts j).2.replies = _ ∨
        (Embedder.askVendor o v key model texts j).2.replies = _
      have hcall : ((j.withClient key).withCall (.embed v model texts)).replies = j.replies + 1 := by
        simp [Journal.withCall]
      rw [askVendor_eq]
      split_ifs <;> simp [hcall]
  | custom name available answer => exact Or.inl rfl

end Request

/-! ## 4. Two replies -/

section Rearranged

/-- Are two replies the same but for the order of labelled vectors, no label occurring twice? -/
inductive KitReply.Rearranged : KitReply → KitReply → Prop
  | same (r : KitReply) : Rearranged r r
  | indexed {vs ws : List (Int × Json)} : vs.Perm ws → (vs.map (·.1)).Nodup → Rearranged (.indexed vs) (.indexed ws)

variable {o o' : Outside} {v : Vendor} {r r' : KitReply}

theorem replyVectors_congr (h : r.Rearranged r') : Embedder.replyVectors v r = Embedder.replyVectors v r' := by
  cases h with
  | same => rfl
  | indexed hperm hlabels => rw [Embedder.replyVectors, Embedder.replyVectors, ordered_congr hperm hlabels]

/-- **A rearranged reply answers a request alike.** -/
theorem ask_congr (e : Embedder) (texts : List String) (j : Journal) (hkit : o.kit = o'.kit)
    (h : (o.reply j.replies).Rearranged (o'.reply j.replies)) : e.ask o texts j = e.ask o' texts j := by
  cases e with
  | disabled => rfl
  | vendor v key model =>
      show Embedder.askVendor o v key model texts j = Embedder.askVendor o' v key model texts j
      have hreach : Reachable o v j ↔ Reachable o' v j := by rw [Reachable, Reachable, hkit]
      simp only [askVendor_eq, replyVectors_congr h, hreach]
  | custom name available answer => rfl

end Rearranged

end FragmentSearch
