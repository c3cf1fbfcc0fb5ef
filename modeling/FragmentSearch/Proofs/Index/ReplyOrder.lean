import FragmentSearch.Proofs.Index.Interruption
import FragmentSearch.Proofs.Provider.Labels

/-!
# The order of the vectors in a reply

A kit that labels its vectors may return them in any order. Two runs whose replies differ in nothing but this order are
compared batch by batch (`embedBatches_congr`): no vector can be attached to another fragment. And one run is followed
from the labels to the fragments:

* `getElem?_askEach` -- the reply to the batch of a number is the one with this number, counted from the first;
* `Placed` -- what the labels of the replies say about the fragments;
* `placed_embed` -- that is what the phase leaves;
* `embed_relabelled` -- the request, the two runs and the fragments together.
-/

namespace FragmentSearch.Index

variable {resolves : Bool} {fs : List Fragment} {o o' : Outside} {size : Nat}

/-! ## 1. Two runs -/

section Runs

/-- **Batches with rearranged replies leave the same**, and the same is asked. -/
theorem embedBatches_congr (e : Embedder) (hkit : o.kit = o'.kit) (bs : List (List Fragment)) :
    ∀ (run : EmbeddingRun) (j : Journal),
      (∀ n, j.replies ≤ n → n < j.replies + bs.length → (o.reply n).Rearranged (o'.reply n)) →
      embedBatches o e bs run j = embedBatches o' e bs run j := by
  induction bs with
  | nil => intro run j _; rfl
  | cons batch bs ih =>
      intro run j h
      have hfirst : e.ask o (batch.map (·.contextText)) j = e.ask o' (batch.map (·.contextText)) j :=
        ask_congr e _ j hkit (h j.replies (Nat.le_refl _) (by simp))
      have hrest : ∀ n, (e.ask o' (batch.map (·.contextText)) j).2.replies ≤ n →
          n < (e.ask o' (batch.map (·.contextText)) j).2.replies + bs.length → (o.reply n).Rearranged (o'.reply n) := by
        intro n hle hlt
        have htaken := replies_ask o' e (batch.map (·.contextText)) j
        refine h n (by omega) ?_
        rw [List.length_cons]
        omega
      rw [embedBatches_cons, embedBatches_cons, hfirst, ih _ _ hrest]

/-- A phase with rearranged replies leaves the same. -/
theorem embed_congr (e : Embedder) (hsize : 0 < size) (hkit : o.kit = o'.kit) (j : Journal)
    (h : ∀ k < (slices size (fs.filter (!·.isEmbedded))).length,
      (o.reply (j.replies + k)).Rearranged (o'.reply (j.replies + k))) :
    (ofFragments resolves fs).embed o e size j = (ofFragments resolves fs).embed o' e size j := by
  have hreplies : ∀ n, j.replies ≤ n → n < j.replies + (slices size (fs.filter (!·.isEmbedded))).length →
      (o.reply n).Rearranged (o'.reply n) := by
    intro n hle hlt
    have hn := h (n - j.replies) (by omega)
    rwa [Nat.add_sub_cancel' hle] at hn
  unfold embed pending
  rw [fragments_ofFragments, batches_eq_slices, Nat.sub_add_cancel hsize]
  split
  · exact embedBatches_congr e hkit _ _ j hreplies
  · rfl

end Runs

/-! ## 2. The replies of one run -/

section Replies

variable {v : Vendor} {key : Option String} {model : String} {j : Journal}

theorem ne_nil_of_mem_slices {batch : List Fragment} (hsize : 0 < size) (h : batch ∈ slices size fs) : batch ≠ [] := by
  obtain ⟨k, rfl⟩ := Nat.exists_eq_succ_of_ne_zero (Nat.pos_iff_ne_zero.mp hsize)
  rw [Nat.succ_eq_add_one, ← batches_eq_slices] at h
  induction fs using batches.induct k with
  | case1 =>
      rw [batches] at h
      cases h
  | case2 x xs ih =>
      rw [batches] at h
      cases h with
      | head => exact List.cons_ne_nil _ _
      | tail _ h => exact ih h

/-- **The replies answer the requests in their order.** -/
theorem getElem?_askEach (hkey : Fragment.isGiven key = true) (requests : List (List String))
    (htexts : ∀ texts ∈ requests, texts ≠ []) : ∀ j : Journal, Reachable o v j → ∀ k < requests.length,
    (askEach o (.vendor v key model) requests j).1[k]? = some (Embedder.replyVectors v (o.reply (j.replies + k))) := by
  induction requests with
  | nil => intro j _ k hk; exact absurd hk (Nat.not_lt_zero k)
  | cons texts requests ih =>
      intro j hreach k hk
      obtain ⟨hfirst, hrest⟩ := List.forall_mem_cons.mp htexts
      rw [askEach_cons, ask_of_reachable hkey hfirst hreach]
      cases k with
      | zero => rfl
      | succ k =>
          have hreach' : Reachable o v ((j.withClient key).withCall (.embed v model texts)) :=
            Or.inl j.withClient_embeddingClient
          rw [List.getElem?_cons_succ, ih hrest _ hreach' k (by simpa using hk)]
          have hnumber : j.replies + 1 + k = j.replies + (k + 1) := by omega
          simp [Journal.withCall, hnumber]

/-- Each batch goes with the reply of its number. -/
theorem getElem?_answered (hkey : Fragment.isGiven key = true) (hsize : 0 < size) (hreach : Reachable o v j) {k : Nat}
    {batch : List Fragment} (hk : (slices size (fs.filter (!·.isEmbedded)))[k]? = some batch) :
    (answered o (.vendor v key model) size fs j)[k]? =
      some (batch, Embedder.replyVectors v (o.reply (j.replies + k))) := by
  have hlt : k < (requests size fs).length := by
    rw [requests, List.length_map]
    exact (List.getElem?_eq_some_iff.mp hk).1
  have htexts : ∀ texts ∈ requests size fs, texts ≠ [] := by
    intro texts htexts
    obtain ⟨b, hb, rfl⟩ := List.mem_map.mp htexts
    simpa using ne_nil_of_mem_slices hsize hb
  rw [answered, exchanged, List.getElem?_zip_eq_some]
  exact ⟨hk, getElem?_askEach hkey _ htexts j hreach k hlt⟩

end Replies

/-! ## 3. From the labels to the fragments -/

section Placed

/-- The reply to each batch labels a vector for each of its members; `labels k` are those for the batch of number `k`. -/
def Labels (o : Outside) (size : Nat) (fs : List Fragment) (j : Journal) (labels : Nat → List (Int × Json)) : Prop :=
  ∀ (k : Nat) (batch : List Fragment), (slices size (fs.filter (!·.isEmbedded)))[k]? = some batch →
    o.reply (j.replies + k) = .indexed (labels k) ∧ Labelled batch.length (labels k) ∧
      ∀ p ∈ labels k, p.2.vector?.isSome = true

/-- What a phase leaves of the fragments `fs` if the replies have these labels. -/
structure Placed (resolves : Bool) (fs : List Fragment) (size : Nat) (labels : Nat → List (Int × Json))
    (run : EmbeddingRun) : Prop where
  unbroken : run.broken = none
  failed : run.failed = 0
  /-- The views do not change. -/
  views : run.index = { ofFragments resolves fs with fragments := run.index.fragments }
  /-- A member of a batch has the vector labelled with its place in the batch. -/
  members : ∀ (k : Nat) (batch : List Fragment), (slices size (fs.filter (!·.isEmbedded)))[k]? = some batch →
    ∀ (m : Nat) (f : Fragment), batch[m]? = some f → ∃ v xs, ((m : Int), v) ∈ labels k ∧ v.vector? = some xs ∧
      ∀ i : Nat, fs[i]? = some f → run.index.fragments[i]? = some { f with embedding := some xs }
  /-- A fragment that had a vector is as it was. -/
  others : ∀ (i : Nat) (f : Fragment), fs[i]? = some f → f.isEmbedded = true → run.index.fragments[i]? = some f

variable {v : Vendor} {key : Option String} {model : String} {j : Journal} {labels : Nat → List (Int × Json)}
  {exchange : List (List Fragment × Except ServiceFailure Json)}

/-- For a fragment outside of the batches nothing is read. -/
theorem given_of_not_mem (hids : (fs.map (·.id)).Nodup) (hsub : (exchange.flatMap (·.1)).Sublist fs) {f : Fragment}
    (hf : f ∈ fs) (hout : f ∉ exchange.flatMap (·.1)) : f.given (Table.ofList (vectorsById exchange)) = f := by
  have hnone : Table.get? f.id (Table.ofList (vectorsById exchange)) = none := by
    refine Table.get?_eq_none.mpr fun hkey => ?_
    obtain ⟨g, hg, hid⟩ := exists_of_key_vectorsById (Table.mem_keys_ofList.mp hkey)
    have hgf : g = f := List.inj_on_of_nodup_map hids (hsub.subset hg) hf hid
    exact hout (hgf ▸ hg)
  rw [Fragment.given, hnone]
  rfl

/-- Every reply is read, each vector at the place of its label. -/
theorem exists_read (hsize : 0 < size) (hkey : Fragment.isGiven key = true) (hreach : Reachable o v j)
    (hlabels : Labels o size fs j labels) {k : Nat} {p : List Fragment × Except ServiceFailure Json}
    (hp : (answered o (.vendor v key model) size fs j)[k]? = some p) :
    ∃ w vectors, p.2 = .ok w ∧ checkVectors w p.1.length = .ok vectors ∧
      ∀ (m : Nat) (u : Json), ((m : Int), u) ∈ labels k → ∃ xs, u.vector? = some xs ∧ vectors[m]? = some xs := by
  have hk : (slices size (fs.filter (!·.isEmbedded)))[k]? = some p.1 := (List.getElem?_zip_eq_some.mp hp).1
  obtain ⟨hreply, hlabelled, hvectors⟩ := hlabels k p.1 hk
  rw [getElem?_answered hkey hsize hreach hk, hreply, Option.some.injEq] at hp
  obtain ⟨w, vectors, hw, hcheck, hplace⟩ := exists_checkVectors_replyVectors v hlabelled hvectors
  refine ⟨w, vectors, ?_, hcheck, hplace⟩
  rw [← hp]
  exact hw

/-- So no reply ends the phase, and none is rejected. -/
theorem accepted_of_mem (hsize : 0 < size) (hkey : Fragment.isGiven key = true) (hreach : Reachable o v j)
    (hlabels : Labels o size fs j labels) {p : List Fragment × Except ServiceFailure Json}
    (hp : p ∈ answered o (.vendor v key model) size fs j) :
    endsPhase p.1.length p.2 = false ∧ isRejected p.1.length p.2 = false := by
  obtain ⟨k, hk⟩ := List.mem_iff_getElem?.mp hp
  obtain ⟨w, vectors, hw, hcheck, _⟩ := exists_read hsize hkey hreach hlabels hk
  rw [hw, endsPhase, isRejected, hcheck]
  exact ⟨rfl, rfl⟩

/-- **What the labels say is what the phase leaves.** -/
theorem placed_embed (hids : (fs.map (·.id)).Nodup) (hsize : 0 < size) (hkey : Fragment.isGiven key = true)
    (hreach : Reachable o v j) (hlabels : Labels o size fs j labels) :
    Placed resolves fs size labels ((ofFragments resolves fs).embed o (.vendor v key model) size j).1 := by
  have haccepted : ∀ p ∈ answered o (.vendor v key model) size fs j,
      endsPhase p.1.length p.2 = false ∧ isRejected p.1.length p.2 = false :=
    fun p hp => accepted_of_mem hsize hkey hreach hlabels hp
  have havailable : (Embedder.vendor v key model).isAvailable = true := hkey
  have hsub : ((answered o (.vendor v key model) size fs j).flatMap (·.1)).Sublist fs :=
    members_sublist hsize (List.Sublist.refl _)
  have hsettled : Settled resolves fs (answered o (.vendor v key model) size fs j)
      (after resolves fs (answered o (.vendor v key model) size fs j)) := settled_after hsub
  rw [embed_of_forall hsize havailable fun p hp => not_breaks_iff.mpr (haccepted p hp).1]
  refine ⟨broken_foldl_take rfl fun p hp => (haccepted p hp).1, ?_, hsettled.views, ?_, ?_⟩
  · rw [hsettled.failed, List.countP_eq_zero]
    intro p hp
    simp [(haccepted p hp).2]
  · intro k batch hk m f hf
    have hp : (answered o (.vendor v key model) size fs j)[k]? = some (batch, _) :=
      getElem?_answered hkey hsize hreach hk
    obtain ⟨w, vectors, hw, hcheck, hplace⟩ := exists_read hsize hkey hreach hlabels hp
    have hm : m < batch.length := (List.getElem?_eq_some_iff.mp hf).1
    obtain ⟨u, hu⟩ := (hlabels k batch hk).2.1.exists_of_lt hm
    obtain ⟨xs, hxs, hvector⟩ := hplace m u hu
    obtain ⟨ys, hys, hleft⟩ := hsettled.members hids _ (List.mem_of_getElem? hp) w vectors hw hcheck m f hf
    have hsame : ys = xs := Option.some.inj (hys.symm.trans hvector)
    exact ⟨u, xs, hu, hxs, hsame ▸ hleft⟩
  · intro i f hf hembedded
    have hout : f ∉ (answered o (.vendor v key model) size fs j).flatMap (·.1) := by
      rw [answered, flatMap_exchanged hsize (by rw [length_askEach, requests, List.length_map]), List.mem_filter]
      simp [hembedded]
    have hsame := given_of_not_mem hids hsub (List.mem_of_getElem? hf) hout
    rw [hsettled.fragments, hf, Option.map_some, hsame, ite_self]

/-- **The order of the vectors in a reply does not matter.** A vendor that labels its vectors with the numbers of the
texts may return them in any order: a request is answered by the list of them in which the one labelled `i` stands at
place `i`. Two runs whose replies are the same but for their order leave the same index, and each fragment holds the
vector labelled with its place in its batch. -/
theorem embed_relabelled (resolves : Bool) (fs : List Fragment) (hids : (fs.map (·.id)).Nodup) (size : Nat)
    (hsize : 0 < size) (o : Outside) (key : Option String) (hkey : Fragment.isGiven key = true) (model : String)
    (j : Journal) (hreach : Reachable o .openai j) :
    let e : Embedder := .vendor .openai key model
    let phase := (ofFragments resolves fs).embed o e size j
    (∀ (texts : List String) (vs : List (Int × Json)), texts ≠ [] → o.reply j.replies = .indexed vs →
      Labelled texts.length vs → (∀ p ∈ vs, ∃ items, p.2.items = .ok items) →
      ∃ ws, (e.ask o texts j).1 = .ok (.list ws) ∧ ws.length = texts.length ∧
        ∀ (i : Nat) (v : Json) (items : List Json), ((i : Int), v) ∈ vs → v.items = .ok items →
          ws[i]? = some (.list items)) ∧
    (∀ o' : Outside, o'.kit = o.kit →
      (∀ k < (slices size (fs.filter (!·.isEmbedded))).length,
        (o.reply (j.replies + k)).Rearranged (o'.reply (j.replies + k))) →
      (ofFragments resolves fs).embed o' e size j = phase) ∧
    (slices size (fs.filter (!·.isEmbedded))).flatten = fs.filter (!·.isEmbedded) ∧
    (∀ labels : Nat → List (Int × Json), Labels o size fs j labels → Placed resolves fs size labels phase.1) := by
  intro e phase
  refine ⟨fun texts vs htexts hreply hlabelled hitems => ?_, fun o' hkit hreplies => ?_, ?_, fun labels hlabels => ?_⟩
  · exact exists_ask_labelled hkey htexts hreach hreply hlabelled hitems
  · exact (embed_congr e hsize hkit.symm j hreplies).symm
  · obtain ⟨k, rfl⟩ := Nat.exists_eq_succ_of_ne_zero (Nat.pos_iff_ne_zero.mp hsize)
    rw [Nat.succ_eq_add_one, ← batches_eq_slices, flatten_batches]
  · exact placed_embed hids hsize hkey hreach hlabels

/-- Three methods in batches of two. The reply to the first batch has the vector of the second text first. -/
theorem embed_relabelled_swapped :
    let a := member "m.a" "a" []
    let b := member "m.b" "b" []
    let c := member "m.c" "c" []
    let va : Json := .list [.float 2]
    let vb : Json := .list [.float 3]
    let vc : Json := .list [.float 4]
    let e : Embedder := .vendor .openai (some "key") "small"
    let o : Outside := .scripted (some .openai) fun n => .indexed (if n = 0 then [(1, vb), (0, va)] else [(0, vc)])
    let o' : Outside := .scripted (some .openai) fun n => .indexed (if n = 0 then [(0, va), (1, vb)] else [(0, vc)])
    let phase := (ofFragments false [a, b, c]).embed o e 2 {}
    (∃ ws, (e.ask o ["a", "b"] {}).1 = .ok (.list ws) ∧ ws[0]? = some va ∧ ws[1]? = some vb) ∧
    (ofFragments false [a, b, c]).embed o' e 2 {} = phase ∧
    phase.1.failed = 0 ∧
    phase.1.index.fragments[0]? = some { a with embedding := some [2] } ∧
    phase.1.index.fragments[1]? = some { b with embedding := some [3] } ∧
    phase.1.index.fragments[2]? = some { c with embedding := some [4] } := by
  intro a b c va vb vc e o o' phase
  obtain ⟨hrequest, hruns, _, hplaced⟩ :=
    embed_relabelled false [a, b, c] (by decide) 2 (by decide) o (some "key") (by decide) "small" {} (Or.inr rfl)
  have hslices : slices 2 ([a, b, c].filter (!·.isEmbedded)) = [[a, b], [c]] := by
    show slices 2 [a, b, c] = _
    simp [slices, List.range_succ]
  have hswap : ([(1, vb), (0, va)] : List (Int × Json)).Perm [(0, va), (1, vb)] := List.Perm.swap _ _ _
  have hlabelled : Labelled 2 [(1, vb), (0, va)] := List.Perm.swap _ _ _
  have hlabels : Labels o 2 [a, b, c] {} fun k => if k = 0 then [(1, vb), (0, va)] else [(0, vc)] := by
    intro k batch hk
    rw [hslices] at hk
    cases k with
    | zero =>
        cases hk
        exact ⟨rfl, hlabelled, by decide⟩
    | succ k =>
        cases k with
        | zero =>
            cases hk
            exact ⟨rfl, List.Perm.refl _, by decide⟩
        | succ k => cases hk
  obtain ⟨_, hfailed, _, hmembers, _⟩ := hplaced _ hlabels
  rw [hslices] at hmembers
  refine ⟨?_, ?_, hfailed, ?_, ?_, ?_⟩
  · obtain ⟨ws, hws, _, hplace⟩ := hrequest ["a", "b"] _ (List.cons_ne_nil _ _) rfl hlabelled
      (List.forall_mem_cons.mpr ⟨⟨_, rfl⟩, List.forall_mem_singleton.mpr ⟨_, rfl⟩⟩)
    exact ⟨ws, hws, hplace 0 va _ (by simp) rfl, hplace 1 vb _ (by simp) rfl⟩
  · refine hruns o' rfl fun k _ => ?_
    cases k with
    | zero => exact .indexed hswap (by decide)
    | succ k => exact .same _
  · obtain ⟨v, xs, hv, hxs, hi⟩ := hmembers 0 _ rfl 0 a rfl
    obtain rfl : v = va := by simpa using hv
    cases hxs
    exact hi 0 rfl
  · obtain ⟨v, xs, hv, hxs, hi⟩ := hmembers 0 _ rfl 1 b rfl
    obtain rfl : v = vb := by simpa using hv
    cases hxs
    exact hi 1 rfl
  · obtain ⟨v, xs, hv, hxs, hi⟩ := hmembers 1 _ rfl 0 c rfl
    obtain rfl : v = vc := by simpa using hv
    cases hxs
    exact hi 2 rfl

end Placed

end FragmentSearch.Index
