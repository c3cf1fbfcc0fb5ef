import FragmentSearch.Proofs.Index.Phase
import Mathlib.Data.List.Flatten

/-!
# The accounts of the embedding phase

The fragments without a vector are sent in consecutive slices, and each reply either delivers a vector for every
member of its slice or counts as failed. What one reply does to a run is said by the table of the vectors that it
delivers (`found`, `take_tame`); a run attaches all these tables one after the other (`foldl_take`), which is to
attach one table (`attachAll_append`). No id occurs twice in it (`nodup_delivered`), as the slices put together
are the fragments without a vector. So `embed_exact`: the requests, the count of failures, the count of vectors and
the vector of every fragment.
-/

namespace FragmentSearch.Index

variable {resolves : Bool} {fs : List Fragment} {ix : Index}

/-! ## 1. One batch -/

section Step

variable {batch : List Fragment} {reply : Except ServiceFailure Json}

/-- The vectors that the reply to a batch delivers, under the ids of the batch. -/
def found (batch : List Fragment) (reply : Except ServiceFailure Json) : Table String (List Float) :=
  if Delivers batch.length reply then (batch.map (·.id)).zip (vectorsOf reply) else []

theorem found_of_delivers (h : Delivers batch.length reply = true) :
    found batch reply = (batch.map (·.id)).zip (vectorsOf reply) := if_pos h

theorem found_of_not_delivers (h : Delivers batch.length reply = false) : found batch reply = [] :=
  if_neg (Bool.eq_false_iff.mp h)

theorem map_fst_zip_vectorsOf (h : Delivers batch.length reply = true) :
    ((batch.map (·.id)).zip (vectorsOf reply)).map (·.1) = batch.map (·.id) := by
  refine List.map_fst_zip (Nat.le_of_eq ?_)
  rw [List.length_map, length_vectorsOf h]

theorem keys_found (batch : List Fragment) (reply : Except ServiceFailure Json) :
    Table.keys (found batch reply) = if Delivers batch.length reply then batch.map (·.id) else [] := by
  by_cases h : Delivers batch.length reply = true
  · rw [found_of_delivers h, if_pos h]
    exact map_fst_zip_vectorsOf h
  · rw [found_of_not_delivers (Bool.eq_false_iff.mpr h), if_neg h]
    rfl

theorem keys_found_sublist : (Table.keys (found batch reply)).Sublist (batch.map (·.id)) := by
  rw [keys_found]
  split
  · exact List.Sublist.refl _
  · exact List.nil_sublist _

theorem length_found : (found batch reply).length = if Delivers batch.length reply then batch.length else 0 := by
  have h := congrArg List.length (keys_found batch reply)
  rw [Table.keys, List.length_map] at h
  rw [h]
  split
  · exact List.length_map _
  · rfl

/-- A member of a batch gets the vector at its own place. -/
theorem mem_found (h : Delivers batch.length reply = true) {m : Nat} {f : Fragment} (hf : batch[m]? = some f) :
    ∃ xs, vectorAt reply m = some xs ∧ (f.id, xs) ∈ found batch reply := by
  have hm : m < (vectorsOf reply).length := by
    rw [length_vectorsOf h]
    exact (List.getElem?_eq_some_iff.mp hf).1
  refine ⟨(vectorsOf reply)[m], ?_, ?_⟩
  · rw [← getElem?_vectorsOf h, List.getElem?_eq_getElem hm]
  · rw [found_of_delivers h]
    refine List.mem_of_getElem? (i := m) ?_
    rw [List.getElem?_zip_eq_some, List.getElem?_map, hf]
    exact ⟨rfl, List.getElem?_eq_getElem hm⟩

theorem ne_nil_of_mem_found {e : String × List Float} (h : e ∈ found batch reply) : e.2 ≠ [] := by
  unfold found at h
  split at h
  · exact ne_nil_of_mem_vectorsOf (List.of_mem_zip h).2
  · cases h

/-- **What a reply does to a run.** -/
theorem take_tame (hids : (batch.map (·.id)).Nodup) (h : Tame reply) (run : EmbeddingRun) :
    run.take batch reply =
      { run with
        index := (run.index.attachAll (found batch reply)).1
        attached := run.attached + (run.index.attachAll (found batch reply)).2
        failed := run.failed + if Delivers batch.length reply then 0 else 1 } := by
  cases reply with
  | error e => rfl
  | ok v =>
      unfold EmbeddingRun.take
      rcases checkVectors_tame (n := batch.length) h with ⟨hd, hread⟩ | ⟨hd, e, hread, he⟩
      · have hlabel : labelled batch (vectorsOf (.ok v)) = found batch (.ok v) := by
          rw [found_of_delivers hd, labelled, Table.ofList_of_nodup]
          rw [map_fst_zip_vectorsOf hd]
          exact hids
        simp only [hread, hlabel, if_pos hd, Nat.add_zero]
      · simp only [hread, he, found_of_not_delivers hd, hd, Bool.false_eq_true, if_false, if_true]
        rfl

end Step

/-! ## 2. A run -/

section Run

/-- The vectors that the replies to some batches deliver. -/
def delivered (exchange : List (List Fragment × Except ServiceFailure Json)) : Table String (List Float) :=
  exchange.flatMap fun p => found p.1 p.2

variable {exchange : List (List Fragment × Except ServiceFailure Json)}

/-- **What the replies do to a run**, one after the other. -/
theorem foldl_take (hids : ∀ p ∈ exchange, (p.1.map (·.id)).Nodup) (htame : ∀ p ∈ exchange, Tame p.2) :
    exchange.foldl (fun run p => run.take p.1 p.2) ({ index := ix } : EmbeddingRun) =
      { index := (ix.attachAll (delivered exchange)).1
        attached := (ix.attachAll (delivered exchange)).2
        failed := exchange.countP fun p => !Delivers p.1.length p.2 } := by
  induction exchange using List.reverseRecOn with
  | nil => rfl
  | append_singleton exchange p ih =>
      have hlast : p ∈ exchange ++ [p] := List.mem_append_right _ (List.mem_singleton.mpr rfl)
      have hdelivered : delivered (exchange ++ [p]) = delivered exchange ++ found p.1 p.2 := by
        rw [delivered, List.flatMap_append, List.flatMap_singleton]
        rfl
      rw [List.foldl_append, ih (fun q hq => hids q (List.mem_append_left _ hq))
        (fun q hq => htame q (List.mem_append_left _ hq)), List.foldl_cons, List.foldl_nil,
        take_tame (hids p hlast) (htame p hlast), hdelivered, attachAll_append, List.countP_append, List.countP_singleton]
      cases Delivers p.1.length p.2 <;> rfl

/-- **The batches are sent one after the other**, and none of the replies ends the run. -/
theorem embedBatches_eq (o : Outside) (e : Embedder) (bs : List (List Fragment)) : ∀ (run : EmbeddingRun) (j : Journal),
    run.broken = none → (∀ b ∈ bs, (b.map (·.id)).Nodup) →
    (∀ r ∈ (askEach o e (bs.map (·.map (·.contextText))) j).1, Tame r) →
    embedBatches o e bs run j =
      ((bs.zip (askEach o e (bs.map (·.map (·.contextText))) j).1).foldl (fun run p => run.take p.1 p.2) run,
        (askEach o e (bs.map (·.map (·.contextText))) j).2) := by
  induction bs with
  | nil => intro run j _ _ _; rfl
  | cons b bs ih =>
      intro run j hrun hids htame
      rw [List.map_cons, askEach_cons] at htame ⊢
      obtain ⟨hfirst, hrest⟩ := List.forall_mem_cons.mp htame
      obtain ⟨hb, hbs⟩ := List.forall_mem_cons.mp hids
      have hafter : (run.take b (e.ask o (b.map (·.contextText)) j).1).broken = none := by
        rw [take_tame hb hfirst]
        exact hrun
      rw [embedBatches_cons, hafter, if_neg (by decide), ih _ _ hafter hbs hrest]
      rfl

end Run

/-! ## 3. The phase -/

section Phase

variable {size : Nat} {replies : List (Except ServiceFailure Json)}

/-- The batches with the replies to them. -/
def exchanged (size : Nat) (fs : List Fragment) (replies : List (Except ServiceFailure Json)) :
    List (List Fragment × Except ServiceFailure Json) :=
  (slices size (fs.filter (!·.isEmbedded))).zip replies

/-- What the phase leaves of the fragments `fs`, given the replies to the slices of those without a vector. -/
structure Accounts (resolves : Bool) (fs : List Fragment) (size : Nat) (replies : List (Except ServiceFailure Json))
    (run : EmbeddingRun) : Prop where
  unbroken : run.broken = none
  /-- The batches whose reply is not a vector for each of their members. -/
  failed : run.failed = (exchanged size fs replies).countP fun p => !Delivers p.1.length p.2
  /-- The members of the others together. -/
  attached : run.attached = (((exchanged size fs replies).filter fun p => Delivers p.1.length p.2).flatMap (·.1)).length
  growth : run.index.embeddedCount = (ofFragments resolves fs).embeddedCount + run.attached
  /-- The views do not change. -/
  views : run.index = { ofFragments resolves fs with fragments := run.index.fragments }
  length : run.index.fragments.length = fs.length
  /-- A member of a delivered batch has the vector at its own place of the reply. -/
  members : ∀ p ∈ exchanged size fs replies, Delivers p.1.length p.2 = true → ∀ (m : Nat) (f : Fragment),
    p.1[m]? = some f → ∃ xs, vectorAt p.2 m = some xs ∧
      ∀ i : Nat, fs[i]? = some f → run.index.fragments[i]? = some { f with embedding := some xs }
  /-- Every other fragment is as it was. -/
  others : ∀ (i : Nat) (f : Fragment), fs[i]? = some f →
    (∀ p ∈ exchanged size fs replies, Delivers p.1.length p.2 = true → f ∉ p.1) →
      run.index.fragments[i]? = some f

theorem map_fst_exchanged (h : replies.length = (slices size (fs.filter (!·.isEmbedded))).length) :
    (exchanged size fs replies).map (·.1) = slices size (fs.filter (!·.isEmbedded)) :=
  List.map_fst_zip (Nat.le_of_eq h.symm)

/-- The batches together are the fragments without a vector. -/
theorem flatMap_exchanged (hsize : 0 < size) (h : replies.length = (slices size (fs.filter (!·.isEmbedded))).length) :
    (exchanged size fs replies).flatMap (·.1) = fs.filter (!·.isEmbedded) := by
  rw [List.flatMap_def, map_fst_exchanged h]
  obtain ⟨k, rfl⟩ := Nat.exists_eq_succ_of_ne_zero (Nat.pos_iff_ne_zero.mp hsize)
  rw [Nat.succ_eq_add_one, ← batches_eq_slices, flatten_batches]

/-- Vectors are delivered for fragments that have none. -/
theorem keys_delivered_sublist (hsize : 0 < size)
    (h : replies.length = (slices size (fs.filter (!·.isEmbedded))).length) :
    (Table.keys (delivered (exchanged size fs replies))).Sublist ((fs.filter (!·.isEmbedded)).map (·.id)) := by
  rw [← flatMap_exchanged hsize h, delivered, Table.keys, List.map_flatMap, List.map_flatMap]
  exact List.Sublist.flatMap_right _ fun _ _ => keys_found_sublist

theorem length_delivered (exchange : List (List Fragment × Except ServiceFailure Json)) :
    (delivered exchange).length = ((exchange.filter fun p => Delivers p.1.length p.2).flatMap (·.1)).length := by
  induction exchange with
  | nil => rfl
  | cons p exchange ih =>
      rw [delivered, List.flatMap_cons, List.length_append, length_found, List.filter_cons]
      by_cases h : Delivers p.1.length p.2 = true
      · rw [if_pos h, if_pos h, List.flatMap_cons, List.length_append, ← ih]
        rfl
      · rw [if_neg h, if_neg h, Nat.zero_add, ← ih]
        rfl

theorem sublist_of_mem_exchanged {p : List Fragment × Except ServiceFailure Json} (hp : p ∈ exchanged size fs replies) :
    p.1.Sublist fs := (sublist_of_mem_slices (List.of_mem_zip hp).1).trans List.filter_sublist

theorem nodup_delivered (hids : (fs.map (·.id)).Nodup) (hsize : 0 < size)
    (h : replies.length = (slices size (fs.filter (!·.isEmbedded))).length) :
    (Table.keys (delivered (exchanged size fs replies))).Nodup :=
  (hids.sublist (List.filter_sublist.map _)).sublist (keys_delivered_sublist hsize h)

/-- For a fragment outside of the delivered batches nothing is delivered. -/
theorem get?_delivered_eq_none (hids : (fs.map (·.id)).Nodup) {f : Fragment} (hf : f ∈ fs)
    (hnone : ∀ p ∈ exchanged size fs replies, Delivers p.1.length p.2 = true → f ∉ p.1) :
    Table.get? f.id (delivered (exchanged size fs replies)) = none := by
  refine Table.get?_eq_none.mpr fun hkey => ?_
  obtain ⟨e, he, hid⟩ := List.mem_map.mp hkey
  obtain ⟨p, hp, hfound⟩ := List.mem_flatMap.mp he
  have hpkey : f.id ∈ Table.keys (found p.1 p.2) := hid ▸ List.mem_map_of_mem hfound
  rw [keys_found] at hpkey
  split at hpkey
  · next hd =>
      obtain ⟨g, hg, hgid⟩ := List.mem_map.mp hpkey
      have hgf : g = f := List.inj_on_of_nodup_map hids ((sublist_of_mem_exchanged hp).subset hg) hf hgid
      exact hnone p hp hd (hgf ▸ hg)
  · cases hpkey

/-- **What a run leaves**, once all replies are in. -/
theorem accounts_foldl_take (hids : (fs.map (·.id)).Nodup) (hsize : 0 < size)
    (hlen : replies.length = (slices size (fs.filter (!·.isEmbedded))).length) (htame : ∀ r ∈ replies, Tame r) :
    Accounts resolves fs size replies
      ((exchanged size fs replies).foldl (fun run p => run.take p.1 p.2) { index := ofFragments resolves fs }) := by
  have hsub := keys_delivered_sublist hsize hlen
  have hkeys := nodup_delivered hids hsize hlen
  rw [foldl_take (fun p hp => hids.sublist ((sublist_of_mem_exchanged hp).map _))
      (fun p hp => htame p.2 (List.of_mem_zip hp).2),
    attachAll_ofFragments hids hkeys fun id h => (List.filter_sublist.map _).subset (hsub.subset h)]
  -- what stands at a place is the fragment with the vector that is delivered for it
  have hplace : ∀ (i : Nat) (f : Fragment), fs[i]? = some f →
      (ofFragments resolves (fs.map (Fragment.given (delivered (exchanged size fs replies))))).fragments[i]? =
        some (f.given (delivered (exchanged size fs replies))) := by
    intro i f hf
    rw [fragments_ofFragments, List.getElem?_map, hf]
    rfl
  refine ⟨rfl, rfl, length_delivered _, ?_, ?_, ?_, ?_, ?_⟩
  · unfold embeddedCount
    rw [fragments_ofFragments, fragments_ofFragments]
    refine embeddedCount_given hids hkeys (fun e he => ?_) fun id h => hsub.subset h
    obtain ⟨p, _, hp⟩ := List.mem_flatMap.mp he
    exact ne_nil_of_mem_found hp
  · rw [fragments_ofFragments]
    refine ofFragments_of_bare ?_
    rw [List.map_map]
    rfl
  · rw [fragments_ofFragments, List.length_map]
  · intro p hp hd m f hf
    obtain ⟨xs, hxs, hmem⟩ := mem_found hd hf
    have hget : Table.get? f.id (delivered (exchanged size fs replies)) = some xs :=
      (Table.mem_iff_get? hkeys).mp (List.mem_flatMap.mpr ⟨p, hp, hmem⟩)
    refine ⟨xs, hxs, fun i hi => ?_⟩
    rw [hplace i f hi, Fragment.given, hget]
    rfl
  · intro i f hf hnone
    rw [hplace i f hf, Fragment.given, get?_delivered_eq_none hids (List.mem_of_getElem? hf) hnone, Option.none_or]

/-- **The embedding phase accounts for every request and every vector.** Where no id occurs twice and every reply is
tame, the phase asks once for each slice of the fragments without a vector, with their texts and in their order,
and `Accounts` says what it leaves. A capability that the caller brings along sees these requests and no others. -/
theorem embed_exact (resolves : Bool) (fs : List Fragment) (hids : (fs.map (·.id)).Nodup) (size : Nat) (hsize : 0 < size)
    (o : Outside) (e : Embedder) (havailable : e.isAvailable = true) (j : Journal) :
    let requests := (slices size (fs.filter (!·.isEmbedded))).map (·.map (·.contextText))
    let asked := askEach o e requests j
    requests.length = ((fs.filter (!·.isEmbedded)).length + (size - 1)) / size ∧
    asked.1.length = requests.length ∧
    (∀ name available answer, e = .custom name available answer → asked.2.embedCalls = j.embedCalls ++ requests) ∧
    ((∀ r ∈ asked.1, Tame r) →
      ∃ run, (ofFragments resolves fs).embed o e size j = (run, asked.2) ∧ Accounts resolves fs size asked.1 run) := by
  intro requests asked
  have hlen : asked.1.length = (slices size (fs.filter (!·.isEmbedded))).length :=
    (length_askEach o e requests j).trans (List.length_map _)
  refine ⟨?_, length_askEach o e requests j, ?_, fun htame => ⟨_, ?_, accounts_foldl_take hids hsize hlen htame⟩⟩
  · rw [List.length_map, slices, List.length_map, List.length_range]
  · rintro name available answer rfl
    exact congrArg Journal.embedCalls (askEach_custom o name available answer requests j)
  · have hpending : (ofFragments resolves fs).pending = fs.filter (!·.isEmbedded) := by
      rw [pending, fragments_ofFragments]
    unfold embed
    rw [if_pos havailable, hpending, batches_eq_slices, Nat.sub_add_cancel hsize]
    refine embedBatches_eq o e _ _ j rfl (fun b hb => ?_) htame
    exact hids.sublist (((sublist_of_mem_slices hb).trans List.filter_sublist).map _)

/-- Of four fragments one has a vector already. The reply to the first slice delivers, the second one fails. -/
theorem embed_exact_second_fails :
    let old := { member "m.b" "b" [] with embedding := some [1] }
    let fs := [member "m.a" "a" [], old, member "m.c" "c" [], member "m.d" "d" []]
    let vectors : Json := .list [.list [.float 2, .bool true], .list [.float 3]]
    let e : Embedder := .custom "mine" true fun n _ => if n = 1 then .ok vectors else .error (.failed "down")
    ∃ run after, (ofFragments false fs).embed (.scripted none fun _ => .text "") e 2 {} = (run, after) ∧
      after.embedCalls = [[(member "m.a" "a" []).contextText, (member "m.c" "c" []).contextText],
        [(member "m.d" "d" []).contextText]] ∧
      run.broken = none ∧ run.failed = 1 ∧ run.attached = 2 ∧
      run.index.fragments[0]? = some { member "m.a" "a" [] with embedding := some [2, 1] } ∧
      run.index.fragments[1]? = some old ∧
      run.index.fragments[2]? = some { member "m.c" "c" [] with embedding := some [3] } ∧
      run.index.fragments[3]? = some (member "m.d" "d" []) := by
  intro old fs vectors e
  have hslices : slices 2 (fs.filter (!·.isEmbedded)) =
      [[member "m.a" "a" [], member "m.c" "c" []], [member "m.d" "d" []]] := by
    show slices 2 [member "m.a" "a" [], member "m.c" "c" [], member "m.d" "d" []] = _
    simp [slices, List.range_succ]
  have hexact := embed_exact false fs (by decide) 2 (by decide) (.scripted none fun _ => .text "") e rfl {}
  rw [hslices] at hexact
  obtain ⟨_, _, hcalls, hrun⟩ := hexact
  have htame : ∀ r ∈ ([.ok vectors, .error (.failed "down")] : List (Except ServiceFailure Json)), Tame r := by
    refine List.forall_mem_cons.mpr ⟨?_, List.forall_mem_singleton.mpr trivial⟩
    show ∀ v ∈ [Json.list [.float 2, .bool true], .list [.float 3]], _
    simp
  obtain ⟨run, hembed, hleft⟩ := hrun htame
  have hexchanged : exchanged 2 fs [.ok vectors, .error (.failed "down")] =
      [([member "m.a" "a" [], member "m.c" "c" []], .ok vectors), ([member "m.d" "d" []], .error (.failed "down"))] := by
    rw [exchanged, hslices]
    rfl
  have hleft : Accounts false fs 2 [.ok vectors, .error (.failed "down")] run := hleft
  have hfirst := hleft.members
  have hother := hleft.others
  have hfailed := hleft.failed
  have hattached := hleft.attached
  rw [hexchanged] at hfirst hother hfailed hattached
  -- only the first slice is delivered
  have houtside : ∀ f ∉ [member "m.a" "a" [], member "m.c" "c" []],
      ∀ p ∈ [([member "m.a" "a" [], member "m.c" "c" []], .ok vectors), ([member "m.d" "d" []], .error (.failed "down"))],
        Delivers p.1.length p.2 = true → f ∉ p.1 := by
    refine fun f hf => List.forall_mem_cons.mpr ⟨fun _ => hf, List.forall_mem_singleton.mpr fun h => ?_⟩
    exact absurd h Bool.false_ne_true
  refine ⟨run, _, hembed, hcalls _ _ _ rfl, hleft.unbroken, hfailed, hattached, ?_, ?_, ?_, ?_⟩
  · obtain ⟨xs, hxs, hi⟩ := hfirst _ List.mem_cons_self rfl 0 _ rfl
    cases hxs
    exact hi 0 rfl
  · exact hother 1 old rfl (houtside old (by simp [old, member]))
  · obtain ⟨xs, hxs, hi⟩ := hfirst _ List.mem_cons_self rfl 1 _ rfl
    cases hxs
    exact hi 2 rfl
  · exact hother 3 _ rfl (houtside _ (by simp [member]))

end Phase

end FragmentSearch.Index
