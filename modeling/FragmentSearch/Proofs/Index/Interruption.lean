import FragmentSearch.Proofs.Index.Embedding

/-!
# Replies of any sort

An embedder may reply with anything. A batch whose reply fails or is recognised as malformed is counted, and the phase
goes on with the next one. But a reply that is `Unexpected` ends the phase, and the batches after it are not sent:

* `Settled` -- what is left by replies of which none ends the phase, whatever they are and whatever ids are repeated;
* `embed_of_forall`, `embed_of_first` -- the phase if no reply ends it, and if one does;
* `embed_any_reply` -- both together with the check of the replies;
* `embed_breaks_off` -- a reply that is a number costs the batches after it too.
-/

namespace FragmentSearch.Index

variable {resolves : Bool} {fs : List Fragment} {exchange : List (List Fragment × Except ServiceFailure Json)}

/-! ## 1. What is read -/

section Read

theorem map_fst_zip_sublist {α β : Type} (xs : List α) (ys : List β) : ((xs.zip ys).map (·.1)).Sublist xs := by
  rw [List.zip_eq_zip_take_min, List.map_fst_zip (by simp)]
  exact List.take_sublist _ _

/-- Where no id of a batch occurs twice, each vector stands under the id of its member. -/
theorem labelled_of_nodup {batch : List Fragment} (h : (batch.map (·.id)).Nodup) (vectors : List (List Float)) :
    labelled batch vectors = (batch.map (·.id)).zip vectors :=
  Table.ofList_of_nodup (h.sublist (map_fst_zip_sublist _ _))

theorem nodup_ids_of_mem (hids : ((exchange.flatMap (·.1)).map (·.id)).Nodup)
    {p : List Fragment × Except ServiceFailure Json} (hp : p ∈ exchange) : (p.1.map (·.id)).Nodup :=
  hids.sublist ((List.sublist_flatten_of_mem (List.mem_map_of_mem hp)).map _)

theorem keys_vectorsById_sublist (hids : ((exchange.flatMap (·.1)).map (·.id)).Nodup) :
    (Table.keys (vectorsById exchange)).Sublist ((exchange.flatMap (·.1)).map (·.id)) := by
  have hlabels : vectorsById exchange =
      exchange.flatMap fun p => (p.1.map (·.id)).zip (vectorsRead p.1.length p.2) :=
    List.flatMap_congr fun p hp => labelled_of_nodup (nodup_ids_of_mem hids hp) _
  rw [hlabels, Table.keys, List.map_flatMap, List.map_flatMap]
  exact List.Sublist.flatMap_right _ fun _ _ => map_fst_zip_sublist _ _

/-- A vector that is read for a member of a batch stands under its id. -/
theorem mem_vectorsById (hids : ((exchange.flatMap (·.1)).map (·.id)).Nodup)
    {p : List Fragment × Except ServiceFailure Json} (hp : p ∈ exchange) {m : Nat} {f : Fragment} {xs : List Float}
    (hf : p.1[m]? = some f) (hxs : (vectorsRead p.1.length p.2)[m]? = some xs) : (f.id, xs) ∈ vectorsById exchange := by
  refine List.mem_flatMap.mpr ⟨p, hp, ?_⟩
  rw [labelled_of_nodup (nodup_ids_of_mem hids hp)]
  refine List.mem_of_getElem? (i := m) ?_
  rw [List.getElem?_zip_eq_some, List.getElem?_map, hf]
  exact ⟨rfl, hxs⟩

/-- An id with a vector is that of a member of a batch. -/
theorem exists_of_key_vectorsById {id : String} (h : id ∈ Table.keys (vectorsById exchange)) :
    ∃ f ∈ exchange.flatMap (·.1), f.id = id := by
  obtain ⟨e, he, rfl⟩ := List.mem_map.mp h
  obtain ⟨p, hp, he⟩ := List.mem_flatMap.mp he
  obtain ⟨f, hf, hid⟩ := List.mem_map.mp (List.of_mem_zip (Table.mem_of_mem_ofList he)).1
  exact ⟨f, List.mem_flatMap.mpr ⟨p, hp, hf⟩, hid⟩

end Read

/-! ## 2. What is left -/

section Left

/-- What the replies of `exchange` leave of the fragments `fs`, if none of them ends the phase. -/
structure Settled (resolves : Bool) (fs : List Fragment)
    (exchange : List (List Fragment × Except ServiceFailure Json)) (run : EmbeddingRun) : Prop where
  /-- The batches whose reply fails or is recognised as malformed. -/
  failed : run.failed = exchange.countP fun p => isRejected p.1.length p.2
  /-- Every vector that is read for an id of a batch. -/
  attached : run.attached = (vectorsById exchange).length
  /-- The views do not change. -/
  views : run.index = { ofFragments resolves fs with fragments := run.index.fragments }
  /-- The fragment found by its id has the last vector that was read for the id; any other is as it was. -/
  fragments : ∀ i : Nat, run.index.fragments[i]? = fs[i]?.map fun f =>
    if Table.get? f.id (ofFragments resolves fs).place = some i
    then f.given (Table.ofList (vectorsById exchange)) else f
  /-- Where no id occurs twice, each member of a batch whose reply is read has the vector at its own place. -/
  members : (fs.map (·.id)).Nodup → ∀ p ∈ exchange, ∀ v vectors, p.2 = .ok v →
    checkVectors v p.1.length = .ok vectors → ∀ (m : Nat) (f : Fragment), p.1[m]? = some f →
      ∃ xs, vectors[m]? = some xs ∧ ∀ i : Nat, fs[i]? = some f →
        run.index.fragments[i]? = some { f with embedding := some xs }

/-- The run over the fragments `fs` after some replies. -/
def after (resolves : Bool) (fs : List Fragment) (exchange : List (List Fragment × Except ServiceFailure Json)) :
    EmbeddingRun :=
  exchange.foldl (fun run p => run.take p.1 p.2) { index := ofFragments resolves fs }

/-- **What several replies leave.** -/
theorem settled_after (hsub : (exchange.flatMap (·.1)).Sublist fs) :
    Settled resolves fs exchange (after resolves fs exchange) := by
  rw [after, foldl_take_eq]
  refine ⟨Nat.zero_add _, ?_, attachAll_views _ _, getElem?_attachAll _, ?_⟩
  · show 0 + ((ofFragments resolves fs).attachAll (vectorsById exchange)).2 = _
    rw [Nat.zero_add, count_attachAll, List.countP_eq_length]
    intro e he
    obtain ⟨f, hf, hid⟩ := exists_of_key_vectorsById (List.mem_map_of_mem he)
    exact isSome_place.mpr ⟨f, hsub.subset hf, hid⟩
  · intro hids p hp v vectors hv hread m f hf
    have hmembers : ((exchange.flatMap (·.1)).map (·.id)).Nodup := hids.sublist (hsub.map _)
    have hvectors : vectorsRead p.1.length p.2 = vectors := by rw [hv, vectorsRead, hread]
    have hm : m < vectors.length := (of_checkVectors_ok hread).1 ▸ (List.getElem?_eq_some_iff.mp hf).1
    have hkeys : (Table.keys (vectorsById exchange)).Nodup := hmembers.sublist (keys_vectorsById_sublist hmembers)
    have hget : Table.get? f.id (vectorsById exchange) = some vectors[m] :=
      (Table.mem_iff_get? hkeys).mp (mem_vectorsById hmembers hp hf (hvectors ▸ List.getElem?_eq_getElem hm))
    refine ⟨vectors[m], List.getElem?_eq_getElem hm, fun i hi => ?_⟩
    show ((ofFragments resolves fs).attachAll (vectorsById exchange)).1.fragments[i]? = _
    rw [getElem?_attachAll, hi, Option.map_some, if_pos (place_of_getElem? hids hi), Fragment.given,
      Table.ofList_of_nodup hkeys, hget]
    rfl

end Left

/-! ## 3. The phase -/

section Phase

variable {o : Outside} {e : Embedder} {j : Journal} {size : Nat}

/-- Does no check expect the reply to a batch? -/
def Breaks (p : List Fragment × Except ServiceFailure Json) : Prop := ∃ v, p.2 = .ok v ∧ Unexpected p.1.length v

theorem breaks_iff {p : List Fragment × Except ServiceFailure Json} : Breaks p ↔ endsPhase p.1.length p.2 = true :=
  endsPhase_iff.symm

theorem not_breaks_iff {p : List Fragment × Except ServiceFailure Json} :
    ¬ Breaks p ↔ endsPhase p.1.length p.2 = false := by
  rw [breaks_iff, Bool.not_eq_true]

/-- Of the replies that no check expects one is the first. -/
theorem exists_first_break {q : List Fragment × Except ServiceFailure Json} (hq : q ∈ exchange) (h : Breaks q) :
    ∃ before p rest, exchange = before ++ p :: rest ∧ (∀ q ∈ before, ¬ Breaks q) ∧ Breaks p := by
  have hfind : (exchange.find? fun p => endsPhase p.1.length p.2).isSome = true :=
    List.find?_isSome.mpr ⟨q, hq, breaks_iff.mp h⟩
  obtain ⟨p, hp⟩ := Option.isSome_iff_exists.mp hfind
  obtain ⟨hends, before, rest, hsplit, hbefore⟩ := List.find?_eq_some_iff_append.mp hp
  refine ⟨before, p, rest, hsplit, fun q hq => not_breaks_iff.mpr ?_, breaks_iff.mpr hends⟩
  simpa using hbefore q hq

/-- A reply that no check expects changes nothing but that it ends the run. -/
theorem take_of_breaks {p : List Fragment × Except ServiceFailure Json} (hp : Breaks p) (run : EmbeddingRun) :
    run.take p.1 p.2 = { run with broken := fault p.1.length p.2 } := by
  obtain ⟨v, hv, hunexpected⟩ := hp
  obtain ⟨err, hcheck, herr⟩ := checkVectors_unrecognised_iff.mpr hunexpected
  rw [hv]
  simp only [EmbeddingRun.take, fault, hcheck, herr, Bool.false_eq_true, if_false]

theorem isSome_fault_of_breaks {p : List Fragment × Except ServiceFailure Json} (hp : Breaks p) :
    (fault p.1.length p.2).isSome = true := by
  rw [isSome_fault]
  exact breaks_iff.mp hp

/-- The texts of the slices of the fragments without a vector. -/
def requests (size : Nat) (fs : List Fragment) : List (List String) :=
  (slices size (fs.filter (!·.isEmbedded))).map (·.map (·.contextText))

/-- The slices with the replies to them, if all of them were sent. -/
def answered (o : Outside) (e : Embedder) (size : Nat) (fs : List Fragment) (j : Journal) :
    List (List Fragment × Except ServiceFailure Json) := exchanged size fs (askEach o e (requests size fs) j).1

/-- A phase takes the replies to the batches that are sent. -/
theorem embed_eq_after (hsize : 0 < size) (havailable : e.isAvailable = true) :
    (ofFragments resolves fs).embed o e size j =
      (after resolves fs (exchanges o e (slices size (fs.filter (!·.isEmbedded))) j).1,
        (exchanges o e (slices size (fs.filter (!·.isEmbedded))) j).2) := by
  unfold embed pending
  rw [if_pos havailable, fragments_ofFragments, batches_eq_slices, Nat.sub_add_cancel hsize]
  exact embedBatches_eq_foldl _ _ _ rfl

/-- **If no reply ends the phase** all batches are sent. -/
theorem embed_of_forall (hsize : 0 < size) (havailable : e.isAvailable = true)
    (h : ∀ p ∈ answered o e size fs j, ¬ Breaks p) :
    (ofFragments resolves fs).embed o e size j =
      (after resolves fs (answered o e size fs j), (askEach o e (requests size fs) j).2) := by
  have hall := exchanges_append (slices size (fs.filter (!·.isEmbedded))) [] j fun p hp => not_breaks_iff.mp (h p hp)
  rw [List.append_nil] at hall
  rw [embed_eq_after hsize havailable, hall]
  show (after _ _ (_ ++ []), _) = _
  rw [List.append_nil]
  rfl

/-- The batches before a place of the exchange are asked first. -/
theorem exists_of_zip_askEach {bs : List (List Fragment)} {p : List Fragment × Except ServiceFailure Json}
    {before rest : List (List Fragment × Except ServiceFailure Json)}
    (h : bs.zip (askEach o e (bs.map (·.map (·.contextText))) j).1 = before ++ p :: rest) :
    bs = before.map (·.1) ++ p.1 :: rest.map (·.1) ∧
      (before.map (·.1)).zip (askEach o e ((before.map (·.1)).map (·.map (·.contextText))) j).1 = before ∧
      (e.ask o (p.1.map (·.contextText))
        (askEach o e ((before.map (·.1)).map (·.map (·.contextText))) j).2).1 = p.2 := by
  have hlen : ∀ bs : List (List Fragment),
      bs.length = (askEach o e (bs.map (·.map (·.contextText))) j).1.length := by
    intro bs
    rw [length_askEach, List.length_map]
  have hbs : bs = before.map (·.1) ++ p.1 :: rest.map (·.1) := by
    have hfst := congrArg (List.map Prod.fst) h
    rwa [List.map_fst_zip (Nat.le_of_eq (hlen bs)), List.map_append, List.map_cons] at hfst
  refine ⟨hbs, ?_⟩
  rw [hbs, List.map_append, askEach_append, List.zip_append (hlen _), List.map_cons, askEach_cons,
    List.zip_cons_cons] at h
  obtain ⟨hbefore, hrest⟩ := List.append_inj h (by rw [List.length_zip, ← hlen, Nat.min_self, List.length_map])
  exact ⟨hbefore, congrArg Prod.snd (List.cons.inj hrest).1⟩

/-- **The first reply that ends the phase** is the last one, and the batches after it are not sent. -/
theorem embed_of_first (hsize : 0 < size) (havailable : e.isAvailable = true)
    {before rest : List (List Fragment × Except ServiceFailure Json)} {p : List Fragment × Except ServiceFailure Json}
    (h : answered o e size fs j = before ++ p :: rest) (hbefore : ∀ q ∈ before, ¬ Breaks q) (hp : Breaks p) :
    (ofFragments resolves fs).embed o e size j =
      ((after resolves fs before).take p.1 p.2, (askEach o e ((requests size fs).take (before.length + 1)) j).2) := by
  obtain ⟨hslices, hfirst, hreply⟩ := exists_of_zip_askEach h
  have hends : endsPhase p.1.length (e.ask o (p.1.map (·.contextText))
      (askEach o e ((before.map (·.1)).map (·.map (·.contextText))) j).2).1 = true := by
    rw [hreply]
    exact breaks_iff.mp hp
  have hsent := exchanges_append (before.map (·.1)) (p.1 :: rest.map (·.1)) j fun q hq =>
    not_breaks_iff.mp (hbefore q (hfirst ▸ hq))
  rw [exchanges_cons, if_pos hends, hreply, hfirst, ← hslices] at hsent
  have htake : (requests size fs).take (before.length + 1) =
      (before.map (·.1)).map (·.map (·.contextText)) ++ [p.1.map (·.contextText)] := by
    rw [requests, hslices, List.map_append, List.map_cons, List.append_cons]
    exact List.take_left' (by simp)
  rw [embed_eq_after hsize havailable, hsent, htake, askEach_append, askEach_cons, after, List.foldl_append]
  rfl

/-- The members of the batches are fragments of the index. -/
theorem members_sublist (hsize : 0 < size) (hsub : exchange.Sublist (answered o e size fs j)) :
    (exchange.flatMap (·.1)).Sublist fs := by
  refine (hsub.flatMap _).trans ?_
  rw [answered, flatMap_exchanged hsize (by rw [length_askEach, requests, List.length_map])]
  exact List.filter_sublist

/-- **The embedding phase with replies of any sort.** A reply is read as the expected number of vectors, none of them
empty, or recognised as malformed, or `Unexpected`. Unless one is unexpected the phase sends all batches, counts those
without vectors and attaches the vectors of the others. The first that is unexpected ends the phase: the vectors of the
batches before it stay, and the batches after it are not sent. -/
theorem embed_any_reply (resolves : Bool) (fs : List Fragment) (size : Nat) (hsize : 0 < size) (o : Outside)
    (e : Embedder) (havailable : e.isAvailable = true) (j : Journal) :
    let phase := (ofFragments resolves fs).embed o e size j
    (∀ (n : Nat) (v : Json) (vectors : List (List Float)), checkVectors v n = .ok vectors →
      vectors.length = n ∧ ∀ xs ∈ vectors, xs ≠ []) ∧
    (∀ (n : Nat) (v : Json), (∃ err, checkVectors v n = .error err ∧ err.isRecognised = false) ↔ Unexpected n v) ∧
    (phase.1.broken = none ↔ ∀ p ∈ answered o e size fs j, ¬ Breaks p) ∧
    (phase.1.broken = none → phase.2 = (askEach o e (requests size fs) j).2 ∧
      Settled resolves fs (answered o e size fs j) phase.1) ∧
    (∀ before p rest, answered o e size fs j = before ++ p :: rest → (∀ q ∈ before, ¬ Breaks q) → Breaks p →
      phase.2 = (askEach o e ((requests size fs).take (before.length + 1)) j).2 ∧
      phase.1 = { after resolves fs before with broken := fault p.1.length p.2 } ∧
      Settled resolves fs before (after resolves fs before)) := by
  intro phase
  have hgoes : (∀ p ∈ answered o e size fs j, ¬ Breaks p) →
      phase = (after resolves fs (answered o e size fs j), (askEach o e (requests size fs) j).2) :=
    embed_of_forall hsize havailable
  have hstops : ∀ before p rest, answered o e size fs j = before ++ p :: rest → (∀ q ∈ before, ¬ Breaks q) → Breaks p →
      phase = ({ after resolves fs before with broken := fault p.1.length p.2 },
        (askEach o e ((requests size fs).take (before.length + 1)) j).2) := by
    intro before p rest h hbefore hp
    rw [← take_of_breaks hp]
    exact embed_of_first hsize havailable h hbefore hp
  have hbroken : phase.1.broken = none ↔ ∀ p ∈ answered o e size fs j, ¬ Breaks p := by
    constructor
    · intro h q hq hbreaks
      obtain ⟨before, p, rest, hsplit, hfirst, hp⟩ := exists_first_break hq hbreaks
      have hfault := isSome_fault_of_breaks hp
      rw [hstops before p rest hsplit hfirst hp] at h
      rw [show fault p.1.length p.2 = none from h] at hfault
      cases hfault
    · intro h
      rw [hgoes h]
      exact broken_foldl_take rfl fun p hp => not_breaks_iff.mp (h p hp)
  refine ⟨fun _ _ _ => of_checkVectors_ok, fun _ _ => checkVectors_unrecognised_iff, hbroken, fun h => ?_, ?_⟩
  · rw [hgoes (hbroken.mp h)]
    exact ⟨rfl, settled_after (members_sublist hsize (List.Sublist.refl _))⟩
  · intro before p rest h hbefore hp
    rw [hstops before p rest h hbefore hp]
    exact ⟨rfl, rfl, settled_after (members_sublist hsize (h ▸ List.sublist_append_left _ _))⟩

/-- The reply to the first of two batches is null, which is recognised; the second one delivers. -/
theorem embed_any_reply_null :
    let a := member "m.a" "a" []
    let b := member "m.b" "b" []
    let e : Embedder := .custom "mine" true fun n _ => .ok (if n = 1 then .null else .list [.list [.int 2]])
    let phase := (ofFragments false [a, b]).embed (.scripted none fun _ => .text "") e 1 {}
    phase.2.embedCalls = [[a.contextText], [b.contextText]] ∧
    phase.1.broken = none ∧ phase.1.failed = 1 ∧ phase.1.attached = 1 ∧
    phase.1.index.fragments[0]? = some a ∧ phase.1.index.fragments[1]? = some { b with embedding := some [2] } := by
  intro a b e phase
  have hslices : slices 1 ([a, b].filter (!·.isEmbedded)) = [[a], [b]] := by
    show slices 1 [a, b] = _
    simp [slices, List.range_succ]
  have hanswered : answered (.scripted none fun _ => .text "") e 1 [a, b] {} =
      [([a], .ok .null), ([b], .ok (.list [.list [.int 2]]))] := by
    rw [answered, exchanged, requests, hslices]
    rfl
  obtain ⟨_, _, hbroken, hsettled, _⟩ :=
    embed_any_reply false [a, b] 1 (by decide) (.scripted none fun _ => .text "") e rfl {}
  have hunbroken : phase.1.broken = none := by
    refine hbroken.mpr (hanswered ▸ List.forall_mem_cons.mpr ⟨?_, List.forall_mem_singleton.mpr ?_⟩)
    · exact not_breaks_iff.mpr rfl
    · exact not_breaks_iff.mpr rfl
  obtain ⟨hcalls, hleft⟩ := hsettled hunbroken
  have hfailed := hleft.failed
  have hattached := hleft.attached
  have hfragments := hleft.fragments
  rw [hanswered] at hfailed hattached hfragments
  refine ⟨?_, hunbroken, hfailed, hattached, hfragments 0, hfragments 1⟩
  rw [show phase.2 = _ from hcalls, requests, hslices]
  rfl

/-- A method for each of two batches. The reply to the first is a number, which has no length; so the phase ends, and the
second batch, whose reply would deliver, is not sent. -/
theorem embed_breaks_off :
    let a := member "m.a" "a" []
    let b := member "m.b" "b" []
    let e : Embedder := .custom "mine" true fun n _ => .ok (if n = 1 then .int 5 else .list [.list [.int 2]])
    let phase := (ofFragments false [a, b]).embed (.scripted none fun _ => .text "") e 1 {}
    (∃ err, checkVectors (.int 5) 1 = .error err ∧ err.isRecognised = false) ∧
    checkVectors (.list [.list [.int 2]]) 1 = .ok [[2]] ∧
    phase.1.broken.isSome = true ∧ phase.1.failed = 0 ∧
    phase.2.embedCalls = [[a.contextText]] ∧ phase.1.index.fragments = [a, b] := by
  intro a b e phase
  have hphase : phase = embedBatches (.scripted none fun _ => .text "") e [[a], [b]] { index := ofFragments false [a, b] } {} := by
    show embedBatches _ e (batches 0 [a, b]) _ _ = _
    simp [batches]
  rw [hphase]
  exact ⟨⟨_, rfl, rfl⟩, rfl, rfl, rfl, rfl, rfl⟩

end Phase

end FragmentSearch.Index
