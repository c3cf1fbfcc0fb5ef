import FragmentSearch.Proofs.Index.Phase

/-!
# Vectors for fragments that share an id

The embedding phase collects the fragments without a vector one by one, and attaches what is returned for them by their
ids. Of several fragments with one id only the last is found by it, so it gets the vectors of all of them:

* `sent` -- the batches that a phase sends, with the replies to them;
* `getElem?_embed` -- what the phase leaves of the fragment at each place;
* `Faithful` -- fragments keep their vectors, and a new vector was returned for the text of its fragment;
* `embed_faithful_iff` -- the phase is faithful, whatever the embedder returns, exactly if no fragment without a vector
  shares its id with a later one that has a vector or another text;
* `embed_faithful_setter` -- two methods of one id for which the second of two phases is not.
-/

namespace FragmentSearch.Index

variable {resolves : Bool} {fs : List Fragment} {batch : List Fragment} {reply : Except ServiceFailure Json}

/-! ## 1. One phase -/

section Phase

/-- What a phase over `fs` sends, `size` fragments at a time, with the replies to it. -/
def sent (o : Outside) (e : Embedder) (size : Nat) (fs : List Fragment) :
    Session (List (List Fragment × Except ServiceFailure Json)) :=
  if e.isAvailable then exchanges o e (batches (size - 1) (fs.filter (!·.isEmbedded))) else pure []

variable {o : Outside} {e : Embedder}

/-- A batch that is sent is one of those given. -/
theorem mem_of_mem_exchanges {p : List Fragment × Except ServiceFailure Json} (bs : List (List Fragment)) :
    ∀ j : Journal, p ∈ (exchanges o e bs j).1 → p.1 ∈ bs := by
  induction bs with
  | nil => intro j h; exact absurd h List.not_mem_nil
  | cons b bs ih =>
      intro j h
      rw [exchanges_cons] at h
      split at h
      · rw [List.mem_singleton.mp h]
        exact List.mem_cons_self
      · rcases List.mem_cons.mp h with rfl | h
        · exact List.mem_cons_self
        · exact List.mem_cons_of_mem _ (ih _ h)

/-- Only fragments without a vector are sent. -/
theorem mem_of_mem_sent {size : Nat} {j : Journal} {p : List Fragment × Except ServiceFailure Json} {f : Fragment}
    (hp : p ∈ (sent o e size fs j).1) (hf : f ∈ p.1) : f ∈ fs ∧ f.isEmbedded = false := by
  unfold sent at hp
  split at hp
  · have hmem : f ∈ (batches (size - 1) (fs.filter (!·.isEmbedded))).flatten :=
      List.mem_flatten.mpr ⟨p.1, mem_of_mem_exchanges _ j hp, hf⟩
    rw [flatten_batches, List.mem_filter] at hmem
    exact ⟨hmem.1, by simpa using hmem.2⟩
  · exact absurd hp List.not_mem_nil

/-- **What a phase does to its index.** -/
theorem index_embed (o : Outside) (e : Embedder) (size : Nat) (j : Journal) :
    ((ofFragments resolves fs).embed o e size j).1.index =
      ((ofFragments resolves fs).attachAll (vectorsById (sent o e size fs j).1)).1 := by
  unfold embed sent pending
  rw [fragments_ofFragments]
  split
  · exact index_embedBatches _ _ j rfl
  · rfl

/-- **What a phase leaves of the fragment at a place**: if it is the one found by its id, it has the last of the vectors
that were read for members of the batches with this id; otherwise it stays as it is. -/
theorem getElem?_embed (o : Outside) (e : Embedder) (size : Nat) (j : Journal) (i : Nat) :
    ((ofFragments resolves fs).embed o e size j).1.index.fragments[i]? = fs[i]?.map fun f =>
      if Table.get? f.id (ofFragments resolves fs).place = some i
      then f.given (Table.ofList (vectorsById (sent o e size fs j).1)) else f := by
  rw [index_embed, getElem?_attachAll]

end Phase

/-! ## 2. Faithful phases -/

section Faith

variable {exchange : List (List Fragment × Except ServiceFailure Json)}

/-- Was the vector returned for the text, as the vector at the place of the text in its request? -/
def ReturnedFor (exchange : List (List Fragment × Except ServiceFailure Json)) (text : String) (xs : List Float) : Prop :=
  ∃ p ∈ exchange, ∃ (m : Nat) (f : Fragment), p.1[m]? = some f ∧ f.contextText = text ∧
    (vectorsRead p.1.length p.2)[m]? = some xs

/-- What a phase owes to the fragments `fs`, given what it sends with the replies, if `after` are the fragments that it
leaves. -/
structure Faithful (fs : List Fragment) (exchange : List (List Fragment × Except ServiceFailure Json))
    (after : List Fragment) : Prop where
  /-- A fragment with a vector keeps it. -/
  kept : ∀ (i : Nat) (f : Fragment), fs[i]? = some f → f.isEmbedded = true →
    ∃ g, after[i]? = some g ∧ g.embedding = f.embedding
  /-- A new vector was returned for the text of its fragment. -/
  own : ∀ (i : Nat) (f g : Fragment), fs[i]? = some f → after[i]? = some g → g.embedding ≠ f.embedding →
    ∃ xs, g.embedding = some xs ∧ ReturnedFor exchange f.contextText xs

/-- A vector under an id of a batch was read at the place of a member that has the id. -/
theorem mem_labelled {vectors : List (List Float)} {id : String} {xs : List Float}
    (h : (id, xs) ∈ labelled batch vectors) :
    ∃ (m : Nat) (f : Fragment), batch[m]? = some f ∧ f.id = id ∧ vectors[m]? = some xs := by
  obtain ⟨m, hm⟩ := List.mem_iff_getElem?.mp (Table.mem_of_mem_ofList h)
  rw [List.getElem?_zip_eq_some, List.getElem?_map, Option.map_eq_some_iff] at hm
  obtain ⟨⟨f, hf, hid⟩, hxs⟩ := hm
  exact ⟨m, f, hf, hid, hxs⟩

/-- A vector under an id was returned for the text of a member that has the id. -/
theorem exists_of_mem_vectorsById {id : String} {xs : List Float} (h : (id, xs) ∈ vectorsById exchange) :
    ∃ p ∈ exchange, ∃ f ∈ p.1, f.id = id ∧ ReturnedFor exchange f.contextText xs := by
  obtain ⟨p, hp, h⟩ := List.mem_flatMap.mp h
  obtain ⟨m, f, hf, hid, hxs⟩ := mem_labelled h
  exact ⟨p, hp, f, List.mem_of_getElem? hf, hid, p, hp, m, f, hf, rfl, hxs⟩

/-- The fragments without a vector share their ids with no later one that has a vector or another text. -/
def Interchangeable (resolves : Bool) (fs : List Fragment) : Prop :=
  ∀ f ∈ fs, f.isEmbedded = false → ∀ g, (ofFragments resolves fs).get? f.id = some g →
    g.isEmbedded = false ∧ g.contextText = f.contextText

theorem get?_of_place {id : String} {i : Nat} {f : Fragment} (hf : fs[i]? = some f)
    (h : Table.get? id (ofFragments resolves fs).place = some i) : (ofFragments resolves fs).get? id = some f := by
  rw [get?, h, fragments_ofFragments]
  exact hf

/-- A vector that reaches a fragment was returned for one without a vector that shares its id. -/
theorem faithful_of_interchangeable (h : Interchangeable resolves fs) (o : Outside) (e : Embedder) (size : Nat)
    (j : Journal) :
    Faithful fs (sent o e size fs j).1 ((ofFragments resolves fs).embed o e size j).1.index.fragments := by
  have hsource : ∀ (i : Nat) (f : Fragment) (xs : List Float), fs[i]? = some f →
      Table.get? f.id (ofFragments resolves fs).place = some i →
      Table.get? f.id (Table.ofList (vectorsById (sent o e size fs j).1)) = some xs →
      f.isEmbedded = false ∧ ReturnedFor (sent o e size fs j).1 f.contextText xs := by
    intro i f xs hf hplace hxs
    obtain ⟨p, hp, f', hf', hid, hreturned⟩ := exists_of_mem_vectorsById (Table.mem_of_get?_ofList hxs)
    obtain ⟨hmem, hpending⟩ := mem_of_mem_sent hp hf'
    obtain ⟨hbare, htext⟩ := h f' hmem hpending f (get?_of_place hf (hid ▸ hplace))
    exact ⟨hbare, htext ▸ hreturned⟩
  refine ⟨fun i f hf hembedded => ?_, fun i f g hf hg hne => ?_⟩
  · rw [getElem?_embed, hf]
    refine ⟨_, rfl, ?_⟩
    dsimp only
    split
    · next hplace =>
        cases hxs : Table.get? f.id (Table.ofList (vectorsById (sent o e size fs j).1)) with
        | none => rw [Fragment.given, hxs]; rfl
        | some xs =>
            rw [(hsource i f xs hf hplace hxs).1] at hembedded
            cases hembedded
    · rfl
  · rw [getElem?_embed, hf, Option.map_some, Option.some.injEq] at hg
    subst hg
    split at hne
    · next hplace =>
        cases hxs : Table.get? f.id (Table.ofList (vectorsById (sent o e size fs j).1)) with
        | none =>
            rw [Fragment.given, hxs] at hne
            exact absurd rfl hne
        | some xs =>
            rw [if_pos hplace, Fragment.given, hxs]
            exact ⟨xs, rfl, (hsource i f xs hf hplace hxs).2⟩
    · exact absurd rfl hne

end Faith

/-! ## 3. When every phase is faithful -/

section Exact

/-- A capability that returns a vector for one text, asked for by itself, and fails otherwise. -/
def answersOnly (text : String) (xs : List Float) : Embedder :=
  .custom "one text" true fun _ texts =>
    if texts = [text] then .ok (.list [.list (xs.map .float)]) else .error (.failed "unknown text")

variable {text : String} {xs : List Float}

theorem batches_zero (ps : List Fragment) : batches 0 ps = ps.map ([·]) := by
  induction ps with
  | nil => rw [batches]; rfl
  | cons p ps ih => rw [batches, List.take_zero, List.drop_zero, ih]; rfl

/-- One text after the other is asked for, and for one of them the vector is read. -/
theorem exchanges_answersOnly (hread : checkVectors (.list [.list (xs.map .float)]) 1 = .ok [xs]) (o : Outside)
    (ps : List Fragment) : ∀ j : Journal,
    ((exchanges o (answersOnly text xs) (ps.map ([·])) j).1.map fun p => (p.1, vectorsRead p.1.length p.2)) =
      ps.map fun f => ([f], if f.contextText = text then [xs] else []) := by
  induction ps with
  | nil => intro j; rfl
  | cons f ps ih =>
      intro j
      have hreply : ((answersOnly text xs).ask o ([f].map (·.contextText)) j).1 =
          if f.contextText = text then .ok (.list [.list (xs.map .float)]) else .error (.failed "unknown text") := by
        show (if [f.contextText] = [text] then _ else _) = _
        simp only [List.cons.injEq, and_true]
      have hfirst : ¬ endsPhase [f].length ((answersOnly text xs).ask o ([f].map (·.contextText)) j).1 = true ∧
          vectorsRead 1 ((answersOnly text xs).ask o ([f].map (·.contextText)) j).1 =
            if f.contextText = text then [xs] else [] := by
        rw [hreply]
        split <;> simp [endsPhase, vectorsRead, hread]
      show List.map _ (exchanges o _ ([f] :: ps.map ([·])) j).1 = _
      rw [exchanges_cons, if_neg hfirst.1, List.map_cons, ih, List.map_cons]
      exact congrArg (fun vectors => ([f], vectors) :: _) hfirst.2

theorem map_sent_answersOnly (fs : List Fragment) (text : String)
    (hread : checkVectors (.list [.list (xs.map .float)]) 1 = .ok [xs]) (o : Outside) (j : Journal) :
    ((sent o (answersOnly text xs) 1 fs j).1.map fun p => (p.1, vectorsRead p.1.length p.2)) =
      (fs.filter (!·.isEmbedded)).map fun f => ([f], if f.contextText = text then [xs] else []) := by
  have havailable : (answersOnly text xs).isAvailable = true := rfl
  unfold sent
  rw [if_pos havailable, Nat.sub_self, batches_zero, exchanges_answersOnly hread]

/-- The vector is returned for the one text only. -/
theorem text_of_returnedFor {ys : List Float} {text' : String}
    (hread : checkVectors (.list [.list (xs.map .float)]) 1 = .ok [xs]) {o : Outside} {j : Journal}
    (h : ReturnedFor (sent o (answersOnly text xs) 1 fs j).1 text' ys) : text' = text := by
  obtain ⟨p, hp, m, f, hf, rfl, hys⟩ := h
  have hmem := List.mem_map_of_mem (f := fun p => (p.1, vectorsRead p.1.length p.2)) hp
  rw [map_sent_answersOnly _ _ hread, List.mem_map] at hmem
  obtain ⟨f', _, e⟩ := hmem
  obtain ⟨hbatch, hvectors⟩ := Prod.mk.inj e
  rw [← hvectors] at hys
  split at hys
  · next htext =>
      rw [← hbatch] at hf
      rw [List.mem_singleton.mp (List.mem_of_getElem? hf)]
      exact htext
  · cases hys

/-- The vector stands under the ids of the fragments with the text. -/
theorem vectorsById_answersOnly (hread : checkVectors (.list [.list (xs.map .float)]) 1 = .ok [xs]) (o : Outside)
    (j : Journal) :
    vectorsById (sent o (answersOnly text xs) 1 fs j).1 =
      (fs.filter (!·.isEmbedded)).flatMap fun f => if f.contextText = text then [(f.id, xs)] else [] := by
  have h := congrArg (List.flatMap fun p : List Fragment × List (List Float) => labelled p.1 p.2)
    (map_sent_answersOnly fs text hread o j)
  rw [List.flatMap_map, List.flatMap_map] at h
  refine h.trans (List.flatMap_congr fun f _ => ?_)
  dsimp only
  split <;> rfl

theorem get?_vectorsById_answersOnly (hread : checkVectors (.list [.list (xs.map .float)]) 1 = .ok [xs]) {f : Fragment}
    (hf : f ∈ fs) (hpending : f.isEmbedded = false) (o : Outside) (j : Journal) :
    Table.get? f.id (Table.ofList (vectorsById (sent o (answersOnly f.contextText xs) 1 fs j).1)) = some xs := by
  rw [vectorsById_answersOnly hread]
  refine Table.get?_ofList_of_forall ?_ fun e he _ => ?_
  · refine List.mem_map.mpr ⟨(f.id, xs), List.mem_flatMap.mpr ⟨f, ?_, ?_⟩, rfl⟩
    · rw [List.mem_filter, hpending]
      exact ⟨hf, rfl⟩
    · rw [if_pos rfl]
      exact List.mem_singleton.mpr rfl
  · obtain ⟨g, _, hg⟩ := List.mem_flatMap.mp he
    split at hg
    · rw [List.mem_singleton.mp hg]
    · cases hg

/-- A fragment without a vector hands a vector on to the one that is found by its id. -/
theorem interchangeable_of_faithful
    (h : ∀ (o : Outside) (e : Embedder) (size : Nat) (j : Journal), 0 < size →
      Faithful fs (sent o e size fs j).1 ((ofFragments resolves fs).embed o e size j).1.index.fragments) :
    Interchangeable resolves fs := by
  intro f hf hpending g hg
  obtain ⟨i, hplace, hi⟩ := Option.bind_eq_some_iff.mp hg
  rw [fragments_ofFragments] at hi
  have hid : g.id = f.id := id_of_get? hg
  -- a vector that `g` does not have
  obtain ⟨xs, hread, hnew⟩ : ∃ xs, checkVectors (.list [.list (xs.map .float)]) 1 = .ok [xs] ∧
      g.embedding ≠ some xs := by
    by_cases hone : (g.embedding.getD []).length = 1
    · exact ⟨[0, 0], rfl, fun e => by rw [e] at hone; cases hone⟩
    · exact ⟨[0], rfl, fun e => hone (by rw [e]; rfl)⟩
  have hfaithful := h (.scripted none fun _ => .text "") (answersOnly f.contextText xs) 1 {} Nat.one_pos
  have hafter : ((ofFragments resolves fs).embed (.scripted none fun _ => .text "") (answersOnly f.contextText xs) 1
      {}).1.index.fragments[i]? = some { g with embedding := some xs } := by
    rw [getElem?_embed, hi, Option.map_some, if_pos (hid ▸ hplace), Fragment.given, hid,
      get?_vectorsById_answersOnly hread hf hpending]
    rfl
  obtain ⟨_, _, hreturned⟩ := hfaithful.own i g _ hi hafter hnew.symm
  refine ⟨Bool.eq_false_iff.mpr fun hembedded => ?_, text_of_returnedFor hread hreturned⟩
  obtain ⟨g', hg', hkept⟩ := hfaithful.kept i g hi hembedded
  rw [hafter, Option.some.injEq] at hg'
  rw [← hg'] at hkept
  exact hnew hkept.symm

/-- **When the embedding phase is faithful.** Ids may occur twice. The phase sends the fragments without a vector, and of
the fragments with one id the last gets the last of the vectors that were read for any of them. So every fragment keeps
its vector and gets new ones for its own text only, whatever the embedder returns and in whatever batches, exactly if no
fragment without a vector shares its id with a later one that has a vector or another text. -/
theorem embed_faithful_iff (resolves : Bool) (fs : List Fragment) :
    (∀ (o : Outside) (e : Embedder) (size : Nat) (j : Journal) (i : Nat),
      ((ofFragments resolves fs).embed o e size j).1.index.fragments[i]? = fs[i]?.map fun f =>
        if Table.get? f.id (ofFragments resolves fs).place = some i
        then f.given (Table.ofList (vectorsById (sent o e size fs j).1)) else f) ∧
    ((∀ (o : Outside) (e : Embedder) (size : Nat) (j : Journal), 0 < size →
        Faithful fs (sent o e size fs j).1 ((ofFragments resolves fs).embed o e size j).1.index.fragments) ↔
      Interchangeable resolves fs) := by
  refine ⟨fun o e size j i => getElem?_embed o e size j i, interchangeable_of_faithful, ?_⟩
  intro h o e size j _
  exact faithful_of_interchangeable h o e size j

/-- A property is a pair of methods of one id. The first phase reads a vector for each of them, and the setter, which is
found by the id, gets its own. The getter still has none, so the second phase asks for it again; and the vector of its
text replaces that of the setter. -/
theorem embed_faithful_setter :
    let getter := { member "m.Box.size" "size" [] with signature := some "def size(self)" }
    let setter := { member "m.Box.size" "size" [] with signature := some "def size(self, value)" }
    let o : Outside := .scripted none fun _ => .text ""
    let e : Embedder := .custom "mine" true fun n _ =>
      .ok (if n = 1 then .list [.list [.float 1], .list [.float 2, .float 2]] else .list [.list [.float 1]])
    let first := (ofFragments false [getter, setter]).embed o e 32 {}
    let second := first.1.index.embed o e 32 first.2
    second.2.embedCalls = [[getter.contextText, setter.contextText], [getter.contextText]] ∧
    first.1.index.fragments = [getter, { setter with embedding := some [2, 2] }] ∧
    second.1.index.fragments = [getter, { setter with embedding := some [1] }] ∧
    ¬ Faithful first.1.index.fragments (sent o e 32 first.1.index.fragments first.2).1 second.1.index.fragments := by
  intro getter setter o e first second
  have hfirst : first = embedBatches o e [[getter, setter]] { index := ofFragments false [getter, setter] } {} := by
    show embedBatches o e (batches 31 [getter, setter]) _ _ = _
    simp [batches]
  have hsecond : second = embedBatches o e [[getter]] { index := first.1.index } first.2 := by
    have hpending : first.1.index.pending = [getter] := by rw [hfirst]; rfl
    show embedBatches o e (batches 31 first.1.index.pending) _ _ = _
    rw [hpending]
    simp [batches]
  have hleft : first.1.index.fragments = [getter, { setter with embedding := some [2, 2] }] := by rw [hfirst]; rfl
  have hafter : second.1.index.fragments = [getter, { setter with embedding := some [1] }] := by
    rw [hsecond, hfirst]
    rfl
  refine ⟨?_, hleft, hafter, fun h => ?_⟩
  · rw [hsecond, hfirst]
    rfl
  · obtain ⟨g, hg, hkept⟩ := h.kept 1 { setter with embedding := some [2, 2] } (by rw [hleft]; rfl) rfl
    rw [hafter] at hg
    cases hg
    exact absurd (congrArg (fun v => (v.getD []).length) hkept) (by decide)

end Exact

end FragmentSearch.Index
