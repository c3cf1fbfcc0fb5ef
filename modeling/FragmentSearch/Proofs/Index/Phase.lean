import FragmentSearch.Proofs.Index.Attachment
import FragmentSearch.Proofs.Index.Batches
import FragmentSearch.Proofs.Provider.Vectors

/-!
# One embedding phase

The batches of a phase are sent one after the other until one of the replies ends it:

* `take_eq` -- what one reply does to a run, and `foldl_take_eq` -- what several do;
* `askEach` -- the replies to some requests, one after the other;
* `exchanges` -- the batches that are sent, with the replies to them, and `embedBatches_eq_foldl` -- a run takes these
  replies and no others;
* `exchanges_append` -- batches of which no reply ends the phase are all sent.
-/

namespace FragmentSearch.Index

variable {batch : List Fragment} {reply : Except ServiceFailure Json} {n : Nat}

/-! ## 1. One reply -/

section Reply

/-- The vectors that are read from the reply to `n` texts. -/
def vectorsRead (n : Nat) : Except ServiceFailure Json → List (List Float)
  | .error _ => []
  | .ok v =>
    match checkVectors v n with
    | .ok vectors => vectors
    | .error _ => []

/-- Does the reply to `n` texts end the phase? -/
def endsPhase (n : Nat) : Except ServiceFailure Json → Bool
  | .error _ => false
  | .ok v =>
    match checkVectors v n with
    | .ok _ => false
    | .error e => !e.isRecognised

/-- Is the reply to `n` texts a failure, or is it recognised as malformed? -/
def isRejected (n : Nat) : Except ServiceFailure Json → Bool
  | .error _ => true
  | .ok v =>
    match checkVectors v n with
    | .ok _ => false
    | .error e => e.isRecognised

/-- The error with which the reply to `n` texts ends the phase. -/
def fault (n : Nat) : Except ServiceFailure Json → Option VectorError
  | .error _ => none
  | .ok v =>
    match checkVectors v n with
    | .ok _ => none
    | .error e => if e.isRecognised then none else some e

theorem isSome_fault : (fault n reply).isSome = endsPhase n reply := by
  unfold fault endsPhase
  cases reply with
  | error e => rfl
  | ok v =>
      dsimp only
      cases checkVectors v n with
      | ok vectors => rfl
      | error e => dsimp only; cases e.isRecognised <;> rfl

/-- **What a reply does to a run.** -/
theorem take_eq (run : EmbeddingRun) : run.take batch reply =
    { index := (run.index.attachAll (labelled batch (vectorsRead batch.length reply))).1
      attached := run.attached + (run.index.attachAll (labelled batch (vectorsRead batch.length reply))).2
      failed := run.failed + if isRejected batch.length reply then 1 else 0
      broken := (fault batch.length reply).or run.broken } := by
  have hnone : run.index.attachAll (labelled batch []) = (run.index, 0) := by
    rw [labelled, List.zip_nil_right]
    rfl
  unfold EmbeddingRun.take vectorsRead isRejected fault
  cases reply with
  | error e => simp only [hnone]; rfl
  | ok v =>
      cases h : checkVectors v batch.length with
      | ok vectors => simp only [h]; rfl
      | error e =>
          simp only [h, hnone]
          cases e.isRecognised <;> rfl

/-- Only a reply that no check expects ends the phase. -/
theorem endsPhase_iff : endsPhase n reply = true ↔ ∃ v, reply = .ok v ∧ Unexpected n v := by
  unfold endsPhase
  cases reply with
  | error e => exact ⟨nofun, fun ⟨_, h, _⟩ => nomatch h⟩
  | ok v =>
      simp only [Except.ok.injEq, exists_eq_left']
      rw [← checkVectors_unrecognised_iff]
      cases checkVectors v n with
      | ok vectors => exact ⟨nofun, fun ⟨_, h, _⟩ => nomatch h⟩
      | error e =>
          dsimp only
          rw [Bool.not_eq_true']
          exact ⟨fun h => ⟨e, rfl, h⟩, fun ⟨_, h, he⟩ => Except.error.inj h ▸ he⟩

end Reply

/-! ## 2. Several replies -/

section Replies

/-- The vectors that are read from some replies, in their order, each under the id of its member of the batch. -/
def vectorsById (exchange : List (List Fragment × Except ServiceFailure Json)) : Table String (List Float) :=
  exchange.flatMap fun p => labelled p.1 (vectorsRead p.1.length p.2)

/-- **What the replies do to a run**, one after the other. -/
theorem foldl_take_eq (exchange : List (List Fragment × Except ServiceFailure Json)) (run : EmbeddingRun) :
    exchange.foldl (fun run p => run.take p.1 p.2) run =
      { index := (run.index.attachAll (vectorsById exchange)).1
        attached := run.attached + (run.index.attachAll (vectorsById exchange)).2
        failed := run.failed + exchange.countP fun p => isRejected p.1.length p.2
        broken := exchange.foldl (fun broken p => (fault p.1.length p.2).or broken) run.broken } := by
  induction exchange using List.reverseRecOn with
  | nil => rfl
  | append_singleton exchange p ih =>
      have hlast : vectorsById (exchange ++ [p]) = vectorsById exchange ++ labelled p.1 (vectorsRead p.1.length p.2) := by
        rw [vectorsById, List.flatMap_append, List.flatMap_singleton]
        rfl
      rw [List.foldl_append, ih, List.foldl_cons, List.foldl_nil, take_eq, hlast, attachAll_append, List.countP_append,
        List.countP_singleton, List.foldl_append, ← Nat.add_assoc, ← Nat.add_assoc]
      rfl

/-- Replies of which none ends the phase break nothing. -/
theorem broken_foldl_take {exchange : List (List Fragment × Except ServiceFailure Json)} {run : EmbeddingRun}
    (hrun : run.broken = none) (h : ∀ p ∈ exchange, endsPhase p.1.length p.2 = false) :
    (exchange.foldl (fun run p => run.take p.1 p.2) run).broken = none := by
  induction exchange generalizing run with
  | nil => exact hrun
  | cons p exchange ih =>
      obtain ⟨hp, hrest⟩ := List.forall_mem_cons.mp h
      rw [← isSome_fault, Option.isSome_eq_false_iff, Option.isNone_iff_eq_none] at hp
      refine ih ?_ hrest
      show (run.take p.1 p.2).broken = none
      rw [take_eq, hp, hrun]
      rfl

/-- The replies to the requests for some texts, one after the other. -/
def askEach (o : Outside) (e : Embedder) (requests : List (List String)) :
    Session (List (Except ServiceFailure Json)) := requests.mapM (e.ask o)

theorem askEach_cons (o : Outside) (e : Embedder) (texts : List String) (requests : List (List String)) (j : Journal) :
    askEach o e (texts :: requests) j =
      ((e.ask o texts j).1 :: (askEach o e requests (e.ask o texts j).2).1,
        (askEach o e requests (e.ask o texts j).2).2) := by
  unfold askEach
  rw [List.mapM_cons]
  rfl

theorem askEach_append (o : Outside) (e : Embedder) (first rest : List (List String)) (j : Journal) :
    askEach o e (first ++ rest) j =
      ((askEach o e first j).1 ++ (askEach o e rest (askEach o e first j).2).1,
        (askEach o e rest (askEach o e first j).2).2) := by
  unfold askEach
  rw [List.mapM_append]
  rfl

theorem length_askEach (o : Outside) (e : Embedder) (requests : List (List String)) : ∀ j : Journal,
    (askEach o e requests j).1.length = requests.length := by
  induction requests with
  | nil => intro j; rfl
  | cons texts requests ih =>
      intro j
      rw [askEach_cons, List.length_cons, ih, List.length_cons]

/-- A capability of the caller is asked for each of the texts, and the journal says so. -/
theorem askEach_custom (o : Outside) (name : String) (available : Bool)
    (answer : Nat → List String → Except ServiceFailure Json) (requests : List (List String)) : ∀ j : Journal,
    (askEach o (.custom name available answer) requests j).2 = { j with embedCalls := j.embedCalls ++ requests } := by
  induction requests with
  | nil =>
      intro j
      show j = _
      rw [List.append_nil]
  | cons texts requests ih =>
      intro j
      rw [askEach_cons, ih]
      show { j with embedCalls := (j.embedCalls ++ [texts]) ++ requests } = _
      rw [List.append_assoc]
      rfl

end Replies

/-! ## 3. The batches that are sent -/

section Exchanges

/-- The batches that are sent, with the replies to them; after a reply that ends the phase no more are. -/
def exchanges (o : Outside) (e : Embedder) : List (List Fragment) →
    Session (List (List Fragment × Except ServiceFailure Json))
  | [] => pure []
  | batch :: rest => do
    let reply ← e.ask o (batch.map (·.contextText))
    let more ← (if endsPhase batch.length reply then pure [] else exchanges o e rest)
    return (batch, reply) :: more

variable {o : Outside} {e : Embedder}

theorem exchanges_cons (bs : List (List Fragment)) (j : Journal) :
    exchanges o e (batch :: bs) j =
      if endsPhase batch.length (e.ask o (batch.map (·.contextText)) j).1
      then ([(batch, (e.ask o (batch.map (·.contextText)) j).1)], (e.ask o (batch.map (·.contextText)) j).2)
      else ((batch, (e.ask o (batch.map (·.contextText)) j).1) ::
          (exchanges o e bs (e.ask o (batch.map (·.contextText)) j).2).1,
        (exchanges o e bs (e.ask o (batch.map (·.contextText)) j).2).2) := by
  rw [exchanges]
  generalize e.ask o (batch.map (·.contextText)) = asked
  show ((if endsPhase batch.length (asked j).1 then (pure [] : Session _) else exchanges o e bs) >>= fun more =>
    pure ((batch, (asked j).1) :: more)) (asked j).2 = _
  cases endsPhase batch.length (asked j).1 <;> rfl

/-- **A run takes the replies to the batches that are sent**, and no others. -/
theorem embedBatches_eq_foldl (bs : List (List Fragment)) : ∀ (run : EmbeddingRun) (j : Journal), run.broken = none →
    embedBatches o e bs run j =
      ((exchanges o e bs j).1.foldl (fun run p => run.take p.1 p.2) run, (exchanges o e bs j).2) := by
  induction bs with
  | nil => intro run j _; rfl
  | cons b bs ih =>
      intro run j hrun
      have hbroken : (run.take b (e.ask o (b.map (·.contextText)) j).1).broken =
          fault b.length (e.ask o (b.map (·.contextText)) j).1 := by
        rw [take_eq, hrun, Option.or_none]
      rw [embedBatches_cons, exchanges_cons, hbroken, isSome_fault]
      by_cases hend : endsPhase b.length (e.ask o (b.map (·.contextText)) j).1 = true
      · rw [if_pos hend, if_pos hend]
        rfl
      · rw [if_neg hend, if_neg hend]
        refine ih _ _ ?_
        rw [hbroken, ← Option.not_isSome_iff_eq_none, isSome_fault]
        exact hend

/-- **What the batches of a phase do to its index.** -/
theorem index_embedBatches (bs : List (List Fragment)) (run : EmbeddingRun) (j : Journal) (hrun : run.broken = none) :
    (embedBatches o e bs run j).1.index = (run.index.attachAll (vectorsById (exchanges o e bs j).1)).1 := by
  rw [embedBatches_eq_foldl bs run j hrun, foldl_take_eq]

/-- **Batches of which no reply ends the phase are all sent**, and the phase goes on with the next. -/
theorem exchanges_append (first rest : List (List Fragment)) : ∀ j : Journal,
    (∀ p ∈ first.zip (askEach o e (first.map (·.map (·.contextText))) j).1, endsPhase p.1.length p.2 = false) →
    exchanges o e (first ++ rest) j =
      (first.zip (askEach o e (first.map (·.map (·.contextText))) j).1 ++
          (exchanges o e rest (askEach o e (first.map (·.map (·.contextText))) j).2).1,
        (exchanges o e rest (askEach o e (first.map (·.map (·.contextText))) j).2).2) := by
  induction first with
  | nil => intro j _; rfl
  | cons b first ih =>
      intro j h
      rw [List.map_cons, askEach_cons, List.zip_cons_cons] at h ⊢
      obtain ⟨hb, hfirst⟩ := List.forall_mem_cons.mp h
      rw [List.cons_append, exchanges_cons, if_neg (Bool.eq_false_iff.mp hb), ih _ hfirst]
      rfl

end Exchanges

end FragmentSearch.Index
