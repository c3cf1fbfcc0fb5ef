import FragmentSearch.Index.Basic
import FragmentSearch.Provider.Embedding

/-!
# Attaching vectors

The fragments without a vector are sent to the embedder in batches, each as its block of text. A batch
that fails is counted and left aside; the vectors of the others are attached.
-/

namespace FragmentSearch.Index

/-! ## 1. Batches -/

/-- The fragments that have no vector yet. -/
def pending (ix : Index) : List Fragment := ix.fragments.filter (!·.isEmbedded)

/-- Consecutive pieces of `k + 1` members; the last may be shorter. -/
def batches {α : Type} (k : Nat) : List α → List (List α)
  | [] => []
  | x :: r => (x :: r.take k) :: batches k (r.drop k)
termination_by xs => xs.length
decreasing_by simp only [List.length_drop, List.length_cons]; omega

/-! ## 2. The run -/

/-- The state of a run. -/
structure EmbeddingRun where
  index : Index
  /-- How many vectors were attached. -/
  attached : Nat := 0
  /-- How many batches failed. -/
  failed : Nat := 0
  /-- The reply on which the run broke off. -/
  broken : Option VectorError := none

/-- The ids of a batch with the vectors for them. -/
def labelled (batch : List Fragment) (vectors : List (List Float)) : Table String (List Float) :=
  Table.ofList ((batch.map (·.id)).zip vectors)

/-- Takes the reply for a batch into account. -/
def EmbeddingRun.take (run : EmbeddingRun) (batch : List Fragment) (reply : Except ServiceFailure Json) : EmbeddingRun :=
  match reply with
  | .error _ => { run with failed := run.failed + 1 }
  | .ok v =>
    match checkVectors v batch.length with
    | .ok vectors =>
      let (ix, n) := run.index.attachAll (labelled batch vectors)
      { run with index := ix, attached := run.attached + n }
    | .error e =>
      if e.isRecognised then { run with failed := run.failed + 1 } else { run with broken := some e }

/-- Sends the batches one after the other. -/
def embedBatches (o : Outside) (e : Embedder) : List (List Fragment) → EmbeddingRun → Session EmbeddingRun
  | [], run => pure run
  | batch :: rest, run => do
    let after := run.take batch (← e.ask o (batch.map (·.contextText)))
    if after.broken.isSome then return after else embedBatches o e rest after

/-- Attaches vectors to the fragments that have none, `size` at a time. -/
def embed (o : Outside) (e : Embedder) (size : Nat) (ix : Index) : Session EmbeddingRun :=
  if e.isAvailable then embedBatches o e (batches (size - 1) ix.pending) { index := ix }
  else pure { index := ix }

end FragmentSearch.Index
