import FragmentSearch.Index.Embedding

/-!
# Reports of indexing

What is counted while files are read, and the report on a finished index.
-/

namespace FragmentSearch

/-! ## 1. Counting files -/

/-- How many files were found, how many gave fragments and how many failed. -/
structure Tally where
  scanned : Nat := 0
  parsed : Nat := 0
  failed : Nat := 0
  deriving DecidableEq, Repr

/-! ## 2. The report -/

/-- The report on a finished index. -/
structure IndexReport where
  tally : Tally
  /-- How many fragments there are. -/
  total : Nat
  /-- How many fragments each kind has. -/
  ofKind : List (Kind × Nat)
  /-- How many fragments carry a vector. -/
  embedded : Nat
  /-- How many batches of texts failed. -/
  failedBatches : Nat
  /-- Were vectors wanted? -/
  usesEmbeddings : Bool
  /-- The directory, as it was given. -/
  root : String
  deriving DecidableEq, Repr

namespace IndexReport

/-- The report on the index that a run of the embedder left. -/
def ofRun (tally : Tally) (usesEmbeddings : Bool) (root : String) (run : Index.EmbeddingRun) : IndexReport :=
  { tally := tally, total := run.index.size, ofKind := run.index.kindCounts, embedded := run.index.embeddedCount,
    failedBatches := run.failed, usesEmbeddings := usesEmbeddings, root := root }

/-- The fields of a report. -/
def fields (r : IndexReport) : List (String × Json) :=
  [("files_scanned", .ofNat r.tally.scanned), ("files_parsed", .ofNat r.tally.parsed),
    ("parse_errors", .ofNat r.tally.failed), ("fragments_total", .ofNat r.total),
    ("fragments_by_kind", .object (r.ofKind.map fun e => (e.1.name, .ofNat e.2))),
    ("fragments_embedded", .ofNat r.embedded), ("embedding_batches_failed", .ofNat r.failedBatches),
    ("embeddings_enabled", .bool r.usesEmbeddings), ("root_dir", .text r.root)]

end IndexReport

end FragmentSearch
