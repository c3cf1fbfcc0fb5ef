import FragmentSearch.Files.Scan
import FragmentSearch.Files.Source
import FragmentSearch.Indexing.Report

/-!
# Indexing a directory

The source files below a directory are found and parsed, their fragments make an index, and vectors are
attached to it if they are wanted. Files are parsed one by one and may finish in any order: what each of
them gave is filed under its path, and the fragments are put together in the order of the files.

The counts of parsed and failed files belong to the pipeline and go on over its runs.
-/

namespace FragmentSearch

/-! ## 1. Parsing files -/

/-- What became of a file. -/
structure Outcome where
  file : Path
  result : Except FileReadFault (List Fragment)

/-- The outcome of a file below a root. -/
def FileTree.outcome (t : FileTree) (root file : Path) : Outcome := ⟨file, t.fragmentsOf root file⟩

/-- Counts an outcome. -/
def Tally.count (n : Tally) (o : Outcome) : Tally :=
  match o.result with
  | .ok _ => { n with parsed := n.parsed + 1 }
  | .error _ => { n with failed := n.failed + 1 }

/-- Files the fragments of an outcome under its path. -/
def Outcome.enter (found : Table Path (List Fragment)) (o : Outcome) : Table Path (List Fragment) :=
  match o.result with
  | .ok fs => Table.put o.file fs found
  | .error _ => found

/-- The fragments of some files in the order of the files, whatever the order in which they arrived. -/
def merge (files : List Path) (arrivals : List Outcome) : List Fragment :=
  let found := arrivals.foldl Outcome.enter []
  files.flatMap fun p => (Table.get? p found).getD []

/-! ## 2. Vectors -/

/-- Why no index could be built. -/
inductive BuildFault where
  /-- There are no workers that could parse files. -/
  | workers
  /-- A batch of texts has no size. -/
  | batchSize
  /-- The reply of the embedder was not foreseen. -/
  | vectors (e : VectorError)

/-- The report of a fault. -/
def BuildFault.message : BuildFault → String
  | .workers => "max_workers must be greater than 0"
  | .batchSize => "batch_size must be a positive integer"
  | .vectors e => e.message

/-- The index with vectors, if the settings want them. -/
def Index.withVectors (o : Outside) (c : Config) (e : Embedder) (ix : Index) :
    Session (Except BuildFault Index.EmbeddingRun) :=
  if c.usesEmbeddings then
    if c.batchSize ≤ 0 then pure (.error .batchSize)
    else do
      let run ← ix.embed o e c.batchSize.toNat
      match run.broken with
      | some e => return .error (.vectors e)
      | none => return .ok run
  else pure (.ok { index := ix })

/-! ## 3. The pipeline -/

/-- What is indexed, how, and what has been counted so far. -/
structure Pipeline where
  root : Path
  config : Config
  embedder : Embedder
  tally : Tally := {}

namespace Pipeline

/-- The index of what the files gave. -/
def index (p : Pipeline) (files : List Path) (arrivals : List Outcome) : Index :=
  Index.ofFragments p.config.resolvesNames (merge files arrivals)

/-- The pipeline after the scan. -/
def scanned (p : Pipeline) (files : List Path) : Pipeline :=
  { p with tally := { p.tally with scanned := files.length } }

/-- The pipeline after parsing. -/
def parsed (p : Pipeline) (arrivals : List Outcome) : Pipeline := { p with tally := arrivals.foldl Tally.count p.tally }

/-- Builds the index of the directory. -/
def run (o : Outside) (t : FileTree) (p : Pipeline) : Session (Except BuildFault (Index × IndexReport) × Pipeline) := do
  let files := t.scan p.config p.root
  if p.config.maxWorkers ≤ 0 then return (.error .workers, p.scanned files)
  let arrivals := files.map (t.outcome p.root)
  let after := (p.scanned files).parsed arrivals
  match ← (p.index files arrivals).withVectors o p.config p.embedder with
  | .error e => return (.error e, after)
  | .ok run => return (.ok (run.index, .ofRun after.tally p.config.usesEmbeddings p.root.text run), after)

end Pipeline

end FragmentSearch
