import FragmentSearch.Answer
import FragmentSearch.Config.Validate
import FragmentSearch.Files.Dump
import FragmentSearch.Indexing.Pipeline
import FragmentSearch.Ranking.Strategy

/-!
# The client

A client has settings, an embedder, an answerer and a hybrid ranking, and keeps in memory one index for
each root directory, with the report on it. Roots are kept as resolved paths, so that every spelling of a
path leads to the same index.
-/

namespace FragmentSearch

/-- The version of the program. -/
def version : String := "1.0.0"

/-! ## 1. Structure -/

/-- A client. -/
structure Client where
  config : Config
  embedder : Embedder
  answerer : Answerer
  hybrid : Hybrid Float
  /-- The index of each root. -/
  indexes : Table Path Index := []
  /-- The report on the index of each root. -/
  reports : Table Path IndexReport := []

/-- Why there is no client. -/
inductive CreationFault where
  | settings (e : ConfigError)
  | embedder (e : EmbedderError)

/-- The report of a fault. -/
def CreationFault.message : CreationFault → String
  | .settings e => e.message
  | .embedder e => e.message

/-- Why a request to a client fails. -/
inductive ClientFault where
  /-- Links go round in a circle. -/
  | circle (e : LinkLoop)
  | build (e : BuildFault)
  | load (e : LoadFault)
  /-- There is no index for a root. -/
  | notBuilt (root : Path)
  | retrieval (query : Option String) (e : RankingFault)
  | answer (e : ServiceFailure)

namespace ClientFault

/-- The report of a fault. -/
def message : ClientFault → String
  | .circle e => e.message
  | .build e => e.message
  | .load e => e.message
  | .notBuilt root =>
    "No index built for " ++ root.text ++ ". Run client.index() first (indexes are kept in memory only)."
  | .retrieval query e => "Retrieval failed for query '" ++ Fragment.shown query ++ "': " ++ e.message
  | .answer e => e.message

/-- Is the fault one of those that are foreseen? -/
def isForeseen : ClientFault → Bool
  | .circle _ | .build _ => false
  | .load e => e.isForeseen
  | .answer e => e.isForeseen
  | .notBuilt _ | .retrieval _ _ => true

end ClientFault

namespace Client

/-! ## 2. Construction -/

/-- The client of some settings, with an embedder and a model that the caller may bring along. -/
def create (c : Config) (embedder : Option Embedder) (model : Option Model) : Except EmbedderError Client := do
  let e ← match embedder with
    | some e => .ok e
    | none => Embedder.ofConfig c
  return { config := c, embedder := e, answerer := ⟨c, model⟩, hybrid := ⟨e, c.usesEmbeddings, c.weights⟩ }

/-- The client of settings that have been checked. -/
def createChecked (c : Config) (embedder : Option Embedder) (model : Option Model) : Except CreationFault Client :=
  match c.validate with
  | .error e => .error (.settings e)
  | .ok () =>
    match create c embedder model with
    | .ok client => .ok client
    | .error e => .error (.embedder e)

/-! ## 3. The indexes -/

/-- The path that a path stands for. -/
def rootOf (t : FileTree) (p : Path) : Except ClientFault Path :=
  match t.resolve p with
  | .ok root => .ok root
  | .error e => .error (.circle e)

/-- The index of a path. -/
def indexOf (t : FileTree) (p : Path) (c : Client) : Except ClientFault Index :=
  match rootOf t p with
  | .error e => .error e
  | .ok root =>
    match Table.get? root c.indexes with
    | some ix => .ok ix
    | none => .error (.notBuilt root)

/-- The client with an index for a root, in place of the one that it had. -/
def register (root : Path) (ix : Index) (report : IndexReport) (c : Client) : Client :=
  { c with indexes := Table.put root ix c.indexes, reports := Table.put root report c.reports }

/-- The roots that have an index, in the order in which they first had one. -/
def roots (c : Client) : List Path := Table.keys c.indexes

/-- Indexes the source files of a directory. -/
def index (o : Outside) (t : FileTree) (directory : Path) (c : Client) :
    Session (Except ClientFault IndexReport × Client) :=
  match rootOf t directory with
  | .error e => pure (.error e, c)
  | .ok root => do
    let (result, _) ← Pipeline.run o t { root := root, config := c.config, embedder := c.embedder }
    match result with
    | .error e => return (.error (.build e), c)
    | .ok (ix, report) => return (.ok report, c.register root ix report)

/-- The root under which the fragment set of a resolved file is kept: the one that is given, or else the
directory of the file. -/
def rootForFile (t : FileTree) (file : Path) : Option Path → Except ClientFault Path
  | some p => rootOf t p
  | none => .ok file.parent

/-- Indexes the fragment set of a resolved file under a root. -/
def indexFile (o : Outside) (t : FileTree) (file root : Path) (c : Client) :
    Session (Except ClientFault IndexReport × Client) :=
  match t.load file with
  | .error e => pure (.error (.load e), c)
  | .ok fs => do
    match ← (Index.ofFragments c.config.resolvesNames fs).withVectors o c.config c.embedder with
    | .error e => return (.error (.build e), c)
    | .ok run =>
      let report := IndexReport.ofRun {} c.config.usesEmbeddings root.text run
      return (.ok report, c.register root run.index report)

/-- Indexes the fragment set of a file. -/
def load (o : Outside) (t : FileTree) (file : Path) (root : Option Path) (c : Client) :
    Session (Except ClientFault IndexReport × Client) :=
  match rootOf t file with
  | .error e => pure (.error e, c)
  | .ok file =>
    match rootForFile t file root with
    | .error e => pure (.error e, c)
    | .ok root => indexFile o t file root c

end Client

end FragmentSearch
