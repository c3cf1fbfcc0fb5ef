import FragmentSearch.Client.Basic

/-!
# Queries to a client

Searching, asking, and what is known of an index. A query finds the index of a path and leaves the client
as it is.
-/

namespace FragmentSearch

/-- What is known of an index. -/
structure Statistics where
  report : IndexReport
  packages : Nat
  /-- How many dependencies are recorded. -/
  edges : Nat
  /-- The name of the ranking. -/
  strategy : String

/-- The fields of the statistics. -/
def Statistics.fields (s : Statistics) : List (String × Json) :=
  s.report.fields ++
    [("packages", .ofNat s.packages), ("dependency_edges", .ofNat s.edges), ("strategy", .text s.strategy)]

/-- What is known without any index: the version, the vendor of answers, and whether vectors are wanted. -/
def Config.healthFields (c : Config) : List (String × Json) :=
  [("version", .text version), ("llm_provider", .text c.llmProvider), ("embeddings_enabled", .bool c.usesEmbeddings)]

namespace Client

/-! ## 1. Searching -/

/-- The best fragments for a query; without a limit that of the settings counts. -/
def rank (o : Outside) (t : FileTree) (query : Option String) (path : Path) (limit : Option Int) (c : Client) :
    Session (Except ClientFault (ScoreTable Float)) :=
  match c.indexOf t path with
  | .error e => pure (.error e)
  | .ok ix =>
    match limit.or c.config.maxResults, query with
    | none, _ => pure (.error (.retrieval query .noLimit))
    | some _, none => pure (.error (.retrieval none .noQuery))
    | some n, some q => do
      match ← c.hybrid.rank (.of o.library) o ix q n with
      | .ok table => return .ok table
      | .error e => return .error (.retrieval query e)

/-- The results of a search. -/
def search (o : Outside) (t : FileTree) (query : Option String) (path : Path) (limit : Option Int) (c : Client) :
    Session (Except ClientFault (List SearchResult)) := do
  return (← c.rank o t query path limit).map (SearchResult.ofRanking c.hybrid.name)

/-- The fragments that a search finds. -/
def retrieve (o : Outside) (t : FileTree) (query : Option String) (path : Path) (limit : Option Int) (c : Client) :
    Session (Except ClientFault (List Fragment)) := do
  return (← c.rank o t query path limit).map Hybrid.fragmentsOf

/-! ## 2. Asking -/

/-- The answer to a question, and the fragments that were sent with it. -/
def ask (o : Outside) (t : FileTree) (question : Option String) (path : Path) (limit : Option Int) (c : Client) :
    Session (Except ClientFault (String × List Fragment)) := do
  match ← c.retrieve o t question path (limit.or c.config.contextResults) with
  | .error e => return .error e
  | .ok context =>
    match ← c.answerer.answer o (question.getD "") context with
    | .ok s => return .ok (s, context)
    | .error e => return .error (.answer e)

/-! ## 3. What is known -/

/-- What is known of the index of a path. -/
def statistics (t : FileTree) (path : Path) (c : Client) : Except ClientFault Statistics :=
  match rootOf t path with
  | .error e => .error e
  | .ok root =>
    match Table.get? root c.indexes, Table.get? root c.reports with
    | some ix, some report =>
      .ok { report := report, packages := ix.packages.length, edges := ix.edgeCount, strategy := c.hybrid.name }
    | _, _ => .error (.notBuilt root)

/-- What is known without asking anyone. -/
def healthFields (c : Client) : List (String × Json) :=
  c.config.healthFields ++ [("embedding_provider", .text c.embedder.name), ("strategy", .text c.hybrid.name),
    ("indexed_paths", .ofTexts (c.roots.map (·.text)))]

/-! ## 4. Requests -/

/-- A request to a client. -/
inductive Request where
  | index (directory : Path)
  | load (file : Path) (root : Option Path)
  | search (query : Option String) (path : Path) (limit : Option Int)
  | retrieve (query : Option String) (path : Path) (limit : Option Int)
  | ask (question : Option String) (path : Path) (limit : Option Int)
  | statistics (path : Path)
  | size (path : Path)

/-- The reply to a request. -/
inductive Reply where
  | report (r : IndexReport)
  | results (rs : List SearchResult)
  | fragments (fs : List Fragment)
  | answer (text : String) (context : List Fragment)
  | statistics (s : Statistics)
  | size (n : Nat)

/-- Handles a request. -/
def handle (o : Outside) (t : FileTree) (r : Request) (c : Client) : Session (Except ClientFault Reply × Client) := do
  match r with
  | .index directory =>
    let (result, c') ← c.index o t directory
    return (result.map .report, c')
  | .load file root =>
    let (result, c') ← c.load o t file root
    return (result.map .report, c')
  | .search query path limit => return ((← c.search o t query path limit).map .results, c)
  | .retrieve query path limit => return ((← c.retrieve o t query path limit).map .fragments, c)
  | .ask question path limit => return ((← c.ask o t question path limit).map fun a => .answer a.1 a.2, c)
  | .statistics path => return ((c.statistics t path).map .statistics, c)
  | .size path => return ((c.indexOf t path).map fun ix => .size ix.size, c)

end Client

end FragmentSearch
