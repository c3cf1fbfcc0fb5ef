import FragmentSearch.Client.Query
import FragmentSearch.Config.Environment
import FragmentSearch.Json.Convert
import FragmentSearch.Json.Writer
import FragmentSearch.Report.Results

/-!
# Tools for agents

An agent calls tools by name with JSON arguments and is answered in JSON text. A directory is indexed when
a tool first needs it and its index is kept; only `index_directory` replaces an index. `search_code`
reports every fault in its answer.
-/

namespace FragmentSearch.Agent

open FragmentSearch.Text

/-! ## 1. Calls -/

/-- A call of a tool. -/
inductive ToolCall where
  | indexDirectory (path : String)
  | searchCode (query : Json) (path : String) (limit : Option Int)
  | askCodebase (question : Option String) (path : String) (limit : Option Int)
  | indexStats (path : String)
  | health

/-- The names of the tools, in order. -/
def toolNames : List String := ["ask_codebase", "get_index_stats", "health", "index_directory", "search_code"]

/-- The names of the prompts. -/
def promptNames : List String := ["explore_codebase"]

/-- Why a call was not answered. -/
inductive ToolFault where
  | unknownTool (name : String)
  | argumentMissing (tool argument : String)
  /-- The path, as it was given, does not lead to a directory. -/
  | noDirectory (path : String)
  | client (e : ClientFault)
  | score (e : Report.UnwritableScore)

/-- The report of a fault. -/
def ToolFault.message : ToolFault → String
  | .unknownTool name => "unknown tool " ++ Text.quoted name
  | .argumentMissing tool argument => tool ++ "() missing 1 required positional argument: " ++ Text.quoted argument
  | .noDirectory path => "'" ++ path ++ "' is not a directory."
  | .client e => e.message
  | .score e => e.message

/-- The path among some arguments; it is the current directory if none is given. -/
def pathOf (args : List (String × Json)) : String :=
  match Json.lookup "path" args with
  | some (.text s) => s
  | _ => "."

/-- A number among some arguments. -/
def limitOf (args : List (String × Json)) (name : String) : Option Int :=
  ((Json.lookup name args).bind Config.int?)

/-- The call of a tool with some arguments. -/
def ToolCall.read (tool : String) (args : List (String × Json)) : Except ToolFault ToolCall :=
  match tool with
  | "index_directory" => .ok (.indexDirectory (pathOf args))
  | "search_code" =>
    .ok (.searchCode ((Json.lookup "query" args).getD (.text "")) (pathOf args) (limitOf args "max_results"))
  | "ask_codebase" =>
    match Json.lookup "question" args with
    | some question => .ok (.askCodebase (Config.text? question) (pathOf args) (limitOf args "context_results"))
    | none => .error (.argumentMissing tool "question")
  | "get_index_stats" => .ok (.indexStats (pathOf args))
  | "health" => .ok .health
  | _ => .error (.unknownTool tool)

/-! ## 2. Indexes -/

/-- What surrounds the tools: the files, the outside, and the directory that stands in for the current one. -/
structure Setting where
  files : FileTree
  outside : Outside
  defaultPath : String := ""

/-- The setting that the environment gives. -/
def Setting.ofEnvironment (t : FileTree) (o : Outside) (env : Environment) : Setting :=
  ⟨t, o, env.textOf "CODERETRIEVER_DEFAULT_PATH" ""⟩

/-- The path that an agent means. -/
def meant (a : Setting) (path : String) : Path :=
  let stand := trim a.defaultPath
  Path.ofText (if path = "." && !stand.isEmpty then stand else path)

/-- The root that an agent means. -/
def rootOf (a : Setting) (path : String) : Except ToolFault Path :=
  match Client.rootOf a.files (meant a path) with
  | .ok root => .ok root
  | .error e => .error (.client e)

/-- Indexes a directory that an agent named `path`. -/
def indexRoot (a : Setting) (path : String) (root : Path) (c : Client) :
    Session (Except ToolFault IndexReport × Client) :=
  if a.files.isDirectory root then do
    let (result, c) ← c.index a.outside a.files root
    match result with
    | .ok report => return (.ok report, c)
    | .error e => return (.error (.client e), c)
  else pure (.error (.noDirectory path), c)

/-- Makes sure that the directory that an agent named has an index. -/
def ensureIndex (a : Setting) (path : String) (c : Client) : Session (Except ToolFault Path × Client) :=
  match rootOf a path with
  | .error e => pure (.error e, c)
  | .ok root =>
    match c.indexOf a.files root with
    | .ok _ => pure (.ok root, c)
    | .error (.notBuilt _) => do
      let (result, c) ← indexRoot a path root c
      return (result.map fun _ => root, c)
    | .error e => pure (.error (.client e), c)

/-! ## 3. Tools -/

/-- Indexes a directory, again if it has an index. -/
def indexDirectory (a : Setting) (path : String) (c : Client) : Session (Except ToolFault String × Client) :=
  match rootOf a path with
  | .error e => pure (.error e, c)
  | .ok root => do
    let (result, c) ← indexRoot a path root c
    return (result.map fun r => Json.render (.object r.fields), c)

/-- The answer to a search that failed. -/
def failureText (message : String) : String := Json.render (.object [("error", .text message), ("results", .list [])])

/-- The query that a value stands for. -/
def queryOf : Json → String
  | .null => ""
  | v => trim v.display

/-- The results of a search in an indexed root. -/
def resultsText (a : Setting) (query : String) (root : Path) (limit : Option Int) (c : Client) :
    Session (Except ToolFault String) := do
  match ← c.search a.outside a.files (some query) root limit with
  | .error e => return .error (.client e)
  | .ok results =>
    match Report.json results with
    | .ok s => return .ok s
    | .error e => return .error (.score e)

/-- Searches; the answer is a list of results, or else it says what went wrong. -/
def searchCode (a : Setting) (query : Json) (path : String) (limit : Option Int) (c : Client) :
    Session (String × Client) := do
  let q := queryOf query
  if q.isEmpty then return (failureText "Missing required argument: query", c)
  let (root, c) ← ensureIndex a path c
  match root with
  | .error e => return (failureText e.message, c)
  | .ok root =>
    match ← resultsText a q root limit c with
    | .ok s => return (s, c)
    | .error e => return (failureText e.message, c)

/-- Asks a question; the answer comes with the ids of the fragments that were sent. -/
def askCodebase (a : Setting) (question : Option String) (path : String) (limit : Option Int) (c : Client) :
    Session (Except ToolFault String × Client) := do
  let (root, c) ← ensureIndex a path c
  match root with
  | .error e => return (.error e, c)
  | .ok root =>
    match ← c.ask a.outside a.files question root limit with
    | .error e => return (.error (.client e), c)
    | .ok (answer, context) =>
      return (.ok (Json.render (.object [("answer", .text answer), ("context", .ofTexts (context.map (·.id)))])), c)

/-- Tells what is known of the index of a directory. -/
def indexStats (a : Setting) (path : String) (c : Client) : Session (Except ToolFault String × Client) := do
  let (root, c) ← ensureIndex a path c
  match root with
  | .error e => return (.error e, c)
  | .ok root =>
    match c.statistics a.files root with
    | .error e => return (.error (.client e), c)
    | .ok s => return (.ok (Json.render (.object s.fields)), c)

/-- Tells that there is an answer at all, and what is known without asking anyone. -/
def healthText (c : Client) : String := Json.render (.object (("status", .text "ok") :: c.healthFields))

/-- Answers a call. -/
def call (a : Setting) (t : ToolCall) (c : Client) : Session (Except ToolFault String × Client) := do
  match t with
  | .indexDirectory path => indexDirectory a path c
  | .searchCode query path limit =>
    let (s, c) ← searchCode a query path limit c
    return (.ok s, c)
  | .askCodebase question path limit => askCodebase a question path limit c
  | .indexStats path => indexStats a path c
  | .health => return (.ok (healthText c), c)

/-! ## 4. Prompts -/

/-- The prompt for getting to know a directory. -/
def explorePrompt (path : String) : String :=
  "Call get_index_stats with path='" ++ path ++ "' to see how many classes, methods and packages the project has. " ++
  "Then call search_code with queries such as 'main entry point', 'configuration' and " ++
  "'explain the data model' and summarise what you find."

end FragmentSearch.Agent
