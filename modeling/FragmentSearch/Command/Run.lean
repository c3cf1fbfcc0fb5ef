import FragmentSearch.Command.Invocation
import FragmentSearch.Command.Shell

/-!
# Running commands

A command makes a client from the environment, indexes its source and prints what it is asked for. A
fault that is foreseen is reported and ends the command with code 1; any other one breaks it off.
-/

namespace FragmentSearch.Command

/-! ## 1. Endings -/

/-- What breaks a command off. -/
inductive RunFault where
  /-- A variable of the environment holds no number. -/
  | settings (e : ConversionError)
  | embedder (e : EmbedderError)
  | client (e : ClientFault)
  | score (e : Report.UnwritableScore)
  | output (e : DumpFault)

/-- The report of a fault. -/
def RunFault.message : RunFault → String
  | .settings e => e.message
  | .embedder e => e.message
  | .client e => e.message
  | .score e => e.message
  | .output e => e.message

/-- Why a command stops: with a report, or with a fault that breaks it off. -/
inductive Stop where
  | reported (message : String)
  | broken (e : RunFault)

/-- How a command ends. -/
structure Ending where
  code : Nat := 0
  output : String := ""
  complaints : String := ""
  /-- The files afterwards. -/
  files : FileTree
  /-- What broke the command off, if anything did. -/
  fault : Option RunFault := none

/-- The ending of a command that prints something. -/
def Ending.printing (a : Setting) (output : String) : Ending := { output := output, files := a.files }

/-- The ending of a command that stops. -/
def Stop.ending (a : Setting) : Stop → Ending
  | .reported message => { code := 1, complaints := "Error: " ++ message ++ "\n", files := a.files }
  | .broken e => { code := 1, files := a.files, fault := some e }

/-- How a command stops for a fault of the client. -/
def stopFor (e : ClientFault) : Stop := if e.isForeseen then .reported e.message else .broken (.client e)

/-! ## 2. Clients and indexes -/

/-- The settings of a command. -/
def settingsFor (env : Environment) (provider : Option String) (embeddings : Option Bool) :
    Except ConversionError Config := do
  let c ← Config.ofEnvironment env
  return { c with
    llmProvider := provider.getD c.llmProvider
    usesEmbeddings := embeddings.getD c.usesEmbeddings }

/-- The client of a command. -/
def buildClient (env : Environment) (provider : Option String) (embeddings : Option Bool) : Except Stop Client :=
  match settingsFor env provider embeddings with
  | .error e => .error (.broken (.settings e))
  | .ok c =>
    match if c.usesEmbeddings then c.validateEmbeddings else .ok () with
    | .error e => .error (.reported e.message)
    | .ok () =>
      match Client.create c none none with
      | .error e => .error (.broken (.embedder e))
      | .ok client => .ok client

/-- Indexes a source: a directory, or a file that holds a fragment set. -/
def buildIndex (a : Setting) (source : Path) (c : Client) : Session (Except Stop (IndexReport × Client)) := do
  if a.files.isFile source && Text.lower source.suffix ≠ ".json" then
    return .error (.reported (source.text ++ " is neither a directory nor a .json dump"))
  let (result, c) ← if a.files.isFile source then c.load a.outside a.files source (some source)
    else c.index a.outside a.files source
  match result with
  | .ok report => return .ok (report, c)
  | .error e => return .error (stopFor e)

/-! ## 3. Commands -/

/-- A number in a column of eight, its digits in groups of three. -/
def counted (n : Nat) : String :=
  let s := Decimal.grouped n
  String.ofList (List.replicate (8 - s.length) ' ') ++ s

/-- A line of the statistics; the name stands in a column of fifteen. -/
def countLine (name : String) (n : Nat) : String :=
  "  " ++ name ++ String.ofList (List.replicate (15 - name.length) ' ') ++ " " ++ counted n

/-- The statistics as they are printed. -/
def statisticsText (s : Statistics) : String :=
  let rule := Report.rule 50
  let n := s.report.tally
  let files := if n.scanned = 0 then []
    else [countLine "Files scanned" n.scanned, countLine "Files parsed" n.parsed] ++
      (if n.failed = 0 then [] else [countLine "Parse errors" n.failed])
  let kinds := s.report.ofKind.map fun e => countLine e.1.plural e.2
  let vectors := if s.report.usesEmbeddings then [countLine "Embedded" s.report.embedded] else []
  "\n".intercalate ([rule, "  CODE RETRIEVER — Index Statistics", rule, "  Source          : " ++ s.report.root,
    "  Strategy        : " ++ s.strategy, ""] ++ files ++ kinds ++
    [countLine "Total" s.report.total, countLine "Packages" s.packages] ++ vectors ++ [rule, ""])

/-- Prints statistics. -/
def runStats (a : Setting) (source : Path) (c : Client) : Session (Except Stop Ending) := do
  match ← buildIndex a source c with
  | .error e => return .error e
  | .ok (_, c) =>
    match c.statistics a.files source with
    | .ok s => return .ok (.printing a (statisticsText s))
    | .error e => return .error (.broken (.client e))

/-- The results of a search as they are printed. -/
def resultsText (a : Setting) (format : Format) (strategy : String) (results : List SearchResult) :
    Except Report.UnwritableScore String :=
  match format with
  | .json => Report.json results
  | .compact => .ok (Report.compact results)
  | .console => .ok (Report.console a.columns results strategy (some a.elapsed))

/-- Prints the results of a search. -/
def runSearch (a : Setting) (source : Path) (query : String) (limit : Option Int) (format : Format) (c : Client) :
    Session (Except Stop Ending) := do
  match ← buildIndex a source c with
  | .error e => return .error e
  | .ok (_, c) =>
    match ← c.search a.outside a.files (some query) source limit with
    | .error (.retrieval q e) => return .error (.reported (ClientFault.retrieval q e).message)
    | .error e => return .error (.broken (.client e))
    | .ok results =>
      match resultsText a format c.hybrid.name results with
      | .ok s => return .ok (.printing a (s ++ "\n"))
      | .error e => return .error (.broken (.score e))

/-- Prints an answer; the settings must name a key. -/
def runAsk (a : Setting) (source : Path) (question : String) (limit : Option Int) (c : Client) :
    Session (Except Stop Ending) := do
  match c.config.validate with
  | .error e => return .error (.reported e.message)
  | .ok () =>
    match ← buildIndex a source c with
    | .error e => return .error e
    | .ok (_, c) =>
      match ← c.ask a.outside a.files (some question) source limit with
      | .ok (answer, _) => return .ok (.printing a (answer ++ "\n"))
      | .error (.answer (.refused m)) => return .error (.reported m)
      | .error e => return .error (.broken (.client e))

/-- Writes the fragments of a directory to a file. -/
def runDump (a : Setting) (directory output : Path) (withVectors : Bool) (c : Client) :
    Session (Except Stop Ending) := do
  match ← buildIndex a directory c with
  | .error e => return .error e
  | .ok (_, c) =>
    match c.indexOf a.files directory with
    | .error e => return .error (.broken (.client e))
    | .ok ix =>
      match a.files.dump withVectors ix.fragments output with
      | .error e => return .error (.broken (.output e))
      | .ok files =>
        let written := "Wrote " ++ Decimal.grouped ix.size ++ " fragments to " ++ output.text ++ "\n"
        return .ok { output := written, files := files }

/-- The session over an indexed source, and what is printed before it begins. -/
def openShell (a : Setting) (source : Path) (c : Client) : Session (Except Stop (String × Shell)) := do
  match ← buildIndex a source c with
  | .error e => return .error e
  | .ok (report, c) =>
    let s : Shell := { client := c, source := source }
    return .ok ("Index built (" ++ Decimal.grouped report.total ++ " elements).\n" ++ s.banner ++ "\n", s)

/-- Runs a session over the lines of an input. -/
def runShell (a : Setting) (source : Path) (input : String) (c : Client) : Session (Except Stop Ending) := do
  match ← openShell a source c with
  | .error e => return .error e
  | .ok (opening, s) =>
    let (talk, fault) ← Shell.talk a (Shell.inputLines input) s
    return .ok { (Ending.printing a (opening ++ talk)) with
      code := if fault.isSome then 1 else 0, fault := fault.map .client }

/-- The refusal to serve agents when nothing is installed for it. -/
def serverMissing : String :=
  "MCP dependencies not installed.\nInstall with:  pip install 'smart-code-retriever[mcp]'"

/-- What a command has to say about vectors. -/
def embeddings : Command → Option Bool
  | .stats _ e | .search _ _ _ _ e | .ask _ _ _ e | .shell _ e => e
  | .dump _ _ withVectors => if withVectors then some true else none
  | .serve => none

/-- Runs a command with its client. -/
def run (a : Setting) (input : String) (c : Client) : Command → Session (Except Stop Ending)
  | .stats source _ => runStats a source c
  | .search source query limit format _ => runSearch a source query limit format c
  | .ask source question limit _ => runAsk a source question limit c
  | .dump directory output withVectors => runDump a directory output withVectors c
  | .shell source _ => runShell a source input c
  | .serve => pure (.error (.reported serverMissing))

/-- Runs an invocation. -/
def Invocation.run (a : Setting) (env : Environment) (input : String) (i : Invocation) : Session Ending := do
  match i.command with
  | .serve => return (Stop.reported serverMissing).ending a
  | command =>
    match buildClient env i.provider command.embeddings with
    | .error e => return e.ending a
    | .ok c =>
      match ← command.run a input c with
      | .ok ending => return ending
      | .error e => return e.ending a

end FragmentSearch.Command
