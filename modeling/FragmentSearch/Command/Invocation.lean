import FragmentSearch.Command.Option
import FragmentSearch.Config.Environment
import FragmentSearch.Files.Tree

/-!
# Commands

The commands and their arguments. A source is a path that leads somewhere; whether it holds fragments is
not asked here.
-/

namespace FragmentSearch

/-! ## 1. Structure -/

namespace Command

/-- How results are shown. -/
inductive Format where
  | console
  | json
  | compact
  deriving DecidableEq, Repr

end Command

/-- A command; `embeddings` says whether vectors are wanted, if anything is said about it. -/
inductive Command where
  | stats (source : Path) (embeddings : Option Bool)
  | search (source : Path) (query : String) (limit : Option Int) (format : Command.Format) (embeddings : Option Bool)
  | ask (source : Path) (question : String) (limit : Option Int) (embeddings : Option Bool)
  | dump (directory output : Path) (withVectors : Bool)
  | shell (source : Path) (embeddings : Option Bool)
  | serve
  deriving DecidableEq

namespace Command

/-- A command with the vendor that is to answer questions, if one is named. -/
structure Invocation where
  provider : Option String
  command : Command
  deriving DecidableEq

/-! ## 2. Paths -/

/-- Does the text of a path end so that only a directory can be meant? -/
def wantsDirectory (s : String) : Bool :=
  let last := (s.toList.reverse.takeWhile (· ≠ '/')).reverse
  last.isEmpty || last = ['.']

/-- What the text of a path leads to, if anything. -/
def target? (t : FileTree) (s : String) : Option Node :=
  if s.isEmpty then none
  else match t.node (Path.ofText s) with
    | .ok (.directory es) => some (.directory es)
    | .ok v => if wantsDirectory s then none else some v
    | .error _ => none

/-- A path that leads somewhere. -/
def readSource (t : FileTree) (s : String) : Except UsageFault Path :=
  match target? t s with
  | some _ => .ok (Path.ofText s)
  | none => .error (.unfitPath s)

/-- A path that leads to a directory. -/
def readDirectory (t : FileTree) (s : String) : Except UsageFault Path :=
  match target? t s with
  | some (.directory _) => .ok (Path.ofText s)
  | _ => .error (.unfitPath s)

/-- A path that does not lead to a directory. -/
def readOutput (t : FileTree) (s : String) : Except UsageFault Path :=
  match target? t s with
  | some (.directory _) => .error (.unfitPath s)
  | _ => .ok (Path.ofText s)

/-! ## 3. Values -/

/-- A whole number. -/
def readLimit : Option String → Except UsageFault (Option Int)
  | none => .ok none
  | some s =>
    match readInteger s with
    | .ok i => .ok (some i)
    | .error _ => .error (.unfitValue s)

/-- A way of showing results. -/
def readFormat : Option String → Except UsageFault Format
  | none | some "console" => .ok .console
  | some "json" => .ok .json
  | some "compact" => .ok .compact
  | some s => .error (.unfitValue s)

/-- The names that the option for a vendor takes. -/
def providerNames : List String := ["gemini", "openai", "anthropic"]

theorem providerNames_eq : providerNames = Vendor.completing.map Vendor.name := rfl

/-- The vendor of answers: the one that an option names, or else a variable of the environment. -/
def readProvider (env : Environment) (w : Words) : Except UsageFault (Option String) :=
  let inherited := (env.valueOf? "CODERETRIEVER_LLM_PROVIDER").filter (!·.isEmpty)
  match (w.value? ["--provider"]).or inherited with
  | none => .ok none
  | some s => if providerNames.contains s then .ok (some s) else .error (.unfitValue s)

/-! ## 4. Arguments -/

/-- One argument. -/
def one (name : String) : List String → Except UsageFault String
  | [] => .error (.argumentMissing name)
  | [a] => .ok a
  | _ :: b :: _ => .error (.argumentUnwanted b)

/-- Two arguments. -/
def two (first second : String) : List String → Except UsageFault (String × String)
  | [] => .error (.argumentMissing first)
  | [_] => .error (.argumentMissing second)
  | [a, b] => .ok (a, b)
  | _ :: _ :: c :: _ => .error (.argumentUnwanted c)

/-- Options without a value. -/
def flags (names : List String) : List OptionRule := names.map (⟨·, false⟩)

/-- Options with a value. -/
def settings (names : List String) : List OptionRule := names.map (⟨·, true⟩)

/-- The options about vectors and about what is logged. -/
def commonRules : List OptionRule := flags ["--embeddings", "--no-embeddings", "-v", "--verbose"]

/-- Are vectors wanted? -/
def embeddingsOf (w : Words) : Option Bool := w.choice? "--embeddings" "--no-embeddings"

/-- Reads the arguments of `stats`. -/
def readStats (t : FileTree) (args : List String) : Except UsageFault Command := do
  let w ← readWords commonRules true args
  return .stats (← readSource t (← one "SOURCE" w.rest)) (embeddingsOf w)

/-- Reads the arguments of `shell`. -/
def readShell (t : FileTree) (args : List String) : Except UsageFault Command := do
  let w ← readWords commonRules true args
  return .shell (← readSource t (← one "SOURCE" w.rest)) (embeddingsOf w)

/-- Reads the arguments of `search`. -/
def readSearch (t : FileTree) (args : List String) : Except UsageFault Command := do
  let w ← readWords (commonRules ++ settings ["-n", "--max-results", "-f", "--format"]) true args
  let (source, query) ← two "SOURCE" "QUERY" w.rest
  return .search (← readSource t source) query (← readLimit (w.value? ["-n", "--max-results"]))
    (← readFormat (w.value? ["-f", "--format"])) (embeddingsOf w)

/-- Reads the arguments of `ask`. -/
def readAsk (t : FileTree) (args : List String) : Except UsageFault Command := do
  let w ← readWords (commonRules ++ settings ["-n", "--context-results"]) true args
  let (source, question) ← two "SOURCE" "QUESTION" w.rest
  return .ask (← readSource t source) question (← readLimit (w.value? ["-n", "--context-results"])) (embeddingsOf w)

/-- Reads the arguments of `dump`. -/
def readDump (t : FileTree) (args : List String) : Except UsageFault Command := do
  let w ← readWords (flags ["--with-embeddings", "-v", "--verbose"]) true args
  let (directory, output) ← two "DIRECTORY" "OUTPUT" w.rest
  return .dump (← readDirectory t directory) (← readOutput t output) (w.has ["--with-embeddings"])

/-- The ways in which a server may be reached. -/
def transports : List String := ["stdio", "sse"]

/-- Reads the arguments of `mcp`. -/
def readServe (args : List String) : Except UsageFault Command := do
  let w ← readWords (flags ["-v", "--verbose"] ++ settings ["--transport"]) true args
  match w.rest, w.value? ["--transport"] with
  | word :: _, _ => throw (.argumentUnwanted word)
  | [], none => return .serve
  | [], some s => if transports.contains s then return .serve else throw (.unfitValue s)

/-- Reads a command with its arguments. -/
def readCommand (t : FileTree) (name : String) (args : List String) : Except UsageFault Command :=
  match name with
  | "stats" => readStats t args
  | "search" => readSearch t args
  | "ask" => readAsk t args
  | "dump" => readDump t args
  | "shell" => readShell t args
  | "mcp" => readServe args
  | _ => .error (.unknownCommand name)

/-- Reads a command line. -/
def Invocation.read (t : FileTree) (env : Environment) (args : List String) : Except UsageFault Invocation := do
  let w ← readWords (settings ["--provider"]) false args
  let provider ← readProvider env w
  match w.rest with
  | [] => throw .noCommand
  | name :: rest => return ⟨provider, ← readCommand t name rest⟩

end Command

end FragmentSearch
