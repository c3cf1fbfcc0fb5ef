import FragmentSearch.Command.Run

/-!
# The command line

The files that the arguments name are read into a file tree, the command runs on it, and what it prints
and writes is carried out. No vendor's kit is installed, so that questions and vectors are refused with a
hint. A shell reads and answers line by line.
-/

namespace FragmentSearch.CommandLine

/-! ## 1. Files -/

/-- Reads what stands at a place. Directories that no scan enters stay empty, and a link that leads
nowhere becomes one to itself. -/
partial def readNode (excluded : List String) (place : String) : IO Node := do
  let path ← IO.FS.realPath place
  match (← path.metadata).type with
  | .dir =>
    let mut entries : List (String × Node) := []
    for e in ← path.readDir do
      let node ← match (← e.path.symlinkMetadata).type with
        | .symlink => try pure (Node.link (← IO.FS.realPath e.path).toString) catch _ => pure (Node.link e.fileName)
        | .dir => if excluded.contains e.fileName then pure (.directory []) else readNode excluded e.path.toString
        | _ => readNode excluded e.path.toString
      entries := (e.fileName, node) :: entries
    return .directory entries
  | _ => return .file (← IO.FS.readBinFile path)

/-- The place of a path, seen from a directory. -/
def placeOf (here : List String) (p : Path) : List String :=
  ((if p.isAbsolute then p.parts else here ++ p.parts).foldl FileTree.step []).reverse

/-- Puts what a word leads to, if anything, and its directory into a tree. -/
def addWord (t : FileTree) (word : String) : IO FileTree := do
  let place := placeOf t.here (Path.ofText word)
  let exists? (place : List String) : IO Bool := do
    return (← (IO.FS.realPath (Path.absolute place).text).toBaseIO).toBool
  if ← exists? place then
    let node ← readNode ({} : Config).excludedDirs (Path.absolute place).text
    return { t with root := Node.put node place t.root }
  else if (← exists? place.dropLast) && (t.root.get? place.dropLast).isNone then
    return { t with root := Node.put (.directory []) place.dropLast t.root }
  else return t

/-- The files that some words lead to. -/
def readTree (words : List String) : IO FileTree := do
  let here := (Path.ofText (← IO.currentDir).toString).parts
  words.foldlM addWord ⟨Node.put (.directory []) here (.directory []), here⟩

/-! ## 2. Surroundings -/

/-- The names of the variables that are looked at. -/
def variableNames : List String :=
  ["CODERETRIEVER_LLM_PROVIDER", "GEMINI_API_KEY", "GOOGLE_API_KEY", "GEMINI_MODEL", "OPENAI_API_KEY", "OPENAI_MODEL",
    "ANTHROPIC_API_KEY", "ANTHROPIC_MODEL", "CODERETRIEVER_MAX_TOKENS", "CODERETRIEVER_EMBEDDING_PROVIDER",
    "CODERETRIEVER_EMBEDDING_BATCH_SIZE", "CODERETRIEVER_USE_EMBEDDINGS", "CODERETRIEVER_RESOLVE_DEPENDENCIES",
    "CODERETRIEVER_MAX_RESULTS", "CODERETRIEVER_LOG_LEVEL", "COLUMNS"]

/-- The environment. -/
def readEnvironment : IO Environment := do
  variableNames.filterMapM fun name => do return (← IO.getEnv name).map (name, ·)

/-- The outside with no kit installed. -/
def nothingInstalled : Outside :=
  .scripted none fun _ => .failure (.failed "no kit is installed")

/-- The width of the terminal. -/
def columnsOf (env : Environment) : Int :=
  match env.integer "COLUMNS" "80" with
  | .ok n => n
  | .error _ => 80

/-! ## 3. Running -/

/-- Answers lines until the session ends; the result is the code with which the program ends. -/
partial def converse (a : Setting) (s : Shell) (j : Journal) : IO UInt32 := do
  let output ← IO.getStdout
  output.putStr Shell.prompt
  output.flush
  let line ← (← IO.getStdin).getLine
  if line.isEmpty then
    output.putStr Shell.farewell
    return 0
  let ((turn, s), j) := (s.handle a line).run j
  output.putStr turn.output
  match turn.goesOn with
  | .ok true => converse a s j
  | .ok false =>
    output.putStr Shell.farewell
    return 0
  | .error e =>
    IO.eprintln e.message
    return 1

/-- Prints and writes what a command leaves behind. -/
def carryOut (command : Command) (e : Command.Ending) : IO UInt32 := do
  IO.print e.output
  IO.eprint e.complaints
  match e.fault, command with
  | some f, _ => IO.eprintln f.message
  | none, .dump _ output _ =>
    if let (0, .ok content) := (e.code, e.files.bytes output) then IO.FS.writeBinFile output.text content
  | none, _ => pure ()
  return e.code.toUInt32

/-- Opens a shell over a source. -/
def startShell (a : Setting) (env : Environment) (provider : Option String) (source : Path) (embeddings : Option Bool) :
    IO UInt32 := do
  match Command.buildClient env provider embeddings with
  | .error e => carryOut .serve (e.ending a)
  | .ok c =>
    let (opened, j) := (Command.openShell a source c).run {}
    match opened with
    | .error e => carryOut .serve (e.ending a)
    | .ok (opening, s) =>
      IO.print opening
      converse a s j

end FragmentSearch.CommandLine

open FragmentSearch FragmentSearch.CommandLine

/-- Runs a command line. The time shown for a search is the time it took to read the files. -/
def main (args : List String) : IO UInt32 := do
  let start ← IO.monoNanosNow
  let files ← readTree (args.filter fun w => !Command.isOption w.toList)
  let env ← readEnvironment
  let elapsed := Report.seconds ((Float.ofNat ((← IO.monoNanosNow) - start)) / 1000000000)
  let a : Setting := { files := files, outside := nothingInstalled, columns := columnsOf env, elapsed := elapsed }
  match Command.Invocation.read files env args with
  | .error e =>
    IO.eprintln ("Error: " ++ e.message)
    return 2
  | .ok ⟨provider, .shell source embeddings⟩ => startShell a env provider source embeddings
  | .ok i =>
    let (ending, _) := (i.run a env "").run {}
    carryOut i.command ending
