import FragmentSearch.Client.Query
import FragmentSearch.Report.Fragments
import FragmentSearch.Report.Results

/-!
# The shell

A session reads one line after the other. It keeps the fragments that the last search found, in the order
in which they were listed, and `show` speaks of them by their numbers.
-/

namespace FragmentSearch

open FragmentSearch.Text

/-! ## 1. Structure -/

/-- What surrounds a session: the files, the outside, the width of the terminal, and the time of a search
as it is shown. -/
structure Setting where
  files : FileTree
  outside : Outside
  columns : Int := 80
  elapsed : String

/-- A session. -/
structure Shell where
  client : Client
  source : Path
  /-- What the last search found. -/
  last : List Fragment := []

/-- What a line leads to: what is printed, and whether the session goes on or breaks off. -/
structure Turn where
  output : String
  goesOn : Except ClientFault Bool

namespace Shell

/-! ## 2. Texts -/

/-- The names of the commands. -/
def commandNames : String := "search, ask, show, list, quit"

/-- What is printed when a session begins. -/
def banner (s : Shell) : String :=
  "Available commands:\n" ++
  "  search <query>   - Find relevant code (strategy: " ++ s.client.hybrid.name ++ ")\n" ++
  "  ask <question>   - Ask the LLM about the code\n" ++
  "  show <n>         - Show details of result n from the last search\n" ++
  "  list             - List the first 50 code elements\n" ++
  "  quit             - Exit\n"

/-- A line of a command: the command in lower case, and the rest without blanks at its ends. -/
def splitLine (line : String) : String × String :=
  let cs := (trim line).toList
  (lower (String.ofList (cs.takeWhile (· ≠ ' '))), trim (String.ofList ((cs.dropWhile (· ≠ ' ')).drop 1)))

/-- A turn that prints one line and goes on. -/
def printed (s : String) : Turn := ⟨s ++ "\n", .ok true⟩

/-- An answer in its frame. -/
def framed (answer : String) : String :=
  let side := Report.line 30 '='
  "\n" ++ side ++ " LLM answer " ++ side ++ "\n" ++ answer ++ "\n" ++ Report.line 72 '=' ++ "\n"

/-! ## 3. Commands -/

/-- Searches, and keeps what is found. -/
def search (a : Setting) (query : String) (s : Shell) : Session (Turn × Shell) := do
  match ← s.client.search a.outside a.files (some query) s.source none, s.client.indexOf a.files s.source with
  | .ok results, .ok ix =>
    return (printed (Report.console a.columns results s.client.hybrid.name (some a.elapsed)),
      { s with last := ix.getAll (results.map (·.id)) })
  | .error e, _ | .ok _, .error e => return (⟨"", .error e⟩, s)

/-- Asks the language model. -/
def ask (a : Setting) (question : String) (s : Shell) : Session Turn := do
  let thinking := "\nThinking... (query: " ++ question ++ ")\n"
  match ← s.client.ask a.outside a.files (some question) s.source none with
  | .ok (answer, _) => return ⟨thinking ++ framed answer, .ok true⟩
  | .error (.answer (.refused m)) => return ⟨thinking ++ "Error: " ++ m ++ "\n", .ok true⟩
  | .error e => return ⟨thinking, .error e⟩

/-- The details of a fragment that the last search found. -/
def details (number : Int) (s : Shell) : String :=
  if s.last.isEmpty then "No search results. Run 'search <query>' first."
  else
    let refusal := "Invalid result number. Choose 0-" ++ toString (s.last.length - 1) ++ "."
    if number < 0 then refusal
    else match s.last[number.toNat]? with
      | some f => Report.detail f
      | none => refusal

/-- Shows the fragment that a text numbers. -/
def showNumbered (number : String) (s : Shell) : Turn :=
  printed (match readInteger number with
    | .ok n => s.details n
    | .error _ => "Invalid number. Use 'show <n>'.")

/-- Lists the first fragments. -/
def list (a : Setting) (s : Shell) : Turn :=
  match s.client.indexOf a.files s.source with
  | .ok ix => printed (Report.listing Report.listLimit ix.fragments)
  | .error e => ⟨"", .error e⟩

/-- Handles a line. -/
def handle (a : Setting) (line : String) (s : Shell) : Session (Turn × Shell) := do
  if (trim line).isEmpty then return (⟨"", .ok true⟩, s)
  let (command, argument) := splitLine line
  match command with
  | "quit" | "exit" => return (⟨"", .ok false⟩, s)
  | "search" => if argument.isEmpty then return (printed "Enter a search term.", s) else s.search a argument
  | "ask" =>
    if argument.isEmpty then return (printed "Enter a question for the LLM.", s)
    else return (← s.ask a argument, s)
  | "show" => return (s.showNumbered argument, s)
  | "list" => return (s.list a, s)
  | _ => return (printed ("Unknown command. Available commands: " ++ commandNames), s)

/-! ## 4. Whole sessions -/

/-- What is printed before a line is read. -/
def prompt : String := "> "

/-- What is printed when a session ends. -/
def farewell : String := "\nGoodbye!\n"

/-- The lines of an input; the last one need not be ended. -/
def inputLines (input : String) : List String :=
  let lines := splitAt '\n' (FileTree.lineFeeds input.toList)
  let lines := if lines.getLast? = some [] then lines.dropLast else lines
  lines.map String.ofList

/-- Handles lines until the session ends or breaks off. What is printed holds the lines as they were typed. -/
def talk (a : Setting) : List String → Shell → Session (String × Option ClientFault)
  | [], _ => return (prompt ++ farewell, none)
  | line :: rest, s => do
    let (turn, s') ← s.handle a line
    let here := prompt ++ line ++ "\n" ++ turn.output
    match turn.goesOn with
    | .error e => return (here, some e)
    | .ok false => return (here ++ farewell, none)
    | .ok true =>
      let (there, e) ← talk a rest s'
      return (here ++ there, e)

end Shell

end FragmentSearch
