import FragmentSearch.Fragment.Basic
import FragmentSearch.Provider.Completion

/-!
# Answers

A question is sent to the language model together with fragments as context. A failed request is made
again, with pauses that grow like a power, until the attempts are used up.
-/

namespace FragmentSearch

/-! ## 1. Prompts -/

/-- The instructions of every request. -/
def systemText : String :=
  "You are an expert Python programming assistant.\n" ++
  "Your task is to answer questions about a user's codebase.\n" ++
  "Use the provided code context to give a precise and helpful answer."

/-- The line that ends each fragment of the context. -/
def contextSeparator : String := "--------------------\n"

/-- The context when there are no fragments. -/
def emptyContext : String := "No relevant code context was found.\n"

/-- The fragments of a context as text. -/
def contextBlocks (context : List Fragment) : String :=
  if context.isEmpty then emptyContext
  else String.join (context.map fun f => f.contextText ++ contextSeparator)

/-- The message of a request: the context and then the question. -/
def promptText (query : String) (context : List Fragment) : String :=
  "=== Relevant Code Context ===\n\n" ++ contextBlocks context ++ "\n=== User Query ===\n" ++ query

/-! ## 2. Asking -/

/-- What answers questions: the settings, and a model if the caller brought one along. -/
structure Answerer where
  config : Config
  model : Option Model

namespace Answerer

/-- Is there a model, or a key for a vendor? -/
def isAvailable (a : Answerer) : Bool :=
  match a.model, a.config.apiKey with
  | some _, _ => true
  | none, .ok key => Fragment.isGiven key
  | none, .error _ => false

/-- The name under which answers are reported; a vendor has its title once its client was made. -/
def name (a : Answerer) (clientMade : Bool) : String :=
  match a.model with
  | some m => m.name
  | none =>
    match clientMade, Completer.find a.config none with
    | true, .ok (p, _) => p.vendor.completionTitle
    | _, _ => a.config.llmProvider

/-- Makes one request, and the client first if it is not there yet. -/
def request (o : Outside) (a : Answerer) (prompt : Prompt) : Session (Except ServiceFailure String) :=
  match a.model with
  | some m => m.ask prompt
  | none => do
    let j ← get
    if j.completionClient then
      match Completer.find a.config none with
      | .ok (p, _) => p.ask o prompt
      | .error e => return .error e
    else
      match ← Completer.create o a.config none with
      | .ok p => p.ask o prompt
      | .error e => return .error e

/-- The request for a question with its context. -/
def prompt (a : Answerer) (query : String) (context : List Fragment) : Prompt :=
  { system := systemText, message := promptText query context, maxTokens := a.config.maxTokens,
    temperature := a.config.temperature }

/-- The pause before `left` more attempts, after `made + 1` of them; if none are left there is none. -/
def pauseBefore (o : Outside) (a : Answerer) (left made : Nat) : Session (Except ServiceFailure Unit) :=
  if left = 0 then pure (.ok ()) else o.pause (a.config.backoffBase ^ Float.ofNat made)

/-- The report when all attempts have failed. -/
def givingUp (a : Answerer) (clientMade : Bool) (last : Option ServiceFailure) : String :=
  "Failed to communicate with " ++ a.name clientMade ++ " after " ++ toString a.config.retryAttempts ++
    " attempts: " ++ Fragment.shown (last.map (·.message))

/-- Makes `left` more attempts after `made` attempts, the last of which failed with `last`; `ask` makes one attempt.
A pause that is refused breaks the attempts off. -/
def attempts (o : Outside) (a : Answerer) (ask : Session (Except ServiceFailure String)) :
    Nat → Nat → Option ServiceFailure → Session (Except ServiceFailure String)
  | 0, _, last => do
    let j ← get
    return .error (.refused (a.givingUp j.completionClient last))
  | left + 1, made, _ => do
    match ← ask with
    | .ok s => return .ok s
    | .error (.notInstalled m) => return .error (.refused m)
    | .error e =>
      match ← a.pauseBefore o left made with
      | .ok () => attempts o a ask left (made + 1) (some e)
      | .error refusal => return .error refusal

/-- The refusal when there is neither a model nor a key. -/
def notConfigured (a : Answerer) : ServiceFailure :=
  .refused ("LLM provider '" ++ a.config.llmProvider ++ "' is not configured.")

/-- Answers a question about some fragments; `ask` makes one request. -/
def answerBy (o : Outside) (a : Answerer) (ask : Prompt → Session (Except ServiceFailure String)) (query : String)
    (context : List Fragment) : Session (Except ServiceFailure String) :=
  if a.isAvailable then attempts o a (ask (a.prompt query context)) a.config.retryAttempts.toNat 0 none
  else pure (.error a.notConfigured)

/-- Answers a question about some fragments. -/
def answer (o : Outside) (a : Answerer) (query : String) (context : List Fragment) :
    Session (Except ServiceFailure String) := a.answerBy o (a.request o) query context

end Answerer

end FragmentSearch
