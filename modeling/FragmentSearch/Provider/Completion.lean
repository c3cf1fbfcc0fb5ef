import FragmentSearch.Config.Basic
import FragmentSearch.Provider.Journal
import FragmentSearch.Text.Case
import FragmentSearch.Text.Quoted
import FragmentSearch.Text.Words

/-!
# Language models

A question is answered by a vendor's kit or by a model that the caller brings along.
-/

namespace FragmentSearch

/-- A model that the caller brings along; `answer` is given the number of the request, counted from 0. -/
structure Model where
  name : String
  answer : Nat → Prompt → Except ServiceFailure String

/-- A vendor with the model that is asked. -/
structure Completer where
  vendor : Vendor
  model : String
  deriving DecidableEq

namespace Completer

/-- The vendors that answer questions. -/
def registry : Table String Vendor := [("gemini", .gemini), ("openai", .openai), ("anthropic", .anthropic)]

/-- The keys with which their clients are made. -/
def apiKeys (c : Config) : Table String (Option String) :=
  [("gemini", c.geminiKey), ("openai", c.openaiKey), ("anthropic", c.anthropicKey)]

/-- The models that they are asked for. -/
def models (c : Config) : Table String String :=
  [("gemini", c.geminiModel), ("openai", c.openaiModel), ("anthropic", c.anthropicModel)]

theorem registry_eq : registry = Vendor.tabulate Vendor.completing id := rfl

theorem apiKeys_eq (c : Config) : apiKeys c = Vendor.tabulate Vendor.completing c.keyOf := rfl

theorem models_eq (c : Config) : models c = Vendor.tabulate Vendor.completing c.modelOf := rfl

/-- The refusal when the kit is not installed. -/
def kitMissing (v : Vendor) : String :=
  "The '" ++ v.kit ++ "' SDK is not installed.\n  Install:  pip install 'smart-code-retriever[" ++ v.name ++
    "]'\n  Or switch provider:  export CODERETRIEVER_LLM_PROVIDER=" ++
    (if v = .gemini then "openai" else "gemini")

/-- The vendor that `provider` or else the settings name, with its model, and the key for its client. -/
def find (c : Config) (provider : Option String) : Except ServiceFailure (Completer × Option String) :=
  let named := match provider with
    | some p => if p.isEmpty then c.llmProvider else p
    | none => c.llmProvider
  let name := Text.lower named
  match Table.get? name registry, Table.get? name (apiKeys c), Table.get? name (models c) with
  | none, _, _ =>
    .error (.unknownProvider ("Unknown LLM provider '" ++ name ++ "'. Supported: " ++ ", ".intercalate (Table.keys registry)))
  | some v, some key, some model => .ok (⟨v, model⟩, key)
  | some _, _, _ => .error (.failed (Text.quoted name))

/-- Makes the client of the vendor that `provider` or else the settings name. -/
def create (o : Outside) (c : Config) (provider : Option String) : Session (Except ServiceFailure Completer) := fun j =>
  match find c provider with
  | .error e => (.error e, j)
  | .ok (p, key) =>
    if o.kit = some p.vendor then (.ok p, j.withCompletionClient key)
    else (.error (.notInstalled (kitMissing p.vendor)), j)

/-- The answer of a reply, without blanks at its ends. -/
def replyText : KitReply → Except ServiceFailure String
  | .text s => .ok (Text.trim s)
  | .failure e => .error e
  | _ => .error (.failed "'NoneType' object has no attribute 'strip'")

/-- Asks a vendor. -/
def ask (o : Outside) (p : Completer) (prompt : Prompt) : Session (Except ServiceFailure String) := do
  return replyText (← o.ask (.complete p.vendor p.model prompt))

end Completer

/-- Asks a model that the caller brought along. -/
def Model.ask (m : Model) (prompt : Prompt) : Session (Except ServiceFailure String) := fun j =>
  (m.answer j.modelCalls.length prompt, { j with modelCalls := j.modelCalls ++ [prompt] })

end FragmentSearch
