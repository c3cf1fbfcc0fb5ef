import FragmentSearch.Config.Basic
import FragmentSearch.Fragment.Basic
import FragmentSearch.Provider.Journal
import FragmentSearch.Text.Case

/-!
# Embedders

An embedder turns texts into vectors: a vendor's kit does, or a capability that the caller brings along,
or nothing does. The reply is taken as it comes, and only `checkVectors` makes vectors of it.
-/

namespace FragmentSearch

/-- What turns texts into vectors. -/
inductive Embedder where
  | disabled
  | vendor (v : Vendor) (apiKey : Option String) (model : String)
  /-- A capability of the caller; `answer` is given the number of the request, counted from 1. -/
  | custom (name : String) (available : Bool) (answer : Nat → List String → Except ServiceFailure Json)

/-- The vendors that turn texts into vectors. -/
def Embedder.registry : Table String Vendor := [("gemini", .gemini), ("openai", .openai)]

theorem Embedder.registry_eq : Embedder.registry = Vendor.tabulate Vendor.embedding id := rfl

/-- There is no such vendor of vectors. -/
inductive EmbedderError where
  | unknown (name : String)
  /-- The name is that of a vendor but for its case, and the settings have no key or model under it. -/
  | misspelt (name : String)

/-- The report of an error. -/
def EmbedderError.message : EmbedderError → String
  | .unknown name =>
    "Unknown embedding provider '" ++ name ++ "'. Supported: " ++ ", ".intercalate (Table.keys Embedder.registry)
  | .misspelt name => Text.quoted name

namespace Embedder

/-- The embedder that the settings name. -/
def ofConfig (c : Config) : Except EmbedderError Embedder :=
  if c.usesEmbeddings then
    let name := Text.lower c.embeddingProvider
    match Table.get? name registry, c.embeddingKey, c.embeddingModel with
    | none, _, _ => .error (.unknown name)
    | some v, .ok key, .ok model => .ok (.vendor v key model)
    | some _, .error e, _ | some _, .ok _, .error e => .error (.misspelt e.name)
  else .ok .disabled

/-- The name under which the embedder is reported. -/
def name : Embedder → String
  | .disabled => "disabled"
  | .vendor v _ _ => v.embeddingTitle
  | .custom n _ _ => n

/-- Can the embedder be asked at all? -/
def isAvailable : Embedder → Bool
  | .disabled => false
  | .vendor _ key _ => Fragment.isGiven key
  | .custom _ a _ => a

/-! ## 1. Vendors -/

/-- The vendor's short name in reports of failures. -/
def shortName : Vendor → String
  | .gemini => "Gemini"
  | .openai => "OpenAI"
  | .anthropic => "Anthropic"

/-- The refusal when there is no key. -/
def noKey : Vendor → String
  | .gemini => "Google API key not configured"
  | v => shortName v ++ " API key not configured"

/-- The refusal when the kit is not installed. -/
def kitMissing (v : Vendor) : String :=
  "The '" ++ v.kit ++ "' SDK is not installed.\n  Install:  pip install 'smart-code-retriever[" ++ v.name ++ "]'"

/-- A failure of the kit as the embedder reports it. -/
def requestFailure (v : Vendor) : ServiceFailure → ServiceFailure
  | .refused m => .refused m
  | e => .refused (shortName v ++ " embedding request failed: " ++ e.message)

/-- The items of each of some values. -/
def itemLists : List Json → Except ServiceFailure (List Json)
  | [] => .ok []
  | v :: r =>
    match v.items with
    | .error e => .error (.unreadable e)
    | .ok xs => (itemLists r).map (.list xs :: ·)

/-- Labelled vectors in the order of their labels. -/
def ordered (vs : List (Int × Json)) : List Json := (vs.mergeSort fun a b => a.1 ≤ b.1).map (·.2)

/-- The vectors of a reply in the order of the texts. -/
def replyVectors (v : Vendor) : KitReply → Except ServiceFailure Json
  | .failure e => .error (requestFailure v e)
  | .indexed vs => (itemLists (ordered vs)).map .list
  | .vectors (.list xs) => (itemLists xs).map .list
  | _ => .ok (.list [])

/-- Makes the client of a vendor unless there is one. -/
def ensureClient (o : Outside) (v : Vendor) (key : Option String) : Session (Except ServiceFailure Unit) := fun j =>
  if j.embeddingClient then (.ok (), j)
  else if o.kit = some v then (.ok (), j.withEmbeddingClient key)
  else (.error (.refused (kitMissing v)), j)

/-- Asks a vendor for vectors. -/
def askVendor (o : Outside) (v : Vendor) (key : Option String) (model : String) (texts : List String) :
    Session (Except ServiceFailure Json) := do
  if !Fragment.isGiven key then return .error (.refused (noKey v))
  if texts.isEmpty then return .ok (.list [])
  match ← ensureClient o v key with
  | .error e => return .error e
  | .ok () => return replyVectors v (← o.ask (.embed v model texts))

/-! ## 2. Asking -/

/-- Asks for the vectors of some texts. -/
def ask (o : Outside) (e : Embedder) (texts : List String) : Session (Except ServiceFailure Json) :=
  match e with
  | .disabled => pure (.ok (.list []))
  | .vendor v key model => askVendor o v key model texts
  | .custom _ _ answer => fun j =>
    (answer (j.embedCalls.length + 1) texts, { j with embedCalls := j.embedCalls ++ [texts] })

end Embedder

/-! ## 3. Checking replies -/

/-- What is wrong with a reply. -/
inductive VectorError where
  /-- There are fewer or more vectors than texts. -/
  | wrongNumber (expected got : Int)
  /-- A vector holds something that is no number. -/
  | notNumeric (e : ConversionError)
  /-- A vector has no components. -/
  | emptyVector
  /-- The reply is of a type that has no length. -/
  | unmeasurable (e : ConversionError)
  /-- A component is out of range. -/
  | outOfRange (e : ConversionError)

/-- The report of an error. -/
def VectorError.message : VectorError → String
  | .wrongNumber expected got => "Expected " ++ toString expected ++ " vectors, got " ++ toString got
  | .notNumeric e => "Non-numeric embedding vector: " ++ e.message
  | .emptyVector => "Empty embedding vector"
  | .unmeasurable e | .outOfRange e => e.message

/-- Is the reply recognised as malformed? An error of any other sort is not expected from an embedder. -/
def VectorError.isRecognised : VectorError → Bool
  | .wrongNumber _ _ | .notNumeric _ | .emptyVector => true
  | .unmeasurable _ | .outOfRange _ => false

/-- One vector of a reply. -/
def checkVector (v : Json) : Except VectorError (List Float) :=
  match v.toFloats with
  | .error e => if e.isOverflow then .error (.outOfRange e) else .error (.notNumeric e)
  | .ok [] => .error .emptyVector
  | .ok xs => .ok xs

/-- How many vectors a reply has; null has none. -/
def vectorCount : Json → Except VectorError (Option Nat)
  | .null => .ok none
  | v =>
    match v.count with
    | .ok n => .ok (some n)
    | .error e => .error (.unmeasurable e)

/-- The vectors of a reply, which must be as many as expected, none of them empty. -/
def checkVectors (reply : Json) (expected : Int) : Except VectorError (List (List Float)) := do
  match ← vectorCount reply with
  | none => throw (.wrongNumber expected 0)
  | some n =>
    if (n : Int) ≠ expected then throw (.wrongNumber expected n)
    match reply.items with
    | .error e => throw (.unmeasurable e)
    | .ok vs => vs.mapM checkVector

end FragmentSearch
