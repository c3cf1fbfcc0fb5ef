import FragmentSearch.Config.Vendor
import FragmentSearch.Json.Convert
import FragmentSearch.Similarity.Standard

/-!
# The outside and the journal

Answers and vectors come from outside: from a vendor's kit, or from a capability that the caller brings
along. What the outside says is a function of the number of the request and of the request, so that a
whole session is a function of it. The outside also pauses, and not for every length of time, and it
brings along the library of similarities. The journal records the requests in their order, and the pauses.
-/

namespace FragmentSearch

/-! ## 1. Requests and replies -/

/-- What a language model is asked. -/
structure Prompt where
  /-- The instructions. -/
  system : String
  message : String
  maxTokens : Int
  temperature : Float

/-- Why a request was not answered. -/
inductive ServiceFailure where
  /-- The service reports a failure. -/
  | failed (message : String)
  /-- The service's kit is not installed. -/
  | notInstalled (message : String)
  /-- The provider refuses the request. -/
  | refused (message : String)
  /-- There is no such provider. -/
  | unknownProvider (message : String)
  /-- The reply has no items where a vector should be. -/
  | unreadable (e : ConversionError)
  /-- A pause cannot be as long as it should be. -/
  | cannotPause (message : String)
  deriving DecidableEq

/-- The report of a failure. -/
def ServiceFailure.message : ServiceFailure → String
  | .failed m | .notInstalled m | .refused m | .unknownProvider m | .cannotPause m => m
  | .unreadable e => e.message

/-- Is the failure one that is foreseen? That is a refusal only. -/
def ServiceFailure.isForeseen : ServiceFailure → Bool
  | .refused _ => true
  | _ => false

/-- What a kit replies. -/
inductive KitReply where
  | text (s : String)
  /-- Vectors in the order of the texts, or null. -/
  | vectors (v : Json)
  /-- Vectors with the numbers of their texts. -/
  | indexed (vs : List (Int × Json))
  | failure (e : ServiceFailure)

/-- A request to a kit. -/
inductive KitCall where
  /-- A client is made. -/
  | client (apiKey : Option String)
  | complete (vendor : Vendor) (model : String) (prompt : Prompt)
  | embed (vendor : Vendor) (model : String) (texts : List String)

/-- The outside: which kit is installed and what it replies, for how long the system can pause, and the
library of similarities. -/
structure Outside where
  kit : Option Vendor
  /-- The reply of the kit to the request of a number, counted from 0. -/
  reply : Nat → KitReply
  /-- The report when a pause of so many seconds is refused, if it is. A power that is too large for a
  number is infinite here, and so one of the lengths that may be refused. -/
  refusal : Float → Option String
  library : Library

/-- The outside with a kit and its replies. It pauses for any length of time. -/
def Outside.scripted (kit : Option Vendor) (reply : Nat → KitReply) : Outside :=
  { kit := kit, reply := reply, refusal := fun _ => none, library := .standard }

/-! ## 2. The journal -/

/-- What has been requested so far. -/
structure Journal where
  /-- The requests to the kit. -/
  kitCalls : List KitCall := []
  /-- How many replies the kit has given. -/
  replies : Nat := 0
  /-- Is there a client for answers? -/
  completionClient : Bool := false
  /-- Is there a client for vectors? -/
  embeddingClient : Bool := false
  /-- The requests to a language model that the caller brought along. -/
  modelCalls : List Prompt := []
  /-- The requests to an embedder that the caller brought along. -/
  embedCalls : List (List String) := []
  /-- The pauses in seconds. -/
  pauses : List Float := []

/-- A computation that keeps the journal. -/
abbrev Session := StateM Journal

/-- A session goes on with the outcome of its first part and the journal that this has left. -/
theorem Session.bind_run {α β : Type} (m : Session α) (f : α → Session β) (j : Journal) :
    (m >>= f) j = f (m j).1 (m j).2 := rfl

namespace Journal

/-- Records that a client for answers was made. -/
def withCompletionClient (j : Journal) (apiKey : Option String) : Journal :=
  { j with kitCalls := j.kitCalls ++ [.client apiKey], completionClient := true }

/-- Records that a client for vectors was made. -/
def withEmbeddingClient (j : Journal) (apiKey : Option String) : Journal :=
  { j with kitCalls := j.kitCalls ++ [.client apiKey], embeddingClient := true }

/-- Records a request that the kit replies to. -/
def withCall (j : Journal) (call : KitCall) : Journal :=
  { j with kitCalls := j.kitCalls ++ [call], replies := j.replies + 1 }

/-- Records a pause. -/
def withPause (j : Journal) (seconds : Float) : Journal := { j with pauses := j.pauses ++ [seconds] }

end Journal

/-- Sends a request to the kit. -/
def Outside.ask (o : Outside) (call : KitCall) : Session KitReply := fun j => (o.reply j.replies, j.withCall call)

/-- Pauses for so many seconds. -/
def Outside.pause (o : Outside) (seconds : Float) : Session (Except ServiceFailure Unit) := fun j =>
  match o.refusal seconds with
  | none => (.ok (), j.withPause seconds)
  | some m => (.error (.cannotPause m), j)

end FragmentSearch
