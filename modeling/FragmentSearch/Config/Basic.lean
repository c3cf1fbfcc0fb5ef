import FragmentSearch.Config.Vendor
import FragmentSearch.Table

/-!
# Settings

All settings in one structure, their values when nothing is said, and what follows from them: the key and
the model of the active vendors, the weights of the hybrid ranking and the largest size of a file.
-/

namespace FragmentSearch

/-- The settings. -/
structure Config where
  /-- The vendor that answers questions. -/
  llmProvider : String := "gemini"
  geminiKey : Option String := none
  geminiModel : String := "gemini-2.0-flash"
  openaiKey : Option String := none
  openaiModel : String := "gpt-4o-mini"
  anthropicKey : Option String := none
  anthropicModel : String := "claude-haiku-4-5"
  /-- The most tokens of an answer. -/
  maxTokens : Int := 2048
  temperature : Float := 0.7
  /-- The vendor that turns texts into vectors. -/
  embeddingProvider : String := "gemini"
  geminiEmbeddingModel : String := "text-embedding-004"
  openaiEmbeddingModel : String := "text-embedding-3-small"
  batchSize : Int := 100
  /-- How often an answer is asked for. -/
  retryAttempts : Int := 3
  /-- The pauses between attempts are the powers of this number. -/
  backoffBase : Float := 2.0
  /-- The extensions of source files. -/
  extensions : List String := [".py"]
  /-- Directories that are not searched for source files. -/
  excludedDirs : List String :=
    ["__pycache__", ".git", ".venv", "venv", ".tox", ".pytest_cache", ".mypy_cache", "dist", "build", "node_modules"]
  maxFileMegabytes : Int := 5
  maxWorkers : Int := 4
  usesEmbeddings : Bool := false
  resolvesNames : Bool := false
  /-- How many results a search gives. -/
  maxResults : Option Int := some 10
  /-- How many fragments are sent with a question. -/
  contextResults : Option Int := some 5
  /-- Weights to be used instead of those that follow from `usesEmbeddings`. -/
  hybridWeights : Option (Table String Float) := none
  logLevel : String := "INFO"
  logFormat : String := "%(asctime)s - %(name)s - %(levelname)s - %(message)s"

/-- No vendor has this name. -/
structure UnknownVendor where
  name : String
  deriving DecidableEq

/-! ## 1. Weights -/

/-- The weights of the hybrid ranking: those given, or else the set that goes with vectors or without. -/
def resolveWeights {α : Type} [OfScientific α] (usesEmbeddings : Bool) :
    Option (Table String α) → Table String α
  | some given => given
  | none =>
    if usesEmbeddings then [("keyword", 0.3), ("dependency", 0.2), ("embedding", 0.5)]
    else [("keyword", 0.6), ("dependency", 0.4)]

namespace Config

/-- The weights of the hybrid ranking. -/
def weights (c : Config) : Table String Float := resolveWeights c.usesEmbeddings c.hybridWeights

/-! ## 2. What the settings say of a vendor -/

/-- The key of a vendor. -/
def keyOf (c : Config) : Vendor → Option String
  | .gemini => c.geminiKey
  | .openai => c.openaiKey
  | .anthropic => c.anthropicKey

/-- The model of a vendor that answers questions. -/
def modelOf (c : Config) : Vendor → String
  | .gemini => c.geminiModel
  | .openai => c.openaiModel
  | .anthropic => c.anthropicModel

/-- The model of a vendor that turns texts into vectors. -/
def embeddingModelOf (c : Config) : Vendor → String
  | .gemini => c.geminiEmbeddingModel
  | .openai => c.openaiEmbeddingModel
  | .anthropic => ""

/-! ## 3. Tables of keys and models -/

/-- The variables and keys by which the settings for answers are checked. -/
def checkedKeys (c : Config) : Table String (String × Option String) :=
  [("gemini", "GOOGLE_API_KEY", c.geminiKey), ("openai", "OPENAI_API_KEY", c.openaiKey),
    ("anthropic", "ANTHROPIC_API_KEY", c.anthropicKey)]

/-- The variables and keys by which the settings for vectors are checked. -/
def checkedEmbeddingKeys (c : Config) : Table String (String × Option String) :=
  [("gemini", "GOOGLE_API_KEY", c.geminiKey), ("openai", "OPENAI_API_KEY", c.openaiKey)]

/-- The keys for answers. -/
def apiKeys (c : Config) : Table String (Option String) :=
  [("gemini", c.geminiKey), ("openai", c.openaiKey), ("anthropic", c.anthropicKey)]

/-- The models for answers. -/
def models (c : Config) : Table String String :=
  [("gemini", c.geminiModel), ("openai", c.openaiModel), ("anthropic", c.anthropicModel)]

/-- The keys for vectors. -/
def embeddingKeys (c : Config) : Table String (Option String) := [("gemini", c.geminiKey), ("openai", c.openaiKey)]

/-- The models for vectors. -/
def embeddingModels (c : Config) : Table String String :=
  [("gemini", c.geminiEmbeddingModel), ("openai", c.openaiEmbeddingModel)]

theorem checkedKeys_eq (c : Config) :
    c.checkedKeys = Vendor.tabulate Vendor.completing fun v => (v.keyVariable, c.keyOf v) := rfl

theorem checkedEmbeddingKeys_eq (c : Config) :
    c.checkedEmbeddingKeys = Vendor.tabulate Vendor.embedding fun v => (v.keyVariable, c.keyOf v) := rfl

theorem apiKeys_eq (c : Config) : c.apiKeys = Vendor.tabulate Vendor.completing c.keyOf := rfl

theorem models_eq (c : Config) : c.models = Vendor.tabulate Vendor.completing c.modelOf := rfl

theorem embeddingKeys_eq (c : Config) : c.embeddingKeys = Vendor.tabulate Vendor.embedding c.keyOf := rfl

theorem embeddingModels_eq (c : Config) : c.embeddingModels = Vendor.tabulate Vendor.embedding c.embeddingModelOf := rfl

/-- What a table holds under the name of a vendor. -/
def entry {α : Type} (name : String) (t : Table String α) : Except UnknownVendor α :=
  match Table.get? name t with
  | some a => .ok a
  | none => .error ⟨name⟩

/-- The key for answers. -/
def apiKey (c : Config) : Except UnknownVendor (Option String) := entry c.llmProvider c.apiKeys

/-- The model for answers. -/
def model (c : Config) : Except UnknownVendor String := entry c.llmProvider c.models

/-- The key for vectors. -/
def embeddingKey (c : Config) : Except UnknownVendor (Option String) := entry c.embeddingProvider c.embeddingKeys

/-- The model for vectors. -/
def embeddingModel (c : Config) : Except UnknownVendor String := entry c.embeddingProvider c.embeddingModels

/-- The largest size of a source file. -/
def maxFileBytes (c : Config) : Int := c.maxFileMegabytes * 1024 * 1024

end Config

end FragmentSearch
