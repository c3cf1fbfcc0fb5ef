import FragmentSearch.Config.Basic
import FragmentSearch.Json.Convert
import FragmentSearch.Text.Case
import FragmentSearch.Text.Words

/-!
# Settings from the environment and by name

Settings are read from environment variables, and single settings are given by name.
-/

namespace FragmentSearch

open FragmentSearch.Text

/-- The environment variables. -/
abbrev Environment := Table String String

namespace Environment

/-- The value of a variable. -/
def valueOf? (env : Environment) (name : String) : Option String := Table.get? name env

/-- The value of a variable, or else `otherwise`. -/
def textOf (env : Environment) (name otherwise : String) : String := (env.valueOf? name).getD otherwise

/-- An integer variable. -/
def integer (env : Environment) (name otherwise : String) : Except ConversionError Int :=
  readInteger (env.textOf name otherwise)

/-- The texts that mean yes. -/
def affirmations : List String := ["1", "true", "yes", "on", "y"]

/-- Does a variable say yes? -/
def flag (env : Environment) (name : String) : Bool :=
  match env.valueOf? name with
  | some s => affirmations.contains (lower (trim s))
  | none => false

end Environment

namespace Config

/-! ## 1. From the environment -/

/-- The settings that environment variables give. -/
def ofEnvironment (env : Environment) : Except ConversionError Config := do
  let maxTokens ← env.integer "CODERETRIEVER_MAX_TOKENS" "2048"
  let batchSize ← env.integer "CODERETRIEVER_EMBEDDING_BATCH_SIZE" "100"
  let maxResults ← env.integer "CODERETRIEVER_MAX_RESULTS" "10"
  let geminiKey := match env.valueOf? "GEMINI_API_KEY" with
    | some k => if k.isEmpty then env.valueOf? "GOOGLE_API_KEY" else some k
    | none => env.valueOf? "GOOGLE_API_KEY"
  return {
    llmProvider := lower (env.textOf "CODERETRIEVER_LLM_PROVIDER" "gemini")
    geminiKey := geminiKey
    geminiModel := env.textOf "GEMINI_MODEL" "gemini-2.0-flash"
    openaiKey := env.valueOf? "OPENAI_API_KEY"
    openaiModel := env.textOf "OPENAI_MODEL" "gpt-4o-mini"
    anthropicKey := env.valueOf? "ANTHROPIC_API_KEY"
    anthropicModel := env.textOf "ANTHROPIC_MODEL" "claude-haiku-4-5"
    maxTokens := maxTokens
    embeddingProvider := lower (env.textOf "CODERETRIEVER_EMBEDDING_PROVIDER" "gemini")
    batchSize := batchSize
    usesEmbeddings := env.flag "CODERETRIEVER_USE_EMBEDDINGS"
    resolvesNames := env.flag "CODERETRIEVER_RESOLVE_DEPENDENCIES"
    maxResults := some maxResults
    logLevel := env.textOf "CODERETRIEVER_LOG_LEVEL" "INFO" }

/-! ## 2. By name -/

/-- What is wrong with a setting given by name. -/
inductive FieldError where
  /-- There is no such setting. -/
  | unknown (name : String)
  /-- The value does not fit the setting. -/
  | illTyped (name : String)

/-- The report of an error. -/
def FieldError.message : FieldError → String
  | .unknown name => "RetrieverConfig.__init__() got an unexpected keyword argument " ++ Text.quoted name
  | .illTyped name => "setting " ++ Text.quoted name ++ " has the wrong type"

/-- A value as a text. -/
def text? : Json → Option String
  | .text s => some s
  | _ => none

/-- A value as an optional text. -/
def optionalText? : Json → Option (Option String)
  | .text s => some (some s)
  | .null => some none
  | _ => none

/-- A value as an integer. -/
def int? : Json → Option Int
  | .int i => some i
  | .bool b => some (if b then 1 else 0)
  | _ => none

/-- A value as an optional integer. -/
def optionalInt? : Json → Option (Option Int)
  | .null => some none
  | v => (int? v).map some

/-- A value as a number. -/
def number? : Json → Option Float
  | .int i => Decimal.ofInt? i
  | .float x => some x
  | .bool b => some (if b then 1 else 0)
  | _ => none

/-- A value as texts. -/
def texts? : Json → Option (List String)
  | .list xs => xs.mapM text?
  | _ => none

/-- A value as optional weights. -/
def weights? : Json → Option (Option (Table String Float))
  | .null => some none
  | .object fields => (fields.mapM fun f => (number? f.2).map fun x => (f.1, x)).map some
  | _ => none

/-- Changes a setting: none if the value does not fit, an error if there is no such setting. -/
def change (c : Config) (name : String) (v : Json) : Except FieldError (Option Config) :=
  match name with
  | "llm_provider" => .ok ((text? v).map fun x => { c with llmProvider := x })
  | "gemini_api_key" => .ok ((optionalText? v).map fun x => { c with geminiKey := x })
  | "gemini_model" => .ok ((text? v).map fun x => { c with geminiModel := x })
  | "openai_api_key" => .ok ((optionalText? v).map fun x => { c with openaiKey := x })
  | "openai_model" => .ok ((text? v).map fun x => { c with openaiModel := x })
  | "anthropic_api_key" => .ok ((optionalText? v).map fun x => { c with anthropicKey := x })
  | "anthropic_model" => .ok ((text? v).map fun x => { c with anthropicModel := x })
  | "llm_max_tokens" => .ok ((int? v).map fun x => { c with maxTokens := x })
  | "llm_temperature" => .ok ((number? v).map fun x => { c with temperature := x })
  | "embedding_provider" => .ok ((text? v).map fun x => { c with embeddingProvider := x })
  | "gemini_embedding_model" => .ok ((text? v).map fun x => { c with geminiEmbeddingModel := x })
  | "openai_embedding_model" => .ok ((text? v).map fun x => { c with openaiEmbeddingModel := x })
  | "embedding_batch_size" => .ok ((int? v).map fun x => { c with batchSize := x })
  | "retry_attempts" => .ok ((int? v).map fun x => { c with retryAttempts := x })
  | "retry_backoff_base" => .ok ((number? v).map fun x => { c with backoffBase := x })
  | "target_extensions" => .ok ((texts? v).map fun x => { c with extensions := x })
  | "exclude_dirs" => .ok ((texts? v).map fun x => { c with excludedDirs := x })
  | "max_file_size_mb" => .ok ((int? v).map fun x => { c with maxFileMegabytes := x })
  | "max_workers" => .ok ((int? v).map fun x => { c with maxWorkers := x })
  | "use_embeddings" => .ok ((some v.isTrue).map fun x => { c with usesEmbeddings := x })
  | "resolve_dependency_names" => .ok ((some v.isTrue).map fun x => { c with resolvesNames := x })
  | "max_search_results" => .ok ((optionalInt? v).map fun x => { c with maxResults := x })
  | "ask_context_results" => .ok ((optionalInt? v).map fun x => { c with contextResults := x })
  | "hybrid_weights" => .ok ((weights? v).map fun x => { c with hybridWeights := x })
  | "log_level" => .ok ((text? v).map fun x => { c with logLevel := x })
  | "log_format" => .ok ((text? v).map fun x => { c with logFormat := x })
  | _ => .error (.unknown name)

/-- Gives one setting by name. -/
def set (c : Config) (field : String × Json) : Except FieldError Config :=
  match c.change field.1 field.2 with
  | .ok (some c') => .ok c'
  | .ok none => .error (.illTyped field.1)
  | .error e => .error e

/-- Gives settings by name. -/
def setAll (c : Config) (fields : List (String × Json)) : Except FieldError Config := fields.foldlM set c

/-- Gives settings by name; names that no setting has are left aside. -/
def override (c : Config) (fields : List (String × Json)) : Except FieldError Config :=
  fields.foldlM (fun c f => match c.change f.1 f.2 with
    | .ok (some c') => .ok c'
    | .ok none => .error (.illTyped f.1)
    | .error _ => .ok c) c

end Config

end FragmentSearch
