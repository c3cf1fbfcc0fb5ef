import FragmentSearch.Config.Basic
import FragmentSearch.Fragment.Basic
import FragmentSearch.Index.Basic
import FragmentSearch.Text.Quoted

/-!
# Checking settings

The settings are checked for the vendors and their keys, the size of a batch and the names of the weights.
The key for vectors is needed only when vectors are used.
-/

namespace FragmentSearch

/-- What is wrong with the settings. -/
inductive ConfigError where
  | unknownProvider (name : String) (supported : List String)
  | keyMissing (keyName name : String)
  | unknownEmbeddingProvider (name : String) (supported : List String)
  | embeddingKeyMissing (keyName name : String)
  | batchSize
  | unknownWeights (names : List String)
  deriving DecidableEq

/-- A list of texts as it is written in a report. -/
def quotedList (xs : List String) : String := "[" ++ ", ".intercalate (xs.map Text.quoted) ++ "]"

/-- The report of an error. -/
def ConfigError.message : ConfigError → String
  | .unknownProvider name supported =>
    "Unknown LLM provider '" ++ name ++ "'. Supported: " ++ ", ".intercalate supported ++
      ".\n  Set via: export CODERETRIEVER_LLM_PROVIDER=gemini"
  | .keyMissing keyName name =>
    keyName ++ " not found (required by provider '" ++ name ++ "').\n  Linux/Mac: export " ++
      keyName ++ "='your-key-here'"
  | .unknownEmbeddingProvider name supported =>
    "Unknown embedding provider '" ++ name ++ "'. Supported: " ++ ", ".intercalate supported ++ "."
  | .embeddingKeyMissing keyName name =>
    keyName ++ " not found (required for embeddings via '" ++ name ++ "')."
  | .batchSize => "embedding_batch_size must be a positive integer."
  | .unknownWeights names => "Unknown hybrid weight keys: " ++ quotedList names

/-- The names that weights may have. -/
def weightNames : List String := ["keyword", "dependency", "embedding"]

namespace Config

/-- Checks that a name stands in a table of variables and keys, with a key that is not empty. -/
def keyCheck (keys : Table String (String × Option String)) (name : String) (unknown : String → List String → ConfigError)
    (missing : String → String → ConfigError) : Except ConfigError Unit :=
  match Table.get? name keys with
  | none => .error (unknown name (Table.keys keys))
  | some (keyName, key) => if Fragment.isGiven key then .ok () else .error (missing keyName name)

/-- Checks what vectors need. -/
def validateEmbeddings (c : Config) : Except ConfigError Unit :=
  keyCheck c.checkedEmbeddingKeys c.embeddingProvider .unknownEmbeddingProvider .embeddingKeyMissing

/-- The names of given weights that no weight has. -/
def unknownWeights (c : Config) : List String :=
  Index.inOrder ((distinct ((c.hybridWeights.getD []).map (·.1))).filter (!weightNames.contains ·))

/-- Checks the settings. -/
def validate (c : Config) : Except ConfigError Unit := do
  keyCheck c.checkedKeys c.llmProvider .unknownProvider .keyMissing
  if c.usesEmbeddings then c.validateEmbeddings
  if c.batchSize ≤ 0 then throw .batchSize
  if c.unknownWeights ≠ [] then throw (.unknownWeights c.unknownWeights)

end Config

end FragmentSearch
