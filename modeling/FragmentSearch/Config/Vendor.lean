import FragmentSearch.Table

/-!
# Vendors

The services that answer questions and turn texts into vectors, and the names by which settings, reports
and installation hints speak of them. Tables of vendors stand in several places, each written out there;
beside each stands a lemma that says which table of `tabulate` it is, and so the tables agree.
-/

namespace FragmentSearch

/-- A vendor of language models. -/
inductive Vendor where
  | gemini
  | openai
  | anthropic
  deriving DecidableEq, Repr

namespace Vendor

/-- The vendors that answer questions. -/
def completing : List Vendor := [.gemini, .openai, .anthropic]

/-- The vendors that turn texts into vectors. -/
def embedding : List Vendor := [.gemini, .openai]

/-- The name of a vendor in settings. -/
def name : Vendor → String
  | .gemini => "gemini"
  | .openai => "openai"
  | .anthropic => "anthropic"

/-- The variable that holds the key of a vendor. -/
def keyVariable : Vendor → String
  | .gemini => "GOOGLE_API_KEY"
  | .openai => "OPENAI_API_KEY"
  | .anthropic => "ANTHROPIC_API_KEY"

/-- The name of a vendor's kit. -/
def kit : Vendor → String
  | .gemini => "google-genai"
  | .openai => "openai"
  | .anthropic => "anthropic"

/-- The name under which answers of a vendor are reported. -/
def completionTitle : Vendor → String
  | .gemini => "Google (Gemini)"
  | .openai => "OpenAI (GPT)"
  | .anthropic => "Anthropic (Claude)"

/-- The name under which vectors of a vendor are reported. -/
def embeddingTitle : Vendor → String
  | .gemini => "Google (Gemini embeddings)"
  | .openai => "OpenAI (embeddings)"
  | .anthropic => "Anthropic (embeddings)"

/-! ## 1. Tables -/

/-- The vendor of a name among some vendors. -/
def ofName? (among : List Vendor) (s : String) : Option Vendor := among.find? (·.name = s)

/-- The table of some vendors with a value for each of them under its name. -/
def tabulate {α : Type} (among : List Vendor) (f : Vendor → α) : Table String α := among.map fun v => (v.name, f v)

theorem get?_tabulate {α : Type} (among : List Vendor) (f : Vendor → α) (s : String) :
    Table.get? s (tabulate among f) = (ofName? among s).map f := by
  induction among with
  | nil => rfl
  | cons v among ih =>
    unfold ofName? tabulate at ih ⊢
    by_cases h : v.name = s <;> simp [Table.get?, h, ih]

end Vendor

end FragmentSearch
