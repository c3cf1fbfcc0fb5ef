import FragmentSearch.Fragment.Basic
import FragmentSearch.Text.Case
import FragmentSearch.Text.Words

/-!
# Index tokens

The tokens under which a fragment is found: its name, the parts of its name, and the words of its
signature, its documentation and a short content.
-/

namespace FragmentSearch

open FragmentSearch.Text

/-! ## 1. Parts of a name -/

/-- A small letter from `a` to `z`. -/
def isSmall (c : Char) : Bool := 'a' ≤ c && c ≤ 'z'

/-- A capital letter from `A` to `Z`. -/
def isCapital (c : Char) : Bool := 'A' ≤ c && c ≤ 'Z'

/-- Does a name part end between `a` and `b`, where `r` follows? It does from a small letter to a capital,
and before the last capital of a run that a small letter follows. -/
def isPartEnd (a b : Char) (r : List Char) : Bool :=
  (isSmall a && isCapital b) || (isCapital a && isCapital b && (r.head?.any isSmall))

/-- The parts of a name without underscores. -/
def nameParts : List Char → List (List Char)
  | [] => []
  | a :: r =>
    match r, nameParts r with
    | b :: s, part :: parts => if isPartEnd a b s then [a] :: part :: parts else (a :: part) :: parts
    | _, parts => [a] :: parts

/-- A list of characters in lower case. -/
def lowered (cs : List Char) : String := lower (String.ofList cs)

/-- The lower-case parts of an identifier, cut at underscores and at changes of case. -/
def splitCamelCase (s : String) : List String :=
  (splitAt '_' s.toList).flatMap fun chunk => (nameParts chunk).map lowered

/-- The lower-case tokens of an identifier: the whole, what stands between underscores, and the parts. -/
def nameTokens (s : String) : List String :=
  if s.isEmpty then []
  else lower s :: ((splitAt '_' s.toList).filter (· ≠ [])).map lowered ++ splitCamelCase s

/-! ## 2. Words of a text -/

/-- The words of free text. -/
def tokenize (s : String) : List String :=
  (splitWhere (fun c => !isWordChar c) s.toList).map String.ofList

/-- The words of an optional text. -/
def tokenize? : Option String → List String
  | some s => tokenize s
  | none => []

/-! ## 3. Tokens of a fragment -/

/-- Shorter words are not indexed. -/
def minTokenLength : Nat := 3

/-- A content of this length or more is not indexed. -/
def maxIndexedContent : Nat := 1000

/-- The words of a content that is short enough. -/
def contentTokens : Option String → List String
  | some s => if s.length < maxIndexedContent then tokenize s else []
  | none => []

/-- A list without repeated members; of equal members the first stays. -/
def distinct {α : Type} [DecidableEq α] (xs : List α) : List α := xs.foldl (fun seen x => if x ∈ seen then seen else seen ++ [x]) []

namespace Fragment

/-- All words of a fragment, repeated ones and short ones included. -/
def tokenSources (f : Fragment) : List String :=
  (f.name.map nameTokens).getD [] ++ tokenize? f.signature ++ tokenize? f.documentation ++ contentTokens f.content

/-- The tokens of a fragment, each once. -/
def tokens (f : Fragment) : List String :=
  distinct ((f.tokenSources.filter (minTokenLength ≤ ·.length)).map lower)

end Fragment

end FragmentSearch
