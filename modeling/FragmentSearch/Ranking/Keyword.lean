import FragmentSearch.Index.Search
import FragmentSearch.Ranking.ScoreTable

/-!
# Ranking by keyword

Every fragment is compared with every term of the query: with its name, exactly, in part and by
similarity, and with the text that can be searched, where an early place counts more.
-/

namespace FragmentSearch

open FragmentSearch.Text

/-! ## 1. What can go wrong -/

/-- Why a ranking cannot be made. -/
inductive RankingFault where
  /-- A fragment has no name. -/
  | unnamed
  /-- There is no query. -/
  | noQuery
  /-- There is no limit. -/
  | noLimit
  deriving DecidableEq

/-- The report of a fault. -/
def RankingFault.message : RankingFault → String
  | .unnamed | .noQuery => "'NoneType' object has no attribute 'lower'"
  | .noLimit => "unsupported operand type(s) for *: 'NoneType' and 'int'"

namespace Keyword

/-! ## 2. The text that is searched -/

/-- So much of the content is searched. -/
def previewLength : Nat := 500

/-- A part of the text with the blank that ends it. -/
def part : Option String → String
  | some s => s ++ " "
  | none => ""

/-- The beginning of a content. -/
def preview : Option String → String
  | some s => String.ofList (s.toList.take previewLength)
  | none => ""

/-- The text of a fragment with a given name: name, signature, documentation and the beginning of the
content. -/
def searchableText (name : String) (f : Fragment) : String :=
  name ++ " " ++ part f.signature ++ part f.documentation ++ preview f.content

/-! ## 3. Scores -/

variable {α : Type} [Score α]

/-- Classes and methods count more. -/
def kindFactor : Kind → α
  | .classKind => 1.2
  | .method => 1.1
  | _ => 1.0

/-- Adds what a term finds in a lower-case name: the whole of it or a part. -/
def addName (term name : String) (s : α) : α :=
  if name = term then s + 10.0
  else if occursIn term name then s + 5.0
  else s

/-- Adds for a similar name. -/
def addSimilarity (similarity : α) (s : α) : α :=
  if (0.8 : α) < similarity then s + similarity * 3.0 else s

/-- Adds for a term in the lower-case text: the earlier, the more. -/
def addText (term text : String) (s : α) : α :=
  match indexOf? term.toList text.toList with
  | some i => s + 2.0 * (1.0 + (1.0 - (i : α) / (text.length : α)))
  | none => s

/-- The score after one more term. The factor of the kind is applied after every term. -/
def addTerm (y : Yardstick α) (name text : String) (k : Kind) (s : α) (term : String) : α :=
  addText term text (addSimilarity (y.similarity term name) (addName term name s)) * kindFactor k

/-- The score of a fragment with a given name. -/
def termsScore (y : Yardstick α) (terms : List String) (name : String) (f : Fragment) : α :=
  let s := terms.foldl (addTerm y (lower name) (lower (searchableText name f)) f.kind) 0.0
  if f.isDocumented then s * 1.1 else s

/-- The score of a fragment, which must have a name. -/
def scoreTerms (y : Yardstick α) (terms : List String) (f : Fragment) : Except RankingFault α :=
  match f.name with
  | some name => .ok (termsScore y terms name f)
  | none => .error .unnamed

/-- The relevance of one fragment by itself. -/
def relevance (y : Yardstick α) (query : String) (f : Fragment) : Except RankingFault α :=
  (scoreTerms y (queryTerms query) f).map (· / 10.0)

/-! ## 4. The ranking -/

/-- Enters a fragment if its score is positive. -/
def enter (y : Yardstick α) (terms : List String) (t : ScoreTable α) (f : Fragment) :
    Except RankingFault (ScoreTable α) :=
  match scoreTerms y terms f with
  | .ok s => .ok (if (0.0 : α) < s then t.put f s else t)
  | .error e => .error e

/-- The score table of a query. -/
def table (y : Yardstick α) (ix : Index) (query : String) : Except RankingFault (ScoreTable α) :=
  ix.fragments.foldlM (enter y (queryTerms query)) []

/-- The best fragments for a query. -/
def rank (y : Yardstick α) (ix : Index) (query : String) (limit : Int) : Except RankingFault (ScoreTable α) :=
  (table y ix query).map (ScoreTable.best limit)

end Keyword

end FragmentSearch
