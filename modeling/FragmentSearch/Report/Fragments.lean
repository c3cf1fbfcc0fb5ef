import FragmentSearch.Fragment.Basic
import FragmentSearch.Text.Words

/-!
# Reports of fragments

All that is known of one fragment, and the list of many.
-/

namespace FragmentSearch.Report

/-! ## 1. One fragment -/

/-- Is a text given that is not blank? -/
def hasText : Option String → Bool
  | some s => !(Text.trim s).isEmpty
  | none => false

/-- A section of the details, if there is something to show. -/
def sectionLines (isShown : Bool) (title body : String) : List String :=
  if isShown then ["", "--- " ++ title ++ " ---", body] else []

/-- A character `n` times. -/
def line (n : Nat) (c : Char) : String := String.ofList (List.replicate n c)

/-- The package as it is shown. -/
def packageText : Option String → String
  | some p => if p.isEmpty then "n/a" else p
  | none => "n/a"

/-- All that is known of a fragment. -/
def detail (f : Fragment) : String :=
  let bar := line 80 '='
  "\n".intercalate (["", bar, "Element: " ++ Fragment.shown f.name ++ " (" ++ f.id ++ ")", "Kind: " ++ f.kind.name,
      "File: " ++ f.filePath, "Lines: " ++ toString f.startLine ++ "-" ++ toString f.endLine,
      "Package: " ++ packageText f.package] ++
    sectionLines (hasText f.documentation) "Documentation" (f.documentation.getD "") ++
    sectionLines (hasText f.signature) "Signature" (f.signature.getD "") ++
    sectionLines (!f.dependencies.isEmpty) "Dependencies" (", ".intercalate f.dependencies) ++
    ["", line 35 '-' ++ " Content " ++ line 36 '-', f.content.getD "", bar, ""])

/-! ## 2. Many fragments -/

/-- So many fragments are listed if no limit is given. -/
def listLimit : Int := 50

/-- The first `limit` members; a negative limit leaves out that many at the end. -/
def firstOf {α : Type} (limit : Int) (xs : List α) : List α :=
  if limit < 0 then xs.take (xs.length - limit.natAbs) else xs.take limit.toNat

/-- The first fragments, one on a line, and how many are left out. -/
def listing (limit : Int) (fs : List Fragment) : String :=
  let n : Int := fs.length
  "\n".intercalate (
    ("\nCode elements (first " ++ toString (min limit n) ++ " of " ++ toString n ++ "):") ::
    (firstOf limit fs).map (fun f => "  " ++ f.title) ++
    (if limit < n then ["  ... and " ++ toString (n - limit) ++ " more"] else []))

end FragmentSearch.Report
