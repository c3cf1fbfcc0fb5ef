import FragmentSearch.Index.Basic

/-!
# Relations between fragments

A fragment depends on those that its dependencies name, and is a sibling of those in its package. A
dependency names a fragment by its id, and in a resolving index by its bare name too.
-/

namespace FragmentSearch.Index

/-- The ids that a dependency stands for. -/
def resolve (ix : Index) (reference : String) : List String :=
  let known := (Table.get? reference ix.place).isSome
  if ix.resolvesNames then
    let named := (Table.get? reference ix.idsOfName).getD []
    if known then addOnce reference named else named
  else if known then [reference]
  else []

/-- What the fragment of an id depends on by name. -/
def referencesOf (ix : Index) (id : String) : List String := (Table.get? id ix.references).getD []

/-- The fragments of some ids. -/
def getAll (ix : Index) (ids : List String) : List Fragment := ids.filterMap ix.get?

/-- The fragments on which the fragment of an id depends, in the order of their ids. -/
def dependencies (ix : Index) (id : String) : List Fragment :=
  ix.getAll (inOrder (distinct ((ix.referencesOf id).flatMap ix.resolve)))

/-- Do these references name the fragment of an id? -/
def namedIn (ix : Index) (id : String) (references : List String) : Bool :=
  references.contains id ||
    (ix.resolvesNames && match (ix.get? id).bind (·.name) with
      | some n => references.contains n
      | none => false)

/-- The fragments that depend on the fragment of an id, in the order of their ids. -/
def dependents (ix : Index) (id : String) : List Fragment :=
  ix.getAll (inOrder ((ix.references.filter fun e => ix.namedIn id e.2).map (·.1)))

/-- The other fragments in the package of a fragment. -/
def siblings (ix : Index) (f : Fragment) : List Fragment :=
  match f.package with
  | some p => (ix.byPackage p).filter (·.id ≠ f.id)
  | none => []

end FragmentSearch.Index
