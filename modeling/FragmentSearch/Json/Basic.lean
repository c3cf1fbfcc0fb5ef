/-!
# JSON values

Values of the data format in which fragment sets are exchanged and results are reported. Integers are
exact and kept apart from floating point numbers; an object keeps its fields in the order in which
their names first occurred, the last value given for a name counting.
-/

namespace FragmentSearch

/-- A JSON value. -/
inductive Json where
  | null
  | bool (b : Bool)
  | int (i : Int)
  | float (x : Float)
  | text (s : String)
  | list (items : List Json)
  | object (fields : List (String × Json))
  deriving Inhabited

namespace Json

/-- The value of the first field named `name`. -/
def lookup (name : String) : List (String × Json) → Option Json
  | [] => none
  | (n, v) :: r => if n = name then some v else lookup name r

/-- Sets a field: in its place if the name occurs, otherwise at the end. -/
def setField (name : String) (v : Json) : List (String × Json) → List (String × Json)
  | [] => [(name, v)]
  | (n, w) :: r => if n = name then (n, v) :: r else (n, w) :: setField name v r

/-- The field of an object; none for any other value. -/
def field? (name : String) : Json → Option Json
  | .object fields => lookup name fields
  | _ => none

/-- An optional text as a value. -/
def ofText? : Option String → Json
  | some s => .text s
  | none => .null

/-- A list of texts as a value. -/
def ofTexts (xs : List String) : Json := .list (xs.map .text)

/-- A natural number as a value. -/
def ofNat (n : Nat) : Json := .int n

end Json

end FragmentSearch
