import FragmentSearch.Fragment.Dump
import FragmentSearch.Proofs.Json.RoundTrip
import Mathlib.Data.Set.List

/-!
# Written fragment sets

A fragment is written as an object with a field for each of its parts, and read from such an object.

* `Fragment.ofJson_toRecord`, `Fragment.ofRecord?_eq_some_iff` -- what is read of a written fragment is the fragment,
  with its vector if that was written;
* `Fragment.exists_ofRecord?_iff` -- a record is a fragment exactly if it holds texts where a fragment does;
* `Fragment.sound_toJson` -- the object has a text if the line numbers can be written and the components of the
  vector read back;
* `Dump.records_text`, `Dump.fragments?_eq_some_iff` -- so the text of a fragment set is read as the fragment set.
-/

namespace FragmentSearch

open FragmentSearch.Json (Sound)

/-- The record holds texts where a fragment has texts; null counts where a fragment may be without one. -/
structure Record.WellTyped (r : Record) : Prop where
  id : ∃ s, r.id = .text s
  name : ∃ s, r.name = .ofText? s
  signature : ∃ s, r.signature = .ofText? s
  content : ∃ s, r.content = .ofText? s
  filePath : ∃ s, r.filePath = .text s
  package : ∃ s, r.package = .ofText? s
  documentation : ∃ s, r.documentation = .ofText? s
  dependencies : ∀ v ∈ r.dependencies, ∃ s, v = .text s

namespace Fragment

/-! ## 1. Fields -/

section Fields

theorem kindOf_name (k : Kind) : Record.kindOf (.text k.name) = .ok k := by cases k <;> rfl

theorem text?_eq_some_iff {v : Json} {s : String} : text? v = some s ↔ v = .text s := by
  cases v <;> simp [text?]

theorem textOrNull?_eq_some_iff {v : Json} {s : Option String} : textOrNull? v = some s ↔ v = .ofText? s := by
  cases v <;> cases s <;> simp [textOrNull?, Json.ofText?]

/-- What is read of each value is what the value was made of, so what is read of a list is. -/
theorem mapM_eq_some_iff {α β : Type} {f : α → Option β} {g : β → α} (h : ∀ {a b}, f a = some b ↔ a = g b) {as : List α} :
    ∀ {bs : List β}, as.mapM f = some bs ↔ as = bs.map g := by
  induction as with
  | nil =>
      intro bs
      cases bs <;> simp
  | cons a as ih =>
      intro bs
      cases bs with
      | nil => simp [List.mapM_cons, Option.bind_eq_some_iff]
      | cons b bs => simp [List.mapM_cons, Option.bind_eq_some_iff, h, ih]

theorem mapM_text?_eq_some_iff {vs : List Json} {xs : List String} : vs.mapM text? = some xs ↔ vs = xs.map .text :=
  mapM_eq_some_iff text?_eq_some_iff

/-- No dependencies are written as an empty list, which counts as none. -/
theorem dependenciesOf_ofTexts (xs : List String) : Record.dependenciesOf (.ofTexts xs) = .ok (xs.map .text) := by
  cases xs with
  | nil => rfl
  | cons x xs => rfl

theorem mapM_toFloat (xs : List Float) : (xs.map Json.float).mapM Json.toFloat = .ok xs := by
  induction xs with
  | nil => rfl
  | cons x xs ih =>
      rw [List.map_cons, List.mapM_cons, ih]
      rfl

/-- No vector and an empty vector are kept apart. -/
theorem vectorOf_vectorToJson (v : Option (List Float)) : Record.vectorOf (vectorToJson v) = .ok v := by
  cases v with
  | none => rfl
  | some xs =>
      have h : Json.toFloats (.list (xs.map .float)) = .ok xs := mapM_toFloat xs
      show (Record.converted (Json.toFloats (.list (xs.map .float)))).map some = _
      rw [h]
      rfl

variable {fields : List (String × Json)} {name : String}

theorem required_of_lookup {v : Json} (h : Json.lookup name fields = some v) : Record.required fields name = .ok v := by
  rw [Record.required, h]

theorem optional_of_lookup {v : Json} (h : Json.lookup name fields = some v) : Record.optional fields name = v := by
  rw [Record.optional, h, Option.getD_some]

theorem lineNumber_of_lookup {i : Int} (h : Json.lookup name fields = some (.int i)) :
    Record.lineNumber fields name = .ok i := by
  rw [Record.lineNumber, h]
  rfl

end Fields

/-! ## 2. Records -/

section Records

/-- The fragment with its vector, or without it. -/
def kept (withVector : Bool) (f : Fragment) : Fragment := if withVector then f else { f with embedding := none }

/-- The record of a fragment. -/
def toRecord (f : Fragment) : Record :=
  { id := .text f.id, kind := f.kind, name := .ofText? f.name, signature := .ofText? f.signature,
    content := .ofText? f.content, filePath := .text f.filePath, startLine := f.startLine, endLine := f.endLine,
    package := .ofText? f.package, documentation := .ofText? f.documentation, dependencies := f.dependencies.map .text,
    embedding := f.embedding }

/-- Going on after a part that has been read. -/
theorem ok_bind {ε α β : Type} (a : α) (g : α → Except ε β) : (Except.ok a >>= g) = g a := rfl

/-- The fields of a fragment are read as its record, whatever comes after them. -/
theorem ofFields_plainFields {extra : List (String × Json)} {v : Option (List Float)} (f : Fragment)
    (h : Record.vectorOf (Record.optional (f.plainFields ++ extra) "embedding") = .ok v) :
    Record.ofFields (f.plainFields ++ extra) = .ok { f.toRecord with embedding := v } := by
  have hrequired : ∀ name v, Json.lookup name (f.plainFields ++ extra) = some v →
      Record.required (f.plainFields ++ extra) name = .ok v := fun _ _ => required_of_lookup
  have hline : ∀ name i, Json.lookup name (f.plainFields ++ extra) = some (.int i) →
      Record.lineNumber (f.plainFields ++ extra) name = .ok i := fun _ _ => lineNumber_of_lookup
  have hoptional : ∀ name v, Json.lookup name (f.plainFields ++ extra) = some v →
      Record.optional (f.plainFields ++ extra) name = v := fun _ _ => optional_of_lookup
  have hfile : (Json.lookup "file_path" (f.plainFields ++ extra)).getD (.text "") = .text f.filePath := rfl
  unfold Record.ofFields
  rw [h, hfile, hrequired "id" (.text f.id) rfl, hrequired "kind" (.text f.kind.name) rfl,
    hrequired "name" (.ofText? f.name) rfl, hline "start_line" f.startLine rfl, hline "end_line" f.endLine rfl,
    hoptional "dependencies" (.ofTexts f.dependencies) rfl, hoptional "signature" (.ofText? f.signature) rfl,
    hoptional "content" (.ofText? f.content) rfl, hoptional "package_name" (.ofText? f.package) rfl,
    hoptional "documentation" (.ofText? f.documentation) rfl]
  simp only [ok_bind, kindOf_name, dependenciesOf_ofTexts]
  rfl

theorem ofJson_toRecord (withVector : Bool) (f : Fragment) :
    Record.ofJson (f.toJson withVector) = .ok (f.kept withVector).toRecord := by
  cases withVector with
  | false => exact ofFields_plainFields f rfl
  | true => exact ofFields_plainFields f (vectorOf_vectorToJson f.embedding)

/-- **A record is a fragment exactly if it is the record of that fragment.** -/
theorem ofRecord?_eq_some_iff {r : Record} {f : Fragment} : ofRecord? r = some f ↔ r = f.toRecord := by
  constructor
  · intro h
    unfold ofRecord? at h
    simp only [Option.bind_eq_bind, Option.bind_eq_some_iff, text?_eq_some_iff, textOrNull?_eq_some_iff,
      mapM_text?_eq_some_iff, Option.pure_def, Option.some.injEq] at h
    obtain ⟨id, hid, name, hname, signature, hsignature, content, hcontent, filePath, hfile, package, hpackage,
      documentation, hdocumentation, dependencies, hdependencies, rfl⟩ := h
    unfold toRecord
    rw [← hid, ← hname, ← hsignature, ← hcontent, ← hfile, ← hpackage, ← hdocumentation, ← hdependencies]
  · rintro rfl
    unfold ofRecord? toRecord
    simp only [text?_eq_some_iff.mpr rfl, textOrNull?_eq_some_iff.mpr rfl, mapM_text?_eq_some_iff.mpr rfl,
      Option.bind_eq_bind, Option.bind_some, Option.pure_def]

/-- The fragments are those of the well-typed records. -/
theorem exists_ofRecord?_iff {r : Record} : (∃ f, ofRecord? r = some f) ↔ r.WellTyped := by
  simp only [ofRecord?_eq_some_iff]
  constructor
  · rintro ⟨f, rfl⟩
    refine ⟨⟨_, rfl⟩, ⟨_, rfl⟩, ⟨_, rfl⟩, ⟨_, rfl⟩, ⟨_, rfl⟩, ⟨_, rfl⟩, ⟨_, rfl⟩, fun v hv => ?_⟩
    obtain ⟨s, -, rfl⟩ := List.mem_map.mp hv
    exact ⟨s, rfl⟩
  · rintro ⟨⟨id, hid⟩, ⟨name, hname⟩, ⟨signature, hsignature⟩, ⟨content, hcontent⟩, ⟨filePath, hfile⟩, ⟨package, hpackage⟩,
      ⟨documentation, hdocumentation⟩, hdependencies⟩
    have htexts : r.dependencies ∈ Set.range (List.map Json.text) := by
      rw [Set.range_list_map]
      exact fun v hv => (hdependencies v hv).imp fun s hs => hs.symm
    obtain ⟨dependencies, hdependencies⟩ := htexts
    refine ⟨⟨id, r.kind, name, signature, content, filePath, r.startLine, r.endLine, package, documentation, dependencies,
      r.embedding⟩, ?_⟩
    unfold toRecord
    rw [← hid, ← hname, ← hsignature, ← hcontent, ← hfile, ← hpackage, ← hdocumentation, hdependencies]

end Records

/-! ## 3. Soundness -/

section Soundness

/-- Do the components of the vector read back? -/
def VectorReadsBack (f : Fragment) : Prop := ∀ xs, f.embedding = some xs → ∀ x ∈ xs, Json.ReadsBack x

theorem sound_ofText? (s : Option String) : Sound (.ofText? s) := by
  cases s with
  | none => exact .null
  | some s => exact .text s

theorem sound_ofTexts (xs : List String) : Sound (.ofTexts xs) := by
  refine .list fun v hv => ?_
  obtain ⟨x, _, rfl⟩ := List.mem_map.mp hv
  exact .text x

theorem sound_vectorToJson {f : Fragment} (h : f.VectorReadsBack) : Sound (vectorToJson f.embedding) := by
  cases hv : f.embedding with
  | none => exact .null
  | some xs =>
      refine .list fun v hv' => ?_
      obtain ⟨x, hx, rfl⟩ := List.mem_map.mp hv'
      exact .float (h xs hv x hx)

theorem sound_plainFields {f : Fragment} (hs : Dump.isWritable f.startLine = true)
    (he : Dump.isWritable f.endLine = true) : ∀ e ∈ f.plainFields, Sound e.2 := by
  intro e h
  simp only [plainFields, List.mem_cons, List.not_mem_nil, or_false] at h
  rcases h with rfl | rfl | rfl | rfl | rfl | rfl | rfl | rfl | rfl | rfl | rfl
  · exact .text f.id
  · exact .text f.kind.name
  · exact sound_ofText? f.name
  · exact sound_ofText? f.signature
  · exact sound_ofText? f.content
  · exact .text f.filePath
  · exact .int (of_decide_eq_true hs)
  · exact .int (of_decide_eq_true he)
  · exact sound_ofText? f.package
  · exact sound_ofText? f.documentation
  · exact sound_ofTexts f.dependencies

/-- The names of the fields are different. -/
theorem nodup_fields (withVector : Bool) (f : Fragment) (v : Json) :
    ((f.plainFields ++ if withVector then [("embedding", v)] else []).map (·.1)).Nodup := by
  cases withVector with
  | false =>
      show ["id", "kind", "name", "signature", "content", "file_path", "start_line", "end_line", "package_name",
        "documentation", "dependencies"].Nodup
      decide
  | true =>
      show ["id", "kind", "name", "signature", "content", "file_path", "start_line", "end_line", "package_name",
        "documentation", "dependencies", "embedding"].Nodup
      decide

/-- A fragment has a text if its line numbers can be written and, where it is written, its vector reads back. -/
theorem sound_toJson {withVector : Bool} {f : Fragment} (hs : Dump.isWritable f.startLine = true)
    (he : Dump.isWritable f.endLine = true) (hv : withVector = true → f.VectorReadsBack) :
    Sound (f.toJson withVector) := by
  refine .object (nodup_fields withVector f _) fun e h => ?_
  rcases List.mem_append.mp h with h | h
  · exact sound_plainFields hs he e h
  · cases withVector with
    | false => exact absurd h List.not_mem_nil
    | true =>
        rw [List.mem_singleton.mp h]
        exact sound_vectorToJson (hv rfl)

end Soundness

end Fragment

namespace Dump

/-! ## 4. Fragment sets -/

variable {withVectors : Bool} {fs : List Fragment}

theorem isWritable_of_mem (h : hasWritableLines fs = true) {f : Fragment} (hf : f ∈ fs) :
    isWritable f.startLine = true ∧ isWritable f.endLine = true := by
  have hall := List.all_eq_true.mp h f hf
  exact Bool.and_eq_true_iff.mp hall

theorem recordsFrom_toJson (withVectors : Bool) (fs : List Fragment) :
    ∀ i, recordsFrom i (fs.map (Fragment.toJson withVectors)) = .ok (fs.map fun f => (f.kept withVectors).toRecord) := by
  induction fs with
  | nil => intro i; rfl
  | cons f fs ih =>
      intro i
      rw [List.map_cons, recordsFrom, Fragment.ofJson_toRecord, ih]
      rfl

/-- The text of a fragment set is read as JSON. -/
theorem parse_text (hlines : hasWritableLines fs = true) (hv : withVectors = true → ∀ f ∈ fs, f.VectorReadsBack) :
    Json.parse (text withVectors fs) = .ok (.list (fs.map (Fragment.toJson withVectors))) := by
  refine Json.parse_renderIndented (.list fun v h => ?_)
  obtain ⟨f, hf, rfl⟩ := List.mem_map.mp h
  obtain ⟨hs, he⟩ := isWritable_of_mem hlines hf
  exact Fragment.sound_toJson hs he fun hw => hv hw f hf

/-- **The text of a fragment set is read as its records.** -/
theorem records_text (hlines : hasWritableLines fs = true) (hv : withVectors = true → ∀ f ∈ fs, f.VectorReadsBack) :
    records (text withVectors fs) = .ok (fs.map fun f => (f.kept withVectors).toRecord) := by
  rw [records, parse_text hlines hv]
  exact recordsFrom_toJson withVectors fs 0

/-- **Records are a fragment set exactly if they are the records of its fragments.** -/
theorem fragments?_eq_some_iff {rs : List Record} {fs : List Fragment} :
    fragments? rs = some fs ↔ rs = fs.map Fragment.toRecord := Fragment.mapM_eq_some_iff Fragment.ofRecord?_eq_some_iff

/-- Records are a fragment set exactly if all of them are well-typed. -/
theorem exists_fragments?_iff {rs : List Record} : (∃ fs, fragments? rs = some fs) ↔ ∀ r ∈ rs, r.WellTyped := by
  have hrange : (∃ fs, fragments? rs = some fs) ↔ rs ∈ Set.range (List.map Fragment.toRecord) :=
    exists_congr fun fs => fragments?_eq_some_iff.trans eq_comm
  rw [hrange, Set.range_list_map]
  refine forall₂_congr fun r _ => ?_
  rw [← Fragment.exists_ofRecord?_iff]
  exact exists_congr fun f => eq_comm.trans Fragment.ofRecord?_eq_some_iff.symm

/-- A fragment set is written in printable ASCII characters and line feeds. -/
theorem text_ascii (withVectors : Bool) (fs : List Fragment) : Json.IsAscii (text withVectors fs).toList := by
  rw [text, Json.renderIndented, String.toList_ofList]
  exact Json.renderAt_ascii Json.Layout.isBlank_indented 0 _

end Dump

end FragmentSearch
