import FragmentSearch.Files.Dump
import FragmentSearch.Proofs.Files.Tree
import FragmentSearch.Proofs.Fragment.Dump
import FragmentSearch.Ranking.Strategy

/-!
# Fragment sets through files

A fragment set that has been written to a file is read from it.

* `FileTree.load_untyped_iff` -- a file that is loaded is a fragment set exactly if its records are well-typed;
* `FileTree.decode?_ascii` -- a text without carriage returns is decoded from its bytes as it is;
* `FileTree.load_dump` -- what is loaded is what was dumped, except for vectors that were left out, and searching
  the one is searching the other.
-/

namespace FragmentSearch

namespace FileTree

/-! ## 1. Bytes and texts -/

section Decoding

theorem fromUTF8?_toUTF8 (s : String) : String.fromUTF8? s.toUTF8 = some s := dif_pos s.isValidUTF8

theorem lineFeeds_eq_self (s : List Char) (h : '\r' ∉ s) : lineFeeds s = s := by
  induction s with
  | nil => rfl
  | cons c s ih =>
      have hc : c ≠ '\r' := fun e => h (List.mem_cons.mpr (Or.inl e.symm))
      have hs : '\r' ∉ s := fun e => h (List.mem_cons_of_mem _ e)
      rw [lineFeeds, ih hs]
      · exact fun r e => absurd e hc
      · exact fun e => absurd e hc

/-- ASCII text without carriage returns is decoded as it is. -/
theorem decode?_ascii {s : String} (h : Json.IsAscii s.toList) : decode? s.toUTF8 = some s := by
  have hr : '\r' ∉ s.toList := by
    intro hmem
    have hall : ¬ ('\r' = '\n' ∨ Json.IsPrintable '\r') := by decide
    exact hall (h '\r' hmem)
  rw [decode?, fromUTF8?_toUTF8, Option.map_some, lineFeeds_eq_self s.toList hr, String.ofList_toList]

end Decoding

/-! ## 2. Well-typed files -/

section Types

variable {t : FileTree} {file : Path}

/-- The records in the file to which a path leads, if they can be read, are well-typed. -/
def WellTyped (t : FileTree) (path : Path) : Prop :=
  ∀ file rs, t.resolve path = .ok file → t.records file = .ok rs → ∀ r ∈ rs, r.WellTyped

/-- The records themselves are read whatever they hold. -/
theorem records_ne_untyped {named : Path} : t.records file ≠ .error (.untyped named) := by
  unfold records
  split
  · nofun
  · split
    · nofun
    · split <;> nofun

/-- Just the files with records that are not well-typed are not followed. -/
theorem load_untyped_iff {named : Path} :
    t.load file = .error (.untyped named) ↔
      named = file ∧ ∃ rs, t.records file = .ok rs ∧ ¬ ∀ r ∈ rs, r.WellTyped := by
  unfold load
  cases hrecords : t.records file with
  | error e =>
      refine ⟨fun h => ?_, fun ⟨_, _, h, _⟩ => nomatch h⟩
      cases h
      exact absurd hrecords records_ne_untyped
  | ok rs =>
      simp only [Except.ok.injEq, exists_eq_left', ← Dump.exists_fragments?_iff]
      cases Dump.fragments? rs with
      | some fs => simp
      | none => simp [eq_comm]

end Types

/-! ## 3. Dumping and loading -/

section Exchange

variable {t t' : FileTree} {withVectors : Bool} {fs : List Fragment} {file : Path}

/-- A dump that succeeds has written its text. -/
theorem write_of_dump (h : t.dump withVectors fs file = .ok t') :
    Dump.hasWritableLines fs = true ∧ t.write file (Dump.text withVectors fs).toUTF8 = .ok t' := by
  unfold dump at h
  split at h
  · next hlines =>
      refine ⟨hlines, ?_⟩
      split at h
      · next hw =>
          cases h
          exact hw
      · cases h
  · cases h

/-- A dump succeeds exactly if all line numbers can be written and a file can be. -/
theorem dump_iff (t : FileTree) (withVectors : Bool) (fs : List Fragment) (file : Path) :
    (∃ t', t.dump withVectors fs file = .ok t') ↔ Dump.hasWritableLines fs = true ∧ t.IsWritable file := by
  constructor
  · rintro ⟨t', h⟩
    obtain ⟨hlines, hw⟩ := write_of_dump h
    exact ⟨hlines, isWritable_of_write hw⟩
  · rintro ⟨hlines, hfile⟩
    obtain ⟨f, _, hw⟩ := write_eq hfile (Dump.text withVectors fs).toUTF8
    refine ⟨{ t with root := Node.put (.file (Dump.text withVectors fs).toUTF8) f.place.reverse t.root }, ?_⟩
    unfold dump
    rw [if_pos hlines, hw]

/-- What is left of fragments that lose nothing. -/
theorem map_kept (h : withVectors = true ∨ ∀ f ∈ fs, f.embedding = none) :
    fs.map (Fragment.kept withVectors) = fs := by
  have hkept : ∀ f ∈ fs, f.kept withVectors = f := by
    intro f hf
    unfold Fragment.kept
    split
    · rfl
    · next hw =>
        have he : f.embedding = none := h.resolve_left hw f hf
        rw [← he]
  rw [List.map_congr_left hkept, List.map_id']

/-- A file with the text of some fragments is loaded as what is left of them. -/
theorem load_text (hbytes : t.bytes file = .ok (Dump.text withVectors fs).toUTF8)
    (hlines : Dump.hasWritableLines fs = true) (hv : withVectors = true → ∀ f ∈ fs, f.VectorReadsBack) :
    t.load file = .ok (fs.map (Fragment.kept withVectors)) := by
  unfold load records
  rw [hbytes]
  have hfragments : Dump.fragments? (fs.map fun f => (f.kept withVectors).toRecord) =
      some (fs.map (Fragment.kept withVectors)) := by
    rw [Dump.fragments?_eq_some_iff, List.map_map]
    rfl
  simp only [decode?_ascii (Dump.text_ascii withVectors fs), Dump.records_text hlines hv, hfragments]

/-- **What is loaded is what was dumped.** A dump succeeds exactly if every line number is short enough to be
written and the path leads to a place for a file. The file then holds the text of the fragments, in ASCII, and
is loaded as the same fragments in the same order, with their vectors if those were written. If no vector was
left out, an index of what is loaded gives what an index of the original gives, for every query and limit and
by every ranking. Of a written vector it is assumed that the text of each component reads back. -/
theorem load_dump (t : FileTree) (withVectors : Bool) (fs : List Fragment) (file : Path)
    (hv : withVectors = true → ∀ f ∈ fs, f.VectorReadsBack) :
    ((∃ t', t.dump withVectors fs file = .ok t') ↔ Dump.hasWritableLines fs = true ∧ t.IsWritable file) ∧
    ∀ t', t.dump withVectors fs file = .ok t' →
      t'.bytes file = .ok (Dump.text withVectors fs).toUTF8 ∧ Json.IsAscii (Dump.text withVectors fs).toList ∧
      t'.load file = .ok (fs.map (Fragment.kept withVectors)) ∧
      ((withVectors = true ∨ ∀ f ∈ fs, f.embedding = none) → ∀ loaded, t'.load file = .ok loaded →
        loaded = fs ∧ ∀ (resolves : Bool) (o : Outside) (s : Strategy) (query : String) (limit : Int) (j : Journal),
          s.rank o (.ofFragments resolves loaded) query limit j =
            s.rank o (.ofFragments resolves fs) query limit j) := by
  refine ⟨dump_iff t withVectors fs file, fun t' h => ?_⟩
  obtain ⟨hlines, hw⟩ := write_of_dump h
  have hbytes := bytes_write hw
  have hascii := Dump.text_ascii withVectors fs
  have hload : t'.load file = .ok (fs.map (Fragment.kept withVectors)) := load_text hbytes hlines hv
  refine ⟨hbytes, hascii, hload, fun hkept loaded hl => ?_⟩
  have e : loaded = fs := by
    rw [hload, map_kept hkept] at hl
    exact (Except.ok.inj hl).symm
  exact ⟨e, fun resolves o s query limit j => by rw [e]⟩

/-- A directory without files. -/
def blank : FileTree := ⟨.directory [], []⟩

/-- A method with characters of all kinds in its texts, negative and great line numbers, and a vector. -/
def sample : Fragment :=
  { id := "a\"\\é😀", kind := .method, name := some "", signature := none, content := some "\n\t\x01\x7f/",
    filePath := "m.py", startLine := -7, endLine := 100000000000000000000, package := none, documentation := some "",
    dependencies := ["b", ""], embedding := some [0.5] }

/-- The sample is dumped with its vector and loaded again. -/
theorem load_dump_sample :
    sample.VectorReadsBack ∧
    ∃ t', blank.dump true [sample] ⟨"", ["dump.json"]⟩ = .ok t' ∧ t'.load ⟨"", ["dump.json"]⟩ = .ok [sample] := by
  have hv : sample.VectorReadsBack := by
    rintro xs hxs x hx
    obtain rfl := Option.some.inj hxs
    rw [List.mem_singleton.mp hx]
    rfl
  have hfile : blank.IsWritable ⟨"", ["dump.json"]⟩ := by
    refine ⟨⟨["dump.json"], none⟩, Node.follow_of_leads ?_, fun es h => nomatch h⟩
    exact .fresh _ rfl (by decide) (by decide) rfl
  obtain ⟨hiff, hdump⟩ := load_dump blank true [sample] ⟨"", ["dump.json"]⟩ fun _ f hf =>
    List.mem_singleton.mp hf ▸ hv
  obtain ⟨t', ht'⟩ := hiff.mpr ⟨by decide +kernel, hfile⟩
  obtain ⟨_, _, hload, _⟩ := hdump t' ht'
  exact ⟨hv, t', ht', hload⟩

end Exchange

end FileTree

end FragmentSearch
