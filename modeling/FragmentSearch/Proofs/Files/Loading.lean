import FragmentSearch.Files.Dump
import FragmentSearch.Proofs.Files.Tree
import FragmentSearch.Proofs.Json.Rest
import FragmentSearch.Proofs.Provider.Vectors

/-!
# Loading a file

What comes of loading a file is decided in stages: bytes, text, value, items, records.

* `Record.ofJson_overflow_iff` -- which values are no records because a number is out of range;
* `Dump.recordsFrom_eq_ok_iff`, `Dump.recordsFrom_eq_error_iff` -- items are read one by one, up to the first that is
  refused;
* `FileTree.records_exact` -- a file gives one record for each of its items, in order, and otherwise a fault that is
  foreseen, unless its bytes are no text or a number is out of range.
-/

namespace FragmentSearch

/-! ## 1. Numbers out of range -/

/-- Of the values that are no integers only an infinite number is out of range. -/
theorem Json.toInt_overflow_iff {v : Json} :
    (∃ e, v.toInt = .error e ∧ e.isOverflow = true) ↔
      ∃ x, v = .float x ∧ Decimal.truncate? x = none ∧ x.isNaN = false := by
  constructor
  · rintro ⟨e, h, he⟩
    unfold Json.toInt at h
    split at h
    · cases h
    · cases h
    · next x =>
        split at h
        · cases h
        · next hx =>
            cases h
            refine ⟨x, rfl, hx, ?_⟩
            cases hnan : x.isNaN with
            | false => rfl
            | true =>
                rw [hnan] at he
                cases he
    · unfold readInteger at h
      split at h <;> cases h <;> cases he
    · cases h
      cases he
  · rintro ⟨x, rfl, hx, hnan⟩
    refine ⟨.infiniteInteger, ?_, rfl⟩
    unfold Json.toInt
    dsimp only
    rw [hx, hnan]
    rfl

namespace Record

/-- The object has the fields that a record must have. -/
structure Named (fields : List (String × Json)) : Prop where
  id : ∃ v, Json.lookup "id" fields = some v
  kind : ∃ v k, Json.lookup "kind" fields = some v ∧ kindOf v = .ok k
  name : ∃ v, Json.lookup "name" fields = some v

/-- A line number is infinite. -/
def InfiniteLine (fields : List (String × Json)) (name : String) : Prop :=
  ∃ x, Json.lookup name fields = some (.float x) ∧ Decimal.truncate? x = none ∧ x.isNaN = false

/-- A field of the object is the first that is no part of a record, and it holds a number out of range: a line number is
infinite, or a component of the vector is an integer beyond the floating point numbers. -/
inductive Overflows (fields : List (String × Json)) : Prop where
  | startLine (hnamed : Named fields) (hstart : InfiniteLine fields "start_line")
  | endLine (hnamed : Named fields) (i : Int) (hstart : lineNumber fields "start_line" = .ok i)
      (hend : InfiniteLine fields "end_line")
  | vector (hnamed : Named fields) (i k : Int) (ds : List Json) (hstart : lineNumber fields "start_line" = .ok i)
      (hend : lineNumber fields "end_line" = .ok k)
      (hdependencies : dependenciesOf (optional fields "dependencies") = .ok ds)
      (hvector : OutOfRange (optional fields "embedding"))

section Overflow

variable {fields : List (String × Json)} {name : String}

theorem required_eq_error {e : RecordError} (h : required fields name = .error e) : e.isOverflow = false := by
  unfold required at h
  split at h <;> cases h
  rfl

theorem required_eq_ok_iff {v : Json} :
    required fields name = .ok v ↔ Json.lookup name fields = some v := by
  unfold required
  cases Json.lookup name fields with
  | none => exact ⟨nofun, nofun⟩
  | some w => exact ⟨fun h => congrArg some (Except.ok.inj h), fun h => congrArg _ (Option.some.inj h)⟩

theorem kindOf_eq_error {v : Json} {e : RecordError} (h : kindOf v = .error e) : e.isOverflow = false := by
  unfold kindOf at h
  dsimp only at h
  split at h <;> cases h
  rfl

theorem converted_overflow_iff {α : Type} {x : Except ConversionError α} :
    (∃ e, converted x = .error e ∧ e.isOverflow = true) ↔ ∃ e, x = .error e ∧ e.isOverflow = true := by
  cases x with
  | ok a => exact ⟨nofun, nofun⟩
  | error e =>
      constructor
      · rintro ⟨_, ⟨⟩, h⟩
        exact ⟨e, rfl, h⟩
      · rintro ⟨_, ⟨⟩, h⟩
        exact ⟨.conversion e, rfl, h⟩

theorem lineNumber_overflow_iff :
    (∃ e, lineNumber fields name = .error e ∧ e.isOverflow = true) ↔ InfiniteLine fields name := by
  unfold lineNumber InfiniteLine
  rw [converted_overflow_iff, Json.toInt_overflow_iff]
  cases Json.lookup name fields with
  | none => exact ⟨nofun, nofun⟩
  | some v => simp only [Option.getD_some, Option.some.injEq]

theorem dependenciesOf_eq_error {v : Json} {e : RecordError} (h : dependenciesOf v = .error e) :
    e.isOverflow = false := by
  unfold dependenciesOf at h
  split at h
  · unfold Json.items at h
    split at h <;> cases h
    rfl
  · cases h

theorem vectorOf_overflow_iff {v : Json} :
    (∃ e, vectorOf v = .error e ∧ e.isOverflow = true) ↔ OutOfRange v := by
  rw [← toFloats_overflow_iff, ← converted_overflow_iff]
  unfold vectorOf
  split
  · refine ⟨nofun, ?_⟩
    rintro ⟨e, h, he⟩
    cases h
    cases he
  · simp only [map_eq_error_iff]

/-- **When a record is out of range.** The fields are read in their order, and no step before the first line number is out
of range. -/
theorem ofFields_overflow_iff : (∃ e, ofFields fields = .error e ∧ e.isOverflow = true) ↔ Overflows fields := by
  unfold ofFields
  simp only [bind_eq_error_iff, required_eq_ok_iff]
  constructor
  · rintro ⟨e, h, he⟩
    rcases h with h | ⟨id, hid, h⟩
    · rw [required_eq_error h] at he
      cases he
    rcases h with h | ⟨v, hv, h⟩
    · rw [required_eq_error h] at he
      cases he
    rcases h with h | ⟨k, hk, h⟩
    · rw [kindOf_eq_error h] at he
      cases he
    rcases h with h | ⟨name, hname, h⟩
    · rw [required_eq_error h] at he
      cases he
    have hnamed : Named fields := ⟨⟨id, hid⟩, ⟨v, k, hv, hk⟩, ⟨name, hname⟩⟩
    rcases h with h | ⟨i, hi, h⟩
    · exact .startLine hnamed (lineNumber_overflow_iff.mp ⟨e, h, he⟩)
    rcases h with h | ⟨i', hi', h⟩
    · exact .endLine hnamed i hi (lineNumber_overflow_iff.mp ⟨e, h, he⟩)
    rcases h with h | ⟨ds, hds, h⟩
    · rw [dependenciesOf_eq_error h] at he
      cases he
    rcases h with h | ⟨xs, hxs, h⟩
    · exact .vector hnamed i i' ds hi hi' hds (vectorOf_overflow_iff.mp ⟨e, h, he⟩)
    · cases h
  · rintro (⟨⟨⟨id, hid⟩, ⟨v, k, hv, hk⟩, name, hname⟩, hstart⟩ |
      ⟨⟨⟨id, hid⟩, ⟨v, k, hv, hk⟩, name, hname⟩, i, hi, hend⟩ |
      ⟨⟨⟨id, hid⟩, ⟨v, k, hv, hk⟩, name, hname⟩, i, i', ds, hi, hi', hds, hvector⟩)
    · obtain ⟨e, he, hoverflow⟩ := lineNumber_overflow_iff.mpr hstart
      exact ⟨e, Or.inr ⟨id, hid, Or.inr ⟨v, hv, Or.inr ⟨k, hk, Or.inr ⟨name, hname, Or.inl he⟩⟩⟩⟩, hoverflow⟩
    · obtain ⟨e, he, hoverflow⟩ := lineNumber_overflow_iff.mpr hend
      exact ⟨e, Or.inr ⟨id, hid, Or.inr ⟨v, hv, Or.inr ⟨k, hk, Or.inr ⟨name, hname, Or.inr ⟨i, hi, Or.inl he⟩⟩⟩⟩⟩, hoverflow⟩
    · obtain ⟨e, he, hoverflow⟩ := vectorOf_overflow_iff.mpr hvector
      exact ⟨e, Or.inr ⟨id, hid, Or.inr ⟨v, hv, Or.inr ⟨k, hk, Or.inr ⟨name, hname, Or.inr ⟨i, hi, Or.inr ⟨i', hi',
        Or.inr ⟨ds, hds, Or.inl he⟩⟩⟩⟩⟩⟩⟩, hoverflow⟩

theorem ofJson_overflow_iff {v : Json} :
    (∃ e, ofJson v = .error e ∧ e.isOverflow = true) ↔ ∃ fields, v = .object fields ∧ Overflows fields := by
  cases v with
  | object fields =>
      refine ofFields_overflow_iff.trans ⟨fun h => ⟨fields, rfl, h⟩, ?_⟩
      rintro ⟨_, ⟨⟩, h⟩
      exact h
  | null | bool | int | float | text | list =>
      refine ⟨?_, nofun⟩
      rintro ⟨e, h, he⟩
      cases h
      cases he

end Overflow

end Record

/-! ## 2. Items -/

namespace Dump

theorem recordsFrom_eq_ok_iff {items : List Json} : ∀ {i : Nat} {rs : List Record},
    recordsFrom i items = .ok rs ↔ List.Forall₂ (fun v r => Record.ofJson v = .ok r) items rs := by
  induction items with
  | nil =>
      intro i rs
      constructor
      · rintro ⟨⟩
        exact .nil
      · rintro ⟨⟩
        rfl
  | cons v items ih =>
      intro i rs
      unfold recordsFrom
      cases hv : Record.ofJson v with
      | error e =>
          refine ⟨nofun, fun h => ?_⟩
          cases h with
          | cons hr hrs => cases hv.symm.trans hr
      | ok r =>
          dsimp only
          cases hrest : recordsFrom (i + 1) items with
          | error e =>
              refine ⟨nofun, fun h => ?_⟩
              cases h with
              | cons hr hrs => cases hrest.symm.trans (ih.mpr hrs)
          | ok rest =>
              constructor
              · rintro ⟨⟩
                exact .cons hv (ih.mp hrest)
              · intro h
                cases h with
                | cons hr hrs =>
                    cases hv.symm.trans hr
                    cases hrest.symm.trans (ih.mpr hrs)
                    rfl

/-- The error is that of the first item that is refused. -/
theorem recordsFrom_eq_error_iff {items : List Json} : ∀ {i : Nat} {e : Error},
    recordsFrom i items = .error e ↔ ∃ before v after r, items = before ++ v :: after ∧
      (∀ b ∈ before, ∃ c, Record.ofJson b = .ok c) ∧ Record.ofJson v = .error r ∧ e = .invalid (i + before.length) r := by
  induction items with
  | nil =>
      intro i e
      refine ⟨nofun, ?_⟩
      rintro ⟨before, v, after, r, h, -⟩
      exact absurd h (List.append_ne_nil_of_right_ne_nil _ (List.cons_ne_nil _ _)).symm
  | cons v items ih =>
      intro i e
      unfold recordsFrom
      cases hv : Record.ofJson v with
      | error r =>
          constructor
          · rintro ⟨⟩
            exact ⟨[], v, items, r, rfl, fun _ h => absurd h List.not_mem_nil, hv, rfl⟩
          · rintro ⟨before, v', after, r', h, hbefore, hr, rfl⟩
            cases before with
            | nil =>
                cases h
                cases hv.symm.trans hr
                rfl
            | cons b before =>
                cases h
                obtain ⟨c, hc⟩ := hbefore _ List.mem_cons_self
                cases hv.symm.trans hc
      | ok r₀ =>
          rw [map_eq_error_iff, ih]
          constructor
          · rintro ⟨before, v', after, r, rfl, hbefore, hr, rfl⟩
            refine ⟨v :: before, v', after, r, rfl, List.forall_mem_cons.mpr ⟨⟨r₀, hv⟩, hbefore⟩, hr, ?_⟩
            rw [List.length_cons, Nat.add_right_comm, Nat.add_assoc]
          · rintro ⟨before, v', after, r, h, hbefore, hr, rfl⟩
            cases before with
            | nil =>
                cases h
                cases hv.symm.trans hr
            | cons b' before =>
                cases h
                refine ⟨before, v', after, r, rfl, fun c hc => hbefore c (List.mem_cons_of_mem _ hc), hr, ?_⟩
                rw [List.length_cons, Nat.add_right_comm, Nat.add_assoc]

end Dump

/-! ## 3. Files -/

namespace FileTree

/-- The file holds a text. -/
def HoldsText (t : FileTree) (file : Path) (s : String) : Prop := ∃ b, t.bytes file = .ok b ∧ decode? b = some s

/-- The file holds a value as JSON, whose items are these. -/
def HoldsItems (t : FileTree) (file : Path) (items : List Json) : Prop :=
  ∃ s v, t.HoldsText file s ∧ Json.parse s = .ok v ∧ Dump.itemsOf v = some items

/-- Loading a file breaks off: its bytes are no text, an integer in its text is too long, or a number of the first item
that is no record is out of range. -/
inductive BreaksOff (t : FileTree) (file : Path) : Prop where
  | notText (b : ByteArray) (hbytes : t.bytes file = .ok b) (hdecode : decode? b = none)
  | integerTooLong (s : String) (n : Nat) (htext : t.HoldsText file s) (hparse : Json.parse s = .error (.integerTooLong n))
      (hrun : Json.HasLongRun n s.toList)
  | outOfRange (before after : List Json) (fields : List (String × Json))
      (hitems : t.HoldsItems file (before ++ .object fields :: after)) (hbefore : ∀ v ∈ before, ∃ r, Record.ofJson v = .ok r)
      (hfields : Record.Overflows fields)

section Loading

variable {t : FileTree} {file : Path}

theorem records_of_bytes {b : ByteArray} (hbytes : t.bytes file = .ok b) (hdecode : decode? b = none) :
    t.records file = .error (.notText file) := by
  unfold records
  rw [hbytes]
  dsimp only
  rw [hdecode]

theorem records_of_text {s : String} (h : t.HoldsText file s) :
    t.records file = (Dump.records s).mapError (.unfit file) := by
  obtain ⟨b, hb, hs⟩ := h
  unfold records
  rw [hb]
  dsimp only
  rw [hs]
  dsimp only
  cases Dump.records s with
  | ok rs => rfl
  | error e => rfl

theorem records_of_fault {s : String} {fault : Json.Fault} (h : t.HoldsText file s) (hparse : Json.parse s = .error fault) :
    t.records file = .error (.unfit file (.malformed s fault)) := by
  rw [records_of_text h, Dump.records, hparse]
  rfl

theorem records_of_items {items : List Json} (h : t.HoldsItems file items) :
    t.records file = (Dump.recordsFrom 0 items).mapError (.unfit file) := by
  obtain ⟨s, v, hs, hv, hitems⟩ := h
  rw [records_of_text hs, Dump.records, hv]
  dsimp only
  rw [hitems]

/-- The stages of loading: whatever does not come as far as the items is refused at an earlier stage. -/
theorem records_stages (t : FileTree) (file : Path) :
    (∃ e, t.records file = .error (.unreadable file e)) ∨
    (∃ b, t.bytes file = .ok b ∧ decode? b = none) ∨
    (∃ s fault, t.HoldsText file s ∧ Json.parse s = .error fault) ∨
    t.records file = .error (.unfit file .noList) ∨
    ∃ items, t.HoldsItems file items := by
  cases hbytes : t.bytes file with
  | error e =>
      refine Or.inl ⟨e, ?_⟩
      unfold records
      rw [hbytes]
  | ok b =>
  cases hdecode : decode? b with
  | none => exact Or.inr (Or.inl ⟨b, rfl, hdecode⟩)
  | some s =>
  have htext : t.HoldsText file s := ⟨b, hbytes, hdecode⟩
  cases hparse : Json.parse s with
  | error fault => exact Or.inr (Or.inr (Or.inl ⟨s, fault, htext, hparse⟩))
  | ok v =>
  cases hitems : Dump.itemsOf v with
  | none =>
      refine Or.inr (Or.inr (Or.inr (Or.inl ?_)))
      rw [records_of_text htext, Dump.records, hparse]
      dsimp only
      rw [hitems]
      rfl
  | some items => exact Or.inr (Or.inr (Or.inr (Or.inr ⟨items, s, v, htext, hparse, hitems⟩)))

/-- **A file gives one record for each of its items**, in their order. -/
theorem records_eq_ok_iff {rs : List Record} :
    t.records file = .ok rs ↔
      ∃ items, t.HoldsItems file items ∧ List.Forall₂ (fun v r => Record.ofJson v = .ok r) items rs := by
  constructor
  · intro h
    rcases records_stages t file with ⟨e, he⟩ | ⟨b, hb, hdecode⟩ | ⟨s, fault, hs, hparse⟩ | hlist | ⟨items, hitems⟩
    · cases he.symm.trans h
    · cases (records_of_bytes hb hdecode).symm.trans h
    · cases (records_of_fault hs hparse).symm.trans h
    · cases hlist.symm.trans h
    · rw [records_of_items hitems] at h
      cases hread : Dump.recordsFrom 0 items with
      | error e =>
          rw [hread] at h
          cases h
      | ok rs' =>
          rw [hread] at h
          cases h
          exact ⟨items, hitems, Dump.recordsFrom_eq_ok_iff.mp hread⟩
  · rintro ⟨items, hitems, hall⟩
    rw [records_of_items hitems, Dump.recordsFrom_eq_ok_iff.mpr hall]
    rfl

/-- **When loading breaks off.** -/
theorem records_breaksOff_iff :
    (∃ fault, t.records file = .error fault ∧ fault.isForeseen = false) ↔ t.BreaksOff file := by
  constructor
  · rintro ⟨fault, h, hforeseen⟩
    rcases records_stages t file with ⟨e, he⟩ | ⟨b, hb, hdecode⟩ | ⟨s, fault', hs, hparse⟩ | hlist | ⟨items, hitems⟩
    · cases he.symm.trans h
      cases hforeseen
    · exact .notText b hb hdecode
    · cases (records_of_fault hs hparse).symm.trans h
      cases fault' with
      | malformed reason p => cases hforeseen
      | integerTooLong n => exact .integerTooLong s n hs hparse (Json.parse_tooLong hparse)
    · cases hlist.symm.trans h
      cases hforeseen
    · rw [records_of_items hitems] at h
      cases hread : Dump.recordsFrom 0 items with
      | ok rs =>
          rw [hread] at h
          cases h
      | error e =>
          rw [hread] at h
          cases h
          obtain ⟨before, v, after, r, rfl, hbefore, hr, rfl⟩ := Dump.recordsFrom_eq_error_iff.mp hread
          have hoverflow : r.isOverflow = true := by
            cases hb : r.isOverflow with
            | true => rfl
            | false =>
                have hforeseen' : LoadFault.isForeseen (.unfit file (.invalid (0 + before.length) r)) = !r.isOverflow := rfl
                rw [hforeseen', hb] at hforeseen
                cases hforeseen
          obtain ⟨fields, rfl, hfields⟩ := Record.ofJson_overflow_iff.mp ⟨r, hr, hoverflow⟩
          exact .outOfRange before after fields hitems hbefore hfields
  · rintro (⟨b, hb, hdecode⟩ | ⟨s, n, hs, hparse, -⟩ | ⟨before, after, fields, hitems, hbefore, hfields⟩)
    · exact ⟨_, records_of_bytes hb hdecode, rfl⟩
    · exact ⟨_, records_of_fault hs hparse, rfl⟩
    · obtain ⟨r, hr, hoverflow⟩ := Record.ofJson_overflow_iff.mpr ⟨fields, rfl, hfields⟩
      have hrecords : Dump.recordsFrom 0 (before ++ .object fields :: after) = .error (.invalid (0 + before.length) r) :=
        Dump.recordsFrom_eq_error_iff.mpr ⟨before, _, after, r, rfl, hbefore, hr, rfl⟩
      refine ⟨.unfit file (.invalid (0 + before.length) r), ?_, ?_⟩
      · rw [records_of_items hitems, hrecords]
        rfl
      · show (!r.isOverflow) = false
        rw [hoverflow]
        rfl

/-- **What comes of loading a file.** It gives a record for each of its items, in order, just when each of them is a
record. Otherwise it fails: with a fault that is foreseen, or by breaking off, just when the bytes are no text, an integer
in the text is too long, or a number of the first item that is no record is out of range. -/
theorem records_exact (t : FileTree) (file : Path) :
    (∀ rs, t.records file = .ok rs ↔
      ∃ items, t.HoldsItems file items ∧ List.Forall₂ (fun v r => Record.ofJson v = .ok r) items rs) ∧
    ((∃ fault, t.records file = .error fault ∧ fault.isForeseen = false) ↔ t.BreaksOff file) ∧
    ((∃ rs, t.records file = .ok rs) ∨ (∃ fault, t.records file = .error fault ∧ fault.isForeseen = true) ∨
      t.BreaksOff file) := by
  refine ⟨fun rs => records_eq_ok_iff, records_breaksOff_iff, ?_⟩
  cases h : t.records file with
  | ok rs => exact Or.inl ⟨rs, rfl⟩
  | error fault =>
      cases hforeseen : fault.isForeseen with
      | true => exact Or.inr (Or.inl ⟨fault, rfl, hforeseen⟩)
      | false => exact Or.inr (Or.inr (records_breaksOff_iff.mp ⟨fault, h, hforeseen⟩))

end Loading

section Faults

/-- A directory with one file. -/
def single (b : ByteArray) : FileTree := ⟨.directory [("dump.json", .file b)], []⟩

theorem bytes_single (b : ByteArray) : (single b).bytes ⟨"", ["dump.json"]⟩ = .ok b := by
  have hfind : (single b).find ⟨"", ["dump.json"]⟩ = .ok ⟨["dump.json"], some (.file b)⟩ :=
    Node.follow_of_leads (.enter rfl (by decide) (by decide) rfl (fun _ => Node.noConfusion) (.done _ _))
  unfold bytes node
  rw [hfind]

/-- **Not every fault of loading is foreseen.** A byte that begins no character breaks it off. -/
theorem records_breaks_off :
    ∃ fault, (single ⟨#[0xff]⟩).records ⟨"", ["dump.json"]⟩ = .error fault ∧ fault.isForeseen = false :=
  ⟨_, records_of_bytes (bytes_single _) (by decide +kernel), rfl⟩

end Faults

end FileTree

end FragmentSearch
