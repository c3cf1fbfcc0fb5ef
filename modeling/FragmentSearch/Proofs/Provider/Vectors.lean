import FragmentSearch.Provider.Embedding
import FragmentSearch.Proofs.Order.Traversal

/-!
# What a reply delivers

The vectors of a reply are read one by one, and the first error ends the reading. Here a reply is described as a
whole:

* `Json.vector?` -- the vector that a value is, if it has items, at least one, and all of them are numbers;
* `Delivers n r` -- the reply `r` is a list of `n` vectors, `vectorAt r i` is the one at place `i`, and `vectorsOf r`
  are all of them;
* `Tame r` -- the reply is a failure or a list, and no integer in it is beyond the floating point numbers;
* `checkVectors_tame` -- of a tame reply the vectors are read if it delivers them, and otherwise it is recognised
  as malformed;
* `Unexpected n v` -- the value `v` is neither (`checkVectors_unrecognised_iff`): it has no length, or the first of its
  `n` items that is no vector holds an integer out of range.
-/

namespace FragmentSearch

/-! ## 1. Vectors -/

/-- The vector that a value is: it has items, at least one, and all of them are numbers. -/
def Json.vector? (v : Json) : Option (List Float) :=
  match v.toFloats with
  | .ok (x :: xs) => some (x :: xs)
  | _ => none

section Vectors

variable {v : Json} {e : ConversionError}

theorem ne_nil_of_vector? {xs : List Float} (h : v.vector? = some xs) : xs ≠ [] := by
  unfold Json.vector? at h
  split at h <;> cases h
  exact List.cons_ne_nil _ _

theorem toFloats_eq (v : Json) : v.toFloats = v.items.bind (·.mapM Json.toFloat) := rfl

/-- A value is a vector if it has items, at least one, and each of them is a number. -/
theorem vector?_eq_some_iff {xs : List Float} :
    v.vector? = some xs ↔
      ∃ items, v.items = .ok items ∧ items ≠ [] ∧ List.Forall₂ (fun w x => w.toFloat = .ok x) items xs := by
  unfold Json.vector?
  rw [toFloats_eq]
  cases hitems : v.items with
  | error e => simp [Except.bind]
  | ok items =>
      show (match items.mapM Json.toFloat with | .ok (x :: xs) => some (x :: xs) | _ => none) = some xs ↔ _
      constructor
      · intro h
        split at h
        · next y ys hread =>
            cases h
            have hall := mapM_eq_ok_iff.mp hread
            refine ⟨items, rfl, ?_, hall⟩
            rintro rfl
            cases hall
        · cases h
      · rintro ⟨items', e, hne, hall⟩
        cases e
        cases hall with
        | nil => exact absurd rfl hne
        | cons hx hxs => rw [mapM_eq_ok_iff.mpr (.cons hx hxs)]

theorem checkVector_eq_ok_iff {xs : List Float} : checkVector v = .ok xs ↔ v.vector? = some xs := by
  unfold checkVector Json.vector?
  cases v.toFloats with
  | error e =>
      dsimp only
      split <;> exact ⟨nofun, nofun⟩
  | ok ys =>
      cases ys with
      | nil => exact ⟨nofun, nofun⟩
      | cons y ys => exact ⟨fun h => congrArg some (Except.ok.inj h), fun h => congrArg _ (Option.some.inj h)⟩

theorem vector?_of_checkVector_error {e : VectorError} (h : checkVector v = .error e) : v.vector? = none := by
  unfold checkVector at h
  unfold Json.vector?
  cases hv : v.toFloats with
  | error e => rfl
  | ok ys =>
      rw [hv] at h
      cases ys with
      | nil => rfl
      | cons y ys => cases h

/-- Of the values that are no numbers only an integer is out of range. -/
theorem toFloat_overflow (h : v.toFloat = .error e) (he : e.isOverflow = true) :
    ∃ i, v = .int i ∧ Decimal.ofInt? i = none := by
  unfold Json.toFloat at h
  split at h
  · cases h
  · next i =>
      split at h
      · cases h
      · next hi => exact ⟨i, rfl, hi⟩
  · cases h
  · split at h <;> cases h
    cases he
  · cases h
    cases he

/-- Only a list has items that are no texts. -/
theorem eq_list_of_mem_items {w : Json} {items : List Json} (h : v.items = .ok items) (hw : w ∈ items)
    (htext : ∀ s, w ≠ .text s) : v = .list items := by
  unfold Json.items at h
  split at h <;> cases h
  · rfl
  · obtain ⟨_, _, e⟩ := List.mem_map.mp hw
    exact absurd e.symm (htext _)
  · obtain ⟨_, _, e⟩ := List.mem_map.mp hw
    exact absurd e.symm (htext _)

/-- The first item of a list that is not a number is an integer beyond the floating point numbers. -/
def OutOfRange (v : Json) : Prop :=
  ∃ before i after, v = .list (before ++ .int i :: after) ∧ (∀ w ∈ before, ∃ x, w.toFloat = .ok x) ∧
    Decimal.ofInt? i = none

/-- Of the values that are no vectors only a list with an integer out of range is out of range. -/
theorem toFloats_overflow_iff : (∃ e, v.toFloats = .error e ∧ e.isOverflow = true) ↔ OutOfRange v := by
  rw [toFloats_eq]
  constructor
  · rintro ⟨e, h, he⟩
    cases hitems : v.items with
    | error e' =>
        rw [hitems] at h
        cases h
        unfold Json.items at hitems
        split at hitems <;> cases hitems
        cases he
    | ok items =>
        rw [hitems] at h
        obtain ⟨before, w, after, rfl, hbefore, hw⟩ := mapM_eq_error_iff.mp h
        obtain ⟨i, rfl, hi⟩ := toFloat_overflow hw he
        have hlist := eq_list_of_mem_items hitems (List.mem_append_right _ List.mem_cons_self) nofun
        exact ⟨before, i, after, hlist, hbefore, hi⟩
  · rintro ⟨before, i, after, rfl, hbefore, hi⟩
    refine ⟨.integerTooLarge, mapM_eq_error_iff.mpr ⟨before, .int i, after, rfl, hbefore, ?_⟩, rfl⟩
    rw [Json.toFloat, hi]

/-- A value that is no vector is recognised as malformed unless it is out of range. -/
theorem checkVector_unrecognised_iff : (∃ e, checkVector v = .error e ∧ e.isRecognised = false) ↔ OutOfRange v := by
  rw [← toFloats_overflow_iff]
  unfold checkVector
  constructor
  · rintro ⟨e, h, he⟩
    split at h
    · next e' he' =>
        refine ⟨e', he', ?_⟩
        split at h
        · assumption
        · cases h
          cases he
    · cases h
      cases he
    · cases h
  · rintro ⟨e, h, he⟩
    rw [h]
    exact ⟨.outOfRange e, if_pos he, rfl⟩

theorem isRecognised_of_checkVector {e : VectorError} (h : checkVector v = .error e) (hv : ¬ OutOfRange v) :
    e.isRecognised = true :=
  eq_true_of_ne_false fun he => hv (checkVector_unrecognised_iff.mp ⟨e, h, he⟩)

end Vectors

/-! ## 2. Replies -/

/-- Is a reply a list of `n` vectors? -/
def Delivers (n : Nat) : Except ServiceFailure Json → Bool
  | .ok (.list vs) => vs.length = n && vs.all (·.vector?.isSome)
  | _ => false

/-- The vector at a place of a reply. -/
def vectorAt : Except ServiceFailure Json → Nat → Option (List Float)
  | .ok (.list vs), i => vs[i]?.bind Json.vector?
  | _, _ => none

/-- The vectors of a reply. -/
def vectorsOf : Except ServiceFailure Json → List (List Float)
  | .ok (.list vs) => vs.filterMap Json.vector?
  | _ => []

/-- The reply is a failure or a list, and no integer in its vectors is beyond the floating point numbers. -/
def Tame : Except ServiceFailure Json → Prop
  | .error _ => True
  | .ok (.list vs) => ∀ v ∈ vs, ∀ items, v = .list items → ∀ i, .int i ∈ items → (Decimal.ofInt? i).isSome = true
  | .ok _ => False

section Replies

variable {v : Json} {n : Nat} {r : Except ServiceFailure Json}

theorem delivers_list {vs : List Json} :
    Delivers n (.ok (.list vs)) = true ↔ vs.length = n ∧ ∀ v ∈ vs, v.vector?.isSome = true := by
  show (decide (vs.length = n) && vs.all (·.vector?.isSome)) = true ↔ _
  rw [Bool.and_eq_true, decide_eq_true_iff, List.all_eq_true]

/-- A reply that delivers is a list of values that are vectors. -/
theorem exists_of_delivers (h : Delivers n r = true) :
    ∃ vs, r = .ok (.list vs) ∧ vs.length = n ∧ vs.map Json.vector? = (vectorsOf r).map some := by
  unfold Delivers at h
  split at h
  · next vs =>
      obtain ⟨hlen, hall⟩ := delivers_list.mp h
      refine ⟨vs, rfl, hlen, ?_⟩
      show vs.map Json.vector? = (vs.filterMap Json.vector?).map some
      clear h hlen
      induction vs with
      | nil => rfl
      | cons v vs ih =>
          obtain ⟨xs, hxs⟩ := Option.isSome_iff_exists.mp (hall v List.mem_cons_self)
          rw [List.filterMap_cons, hxs, List.map_cons, List.map_cons, hxs,
            ih fun w hw => hall w (List.mem_cons_of_mem v hw)]
  · cases h

theorem length_vectorsOf (h : Delivers n r = true) : (vectorsOf r).length = n := by
  obtain ⟨vs, _, hlen, hmap⟩ := exists_of_delivers h
  have hlen' := congrArg List.length hmap
  rw [List.length_map, List.length_map] at hlen'
  exact hlen'.symm.trans hlen

theorem getElem?_vectorsOf (h : Delivers n r = true) (i : Nat) : (vectorsOf r)[i]? = vectorAt r i := by
  obtain ⟨vs, rfl, _, hmap⟩ := exists_of_delivers h
  have hi : (vs.map Json.vector?)[i]? = ((vectorsOf (.ok (.list vs))).map some)[i]? := congrArg (·[i]?) hmap
  rw [List.getElem?_map, List.getElem?_map] at hi
  show _ = vs[i]?.bind Json.vector?
  cases hv : vs[i]? <;> cases hx : (vectorsOf (.ok (.list vs)))[i]? <;> rw [hv, hx] at hi
  · rfl
  · cases hi
  · cases hi
  · exact (Option.some.inj hi).symm

theorem ne_nil_of_mem_vectorsOf {xs : List Float} (h : xs ∈ vectorsOf r) : xs ≠ [] := by
  unfold vectorsOf at h
  split at h
  · obtain ⟨v, _, e⟩ := List.mem_filterMap.mp h
    exact ne_nil_of_vector? e
  · cases h

/-- Of a value with items the number of them is checked first, then one after the other. -/
theorem checkVectors_of_items {items : List Json} (h : v.items = .ok items) (n : Nat) :
    checkVectors v n = if items.length = n then items.mapM checkVector else .error (.wrongNumber n items.length) := by
  have hcount : vectorCount v = .ok (some items.length) := by
    unfold Json.items at h
    split at h <;> cases h
    · rfl
    · next s =>
        rw [List.length_map, String.length_toList]
        rfl
    · next fields =>
        rw [List.length_map]
        rfl
  unfold checkVectors
  rw [hcount, h]
  by_cases hlen : items.length = n
  · have hint : ((items.length : Nat) : Int) = n := congrArg _ hlen
    rw [if_pos hlen]
    show (if ((items.length : Nat) : Int) ≠ n then _ else _) = _
    rw [if_neg (not_not.mpr hint)]
  · have hint : ((items.length : Nat) : Int) ≠ n := fun e => hlen (Int.ofNat.inj e)
    rw [if_neg hlen]
    show (if ((items.length : Nat) : Int) ≠ n then _ else _) = _
    rw [if_pos hint]
    rfl

theorem checkVectors_list (vs : List Json) (n : Nat) :
    checkVectors (.list vs) n = if vs.length = n then vs.mapM checkVector else .error (.wrongNumber n vs.length) :=
  checkVectors_of_items rfl n

/-- The vectors that are read are those that the values are. -/
theorem map_vector?_of_mapM {vs : List Json} {vectors : List (List Float)} (h : vs.mapM checkVector = .ok vectors) :
    vs.map Json.vector? = vectors.map some := by
  have hall := forall₂_of_mapM_ok h
  clear h
  induction hall with
  | nil => rfl
  | cons hv _ ih => rw [List.map_cons, List.map_cons, checkVector_eq_ok_iff.mp hv, ih]

/-- **Of a tame reply the vectors are read if it delivers them**, and otherwise it is recognised as malformed. -/
theorem checkVectors_tame (h : Tame (.ok v)) :
    (Delivers n (.ok v) = true ∧ checkVectors v n = .ok (vectorsOf (.ok v))) ∨
    (Delivers n (.ok v) = false ∧ ∃ e, checkVectors v n = .error e ∧ e.isRecognised = true) := by
  unfold Tame at h
  split at h
  · next heq => cases heq
  · next vs heq =>
      cases heq
      rw [checkVectors_list]
      by_cases hlen : vs.length = n
      · rw [if_pos hlen]
        cases hm : vs.mapM checkVector with
        | ok vectors =>
            have hmap : vs.map Json.vector? = vectors.map some := map_vector?_of_mapM hm
            refine Or.inl ⟨delivers_list.mpr ⟨hlen, fun w hw => ?_⟩, congrArg _ ?_⟩
            · have hmem : w.vector? ∈ vectors.map some := hmap ▸ List.mem_map_of_mem hw
              obtain ⟨xs, _, e⟩ := List.mem_map.mp hmem
              rw [← e]
              rfl
            · have hread := congrArg (List.filterMap id) hmap
              rw [List.filterMap_map, List.filterMap_map] at hread
              exact (hread.trans List.filterMap_some).symm
        | error e =>
            obtain ⟨w, hw, he⟩ := exists_of_mapM_error hm
            have hin : ¬ OutOfRange w := by
              rintro ⟨before, i, after, rfl, _, hi⟩
              have hsome := h _ hw _ rfl i (List.mem_append_right _ List.mem_cons_self)
              rw [hi] at hsome
              cases hsome
            refine Or.inr ⟨?_, e, rfl, isRecognised_of_checkVector he hin⟩
            refine Bool.eq_false_iff.mpr fun hd => ?_
            have hsome := (delivers_list.mp hd).2 w hw
            rw [vector?_of_checkVector_error he] at hsome
            cases hsome
      · rw [if_neg hlen]
        exact Or.inr ⟨Bool.eq_false_iff.mpr fun hd => hlen (delivers_list.mp hd).1, _, rfl, rfl⟩
  · cases h

end Replies

/-! ## 3. Replies of any sort -/

section Anything

variable {v : Json} {n : Nat}

/-- What no check recognises as malformed: a reply of a type without a length, or a list of as many values as texts of
which the first that is no vector is out of range. -/
inductive Unexpected (n : Nat) : Json → Prop
  | truth (b : Bool) : Unexpected n (.bool b)
  | integer (i : Int) : Unexpected n (.int i)
  | number (x : Float) : Unexpected n (.float x)
  | outOfRange (before : List Json) (w : Json) (after : List Json) : (before ++ w :: after).length = n →
      (∀ u ∈ before, u.vector?.isSome = true) → OutOfRange w → Unexpected n (.list (before ++ w :: after))

/-- A reply without items is not read; only null is recognised as malformed. -/
theorem checkVectors_of_no_items {e' : ConversionError} (h : v.items = .error e') :
    ∃ e, checkVectors v n = .error e ∧ (e.isRecognised = false → Unexpected n v) := by
  cases v with
  | null => exact ⟨_, rfl, nofun⟩
  | bool b => exact ⟨_, rfl, fun _ => .truth b⟩
  | int i => exact ⟨_, rfl, fun _ => .integer i⟩
  | float x => exact ⟨_, rfl, fun _ => .number x⟩
  | text s => cases h
  | list vs => cases h
  | object fields => cases h

/-- A reply is read if it has as many items as there are texts and all of them are vectors. -/
theorem checkVectors_eq_ok_iff {vectors : List (List Float)} :
    checkVectors v n = .ok vectors ↔ ∃ items, v.items = .ok items ∧ items.length = n ∧
      List.Forall₂ (fun w xs => w.vector? = some xs) items vectors := by
  have hone : (fun w xs => checkVector w = .ok xs) = fun w xs => w.vector? = some xs :=
    funext fun _ => funext fun _ => propext checkVector_eq_ok_iff
  cases hitems : v.items with
  | error e =>
      obtain ⟨_, hcheck, _⟩ := checkVectors_of_no_items (n := n) hitems
      rw [hcheck]
      exact ⟨nofun, fun ⟨_, h, _⟩ => nomatch h⟩
  | ok items =>
      rw [checkVectors_of_items hitems]
      constructor
      · intro h
        split at h
        · next hlen => exact ⟨items, rfl, hlen, hone ▸ mapM_eq_ok_iff.mp h⟩
        · cases h
      · rintro ⟨_, ⟨⟩, hlen, hall⟩
        rw [if_pos hlen]
        exact mapM_eq_ok_iff.mpr (hone ▸ hall)

/-- What is read are as many vectors as there are texts, none of them empty. -/
theorem of_checkVectors_ok {vectors : List (List Float)} (h : checkVectors v n = .ok vectors) :
    vectors.length = n ∧ ∀ xs ∈ vectors, xs ≠ [] := by
  obtain ⟨items, _, hlen, hall⟩ := checkVectors_eq_ok_iff.mp h
  refine ⟨hall.length_eq ▸ hlen, fun xs hxs => ?_⟩
  obtain ⟨k, hk⟩ := List.mem_iff_getElem?.mp hxs
  obtain ⟨w, _, hw⟩ := exists_getElem?_of_forall₂ hall.flip hk
  exact ne_nil_of_vector? hw

/-- **A reply of any sort is read, recognised as malformed or unexpected.** -/
theorem checkVectors_unrecognised_iff :
    (∃ e, checkVectors v n = .error e ∧ e.isRecognised = false) ↔ Unexpected n v := by
  constructor
  · rintro ⟨e, h, he⟩
    cases hitems : v.items with
    | error e' =>
        obtain ⟨_, hcheck, hsort⟩ := checkVectors_of_no_items (n := n) hitems
        obtain rfl := Except.error.inj (hcheck.symm.trans h)
        exact hsort he
    | ok items =>
        rw [checkVectors_of_items hitems] at h
        split at h
        · next hlen =>
            obtain ⟨before, w, after, rfl, hbefore, hw⟩ := mapM_eq_error_iff.mp h
            have hrange : OutOfRange w := checkVector_unrecognised_iff.mp ⟨e, hw, he⟩
            have hlist : v = .list (before ++ w :: after) := by
              obtain ⟨_, _, _, rfl, _⟩ := hrange
              exact eq_list_of_mem_items hitems (List.mem_append_right _ List.mem_cons_self) nofun
            rw [hlist]
            refine .outOfRange before w after hlen (fun u hu => ?_) hrange
            obtain ⟨xs, hxs⟩ := hbefore u hu
            rw [checkVector_eq_ok_iff.mp hxs]
            rfl
        · cases h
          cases he
  · intro h
    cases h with
    | truth b => exact ⟨_, rfl, rfl⟩
    | integer i => exact ⟨_, rfl, rfl⟩
    | number x => exact ⟨_, rfl, rfl⟩
    | outOfRange before w after hlen hbefore hw =>
        obtain ⟨e, hcheck, he⟩ := checkVector_unrecognised_iff.mpr hw
        refine ⟨e, ?_, he⟩
        rw [checkVectors_list, if_pos hlen]
        refine mapM_eq_error_iff.mpr ⟨before, w, after, rfl, fun u hu => ?_, hcheck⟩
        obtain ⟨xs, hxs⟩ := Option.isSome_iff_exists.mp (hbefore u hu)
        exact ⟨xs, checkVector_eq_ok_iff.mpr hxs⟩

end Anything

end FragmentSearch
