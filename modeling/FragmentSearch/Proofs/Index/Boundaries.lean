import FragmentSearch.Proofs.Index.Tokens
import FragmentSearch.Proofs.Order.Runs
import FragmentSearch.Proofs.Text.LowerCase

/-!
# Where identifiers are cut

An identifier is read as the list of its places, the positions at which no underscore stands. Its parts are pieces of
that list.

* `Boundary` -- where two neighbours are to be parted; `CutAtBoundaries` -- what it is to be cut there and nowhere else;
* `cutAtBoundaries_iff` -- there is one way to do so;
* `map_readAt_runs` -- the parts of an identifier stand at its runs of places;
* `splitCamelCase_exact` -- so an identifier is cut just at its boundaries, and nothing of it is lost.
-/

namespace FragmentSearch.Identifier

open FragmentSearch.Text FragmentSearch.Cutting

/-! ## 1. Places and boundaries -/

/-- The places of an identifier: the positions at which no underscore stands. -/
def places (s : List Char) : List Nat := (List.range s.length).filter fun i => s[i]? ≠ some '_'

/-- What stands at some positions of a text. -/
def readAt (s : List Char) (p : List Nat) : List Char := p.filterMap (s[·]?)

/-- Does a character from `lo` to `hi` stand at the position `i`? -/
def Holds (s : List Char) (i : Nat) (lo hi : Char) : Prop := ∃ c ∈ s[i]?, lo ≤ c ∧ c ≤ hi

instance (s : List Char) (i : Nat) (lo hi : Char) : Decidable (Holds s i lo hi) :=
  inferInstanceAs (Decidable (∃ c ∈ s[i]?, lo ≤ c ∧ c ≤ hi))

/-- Are the neighbours `i` and `j` to be parted? They are if an underscore stands between them, if a capital letter
follows a small one, and before the last of two capital letters if a small letter comes right after it, with no
underscore in between. Letters are those of ASCII. -/
def Boundary (s : List Char) (i j : Nat) : Prop :=
  (∃ k < j, i < k ∧ s[k]? = some '_') ∨
  (Holds s i 'a' 'z' ∧ Holds s j 'A' 'Z') ∨
  (Holds s i 'A' 'Z' ∧ Holds s j 'A' 'Z' ∧ Holds s (j + 1) 'a' 'z')

instance (s : List Char) (i j : Nat) : Decidable (Boundary s i j) := inferInstanceAs (Decidable (_ ∨ _ ∨ _))

/-- Are the pieces those of an identifier that is cut at the boundaries and nowhere else? -/
structure CutAtBoundaries (s : List Char) (pieces : List (List Nat)) : Prop where
  /-- Together the pieces are the places, in order and each once. -/
  flatten : pieces.flatten = places s
  nonempty : [] ∉ pieces
  /-- Two places that follow each other are in different pieces just if there is a boundary. -/
  parted : ∀ i j, [i, j] <:+: places s → (Parted pieces i j ↔ Boundary s i j)

/-- The runs of places with no boundary between neighbours. -/
def runs (s : List Char) : List (List Nat) := (places s).splitBy fun i j => !decide (Boundary s i j)

section Places

variable {s : List Char} {a b : Char} {i j : Nat} {pieces : List (List Nat)}

theorem mem_places : i ∈ places s ↔ i < s.length ∧ s[i]? ≠ some '_' := by
  rw [places, List.mem_filter, List.mem_range, decide_eq_true_iff]

theorem nodup_places (s : List Char) : (places s).Nodup := List.nodup_range.filter _

/-- **An identifier is cut at its boundaries in one way only.** -/
theorem cutAtBoundaries_iff : CutAtBoundaries s pieces ↔ pieces = runs s := by
  rw [eq_comm, runs, splitBy_eq_iff_parted (nodup_places s)]
  simp only [Bool.not_eq_false', decide_eq_true_iff]
  exact ⟨fun h => ⟨h.flatten, h.nonempty, h.parted⟩, fun ⟨hflat, hne, hparted⟩ => ⟨hflat, hne, hparted⟩⟩

theorem places_cons (a : Char) (s : List Char) :
    places (a :: s) = if a = '_' then (places s).map (· + 1) else 0 :: (places s).map (· + 1) := by
  unfold places
  rw [List.length_cons, List.range_succ_eq_map, List.filter_cons, List.filter_map]
  have hshift : ((fun i => decide ((a :: s)[i]? ≠ some '_')) ∘ Nat.succ) = fun i => decide (s[i]? ≠ some '_') := rfl
  rw [hshift]
  by_cases h : a = '_'
  · simp [h]
  · simp [h]

@[simp] theorem readAt_shifted (a : Char) (s : List Char) (p : List Nat) : readAt (a :: s) (p.map (· + 1)) = readAt s p :=
  List.filterMap_map

@[simp] theorem readAt_zero_cons (a : Char) (s : List Char) (p : List Nat) :
    readAt (a :: s) (0 :: p) = a :: readAt (a :: s) p := rfl

theorem map_readAt_shifted (a : Char) (s : List Char) (pieces : List (List Nat)) :
    (pieces.map (List.map (· + 1))).map (readAt (a :: s)) = pieces.map (readAt s) := by
  rw [List.map_map]
  exact List.map_congr_left fun p _ => readAt_shifted a s p

/-- At the places stands all of the text but its underscores. -/
theorem readAt_places (s : List Char) : readAt s (places s) = s.filter (· ≠ '_') := by
  induction s with
  | nil => rfl
  | cons a s ih =>
      rw [places_cons]
      by_cases h : a = '_'
      · simp [h, ih]
      · simp [h, ih]

theorem flatten_map_readAt (h : CutAtBoundaries s pieces) : (pieces.map (readAt s)).flatten = s.filter (· ≠ '_') := by
  rw [← readAt_places, ← h.flatten]
  exact List.filterMap_flatten.symm

/-- No piece reads as the empty text. -/
theorem readAt_ne_nil (h : CutAtBoundaries s pieces) {p : List Nat} (hp : p ∈ pieces) : readAt s p ≠ [] := by
  obtain ⟨i, rest, rfl⟩ := List.exists_cons_of_ne_nil fun e => h.nonempty (e ▸ hp)
  have hi : i ∈ places s := h.flatten ▸ List.mem_flatten_of_mem hp List.mem_cons_self
  rw [readAt, List.filterMap_cons_some (List.getElem?_eq_getElem (mem_places.mp hi).1)]
  exact List.cons_ne_nil _ _

end Places

/-! ## 2. Boundaries from the front of an identifier -/

section Front

variable {s : List Char} {a b : Char} {i j : Nat} {p : List Nat} {pieces : List (List Nat)}

theorem boundary_shifted : Boundary (a :: s) (i + 1) (j + 1) ↔ Boundary s i j := by
  refine or_congr_left ⟨?_, ?_⟩
  · rintro ⟨k, hkj, hik, hk⟩
    obtain ⟨k, rfl⟩ := Nat.exists_eq_add_one_of_ne_zero (Nat.ne_zero_of_lt hik)
    exact ⟨k, Nat.lt_of_succ_lt_succ hkj, Nat.lt_of_succ_lt_succ hik, hk⟩
  · rintro ⟨k, hkj, hik, hk⟩
    exact ⟨k + 1, Nat.succ_lt_succ hkj, Nat.succ_lt_succ hik, hk⟩

theorem holds_small : Holds s i 'a' 'z' ↔ s[i]?.any isSmall = true := by
  simp [Holds, Option.any_eq_true, isSmall]

theorem holds_capital : Holds s i 'A' 'Z' ↔ s[i]?.any isCapital = true := by
  simp [Holds, Option.any_eq_true, isCapital]

/-- With no underscore between them, two characters are parted as the parts of a name are. -/
theorem boundary_zero_one : Boundary (a :: b :: s) 0 1 ↔ isPartEnd a b s = true := by
  have hnone : ¬ ∃ k < 1, 0 < k ∧ (a :: b :: s)[k]? = some '_' := by
    rintro ⟨k, hk1, h0k, -⟩
    omega
  rw [Boundary, or_iff_right hnone]
  simp only [holds_small, holds_capital]
  simp [isPartEnd, List.head?_eq_getElem?, and_assoc]

/-- Before an underscore there is a boundary. -/
theorem boundary_of_underscore (h : ∀ b ∈ s.head?, b = '_') (hj : j ∈ places s) : Boundary (a :: s) 0 (j + 1) := by
  obtain ⟨hlt, hne⟩ := mem_places.mp hj
  cases s with
  | nil => exact absurd hlt (Nat.not_lt_zero j)
  | cons b s =>
      obtain rfl : b = '_' := h b rfl
      have hpos : 0 < j := Nat.pos_of_ne_zero fun e => hne (e ▸ rfl)
      exact Or.inl ⟨1, Nat.succ_lt_succ hpos, Nat.one_pos, rfl⟩

theorem splitBy_shifted (a : Char) (s : List Char) :
    ((places s).map (· + 1)).splitBy (fun i j => !decide (Boundary (a :: s) i j)) = (runs s).map (List.map (· + 1)) := by
  rw [splitBy_map, runs]
  simp only [boundary_shifted]

theorem runs_underscore (s : List Char) : runs ('_' :: s) = (runs s).map (List.map (· + 1)) := by
  rw [← splitBy_shifted '_' s, runs, places_cons, if_pos rfl]

/-- A place with a boundary after it is a run by itself. -/
theorem runs_cons_of_boundary (ha : a ≠ '_') (h : ∀ j ∈ (places s).head?, Boundary (a :: s) 0 (j + 1)) :
    runs (a :: s) = [0] :: (runs s).map (List.map (· + 1)) := by
  rw [← splitBy_shifted a s, runs, places_cons, if_neg ha]
  refine splitBy_cons_of_cut fun y hy => ?_
  rw [List.head?_map] at hy
  obtain ⟨j, hj, rfl⟩ := Option.map_eq_some_iff.mp hy
  rw [decide_eq_true (h j hj)]
  rfl

theorem runs_cons_of_end (ha : a ≠ '_') (h : ∀ b ∈ s.head?, b = '_') :
    runs (a :: s) = [0] :: (runs s).map (List.map (· + 1)) :=
  runs_cons_of_boundary ha fun _ hj => boundary_of_underscore h (List.mem_of_mem_head? hj)

theorem head?_places_cons (hb : b ≠ '_') : (places (b :: s)).head? = some 0 := by
  rw [places_cons, if_neg hb]
  rfl

theorem exists_runs_cons (hb : b ≠ '_') (s : List Char) : ∃ p pieces, runs (b :: s) = p :: pieces := by
  refine List.exists_cons_of_ne_nil (List.splitBy_ne_nil.mpr fun hnil => ?_)
  have hhead := head?_places_cons (s := s) hb
  rw [hnil] at hhead
  cases hhead

/-- A place joins the run after it, unless a part ends there. -/
theorem runs_cons_cons (ha : a ≠ '_') (hb : b ≠ '_') (h : runs (b :: s) = p :: pieces) :
    runs (a :: b :: s) = if isPartEnd a b s then [0] :: (p :: pieces).map (List.map (· + 1))
      else (0 :: p.map (· + 1)) :: pieces.map (List.map (· + 1)) := by
  by_cases hend : isPartEnd a b s = true
  · have hcut : ∀ j ∈ (places (b :: s)).head?, Boundary (a :: b :: s) 0 (j + 1) := by
      rw [head?_places_cons hb]
      rintro j ⟨⟩
      exact boundary_zero_one.mpr hend
    rw [if_pos hend, runs_cons_of_boundary ha hcut, h]
  · rw [if_neg hend, runs, places_cons, if_neg ha]
    refine splitBy_cons_of_joined (fun y hy => ?_) ?_
    · rw [List.head?_map, head?_places_cons hb] at hy
      cases hy
      rw [decide_eq_false (boundary_zero_one.not.mpr hend)]
      rfl
    · rw [splitBy_shifted, h, List.map_cons]

end Front

/-! ## 3. Parts of an identifier -/

/-- The parts of an identifier before they are put in lower case. -/
def parts (s : List Char) : List (List Char) := (splitAt '_' s).flatMap nameParts

section Parts

variable {s part : List Char} {first : List Char} {rest ps : List (List Char)} {a b : Char}

theorem splitCamelCase_eq (s : String) : splitCamelCase s = (parts s.toList).map lowered := List.map_flatMap.symm

theorem splitAt_cons_of_ne {sep c : Char} (hc : c ≠ sep) (h : splitAt sep s = first :: rest) :
    splitAt sep (c :: s) = (c :: first) :: rest := by
  rw [splitAt, if_neg hc, h]

theorem splitAt_underscore (s : List Char) : splitAt '_' ('_' :: s) = [] :: splitAt '_' s := if_pos rfl

theorem parts_underscore (s : List Char) : parts ('_' :: s) = parts s := by
  rw [parts, splitAt_underscore]
  rfl

/-- A part ends before an underscore and at the end. -/
theorem parts_cons_of_end (ha : a ≠ '_') (h : ∀ b ∈ s.head?, b = '_') : parts (a :: s) = [a] :: parts s := by
  cases s with
  | nil =>
      rw [parts, splitAt_cons_of_ne ha rfl]
      rfl
  | cons b s =>
      obtain rfl : b = '_' := h b rfl
      rw [parts_underscore, parts, splitAt_cons_of_ne ha (splitAt_underscore s)]
      rfl

/-- Whether a part ends is seen before the next underscore. -/
theorem isPartEnd_first (h : splitAt '_' s = first :: rest) : isPartEnd a b first = isPartEnd a b s := by
  cases s with
  | nil =>
      cases h
      rfl
  | cons c s =>
      by_cases hc : c = '_'
      · -- nothing is left of the first piece, and an underscore is no small letter
        subst hc
        rw [splitAt_underscore] at h
        cases h
        rfl
      · obtain ⟨first', rest', hs, -⟩ := splitAt_eq_cons '_' s
        rw [splitAt_cons_of_ne hc hs] at h
        cases h
        rfl

theorem parts_cons_cons (ha : a ≠ '_') (hb : b ≠ '_') (h : parts (b :: s) = part :: ps) :
    parts (a :: b :: s) = if isPartEnd a b s then [a] :: part :: ps else (a :: part) :: ps := by
  obtain ⟨first, rest, hs, -⟩ := splitAt_eq_cons '_' s
  have hbs := splitAt_cons_of_ne hb hs
  rw [parts, hbs, List.flatMap_cons] at h
  rw [parts, splitAt_cons_of_ne ha hbs, List.flatMap_cons, ← isPartEnd_first hs]
  cases hparts : nameParts (b :: first) with
  | nil =>
      have := flatten_nameParts (b :: first)
      rw [hparts] at this
      cases this
  | cons part' parts' =>
      rw [hparts] at h
      cases h
      rw [nameParts_cons_cons hparts]
      split <;> rfl

end Parts

/-! ## 4. Cutting is exact -/

/-- **The parts of an identifier stand at its runs of places.** -/
theorem map_readAt_runs (s : List Char) : (runs s).map (readAt s) = parts s := by
  -- both sides are found from the end; what the first character does depends on the one after it
  induction s with
  | nil => rfl
  | cons a s ih =>
      by_cases ha : a = '_'
      · subst ha
        rw [runs_underscore, map_readAt_shifted, ih, parts_underscore]
      by_cases hend : ∀ b ∈ s.head?, b = '_'
      · rw [runs_cons_of_end ha hend, List.map_cons, map_readAt_shifted, ih, parts_cons_of_end ha hend]
        rfl
      · cases s with
        | nil => exact absurd (fun b hb => nomatch hb) hend
        | cons b s =>
            have hb : b ≠ '_' := fun e => hend fun c hc => (Option.some.inj hc).symm.trans e
            obtain ⟨p, pieces, hruns⟩ := exists_runs_cons hb s
            rw [hruns, List.map_cons] at ih
            rw [runs_cons_cons ha hb hruns, parts_cons_cons ha hb ih.symm]
            split
            · rw [List.map_cons, map_readAt_shifted, List.map_cons]
              rfl
            · rw [List.map_cons, map_readAt_shifted, readAt_zero_cons, readAt_shifted]

theorem lowered_ne_empty {cs : List Char} (h : cs ≠ []) : lowered cs ≠ "" := fun he =>
  h (String.ofList_eq_empty_iff.mp (lower_eq_empty_iff.mp he))

/-- **An identifier is cut just at the boundaries.** There is one way to do so, and the parts are what it gives, in lower
case: together they are the identifier without its underscores, and none is empty. -/
theorem splitCamelCase_exact (s : String) :
    ∃ pieces, (∀ other, CutAtBoundaries s.toList other ↔ other = pieces) ∧
      splitCamelCase s = (pieces.map (readAt s.toList)).map lowered ∧
      (pieces.map (readAt s.toList)).flatten = s.toList.filter (· ≠ '_') ∧
      [] ∉ pieces.map (readAt s.toList) ∧ "" ∉ splitCamelCase s := by
  have hcut : CutAtBoundaries s.toList (runs s.toList) := cutAtBoundaries_iff.mpr rfl
  have hne : [] ∉ (runs s.toList).map (readAt s.toList) := by
    intro h
    obtain ⟨p, hp, he⟩ := List.mem_map.mp h
    exact readAt_ne_nil hcut hp he
  have hparts : splitCamelCase s = ((runs s.toList).map (readAt s.toList)).map lowered := by
    rw [map_readAt_runs, splitCamelCase_eq]
  refine ⟨runs s.toList, fun other => cutAtBoundaries_iff, hparts, flatten_map_readAt hcut, hne, ?_⟩
  rw [hparts]
  intro h
  obtain ⟨part, hpart, he⟩ := List.mem_map.mp h
  exact lowered_ne_empty (fun e => hne (e ▸ hpart)) he

example : splitCamelCase "get_HTTPServer" = ["get", "http", "server"] := by decide +kernel

end FragmentSearch.Identifier
