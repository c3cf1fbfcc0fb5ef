import FragmentSearch.Text.Name

/-!
# Names hold no points

The normal form of a name is found by tables. That it holds no point is a property of the tables: nothing in a name is
decomposed into a point, and no pair of code points is composed to one.

* `tableWords_join` -- a table in parts has the words of its parts;
* `Runs.exists_of_image?` -- an image comes from an entry of the table;
* `not_mem_decompose`, `composePair?_ne` -- what is known of the tables;
* `point_not_mem_normalName` -- the normal form of a name holds no point.
-/

namespace FragmentSearch.Text

/-! ## 1. Tables in parts -/

section Words

/-- The words of a text are found from its end. -/
def wordStep (c : Char) (acc : List Char × List (List Char)) : List Char × List (List Char) :=
  if c = ' ' ∨ c = '\n' then ([], if acc.1.isEmpty then acc.2 else acc.1 :: acc.2) else (c :: acc.1, acc.2)

/-- The words of some characters. -/
def wordsOf (s : List Char) : List (List Char) :=
  if (s.foldr wordStep ([], [])).1.isEmpty then (s.foldr wordStep ([], [])).2
  else (s.foldr wordStep ([], [])).1 :: (s.foldr wordStep ([], [])).2

theorem tableWords_eq (s : String) : tableWords s = wordsOf s.toList := rfl

theorem foldr_wordStep (s : List Char) (ws : List (List Char)) :
    s.foldr wordStep ([], ws) = ((s.foldr wordStep ([], [])).1, (s.foldr wordStep ([], [])).2 ++ ws) := by
  induction s with
  | nil => rfl
  | cons c s ih =>
      rw [List.foldr_cons, List.foldr_cons, ih]
      unfold wordStep
      split
      · dsimp only
        split <;> rfl
      · rfl

/-- A word ends before a line feed. -/
theorem wordsOf_append {s t : List Char} (ht : t.head? = some '\n') : wordsOf (s ++ t) = wordsOf s ++ wordsOf t := by
  obtain ⟨t, rfl⟩ : ∃ t', t = '\n' :: t' := by
    cases t with
    | nil => cases ht
    | cons c t => exact ⟨t, by rw [Option.some.inj ht]⟩
  have htail : ('\n' :: t).foldr wordStep ([], []) = ([], wordsOf t) := by
    rw [List.foldr_cons, wordStep, if_pos (Or.inr rfl)]
    rfl
  have hright : wordsOf ('\n' :: t) = wordsOf t := by
    rw [wordsOf, htail]
    rfl
  have hs : wordsOf s = if (s.foldr wordStep ([], [])).1.isEmpty then (s.foldr wordStep ([], [])).2
      else (s.foldr wordStep ([], [])).1 :: (s.foldr wordStep ([], [])).2 := rfl
  rw [hright, hs, wordsOf, List.foldr_append, htail, foldr_wordStep]
  dsimp only
  split <;> rfl

/-- The part of a table begins on a line of its own, and its words meet a condition. -/
def IsPart (p : List Char → Bool) (part : String) : Prop :=
  ∃ s : List Char, part = String.ofList s ∧ s.head? = some '\n' ∧ (wordsOf s).all p = true

theorem isPart {p : List Char → Bool} {s : List Char} (hhead : s.head? = some '\n')
    (hwords : (wordsOf s).all p = true) {part : String} (h : part = String.ofList s) : IsPart p part :=
  ⟨s, h, hhead, hwords⟩

/-- **The words of a table** are those of its parts. -/
theorem all_tableWords {p : List Char → Bool} {parts : List String} (h : ∀ part ∈ parts, IsPart p part) :
    ∀ w ∈ tableWords (String.join parts), p w = true := by
  rw [tableWords_eq, String.toList_join]
  induction parts with
  | nil => exact fun w hw => absurd hw List.not_mem_nil
  | cons part parts ih =>
      obtain ⟨⟨s, rfl, -, hwords⟩, hrest⟩ := List.forall_mem_cons.mp h
      rw [List.flatMap_cons, String.toList_ofList]
      have hsplit : wordsOf (s ++ parts.flatMap String.toList) =
          wordsOf s ++ wordsOf (parts.flatMap String.toList) := by
        cases parts with
        | nil => exact (congrArg wordsOf (List.append_nil s)).trans (List.append_nil _).symm
        | cons next parts =>
            obtain ⟨t, rfl, hhead, -⟩ := hrest next List.mem_cons_self
            rw [List.flatMap_cons, String.toList_ofList]
            refine wordsOf_append ?_
            rw [List.head?_append, hhead]
            rfl
      intro w hw
      rw [hsplit] at hw
      rcases List.mem_append.mp hw with hw | hw
      · exact List.all_eq_true.mp hwords w hw
      · exact ih hrest w hw

end Words

/-! ## 2. Entries -/

namespace Runs

theorem exists_of_search {t : Array Run} {c fuel lo hi : Nat} {r : Run} (h : search t c fuel lo hi = some r) :
    r ∈ t ∧ r.first ≤ c ∧ c ≤ r.last := by
  fun_induction search t c fuel lo hi with
  | case1 => cases h
  | case2 => cases h
  | case3 _ _ _ _ _ _ _ _ ih => exact ih h
  | case4 _ _ _ _ _ _ _ _ _ ih => exact ih h
  | case5 fuel lo hi hlt mid r' hget hfirst hlast =>
      cases h
      exact ⟨Array.mem_of_getElem? hget, Nat.le_of_not_lt hfirst, Nat.le_of_not_lt hlast⟩
  | case6 => cases h

/-- The codes to which a run sends those that it holds. -/
def Gives (r : Run) (code : Nat) : Prop :=
  (∃ t, r.image = [t] ∧ t ≤ code ∧ code ≤ t + (r.last - r.first)) ∨ code ∈ r.image

/-- **An image comes from an entry of the table.** -/
theorem exists_of_image? {m : Runs} {c code : Nat} {ts : List Nat} (h : m.image? c = some ts) (hcode : code ∈ ts) :
    ∃ r ∈ m.entries, Gives r code := by
  unfold image? at h
  split at h
  · cases h
  · next r hr =>
      obtain ⟨hmem, hfirst, hlast⟩ := exists_of_search hr
      refine ⟨r, hmem, ?_⟩
      split at h
      · split at h
        · next t himage =>
            cases h
            cases List.mem_singleton.mp hcode
            exact Or.inl ⟨t, himage, Nat.le_add_right _ _, by omega⟩
        · cases h
          exact Or.inr hcode
      · cases h

end Runs

/-! ## 3. The tables of names -/

/-- The code of a point. -/
def pointCode : Nat := '.'.toNat

/-- The run gives no point. -/
def givesNoPoint (w : List Char) : Bool :=
  let r := Runs.ofWord w
  !r.image.contains pointCode &&
    match r.image with
    | [t] => !(t ≤ pointCode && pointCode ≤ t + (r.last - r.first))
    | _ => true

/-- The pair is not composed to a point. -/
def composesNoPoint (w : List Char) : Bool :=
  match takeHex 0 w with
  | (_, '.' :: r) => match takeHex 0 r with
    | (_, '>' :: r) => (takeHex 0 r).1 ≠ pointCode
    | _ => true
  | _ => true

set_option maxRecDepth 8000 in
theorem isPart_decomposition : ∀ part ∈ Table.decompositionParts, IsPart givesNoPoint part := by
  unfold Table.decompositionParts
  repeat refine List.forall_mem_cons.mpr ⟨isPart rfl (by decide +kernel) rfl, ?_⟩
  exact List.forall_mem_nil _

set_option maxRecDepth 8000 in
theorem isPart_composition : ∀ part ∈ Table.compositionParts, IsPart composesNoPoint part := by
  unfold Table.compositionParts
  repeat refine List.forall_mem_cons.mpr ⟨isPart rfl (by decide +kernel) rfl, ?_⟩
  exact List.forall_mem_nil _

/-- Nothing but a point is decomposed into a point. -/
theorem not_mem_decompose {code : Nat} (h : code ≠ pointCode) : pointCode ∉ decompose code := by
  unfold decompose
  split
  · unfold decomposeHangul
    dsimp only
    have hcode : pointCode = 46 := rfl
    split <;> simp only [List.mem_append, List.mem_cons, List.not_mem_nil, or_false, not_or] <;> omega
  · cases himage : decompositionRuns.image? code with
    | none => exact fun hmem => h (List.mem_singleton.mp hmem).symm
    | some ts =>
        intro hmem
        obtain ⟨r, hr, hgives⟩ := Runs.exists_of_image? himage hmem
        obtain ⟨w, hw, rfl⟩ : ∃ w ∈ tableWords Table.decomposition, Runs.ofWord w = r := by
          unfold decompositionRuns Runs.ofTable at hr
          exact List.mem_map.mp (List.mem_toArray.mp hr)
        have hno : givesNoPoint w = true := all_tableWords isPart_decomposition w hw
        unfold givesNoPoint at hno
        dsimp only at hno
        obtain ⟨hcontains, hrange⟩ := Bool.and_eq_true_iff.mp hno
        rcases hgives with ⟨t, himage, hle, hge⟩ | himage
        · rw [himage] at hrange
          dsimp only at hrange
          rw [decide_eq_true hle, decide_eq_true hge] at hrange
          cases hrange
        · rw [List.contains_iff_mem.mpr himage] at hcontains
          cases hcontains

/-- No pair is composed to a point. -/
theorem composePair?_ne (a b : Nat) : composePair? a b ≠ some pointCode := by
  have hcode : pointCode = 46 := rfl
  unfold composePair?
  intro h
  split at h
  · have := Option.some.inj h
    omega
  · split at h
    · have := Option.some.inj h
      omega
    · obtain ⟨p, hp, he⟩ := Option.map_eq_some_iff.mp h
      have hmem := List.mem_of_find?_eq_some hp
      unfold compositionPairs at hmem
      obtain ⟨w, hw, hwp⟩ := List.mem_filterMap.mp hmem
      have hno : composesNoPoint w = true := all_tableWords isPart_composition w hw
      unfold composesNoPoint at hno
      split at hwp
      · next a' r hfirst =>
          rw [hfirst] at hno
          split at hwp
          · next b' r' hsecond =>
              simp only [hsecond] at hno
              cases hwp
              exact of_decide_eq_true hno he
          · cases hwp
      · cases hwp

/-! ## 4. Normal forms -/

section Normal

theorem mem_placeMark {code cls x : Nat} {acc : List Nat} : x ∈ placeMark code cls acc ↔ x = code ∨ x ∈ acc := by
  induction acc with
  | nil => simp [placeMark]
  | cons d r ih =>
      rw [placeMark]
      split
      · rw [List.mem_cons, ih, List.mem_cons, or_left_comm]
      · rw [List.mem_cons, List.mem_cons]

theorem mem_orderMarks {x : Nat} {codes : List Nat} : x ∈ orderMarks codes ↔ x ∈ codes := by
  have hfold : ∀ acc : List Nat,
      x ∈ codes.foldl (fun acc code => placeMark code (combiningClass code) acc) acc ↔ x ∈ acc ∨ x ∈ codes := by
    induction codes with
    | nil => intro acc; simp
    | cons code codes ih =>
        intro acc
        rw [List.foldl_cons, ih, mem_placeMark, List.mem_cons, or_assoc, or_left_comm]
  unfold orderMarks
  rw [List.mem_reverse, hfold]
  simp

theorem not_mem_composeFrom {codes : List Nat} : ∀ {starter : Nat} {marks : List Nat}, starter ≠ pointCode →
    pointCode ∉ marks → pointCode ∉ codes → pointCode ∉ composeFrom starter marks codes := by
  induction codes with
  | nil =>
      intro starter marks hs hm _ hmem
      unfold composeFrom at hmem
      rcases List.mem_cons.mp hmem with h | h
      · exact hs h.symm
      · exact hm (List.mem_reverse.mp h)
  | cons code r ih =>
      intro starter marks hs hm hc
      obtain ⟨hcode, hr⟩ := List.ne_and_not_mem_of_not_mem_cons hc
      have hpair (blocked : Bool) : (if blocked then none else composePair? starter code) ≠ some pointCode := by
        split
        · nofun
        · exact composePair?_ne starter code
      unfold composeFrom
      dsimp only
      split
      · next composed hcomposed => exact ih (fun h => hpair _ (h ▸ hcomposed)) hm hr
      · split
        · intro hmem
          rcases List.mem_append.mp hmem with h | h
          · rcases List.mem_cons.mp h with h | h
            · exact hs h.symm
            · exact hm (List.mem_reverse.mp h)
          · exact ih (Ne.symm hcode) List.not_mem_nil hr h
        · exact ih hs (List.not_mem_cons_of_ne_of_not_mem hcode hm) hr

theorem not_mem_compose {codes : List Nat} (h : pointCode ∉ codes) : pointCode ∉ compose codes := by
  induction codes with
  | nil => exact h
  | cons code r ih =>
      obtain ⟨hcode, hr⟩ := List.ne_and_not_mem_of_not_mem_cons h
      rw [compose]
      split
      · exact not_mem_composeFrom (Ne.symm hcode) List.not_mem_nil hr
      · exact List.not_mem_cons_of_ne_of_not_mem hcode (ih hr)

theorem point_not_mem_name {name : List Char} (h : isName name = true) : '.' ∉ name := by
  cases name with
  | nil => cases h
  | cons c r =>
      obtain ⟨hc, hr⟩ := Bool.and_eq_true_iff.mp h
      refine List.not_mem_cons_of_ne_of_not_mem ?_ fun hmem => ?_
      · rintro rfl
        cases hc
      · cases List.all_eq_true.mp hr _ hmem

/-- **The normal form of a name holds no point.** -/
theorem point_not_mem_normalName {name : List Char} (h : isName name = true) : '.' ∉ normalName name := by
  have hname : '.' ∉ name := point_not_mem_name h
  unfold normalName
  split
  · exact hname
  · intro hmem
    obtain ⟨code, hcode, hpoint⟩ := List.mem_map.mp hmem
    have hcode' : code = pointCode := by
      by_cases hvalid : code.isValidChar
      · have hchar : Char.ofNat code = Char.ofNatAux code hvalid := dif_pos hvalid
        exact congrArg Char.toNat (hchar.symm.trans hpoint)
      · have hchar : Char.ofNat code = Char.ofNat 0 := dif_neg hvalid
        cases hchar.symm.trans hpoint
    subst hcode'
    refine not_mem_compose (fun hmem => ?_) hcode
    obtain ⟨c, hc, hdecomposed⟩ := List.mem_flatMap.mp (mem_orderMarks.mp hmem)
    refine not_mem_decompose (fun hc' => ?_) hdecomposed
    have hpoint' : c = '.' := by
      rw [← Char.ofNat_toNat c, hc']
      rfl
    exact hname (hpoint' ▸ hc)

end Normal

end FragmentSearch.Text
