import FragmentSearch.Proofs.Source.Extraction

/-!
# The content of a fragment

The statements of a module are numbered by the lines of the source, which end with a line feed, a carriage return or
both. The content of a fragment is taken from the lines of the text, and these end at other characters too:

* `isBreak` -- the characters that end a line of a text and none of a source, such as a form feed;
* `lines_eq_brokenLines` -- the lines of a text are the lines of the source, each of them cut at these characters;
* `drop_brokenLines` -- lines of the source that hold none of them are lines of the text, further down by the number of
  them in the lines above;
* `content_exact` -- which fragments have the text of their lines as their content;
* `content_exact_method`, `content_after_break` -- a fragment that has it, and one that a form feed above deprives of it.
-/

namespace FragmentSearch.Source

open FragmentSearch.Text

/-! ## 1. Cutting at several characters -/

section Cutting

variable {α : Type} {p q : α → Bool} {s : List α}

theorem splitOnP_congr (h : ∀ c ∈ s, p c = q c) : s.splitOnP p = s.splitOnP q := by
  induction s with
  | nil => rfl
  | cons c s ih =>
      obtain ⟨hc, hs⟩ := List.forall_mem_cons.mp h
      rw [List.splitOnP_cons_eq_if_modifyHead, List.splitOnP_cons_eq_if_modifyHead, hc, ih hs]

/-- **To cut at two sorts of members is to cut at the first sort, and then each piece at the second.** -/
theorem splitOnP_or (p q : α → Bool) (s : List α) :
    s.splitOnP (fun c => p c || q c) = (s.splitOnP p).flatMap (List.splitOnP q) := by
  induction s with
  | nil => rfl
  | cons c s ih =>
      rw [List.splitOnP_cons_eq_if_modifyHead, List.splitOnP_cons_eq_if_modifyHead, ih]
      cases hp : p c with
      | true => rfl
      | false =>
          -- the first piece begins with `c`
          obtain ⟨piece, pieces, hpieces⟩ := List.exists_cons_of_ne_nil (List.splitOnP_ne_nil p s)
          rw [hpieces, Bool.false_or, if_neg Bool.false_ne_true, List.modifyHead_cons, List.flatMap_cons,
            List.flatMap_cons, List.splitOnP_cons_eq_if_modifyHead]
          cases hq : q c with
          | true => rfl
          | false =>
              obtain ⟨part, parts, hparts⟩ := List.exists_cons_of_ne_nil (List.splitOnP_ne_nil q piece)
              rw [hparts]
              rfl

/-- A piece holds none of the members at which it is cut. -/
theorem of_mem_splitOnP {piece : List α} (h : piece ∈ s.splitOnP p) : ∀ c ∈ piece, p c = false := by
  induction s generalizing piece with
  | nil =>
      rw [List.splitOnP_nil] at h
      rw [List.mem_singleton.mp h]
      exact fun c hc => absurd hc List.not_mem_nil
  | cons d s ih =>
      rw [List.splitOnP_cons_eq_if_modifyHead] at h
      split at h
      · rcases List.mem_cons.mp h with rfl | h
        · exact fun c hc => absurd hc List.not_mem_nil
        · exact ih h
      · next hd =>
          obtain ⟨first, rest, hpieces⟩ := List.exists_cons_of_ne_nil (List.splitOnP_ne_nil p s)
          rw [hpieces] at h ih
          rcases List.mem_cons.mp h with rfl | h
          · exact List.forall_mem_cons.mpr ⟨Bool.eq_false_iff.mpr hd, ih List.mem_cons_self⟩
          · exact ih (List.mem_cons_of_mem _ h)

/-- Each member at which a list is cut makes one more piece. -/
theorem length_splitOnP (p : α → Bool) (s : List α) : (s.splitOnP p).length = s.countP p + 1 := by
  induction s with
  | nil => rfl
  | cons c s ih =>
      rw [List.splitOnP_cons_eq_if_modifyHead]
      cases hc : p c with
      | true => rw [if_pos rfl, List.length_cons, ih, List.countP_cons_of_pos hc]
      | false => rw [if_neg Bool.false_ne_true, List.length_modifyHead, ih, List.countP_cons_of_neg (by rw [hc]; decide)]

/-- Lines, but for an empty last one. -/
def dropEmptyLast (ls : List (List Char)) : List (List Char) :=
  if ls.getLast? = some [] then ls.dropLast else ls

theorem dropEmptyLast_append (xs : List (List Char)) {ys : List (List Char)} (h : ys ≠ []) :
    dropEmptyLast (xs ++ ys) = xs ++ dropEmptyLast ys := by
  unfold dropEmptyLast
  rw [List.getLast?_append_of_ne_nil xs h, List.dropLast_append_of_ne_nil h]
  split <;> rfl

/-- Lines are those that are left, or those and an empty one. -/
theorem dropEmptyLast_eq_or (ls : List (List Char)) : dropEmptyLast ls = ls ∨ ls = dropEmptyLast ls ++ [[]] := by
  unfold dropEmptyLast
  split
  · next hlast =>
      obtain ⟨first, rfl⟩ := List.getLast?_eq_some_iff.mp hlast
      rw [List.dropLast_concat]
      exact Or.inr rfl
  · exact Or.inl rfl

theorem length_dropEmptyLast_le (ls : List (List Char)) : (dropEmptyLast ls).length ≤ ls.length := by
  rcases dropEmptyLast_eq_or ls with h | h
  · exact Nat.le_of_eq (congrArg List.length h)
  · conv_rhs => rw [h, List.length_append]
    exact Nat.le_add_right _ _

theorem mem_of_mem_dropEmptyLast {ls : List (List Char)} {l : List Char} (h : l ∈ dropEmptyLast ls) : l ∈ ls := by
  rcases dropEmptyLast_eq_or ls with hls | hls
  · exact hls ▸ h
  · rw [hls]
    exact List.mem_append_left _ h

end Cutting

/-! ## 2. Lines of a source and lines of a text -/

section Lines

/-- The characters that end a line of a text but not of a source. -/
def isBreak (c : Char) : Bool := isLineEnd c && c ≠ '\n' && c ≠ '\r'

/-- The lines of a source without their ends. A source that ends with a line end has no empty last line. -/
def sourceLines (source : String) : List String :=
  (dropEmptyLast ((unifyLineEnds source.toList).splitOnP (· = '\n'))).map String.ofList

/-- The lines of a source, each cut at the characters that end a line of a text. -/
def brokenLines (source : String) : List String :=
  (dropEmptyLast (((unifyLineEnds source.toList).splitOnP (· = '\n')).flatMap (List.splitOnP isBreak))).map String.ofList

/-- The line is that of a text too: it holds no character that would end it. -/
def Unbroken (l : String) : Prop := ∀ c ∈ l.toList, isBreak c = false

instance : DecidablePred Unbroken := fun l =>
  decidable_of_iff (l.toList.all (!isBreak ·) = true) (by simp only [Unbroken, List.all_eq_true, Bool.not_eq_true'])

theorem unifyLineEnds_cons {c : Char} {r : List Char} (h : ∀ r', c = '\r' → r = '\n' :: r' → False) :
    unifyLineEnds (c :: r) = (if c = '\r' then '\n' else c) :: unifyLineEnds r := by
  by_cases hc : c = '\r'
  · subst hc
    cases r with
    | nil => rfl
    | cons d r =>
        have hd : d ≠ '\n' := fun e => h r rfl (e ▸ rfl)
        rw [unifyLineEnds, if_pos rfl]
        exact fun r' e => hd (List.cons.inj e).1
  · rw [unifyLineEnds, if_neg hc]
    · exact fun r' e => absurd e hc
    · exact hc

theorem return_not_mem_unifyLineEnds (s : List Char) : '\r' ∉ unifyLineEnds s := by
  fun_induction unifyLineEnds s with
  | case1 r ih => exact List.not_mem_cons_of_ne_of_not_mem (by decide) ih
  | case2 r _ ih => exact List.not_mem_cons_of_ne_of_not_mem (by decide) ih
  | case3 c r _ hc ih => exact List.not_mem_cons_of_ne_of_not_mem (fun e => hc e.symm) ih
  | case4 => exact List.not_mem_nil

/-- The lines of a text are what stands between its line ends; `acc` is the part of the first one that has been read. -/
theorem linesFrom_eq (acc s : List Char) (h : ∀ c ∈ acc, isLineEnd c = false) :
    linesFrom acc s = dropEmptyLast ((acc.reverse ++ unifyLineEnds s).splitOnP isLineEnd) := by
  have hopen : ∀ acc : List Char, (∀ c ∈ acc, isLineEnd c = false) → ∀ c ∈ acc.reverse, isLineEnd c = false :=
    fun _ h c hc => h c (List.mem_reverse.mp hc)
  have hend : ∀ (acc t : List Char) (c : Char), (∀ c ∈ acc, isLineEnd c = false) → isLineEnd c = true →
      dropEmptyLast ((acc.reverse ++ c :: t).splitOnP isLineEnd) =
        acc.reverse :: dropEmptyLast (t.splitOnP isLineEnd) := by
    intro acc t c h hc
    rw [List.splitOnP_append_cons_of_forall_mem (hopen acc h) c hc]
    exact dropEmptyLast_append [acc.reverse] (List.splitOnP_ne_nil _ _)
  have hnone : ∀ c ∈ ([] : List Char), isLineEnd c = false := fun c hc => absurd hc List.not_mem_nil
  fun_induction linesFrom acc s with
  | case1 acc hacc =>
      rw [List.isEmpty_iff.mp hacc]
      rfl
  | case2 acc hacc =>
      have hne : acc.reverse ≠ [] := fun e => hacc (List.isEmpty_iff.mpr (List.reverse_eq_nil_iff.mp e))
      rw [unifyLineEnds, List.append_nil, List.splitOnP_eq_singleton (hopen acc h), dropEmptyLast, if_neg]
      exact fun e => hne (Option.some.inj e)
  | case3 acc r ih =>
      rw [ih hnone, unifyLineEnds, hend acc _ '\n' h rfl]
      rfl
  | case4 acc c r hcr hc ih =>
      rw [ih hnone, unifyLineEnds_cons hcr, hend acc _ _ h]
      · rfl
      · split
        · rfl
        · exact hc
  | case5 acc c r hcr hc ih =>
      have hreturn : c ≠ '\r' := fun e => hc (e ▸ rfl)
      rw [ih (List.forall_mem_cons.mpr ⟨Bool.eq_false_iff.mpr hc, h⟩), unifyLineEnds_cons hcr, if_neg hreturn,
        List.reverse_cons, List.append_assoc]
      rfl

/-- **The lines of a text are those of the source, each cut at the characters that end a line of a text.** -/
theorem lines_eq_brokenLines (source : String) : lines source = brokenLines source := by
  have hends : ∀ c ∈ unifyLineEnds source.toList, isLineEnd c = (decide (c = '\n') || isBreak c) := by
    intro c hc
    have hreturn : c ≠ '\r' := fun e => return_not_mem_unifyLineEnds _ (e ▸ hc)
    by_cases hfeed : c = '\n'
    · rw [hfeed]
      rfl
    · simp [isBreak, hfeed, hreturn]
  rw [lines, linesFrom_eq [] _ fun c hc => absurd hc List.not_mem_nil, List.reverse_nil, List.nil_append,
    splitOnP_congr hends, splitOnP_or]
  rfl

/-- No line of a text holds a character that ends one. -/
theorem unbroken_of_mem_brokenLines {source l : String} (h : l ∈ brokenLines source) : Unbroken l := by
  intro c hc
  obtain ⟨piece, hpiece, rfl⟩ := List.mem_map.mp h
  obtain ⟨line, -, hcut⟩ := List.mem_flatMap.mp (mem_of_mem_dropEmptyLast hpiece)
  rw [String.toList_ofList] at hc
  exact of_mem_splitOnP hcut c hc

/-- A line of the source without such characters is not cut. -/
theorem flatMap_splitOnP_of_forall {ls : List (List Char)} (h : ∀ l ∈ ls, ∀ c ∈ l, isBreak c = false) :
    ls.flatMap (List.splitOnP isBreak) = ls := by
  rw [List.flatMap_congr fun l hl => List.splitOnP_eq_singleton (h l hl)]
  exact List.flatMap_singleton' ls

/-- The pieces of some lines are as many as the lines and the characters at which these are cut. -/
theorem length_flatMap_splitOnP (ls : List (List Char)) :
    (ls.flatMap (List.splitOnP isBreak)).length = ls.flatten.countP isBreak + ls.length := by
  induction ls with
  | nil => rfl
  | cons l ls ih =>
      rw [List.flatMap_cons, List.length_append, length_splitOnP, ih, List.flatten_cons, List.countP_append,
        List.length_cons]
      omega

theorem flatMap_splitOnP_ne_nil {ls : List (List Char)} (h : ls ≠ []) : ls.flatMap (List.splitOnP isBreak) ≠ [] := by
  obtain ⟨l, rest, rfl⟩ := List.exists_cons_of_ne_nil h
  rw [List.flatMap_cons]
  exact List.append_ne_nil_of_left_ne_nil (List.splitOnP_ne_nil _ _) _

/-- What is left behind a place that is not the end stands behind as many lines. -/
theorem exists_of_drop {ls : List (List Char)} {l : List Char} {rest : List (List Char)} {i : Nat}
    (h : ls.drop i = l :: rest) : ∃ before, ls = before ++ l :: rest ∧ before.length = i := by
  have hpos : 0 < (ls.drop i).length := h ▸ Nat.succ_pos _
  rw [List.length_drop] at hpos
  exact ⟨ls.take i, by rw [← h, List.take_append_drop], List.length_take_of_le (by omega)⟩

/-- The first lines are left as they are if none of them is cut. -/
theorem take_dropEmptyLast_flatMap {ls : List (List Char)} {n : Nat}
    (h : ∀ l ∈ ls.take n, ∀ c ∈ l, isBreak c = false) :
    (dropEmptyLast (ls.flatMap (List.splitOnP isBreak))).take n = (dropEmptyLast ls).take n := by
  cases hrest : ls.drop n with
  | nil =>
      rw [List.take_of_length_le (List.drop_eq_nil_iff.mp hrest)] at h
      rw [flatMap_splitOnP_of_forall h]
  | cons l rest =>
      obtain ⟨first, rfl, rfl⟩ := exists_of_drop hrest
      rw [List.take_left] at h
      rw [List.flatMap_append, flatMap_splitOnP_of_forall h,
        dropEmptyLast_append _ (flatMap_splitOnP_ne_nil (List.cons_ne_nil l rest)),
        dropEmptyLast_append _ (List.cons_ne_nil l rest), List.take_left, List.take_left]

/-- **Lines that are not cut stand further down** by as many lines as there are characters at which those before them
are cut. -/
theorem take_drop_dropEmptyLast_flatMap {ls : List (List Char)} {i n : Nat}
    (h : ∀ l ∈ (ls.drop i).take n, ∀ c ∈ l, isBreak c = false) :
    ((dropEmptyLast (ls.flatMap (List.splitOnP isBreak))).drop ((ls.take i).flatten.countP isBreak + i)).take n =
      ((dropEmptyLast ls).drop i).take n := by
  cases hrest : ls.drop i with
  | nil =>
      have hi : ls.length ≤ i := List.drop_eq_nil_iff.mp hrest
      have hcut := length_dropEmptyLast_le (ls.flatMap (List.splitOnP isBreak))
      rw [length_flatMap_splitOnP] at hcut
      rw [List.take_of_length_le hi, List.drop_eq_nil_of_le (by omega),
        List.drop_eq_nil_of_le (Nat.le_trans (length_dropEmptyLast_le ls) hi)]
  | cons l rest =>
      obtain ⟨before, rfl, rfl⟩ := exists_of_drop hrest
      rw [List.drop_left] at h
      rw [List.take_left, List.flatMap_append,
        dropEmptyLast_append _ (flatMap_splitOnP_ne_nil (List.cons_ne_nil l rest)),
        dropEmptyLast_append _ (List.cons_ne_nil l rest), ← length_flatMap_splitOnP, List.drop_left, List.drop_left,
        take_dropEmptyLast_flatMap h]

/-- The number of characters at which the lines before `first` are cut. -/
def breaksBefore (source : String) (first : Nat) : Nat :=
  (((sourceLines source).take (first - 1)).flatMap String.toList).countP isBreak

theorem breaksBefore_eq_zero {source : String} {first : Nat}
    (h : ∀ l ∈ (sourceLines source).take (first - 1), Unbroken l) : breaksBefore source first = 0 := by
  refine List.countP_eq_zero.mpr fun c hc => ?_
  obtain ⟨l, hl, hc⟩ := List.mem_flatMap.mp hc
  exact Bool.eq_false_iff.mp (h l hl c hc)

/-- An empty last line has no characters. -/
theorem flatten_take_dropEmptyLast (ls : List (List Char)) (i : Nat) :
    ((dropEmptyLast ls).take i).flatten = (ls.take i).flatten := by
  rcases dropEmptyLast_eq_or ls with h | h
  · rw [h]
  · have hnone : ∀ n, (([[]] : List (List Char)).take n).flatten = [] := fun n =>
      List.flatten_eq_nil_iff.mpr fun l hl => List.mem_singleton.mp (List.take_subset _ _ hl)
    conv_rhs => rw [h, List.take_append, List.flatten_append, hnone, List.append_nil]

theorem mem_dropEmptyLast_or {ls : List (List Char)} {l : List Char} {i n : Nat} (h : l ∈ (ls.drop i).take n) :
    l ∈ ((dropEmptyLast ls).drop i).take n ∨ l = [] := by
  rcases dropEmptyLast_eq_or ls with hls | hls
  · rw [hls]
    exact Or.inl h
  · rw [hls, List.drop_append, List.take_append] at h
    refine (List.mem_append.mp h).imp_right fun h => ?_
    exact List.mem_singleton.mp (List.drop_subset _ _ (List.take_subset _ _ h))

/-- **Lines of the source that are not cut are lines of the text**, further down by the number of characters at which
those before them are cut. -/
theorem drop_brokenLines {source : String} {first n : Nat}
    (h : ∀ l ∈ ((sourceLines source).drop (first - 1)).take n, Unbroken l) :
    ((brokenLines source).drop (breaksBefore source first + (first - 1))).take n =
      ((sourceLines source).drop (first - 1)).take n := by
  unfold breaksBefore brokenLines sourceLines at *
  generalize (unifyLineEnds source.toList).splitOnP (· = '\n') = ls at *
  have hown : ∀ l ∈ (ls.drop (first - 1)).take n, ∀ c ∈ l, isBreak c = false := by
    intro l hl c hc
    rcases mem_dropEmptyLast_or hl with hl | rfl
    · refine h (String.ofList l) ?_ c (by rwa [String.toList_ofList])
      rw [← List.map_drop, ← List.map_take]
      exact List.mem_map_of_mem hl
    · exact absurd hc List.not_mem_nil
  have htext : ∀ ks : List (List Char), (ks.map String.ofList).flatMap String.toList = ks.flatten := by
    intro ks
    rw [List.flatMap_map, List.flatten_eq_flatMap]
    exact List.flatMap_congr fun l _ => String.toList_ofList
  rw [← List.map_take, htext, flatten_take_dropEmptyLast, ← List.map_drop, ← List.map_take,
    take_drop_dropEmptyLast_flatMap hown, List.map_take, List.map_drop]

end Lines

/-! ## 3. From one line to another -/

section Between

/-- The text of the lines from `first` to `last`, counted from 1. -/
def textBetween (ls : List String) (first last : Nat) : String := "\n".intercalate ((ls.take last).drop (first - 1))

theorem slice_eq_textBetween (o : Origin) (e : Extent) : o.slice e = textBetween o.lines e.first e.last := by
  rw [Origin.slice, textBetween, List.drop_take]

/-- The characters of lines that are put together are those of the lines, and line feeds. -/
theorem mem_intercalate {ls : List String} {c : Char} (h : c ∈ ("\n".intercalate ls).toList) :
    c = '\n' ∨ ∃ l ∈ ls, c ∈ l.toList := by
  rw [String.toList_intercalate] at h
  induction ls with
  | nil => exact absurd h List.not_mem_nil
  | cons l ls ih =>
      rw [List.map_cons] at h
      cases ls with
      | nil =>
          rw [List.map_nil, List.intercalate_singleton] at h
          exact Or.inr ⟨l, List.mem_cons_self, h⟩
      | cons m ls =>
          rw [List.map_cons, List.intercalate_cons_cons, List.append_assoc] at h
          rcases List.mem_append.mp h with h | h
          · exact Or.inr ⟨l, List.mem_cons_self, h⟩
          · rcases List.mem_append.mp h with h | h
            · exact Or.inl (List.mem_singleton.mp h)
            · exact (ih h).imp_right fun ⟨k, hk, hc⟩ => ⟨k, List.mem_cons_of_mem _ hk, hc⟩

theorem mem_intercalate_of_mem {ls : List String} {l : String} (hl : l ∈ ls) {c : Char} (hc : c ∈ l.toList) :
    c ∈ ("\n".intercalate ls).toList := by
  rw [String.toList_intercalate]
  induction ls with
  | nil => exact absurd hl List.not_mem_nil
  | cons m ls ih =>
      rw [List.map_cons]
      rcases List.mem_cons.mp hl with rfl | hl
      · cases ls with
        | nil =>
            rw [List.map_nil, List.intercalate_singleton]
            exact hc
        | cons k ls =>
            rw [List.map_cons, List.intercalate_cons_cons, List.append_assoc]
            exact List.mem_append_left _ hc
      · rw [List.intercalate_cons_of_ne_nil (by simpa using List.ne_nil_of_mem hl)]
        exact List.mem_append_right _ (ih hl)

/-- What is taken from the lines of a text holds no character that ends such a line, but for line feeds. -/
theorem unbroken_textBetween (source : String) (first last : Nat) :
    Unbroken (textBetween (brokenLines source) first last) := by
  intro c h
  rcases mem_intercalate h with rfl | ⟨l, hl, hc⟩
  · rfl
  · exact unbroken_of_mem_brokenLines (List.take_subset _ _ (List.drop_subset _ _ hl)) c hc

theorem textBetween_sourceLines {source : String} {first last : Nat}
    (h : ∀ l ∈ ((sourceLines source).take last).drop (first - 1), Unbroken l) :
    textBetween (sourceLines source) first last =
      textBetween ((brokenLines source).drop (breaksBefore source first)) first last := by
  rw [List.drop_take] at h
  rw [textBetween, textBetween, List.drop_take, List.drop_take, List.drop_drop, drop_brokenLines h]

end Between

/-! ## 4. Fragments -/

section Fragments

/-- A fragment has the lines of its statement, and their text. -/
theorem content_of_fragmentsOfAll {o : Origin} {tree : Module} {fs : List Fragment}
    (h : o.fragmentsOfAll o.package false tree = .ok fs) {f : Fragment} (hf : f ∈ fs) :
    ∃ e : Extent, f.startLine = e.first ∧ f.endLine = e.last ∧ f.content = some (o.slice e) := by
  rw [fragmentsOfAll_eq] at h
  obtain ⟨k, hk⟩ := List.mem_iff_getElem?.mp hf
  obtain ⟨b, -, hb⟩ := exists_getElem?_of_forall₂ (forall₂_of_mapM_ok h).flip hk
  obtain ⟨text, rfl⟩ := exists_of_fragmentAt hb
  exact ⟨b.stmt.span, rfl, rfl, rfl⟩

theorem exists_of_fragments {named : List Char → Option Nat} {source package file : String} {fs : List Fragment}
    (h : fragments named source package file = .ok fs) :
    ∃ tree, Module.ofSource? named source = some tree ∧
      (Origin.mk package file (lines source)).fragmentsOfAll package false tree = .ok fs := by
  unfold fragments at h
  split at h
  · cases h
  · split at h
    · cases h
    · next tree htree =>
        refine ⟨tree, htree, ?_⟩
        split at h
        · next hread => rw [hread, Except.ok.inj h]
        · cases h

/-- **What the content of a fragment is.** It is taken from the lines of the text, by the numbers of the lines of the
source. So it is the text of the lines of the fragment if up to the last of them no line holds a character that ends a
line of a text. If one of its own lines does, it is not; and if only lines above do, the text of its lines stands as many
lines further down. -/
theorem content_exact {named : List Char → Option Nat} {source package file : String} {fs : List Fragment}
    (h : fragments named source package file = .ok fs) :
    ∀ f ∈ fs, ∃ first last : Nat, f.startLine = first ∧ f.endLine = last ∧
      f.content = some (textBetween (brokenLines source) first last) ∧
      ((∀ l ∈ ((sourceLines source).take last).drop (first - 1), Unbroken l) →
        textBetween (sourceLines source) first last =
          textBetween ((brokenLines source).drop (breaksBefore source first)) first last ∧
        ((∀ l ∈ (sourceLines source).take (first - 1), Unbroken l) →
          f.content = some (textBetween (sourceLines source) first last))) ∧
      (∀ l ∈ ((sourceLines source).take last).drop (first - 1), ¬ Unbroken l →
        f.content ≠ some (textBetween (sourceLines source) first last)) := by
  intro f hf
  obtain ⟨tree, -, htree⟩ := exists_of_fragments h
  obtain ⟨e, hfirst, hlast, hcontent⟩ := content_of_fragmentsOfAll (o := ⟨package, file, lines source⟩) htree hf
  rw [slice_eq_textBetween] at hcontent
  dsimp only at hcontent
  rw [lines_eq_brokenLines] at hcontent
  refine ⟨e.first, e.last, hfirst, hlast, hcontent, fun hown => ?_, fun l hl hbroken hsame => ?_⟩
  · have hdown := textBetween_sourceLines hown
    refine ⟨hdown, fun habove => ?_⟩
    rw [hcontent, hdown, breaksBefore_eq_zero habove, List.drop_zero]
  · have htext := unbroken_textBetween source e.first e.last
    rw [Option.some.inj (hcontent.symm.trans hsame)] at htext
    exact hbroken fun c hc => htext c (mem_intercalate_of_mem hl hc)

/-- A decorated method in a class. The lines of the source end in all three ways. -/
theorem content_exact_method :
    let source := "class Box:\r\n    @cached\r    def size(self):\n        return 1\n"
    ∃ fs, fragments (fun _ => none) source "m" "m.py" = .ok fs ∧
      fs.map (fun f => (f.id, f.startLine, f.endLine)) = [("m.Box", 1, 4), ("m.Box.size", 2, 4)] ∧
      (∀ f ∈ fs, ∃ first last : Nat, f.startLine = first ∧ f.endLine = last ∧
        f.content = some (textBetween (sourceLines source) first last)) ∧
      textBetween (sourceLines source) 2 4 = "    @cached\n    def size(self):\n        return 1" := by
  intro source
  have hread : (fragments (fun _ => none) source "m" "m.py").toOption.map
      (·.map fun f => (f.id, f.startLine, f.endLine)) = some [("m.Box", 1, 4), ("m.Box.size", 2, 4)] := by
    decide +kernel
  have hunbroken : ∀ l ∈ sourceLines source, Unbroken l := by decide +kernel
  cases hfs : fragments (fun _ => none) source "m" "m.py" with
  | error e =>
      rw [hfs] at hread
      cases hread
  | ok fs =>
      rw [hfs] at hread
      refine ⟨fs, rfl, Option.some.inj hread, fun f hf => ?_, by decide +kernel⟩
      obtain ⟨first, last, hfirst, hlast, -, hintact, -⟩ := content_exact hfs f hf
      refine ⟨first, last, hfirst, hlast, (hintact fun l hl => hunbroken l ?_).2 fun l hl => hunbroken l ?_⟩
      · exact List.take_subset _ _ (List.drop_subset _ _ hl)
      · exact List.take_subset _ _ hl

/-- A form feed in a text above a function: the content of the function is what follows the form feed. -/
theorem content_after_break :
    let source := "p = \"\x0c\"\ndef f(): pass\n"
    ∃ f, fragments (fun _ => none) source "m" "<string>" = .ok [f] ∧ f.id = "m.f" ∧ f.startLine = 2 ∧ f.endLine = 2 ∧
      textBetween (sourceLines source) 2 2 = "def f(): pass" ∧ f.content = some "\"" := by
  intro source
  have hread : (fragments (fun _ => none) source "m" "<string>").toOption.map
      (·.map fun f => (f.id, f.startLine, f.endLine, f.content)) = some [("m.f", 2, 2, some "\"")] := by
    decide +kernel
  cases hfs : fragments (fun _ => none) source "m" "<string>" with
  | error e =>
      rw [hfs] at hread
      cases hread
  | ok fs =>
      rw [hfs] at hread
      obtain ⟨f, rfl, hf⟩ := List.map_eq_singleton_iff.mp (Option.some.inj hread)
      simp only [Prod.mk.injEq] at hf
      obtain ⟨hid, hfirst, hlast, hcontent⟩ := hf
      exact ⟨f, rfl, hid, hfirst, hlast, by decide +kernel, hcontent⟩

end Fragments

end FragmentSearch.Source
