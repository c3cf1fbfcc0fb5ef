import FragmentSearch.Proofs.Json.Numeral

/-!
# What is written is read

A value is written part by part, with blanks between the parts, and read in the same order.

* `Sound` -- the values that have a text: integers of no more digits than an integer may have, floating point
  numbers that read back, no name twice in an object;
* `ReadsAs s v` -- the text `s` is read as the value `v` wherever it stands before a delimiter;
* `readsAs_renderAt` -- what is written for a sound value is read as the value, in every layout of blanks;
* `parse_renderAt` -- so the whole text is read as the value;
* `renderAt_ascii` -- and it consists of printable ASCII characters and line feeds.
-/

namespace FragmentSearch.Json

open FragmentSearch.Decimal

/-! ## 1. Sound values -/

/-- Has the value a text that is read as the value? -/
inductive Sound : Json → Prop
  | null : Sound .null
  | bool (b : Bool) : Sound (.bool b)
  | int {i : Int} (h : (digitsOf i.natAbs).length ≤ maxIntegerDigits) : Sound (.int i)
  | float {x : Float} (h : ReadsBack x) : Sound (.float x)
  | text (s : String) : Sound (.text s)
  | list {vs : List Json} (h : ∀ v ∈ vs, Sound v) : Sound (.list vs)
  | object {fs : List (String × Json)} (names : (fs.map (·.1)).Nodup) (h : ∀ f ∈ fs, Sound f.2) : Sound (.object fs)

/-- A text is read as a value wherever it stands before a delimiter. -/
def ReadsAs (s : List Char) (v : Json) : Prop :=
  ∀ fuel pos rest, s.length ≤ fuel → Delimited rest → ∃ p, readValue fuel pos (s ++ rest) = .ok (v, rest, p)

/-- What is read as a value begins with neither a blank nor a closing bracket, nor with a byte order mark. -/
theorem readValue_head {fuel pos : Nat} {s : List Char} {r : Json × List Char × Nat}
    (h : readValue fuel pos s = .ok r) : ∃ c t, s = c :: t ∧ isGap c = false ∧ c ≠ ']' ∧ c ≠ Char.ofNat 0xfeff := by
  cases fuel with
  | zero => cases h
  | succ fuel =>
      cases s with
      | nil => cases h
      | cons c t =>
          have hbad : c ∉ [' ', '\t', '\n', '\r', ']', Char.ofNat 0xfeff] := by
            intro hc
            simp only [List.mem_cons, List.not_mem_nil, or_false] at hc
            rcases hc with rfl | rfl | rfl | rfl | rfl | rfl <;> cases h
          simp only [List.mem_cons, List.not_mem_nil, or_false, not_or] at hbad
          obtain ⟨hs, ht, hn, hr, hb, hm⟩ := hbad
          refine ⟨c, t, rfl, ?_, hb, hm⟩
          simp only [isGap, hs, ht, hn, hr, decide_false, Bool.or_self]

theorem ReadsAs.head {s : List Char} {v : Json} (h : ReadsAs s v) :
    ∃ c t, s = c :: t ∧ isGap c = false ∧ c ≠ ']' ∧ c ≠ Char.ofNat 0xfeff := by
  obtain ⟨p, hp⟩ := h s.length 0 [] (Nat.le_refl _) delimited_nil
  rw [List.append_nil] at hp
  exact readValue_head hp

/-! ## 2. Blanks -/

/-- Are there only blanks and line feeds? -/
def AllBlank (g : List Char) : Prop := ∀ c ∈ g, c = ' ' ∨ c = '\n'

/-- Only blanks and line feeds are set between the parts. -/
structure Layout.IsBlank (l : Layout) : Prop where
  opening : ∀ d, AllBlank (l.opening d)
  between : ∀ d, AllBlank (l.between d)
  closing : ∀ d, AllBlank (l.closing d)

theorem allBlank_lineBreak (depth : Nat) : AllBlank (lineBreak depth) := by
  intro c h
  rcases List.mem_cons.mp h with rfl | h
  · exact Or.inr rfl
  · exact Or.inl (List.mem_replicate.mp h).2

theorem Layout.isBlank_indented : Layout.indented.IsBlank :=
  ⟨fun d => allBlank_lineBreak (d + 1), fun d => allBlank_lineBreak (d + 1), allBlank_lineBreak⟩

theorem Layout.isBlank_oneLine : Layout.oneLine.IsBlank := by
  have hnil : AllBlank [] := fun _ h => absurd h List.not_mem_nil
  exact ⟨fun _ => hnil, fun _ c h => Or.inl (List.mem_singleton.mp h), fun _ => hnil⟩

section Blanks

variable {g : List Char}

theorem AllBlank.isGap (hg : AllBlank g) : ∀ c ∈ g, Json.isGap c = true := by
  intro c h
  rcases hg c h with rfl | rfl <;> rfl

/-- Blanks are skipped up to the first other character. -/
theorem skipGap_append (hg : AllBlank g) {c : Char} (hc : isGap c = false) (t : List Char) :
    ∀ pos, skipGap pos (g ++ c :: t) = (c :: t, pos + g.length) := by
  induction g with
  | nil =>
      intro pos
      rw [List.nil_append, skipGap, if_neg (by rw [hc]; exact Bool.false_ne_true)]
      rfl
  | cons d g ih =>
      intro pos
      have hd := hg.isGap d List.mem_cons_self
      rw [List.cons_append, skipGap, if_pos hd, ih fun c h => hg c (List.mem_cons_of_mem _ h),
        List.length_cons]
      rw [show pos + 1 + g.length = pos + (g.length + 1) by omega]

theorem skipGap_cons {c : Char} (hc : isGap c = false) (t : List Char) (pos : Nat) :
    skipGap pos (c :: t) = (c :: t, pos) :=
  skipGap_append (fun _ h => absurd h List.not_mem_nil) hc t pos

/-- Blanks and a bracket behind them delimit a value. -/
theorem delimited_append (hg : AllBlank g) {c : Char} (hc : isDelimiter c = true) (t : List Char) :
    Delimited (g ++ c :: t) := by
  cases g with
  | nil => exact delimited_cons hc
  | cons d g =>
      refine delimited_cons ?_
      rw [isDelimiter, hg.isGap d List.mem_cons_self, Bool.true_or, Bool.true_or, Bool.true_or]

end Blanks

/-! ## 3. Lists and objects -/

section Parts

variable {l : Layout} {d : Nat}

/-- What the reader does after an item of a list. -/
def afterItem (fuel : Nat) (acc : List Json) (p : Nat) : List Char → Step Json
  | ']' :: rest => .ok (.list acc.reverse, rest, p + 1)
  | ',' :: rest => readItems fuel acc (skipGap (p + 1) rest).2 (skipGap (p + 1) rest).1
  | _ => stop .comma p

theorem readItems_item {s y : List Char} {v : Json} {fuel : Nat} (hs : ReadsAs s v) (hfuel : s.length ≤ fuel)
    (hy : Delimited y) (acc : List Json) (pos : Nat) :
    ∃ p, readItems (fuel + 1) acc pos (s ++ y) = afterItem fuel (v :: acc) (skipGap p y).2 (skipGap p y).1 := by
  obtain ⟨p, hp⟩ := hs fuel pos y hfuel hy
  refine ⟨p, ?_⟩
  rw [readItems, hp]
  rfl

/-- **The items of a list** from the one on that `s` writes. -/
theorem readItems_renderItems (hl : l.IsBlank) (vs : List Json) (hvs : ∀ v ∈ vs, ReadsAs (renderAt l (d + 1) v) v) :
    ∀ (s : List Char) (v : Json) (acc : List Json) (fuel pos : Nat) (rest : List Char), ReadsAs s v →
      s.length + (renderItems l d vs).length + 1 ≤ fuel →
      ∃ p, readItems fuel acc pos (s ++ (renderItems l d vs ++ (l.closing d ++ ']' :: rest))) =
        .ok (.list (acc.reverse ++ v :: vs), rest, p) := by
  induction vs with
  | nil =>
      intro s v acc fuel pos rest hs hfuel
      obtain ⟨fuel, rfl⟩ : ∃ n, fuel = n + 1 := ⟨fuel - 1, by omega⟩
      have hend : Delimited (l.closing d ++ ']' :: rest) := delimited_append (hl.closing d) rfl rest
      have hlen : s.length ≤ fuel := by omega
      obtain ⟨p, hp⟩ := readItems_item hs hlen hend acc pos
      refine ⟨p + (l.closing d).length + 1, ?_⟩
      rw [renderItems, List.nil_append, hp, skipGap_append (hl.closing d) rfl, afterItem, List.reverse_cons]
  | cons w vs ih =>
      intro s v acc fuel pos rest hs hfuel
      obtain ⟨fuel, rfl⟩ : ∃ n, fuel = n + 1 := ⟨fuel - 1, by omega⟩
      simp only [renderItems, List.length_append, List.length_cons] at hfuel
      have hw := hvs w List.mem_cons_self
      obtain ⟨c, t, hct, hc, _⟩ := hw.head
      let tail := renderItems l d vs ++ (l.closing d ++ ']' :: rest)
      have e : renderItems l d (w :: vs) ++ (l.closing d ++ ']' :: rest) =
          ',' :: (l.between d ++ (renderAt l (d + 1) w ++ tail)) := by
        simp only [renderItems, tail, List.cons_append, List.append_assoc]
      have hlen : s.length ≤ fuel := by omega
      have hcomma : Delimited (',' :: (l.between d ++ (renderAt l (d + 1) w ++ tail))) := delimited_cons rfl
      obtain ⟨p, hp⟩ := readItems_item hs hlen hcomma acc pos
      have hskip : skipGap (p + 1) (l.between d ++ (renderAt l (d + 1) w ++ tail)) =
          (renderAt l (d + 1) w ++ tail, p + 1 + (l.between d).length) := by
        rw [hct, List.cons_append]
        exact skipGap_append (hl.between d) hc _ _
      obtain ⟨p', hp'⟩ := ih (fun u hu => hvs u (List.mem_cons_of_mem _ hu)) _ w (v :: acc) fuel
        (p + 1 + (l.between d).length) rest hw (by omega)
      refine ⟨p', ?_⟩
      rw [e, hp, skipGap_cons rfl, afterItem, hskip, hp', List.reverse_cons, List.append_assoc, List.singleton_append]

/-- Setting a field with a new name. -/
theorem setField_of_not_mem {n : String} {v : Json} (fs : List (String × Json)) (h : n ∉ fs.map (·.1)) :
    setField n v fs = fs ++ [(n, v)] := by
  induction fs with
  | nil => rfl
  | cons f fs ih =>
      obtain ⟨m, w⟩ := f
      have hne : m ≠ n := fun e => h (List.mem_cons.mpr (Or.inl e.symm))
      rw [setField, if_neg hne, ih fun h' => h (List.mem_cons_of_mem _ h')]
      rfl

/-- What is written for a name is read as the name. -/
theorem readText_renderText (n : String) (start pos : Nat) (rest : List Char) :
    ∃ t p, renderText n ++ rest = '"' :: t ∧ readText start [] pos 0 t = .ok (n, rest, p) := by
  obtain ⟨p, hp⟩ : ∃ p, readText start [] pos 0 (n.toList.flatMap escapeChar ++ '"' :: rest) =
      .ok (String.ofList n.toList, rest, p) := readText_escapes n.toList rest [] pos
  rw [String.ofList_toList] at hp
  refine ⟨n.toList.flatMap escapeChar ++ '"' :: rest, p, ?_, hp⟩
  simp only [renderText, List.cons_append, List.append_assoc, List.nil_append]

/-- What the reader does after a field of an object. -/
def afterField (fuel : Nat) (acc : List (String × Json)) (p : Nat) : List Char → Step Json
  | '\x7d' :: rest => .ok (.object acc, rest, p + 1)
  | ',' :: rest => readFields fuel acc (skipGap (p + 1) rest).2 (skipGap (p + 1) rest).1
  | _ => stop .comma p

theorem readFields_field {s y : List Char} {v : Json} {fuel : Nat} (hs : ReadsAs s v) (hfuel : s.length ≤ fuel)
    (hy : Delimited y) (n : String) (acc : List (String × Json)) (pos : Nat) :
    ∃ p, readFields (fuel + 1) acc pos (renderText n ++ (':' :: ' ' :: (s ++ y))) =
      afterField fuel (setField n v acc) (skipGap p y).2 (skipGap p y).1 := by
  obtain ⟨t, p₁, ht, hp₁⟩ := readText_renderText n pos (pos + 1) (':' :: ' ' :: (s ++ y))
  obtain ⟨c, u, hcu, hc, _⟩ := hs.head
  have hblank : AllBlank [' '] := fun c h => Or.inl (List.mem_singleton.mp h)
  have hskip : skipGap (p₁ + 1) (' ' :: (s ++ y)) = (s ++ y, p₁ + 1 + 1) := by
    rw [hcu, List.cons_append]
    exact skipGap_append hblank hc _ _
  obtain ⟨p, hp⟩ := hs fuel (p₁ + 1 + 1) y hfuel hy
  refine ⟨p, ?_⟩
  rw [ht, readFields, hp₁]
  simp only [skipGap_cons (show isGap ':' = false from rfl), hskip, hp]
  rfl

/-- **The fields of an object** from the one on whose name is `n` and whose value `s` writes. -/
theorem readFields_renderFields (hl : l.IsBlank) (fs : List (String × Json))
    (hfs : ∀ f ∈ fs, ReadsAs (renderAt l (d + 1) f.2) f.2) :
    ∀ (n : String) (s : List Char) (v : Json) (acc : List (String × Json)) (fuel pos : Nat) (rest : List Char),
      ReadsAs s v → (acc.map (·.1) ++ n :: fs.map (·.1)).Nodup →
      s.length + (renderFields l d fs).length + 1 ≤ fuel →
      ∃ p, readFields fuel acc pos
          (renderText n ++ (':' :: ' ' :: (s ++ (renderFields l d fs ++ (l.closing d ++ '\x7d' :: rest))))) =
        .ok (.object (acc ++ (n, v) :: fs), rest, p) := by
  induction fs with
  | nil =>
      intro n s v acc fuel pos rest hs hnames hfuel
      obtain ⟨fuel, rfl⟩ : ∃ n, fuel = n + 1 := ⟨fuel - 1, by omega⟩
      have hnew : n ∉ acc.map (·.1) := fun h => (List.nodup_append.mp hnames).2.2 n h n List.mem_cons_self rfl
      have hend : Delimited (l.closing d ++ '\x7d' :: rest) := delimited_append (hl.closing d) rfl rest
      have hlen : s.length ≤ fuel := by omega
      obtain ⟨p, hp⟩ := readFields_field hs hlen hend n acc pos
      refine ⟨p + (l.closing d).length + 1, ?_⟩
      rw [renderFields, List.nil_append, hp, skipGap_append (hl.closing d) rfl, afterField,
        setField_of_not_mem acc hnew]
  | cons f fs ih =>
      intro n s v acc fuel pos rest hs hnames hfuel
      obtain ⟨m, w⟩ := f
      obtain ⟨fuel, rfl⟩ : ∃ n, fuel = n + 1 := ⟨fuel - 1, by omega⟩
      simp only [renderFields, List.length_append, List.length_cons] at hfuel
      have hw : ReadsAs (renderAt l (d + 1) w) w := hfs (m, w) List.mem_cons_self
      have hnew : n ∉ acc.map (·.1) := fun h => (List.nodup_append.mp hnames).2.2 n h n List.mem_cons_self rfl
      let tail := ':' :: ' ' :: (renderAt l (d + 1) w ++ (renderFields l d fs ++ (l.closing d ++ '\x7d' :: rest)))
      have e : renderFields l d ((m, w) :: fs) ++ (l.closing d ++ '\x7d' :: rest) =
          ',' :: (l.between d ++ (renderText m ++ tail)) := by
        simp only [renderFields, tail, List.cons_append, List.append_assoc, List.nil_append]
      have hlen : s.length ≤ fuel := by omega
      have hcomma : Delimited (',' :: (l.between d ++ (renderText m ++ tail))) := delimited_cons rfl
      obtain ⟨p, hp⟩ := readFields_field hs hlen hcomma n acc pos
      have hskip : skipGap (p + 1) (l.between d ++ (renderText m ++ tail)) =
          (renderText m ++ tail, p + 1 + (l.between d).length) :=
        skipGap_append (hl.between d) (show isGap '"' = false from rfl) _ _
      obtain ⟨p', hp'⟩ := ih (fun g hg => hfs g (List.mem_cons_of_mem _ hg)) m _ w (acc ++ [(n, v)]) fuel
        (p + 1 + (l.between d).length) rest hw (by simpa using hnames) (by omega)
      refine ⟨p', ?_⟩
      rw [e, hp, skipGap_cons rfl, afterField, hskip, setField_of_not_mem acc hnew, hp', List.append_assoc,
        List.singleton_append]

end Parts

/-! ## 4. Values -/

section Values

variable {l : Layout}

theorem renderInt_ne_nil (i : Int) : renderInt i ≠ [] := by
  unfold renderInt
  split
  · exact List.cons_ne_nil _ _
  · exact digitsOf_ne_nil _

theorem renderFloat_ne_nil {x : Float} (h : ReadsBack x) : renderFloat x ≠ [] := by
  intro e
  rw [ReadsBack, e, parse, String.toList_ofList] at h
  cases h

/-- A text that is not empty needs some fuel. -/
theorem exists_fuel {s : List Char} (hs : s ≠ []) {fuel : Nat} (h : s.length ≤ fuel) : ∃ n, fuel = n + 1 := by
  have := List.length_pos_iff.mpr hs
  exact ⟨fuel - 1, by omega⟩

theorem readsAs_keyword {k : String × Json} (hk : k ∈ keywords) : ReadsAs k.1.toList k.2 := by
  intro fuel pos rest hfuel _
  have hne : k.1.toList ≠ [] := by
    simp only [keywords, List.mem_cons, List.not_mem_nil, or_false] at hk
    rcases hk with rfl | rfl | rfl | rfl | rfl | rfl <;> exact List.cons_ne_nil _ _
  obtain ⟨fuel, rfl⟩ := exists_fuel hne hfuel
  exact ⟨_, readValue_keyword hk rest fuel pos⟩

theorem readsAs_renderText (s : String) : ReadsAs (renderText s) (.text s) := by
  intro fuel pos rest hfuel _
  obtain ⟨fuel, rfl⟩ := exists_fuel (List.cons_ne_nil _ _) hfuel
  obtain ⟨t, p, ht, hp⟩ := readText_renderText s pos (pos + 1) rest
  refine ⟨p, ?_⟩
  rw [ht, readValue, if_pos rfl, hp]

/-- The reader goes into a list at its first item. -/
theorem readsAs_list (hl : l.IsBlank) {d : Nat} {v : Json} {vs : List Json}
    (hvs : ∀ w ∈ v :: vs, ReadsAs (renderAt l (d + 1) w) w) :
    ReadsAs (renderAt l d (.list (v :: vs))) (.list (v :: vs)) := by
  intro fuel pos rest hfuel _
  obtain ⟨fuel, rfl⟩ := exists_fuel (by rw [renderAt]; exact List.cons_ne_nil _ _) hfuel
  simp only [renderAt, List.length_cons, List.length_append, List.cons_append] at hfuel
  have hv := hvs v List.mem_cons_self
  obtain ⟨c, t, hct, hc, hb, _⟩ := hv.head
  let tail := renderItems l d vs ++ (l.closing d ++ ']' :: rest)
  have e : renderAt l d (.list (v :: vs)) ++ rest = '[' :: (l.opening d ++ (renderAt l (d + 1) v ++ tail)) := by
    simp only [renderAt, tail, List.cons_append, List.append_assoc, List.nil_append]
  have hskip : skipGap (pos + 1) (l.opening d ++ (renderAt l (d + 1) v ++ tail)) =
      (renderAt l (d + 1) v ++ tail, pos + 1 + (l.opening d).length) := by
    rw [hct, List.cons_append]
    exact skipGap_append (hl.opening d) hc _ _
  obtain ⟨p, hp⟩ := readItems_renderItems hl vs (fun w hw => hvs w (List.mem_cons_of_mem _ hw)) _ v [] fuel
    (pos + 1 + (l.opening d).length) rest hv (by omega)
  refine ⟨p, ?_⟩
  rw [e, readValue, if_neg (by decide), if_pos rfl]
  simp only [hskip]
  split
  · next r hr =>
      rw [hct] at hr
      exact absurd (List.cons.inj hr).1 hb
  · exact hp

/-- The reader goes into an object at its first field. -/
theorem readsAs_object (hl : l.IsBlank) {d : Nat} {f : String × Json} {fs : List (String × Json)}
    (hnames : ((f :: fs).map (·.1)).Nodup) (hfs : ∀ g ∈ f :: fs, ReadsAs (renderAt l (d + 1) g.2) g.2) :
    ReadsAs (renderAt l d (.object (f :: fs))) (.object (f :: fs)) := by
  obtain ⟨n, v⟩ := f
  intro fuel pos rest hfuel _
  obtain ⟨fuel, rfl⟩ := exists_fuel (by rw [renderAt]; exact List.cons_ne_nil _ _) hfuel
  simp only [renderAt, List.length_cons, List.length_append, List.cons_append] at hfuel
  let tail := ':' :: ' ' :: (renderAt l (d + 1) v ++ (renderFields l d fs ++ (l.closing d ++ '\x7d' :: rest)))
  have e : renderAt l d (.object ((n, v) :: fs)) ++ rest = '\x7b' :: (l.opening d ++ (renderText n ++ tail)) := by
    simp only [renderAt, tail, List.cons_append, List.append_assoc, List.nil_append]
  have hskip : skipGap (pos + 1) (l.opening d ++ (renderText n ++ tail)) =
      (renderText n ++ tail, pos + 1 + (l.opening d).length) :=
    skipGap_append (hl.opening d) (show isGap '"' = false from rfl) _ _
  have hv : ReadsAs (renderAt l (d + 1) v) v := hfs (n, v) List.mem_cons_self
  obtain ⟨p, hp⟩ := readFields_renderFields hl fs (fun g hg => hfs g (List.mem_cons_of_mem _ hg)) n _ v [] fuel
    (pos + 1 + (l.opening d).length) rest hv hnames (by omega)
  refine ⟨p, ?_⟩
  rw [e, readValue, if_neg (by decide), if_neg (by decide), if_pos rfl]
  simp only [hskip]
  exact hp

/-- **What is written for a sound value is read as the value**, wherever it stands. -/
theorem readsAs_renderAt (hl : l.IsBlank) {v : Json} (h : Sound v) : ∀ d, ReadsAs (renderAt l d v) v := by
  induction h with
  | null => exact fun d => readsAs_keyword (k := ("null", .null)) (by simp [keywords])
  | bool b =>
      intro d
      cases b with
      | true => exact readsAs_keyword (k := ("true", .bool true)) (by simp [keywords])
      | false => exact readsAs_keyword (k := ("false", .bool false)) (by simp [keywords])
  | @int i h =>
      intro d fuel pos rest hfuel hrest
      obtain ⟨fuel, rfl⟩ := exists_fuel (renderInt_ne_nil i) hfuel
      exact readValue_renderInt h hrest fuel pos
  | float h =>
      intro d fuel pos rest hfuel hrest
      obtain ⟨fuel, rfl⟩ := exists_fuel (renderFloat_ne_nil h) hfuel
      exact readValue_renderFloat h hrest fuel pos
  | text s => exact fun d => readsAs_renderText s
  | @list vs h ih =>
      intro d
      cases vs with
      | nil =>
          intro fuel pos rest hfuel _
          obtain ⟨fuel, rfl⟩ := exists_fuel (List.cons_ne_nil _ _) hfuel
          exact ⟨pos + 1 + 1, rfl⟩
      | cons v vs => exact readsAs_list hl fun w hw => ih w hw (d + 1)
  | @object fs names h ih =>
      intro d
      cases fs with
      | nil =>
          intro fuel pos rest hfuel _
          obtain ⟨fuel, rfl⟩ := exists_fuel (List.cons_ne_nil _ _) hfuel
          exact ⟨pos + 1 + 1, rfl⟩
      | cons f fs => exact readsAs_object hl names fun g hg => ih g hg (d + 1)

/-- **The text of a sound value is read as the value.** -/
theorem parse_renderAt (hl : l.IsBlank) {v : Json} (h : Sound v) (d : Nat) :
    parse (String.ofList (renderAt l d v)) = .ok v := by
  have hread := readsAs_renderAt hl h d
  obtain ⟨c, t, hct, hc, _, hb⟩ := hread.head
  obtain ⟨p, hp⟩ := hread (2 * (c :: t).length + 2) 0 [] (by rw [hct]; omega) delimited_nil
  rw [List.append_nil, hct] at hp
  rw [hct, parse_ofList hc hb]
  exact ⟨[], p, hp, rfl⟩

theorem parse_renderIndented {v : Json} (h : Sound v) : parse (renderIndented v) = .ok v :=
  parse_renderAt Layout.isBlank_indented h 0

end Values

/-! ## 5. Characters -/

section Characters

/-- Is the text made of printable ASCII characters and line feeds? -/
def IsAscii (s : List Char) : Prop := ∀ c ∈ s, c = '\n' ∨ IsPrintable c

namespace IsAscii

variable {s t : List Char}

theorem nil : IsAscii [] := fun _ h => absurd h List.not_mem_nil

theorem append (hs : IsAscii s) (ht : IsAscii t) : IsAscii (s ++ t) :=
  fun c h => (List.mem_append.mp h).elim (hs c) (ht c)

theorem of_printable (h : ∀ c ∈ s, IsPrintable c) : IsAscii s := fun c hc => Or.inr (h c hc)

theorem of_blank (h : AllBlank s) : IsAscii s := by
  intro c hc
  rcases h c hc with rfl | rfl
  · exact Or.inr (by decide)
  · exact Or.inl rfl

end IsAscii

theorem keyword_ascii {k : String × Json} (hk : k ∈ keywords) : IsAscii k.1.toList := by
  have hall : ∀ k ∈ keywords, k.1.toList.all (fun c => decide (IsPrintable c)) = true := by decide
  exact .of_printable (of_all (hall k hk))

theorem renderFloat_ascii (x : Float) : IsAscii (renderFloat x) := by
  unfold renderFloat
  cases hx : Binary.ofFloat x with
  | notANumber => exact keyword_ascii (k := ("NaN", .float notANumber)) (by simp [keywords])
  | infinite negative =>
      cases negative with
      | false => exact keyword_ascii (k := ("Infinity", .float infinity)) (by simp [keywords])
      | true => exact keyword_ascii (k := ("-Infinity", .float (-infinity))) (by simp [keywords])
  | finite negative m q =>
      have h := Numeral.renderFloat hx
      unfold renderFloat at h
      rw [hx] at h
      exact .of_printable fun c hc => (h c hc).printable

variable {l : Layout}

mutual

/-- **Every value is written in ASCII**, all other characters being escaped. -/
theorem renderAt_ascii (hl : l.IsBlank) (d : Nat) : ∀ v : Json, IsAscii (renderAt l d v)
  | .null => by
      rw [renderAt]
      exact keyword_ascii (k := ("null", .null)) (by simp [keywords])
  | .bool b => by
      rw [renderAt]
      cases b with
      | true => exact keyword_ascii (k := ("true", .bool true)) (by simp [keywords])
      | false => exact keyword_ascii (k := ("false", .bool false)) (by simp [keywords])
  | .int i => by
      rw [renderAt]
      exact .of_printable fun c h => (Numeral.renderInt i c h).printable
  | .float x => by
      rw [renderAt]
      exact renderFloat_ascii x
  | .text s => by
      rw [renderAt]
      exact .of_printable (renderText_printable s)
  | .list [] => by
      rw [renderAt]
      exact .of_printable (of_all (by decide))
  | .list (v :: vs) => by
      have hopen : IsAscii ('[' :: l.opening d) :=
        .append (s := ['[']) (.of_printable (of_all (by decide))) (.of_blank (hl.opening d))
      have hclose : IsAscii [']'] := .of_printable (of_all (by decide))
      rw [renderAt]
      exact (((hopen.append (renderAt_ascii hl (d + 1) v)).append (renderItems_ascii hl d vs)).append
        (.of_blank (hl.closing d))).append hclose
  | .object [] => by
      rw [renderAt]
      exact .of_printable (of_all (by decide))
  | .object ((n, v) :: fs) => by
      have hopen : IsAscii ('\x7b' :: l.opening d) :=
        .append (s := ['\x7b']) (.of_printable (of_all (by decide))) (.of_blank (hl.opening d))
      have hname : IsAscii (renderText n) := .of_printable (renderText_printable n)
      have hcolon : IsAscii [':', ' '] := .of_printable (of_all (by decide))
      have hclose : IsAscii ['\x7d'] := .of_printable (of_all (by decide))
      rw [renderAt]
      exact (((((hopen.append hname).append hcolon).append (renderAt_ascii hl (d + 1) v)).append
        (renderFields_ascii hl d fs)).append (.of_blank (hl.closing d))).append hclose

theorem renderItems_ascii (hl : l.IsBlank) (d : Nat) : ∀ vs : List Json, IsAscii (renderItems l d vs)
  | [] => by
      rw [renderItems]
      exact .nil
  | v :: vs => by
      have hcomma : IsAscii (',' :: l.between d) :=
        .append (s := [',']) (.of_printable (of_all (by decide))) (.of_blank (hl.between d))
      rw [renderItems]
      exact (hcomma.append (renderAt_ascii hl (d + 1) v)).append (renderItems_ascii hl d vs)

theorem renderFields_ascii (hl : l.IsBlank) (d : Nat) : ∀ fs : List (String × Json), IsAscii (renderFields l d fs)
  | [] => by
      rw [renderFields]
      exact .nil
  | (n, v) :: fs => by
      have hcomma : IsAscii (',' :: l.between d) :=
        .append (s := [',']) (.of_printable (of_all (by decide))) (.of_blank (hl.between d))
      have hname : IsAscii (renderText n) := .of_printable (renderText_printable n)
      have hcolon : IsAscii [':', ' '] := .of_printable (of_all (by decide))
      rw [renderFields]
      exact (((hcomma.append hname).append hcolon).append (renderAt_ascii hl (d + 1) v)).append
        (renderFields_ascii hl d fs)

end

end Characters

end FragmentSearch.Json
