import FragmentSearch.Proofs.Decimal.Shortest
import FragmentSearch.Proofs.Json.RoundTrip
import Mathlib.Data.List.DropRight

/-!
# What is written is JSON

The grammar of JSON in its own right, without a reader: which texts spell which values, with blanks wherever these are
allowed. Integers may have any number of digits; what a number with a point or an exponent is worth is left open.

* `Spells` -- a text spells a value;
* `isNumber_renderFloat`, `spellsText_escapes` -- what is written for a finite number and for a text;
* `spells_renderAt` -- what is written for a value spells it, if its numbers are finite. The three that are no numbers
  have names, but these are no JSON.
-/

namespace FragmentSearch.Json

open FragmentSearch.Decimal FragmentSearch.Text

/-! ## 1. The grammar -/

/-- Digits, at least one. -/
structure IsDigits (ds : List Char) : Prop where
  nonempty : ds ≠ []
  digits : ∀ c ∈ ds, c.isDigit = true

/-- The digits of an integer. A zero does not stand in front of others. -/
structure IsWhole (ds : List Char) : Prop extends IsDigits ds where
  head : ∀ r, ds = '0' :: r → r = []

/-- A fraction or none. -/
inductive IsFraction : List Char → Prop
  | none : IsFraction []
  | some {ds : List Char} (h : IsDigits ds) : IsFraction ('.' :: ds)

/-- An exponent or none. -/
inductive IsExponent : List Char → Prop
  | none : IsExponent []
  | some {mark : Char} {sign ds : List Char} (hmark : mark = 'e' ∨ mark = 'E') (hsign : sign ∈ [[], ['+'], ['-']])
      (h : IsDigits ds) : IsExponent (mark :: (sign ++ ds))

/-- A number without a sign. -/
inductive IsMagnitude : List Char → Prop
  | intro {whole fraction exponent : List Char} (hw : IsWhole whole) (hf : IsFraction fraction)
      (he : IsExponent exponent) : IsMagnitude (whole ++ (fraction ++ exponent))

/-- A number. -/
inductive IsNumber : List Char → Prop
  | positive {s : List Char} (h : IsMagnitude s) : IsNumber s
  | negative {s : List Char} (h : IsMagnitude s) : IsNumber ('-' :: s)

/-- What spells one character of a text: itself, a short escape, a numeric one, or a pair of them. -/
inductive SpellsChar : List Char → Char → Prop
  | plain {c : Char} (hq : c ≠ '"') (hb : c ≠ '\\') (hc : 32 ≤ c.toNat) : SpellsChar [c] c
  | short {e c : Char} (h : shortEscape? e = some c) : SpellsChar ['\\', e] c
  | unicode {x y z w : Char} {c : Char} (h : hexQuad? x y z w = some c.toNat) : SpellsChar ['\\', 'u', x, y, z, w] c
  | pair {x y z w x' y' z' w' : Char} {high low : Nat} {c : Char} (hhigh : hexQuad? x y z w = some high)
      (hlow : hexQuad? x' y' z' w' = some low) (h : isHighSurrogate high = true) (h' : isLowSurrogate low = true)
      (hc : c.toNat = 0x10000 + (high - 0xd800) * 1024 + (low - 0xdc00)) :
      SpellsChar ['\\', 'u', x, y, z, w, '\\', 'u', x', y', z', w'] c

/-- What spells the characters of a text. -/
inductive SpellsText : List Char → List Char → Prop
  | nil : SpellsText [] []
  | cons {s t : List Char} {c : Char} {cs : List Char} (hc : SpellsChar s c) (h : SpellsText t cs) :
      SpellsText (s ++ t) (c :: cs)

/-- Only blanks. -/
def IsGap (g : List Char) : Prop := ∀ c ∈ g, isGap c = true

mutual

/-- What spells a value. -/
inductive Spells : List Char → Json → Prop
  | null : Spells ['n', 'u', 'l', 'l'] .null
  | true : Spells ['t', 'r', 'u', 'e'] (.bool true)
  | false : Spells ['f', 'a', 'l', 's', 'e'] (.bool false)
  | int {ds : List Char} {n : Nat} (h : IsWhole ds) (hn : digitsValue 0 ds = n) : Spells ds (.int n)
  | negative {ds : List Char} {n : Nat} (h : IsWhole ds) (hn : digitsValue 0 ds = n) : Spells ('-' :: ds) (.int (-n))
  | float {s : List Char} (h : IsNumber s) (x : Float) : Spells s (.float x)
  | text {s : List Char} {t : String} (h : SpellsText s t.toList) : Spells ('"' :: (s ++ ['"'])) (.text t)
  | emptyList {g : List Char} (hg : IsGap g) : Spells ('[' :: (g ++ [']'])) (.list [])
  | list {s : List Char} {vs : List Json} (h : SpellsItems s vs) : Spells ('[' :: (s ++ [']'])) (.list vs)
  | emptyObject {g : List Char} (hg : IsGap g) : Spells ('\x7b' :: (g ++ ['\x7d'])) (.object [])
  | object {s : List Char} {fs : List (String × Json)} (h : SpellsFields s fs) :
      Spells ('\x7b' :: (s ++ ['\x7d'])) (.object fs)

/-- What spells a value with blanks around it. -/
inductive SpellsElement : List Char → Json → Prop
  | intro {g s g' : List Char} {v : Json} (hg : IsGap g) (h : Spells s v) (hg' : IsGap g') :
      SpellsElement (g ++ (s ++ g')) v

/-- What spells the items of a list, with commas between them. -/
inductive SpellsItems : List Char → List Json → Prop
  | one {s : List Char} {v : Json} (h : SpellsElement s v) : SpellsItems s [v]
  | more {s t : List Char} {v : Json} {vs : List Json} (h : SpellsElement s v) (ht : SpellsItems t vs) :
      SpellsItems (s ++ ',' :: t) (v :: vs)

/-- What spells a field: its name and its value. -/
inductive SpellsField : List Char → String × Json → Prop
  | intro {g n g' s : List Char} {name : String} {v : Json} (hg : IsGap g) (hn : SpellsText n name.toList)
      (hg' : IsGap g') (h : SpellsElement s v) : SpellsField (g ++ '"' :: (n ++ '"' :: (g' ++ ':' :: s))) (name, v)

/-- What spells the fields of an object, with commas between them. -/
inductive SpellsFields : List Char → List (String × Json) → Prop
  | one {s : List Char} {f : String × Json} (h : SpellsField s f) : SpellsFields s [f]
  | more {s t : List Char} {f : String × Json} {fs : List (String × Json)} (h : SpellsField s f)
      (ht : SpellsFields t fs) : SpellsFields (s ++ ',' :: t) (f :: fs)

end

/-! ## 2. Texts -/

section Texts

theorem spellsChar_unicodeEscape {c : Char} (h : c.toNat < 0x10000) : SpellsChar (unicodeEscape c.toNat) c :=
  .unicode (hexQuad?_hexDigits h)

theorem spellsChar_pair {c : Char} (h : 0x10000 ≤ c.toNat) :
    SpellsChar (unicodeEscape (0xd800 + (c.toNat - 0x10000) / 1024) ++
      unicodeEscape (0xdc00 + (c.toNat - 0x10000) % 1024)) c := by
  have hmax : c.toNat < 0x110000 := by
    rcases c.valid with hv | ⟨_, hv⟩
    · have : c.toNat < 0xd800 := hv
      omega
    · exact hv
  refine .pair (hexQuad?_hexDigits (by omega)) (hexQuad?_hexDigits (by omega)) ?_ ?_ ?_
  · simp only [isHighSurrogate, Bool.and_eq_true, decide_eq_true_eq]
    omega
  · simp only [isLowSurrogate, Bool.and_eq_true, decide_eq_true_eq]
    omega
  · omega

/-- What is written for a character spells it. -/
theorem spellsChar_escapeChar (c : Char) : SpellsChar (escapeChar c) c := by
  unfold escapeChar
  split
  · next h => exact .short (by rw [h]; rfl)
  split
  · next h => exact .short (by rw [h]; rfl)
  split
  · next h => exact .short (by rw [h]; rfl)
  split
  · next h => exact .short (by rw [h]; rfl)
  split
  · next h => exact .short (by rw [h]; rfl)
  split
  · next h => exact .short (by rw [← Char.ofNat_toNat c, h]; rfl)
  split
  · next h => exact .short (by rw [← Char.ofNat_toNat c, h]; rfl)
  next hq hb _ _ _ _ _ =>
  split
  · next h => exact .plain hq hb h.1
  split
  · next h => exact spellsChar_unicodeEscape h
  · next h => exact spellsChar_pair (Nat.le_of_not_lt h)

theorem spellsText_escapes (cs : List Char) : SpellsText (cs.flatMap escapeChar) cs := by
  induction cs with
  | nil => exact .nil
  | cons c cs ih => exact .cons (spellsChar_escapeChar c) ih

theorem spells_renderText (t : String) : Spells (renderText t) (.text t) := .text (spellsText_escapes t.toList)

end Texts

/-! ## 3. Numbers -/

section Numbers

theorem isWhole_digitsOf (n : Nat) : IsWhole (digitsOf n) where
  nonempty := digitsOf_ne_nil n
  digits := fun _ h => isDigit_of_mem_digitsOf h
  head := fun _ h => digitsOf_head h

theorem spells_renderInt (i : Int) : Spells (renderInt i) (.int i) := by
  unfold renderInt
  split
  · next h =>
      have hi : i = -(i.natAbs : Int) := by omega
      have hspells := Spells.negative (isWhole_digitsOf i.natAbs) (digitsValue_digitsOf i.natAbs)
      rwa [← hi] at hspells
  · next h =>
      have hi : i = (i.natAbs : Int) := by omega
      have hspells := Spells.int (isWhole_digitsOf i.natAbs) (digitsValue_digitsOf i.natAbs)
      rwa [← hi] at hspells

variable {ds : List Char}

theorem isDigits_zeros (n : Nat) : ∀ c ∈ List.replicate n '0', c.isDigit = true := by
  intro c h
  rw [(List.mem_replicate.mp h).2]
  rfl

/-- Digits that do not begin with zero. -/
structure IsLeading (ds : List Char) : Prop extends IsDigits ds where
  head : ∀ r, ds ≠ '0' :: r

theorem IsLeading.isWhole (h : IsLeading ds) : IsWhole ds := ⟨h.toIsDigits, fun r hr => absurd hr (h.head r)⟩

/-- A part in front that is not empty begins with the same digit. -/
theorem IsLeading.of_prefix (h : IsLeading ds) {t : List Char} (ht : t <+: ds) (hne : t ≠ []) : IsLeading t := by
  refine ⟨⟨hne, fun c hc => h.digits c (ht.subset hc)⟩, ?_⟩
  rintro r rfl
  obtain ⟨u, hu⟩ := ht
  exact h.head (r ++ u) hu.symm

theorem IsLeading.append (h : IsLeading ds) {t : List Char} (ht : ∀ c ∈ t, c.isDigit = true) : IsLeading (ds ++ t) := by
  obtain ⟨d, r, rfl⟩ := List.exists_cons_of_ne_nil h.nonempty
  refine ⟨⟨List.cons_ne_nil _ _, fun c hc => ?_⟩, fun r' hr' => ?_⟩
  · exact (List.mem_append.mp hc).elim (h.digits c) (ht c)
  · exact h.head r (by rw [(List.cons.inj hr').1])

theorem isLeading_digitsOf {n : Nat} (h : 0 < n) : IsLeading (digitsOf n) := by
  refine ⟨(isWhole_digitsOf n).toIsDigits, fun r hr => ?_⟩
  have hvalue := digitsValue_digitsOf n
  rw [hr, digitsOf_head hr] at hvalue
  have hzero : 0 = n := hvalue
  omega

/-- Zeros at the end are dropped up to another digit. -/
theorem IsLeading.dropTrailingZeros (h : IsLeading ds) : IsLeading (dropTrailingZeros ds) := by
  have hprefix : ds.rdropWhile (· = '0') <+: ds := List.rdropWhile_prefix _ _
  refine h.of_prefix hprefix fun hnil => ?_
  obtain ⟨d, r, rfl⟩ := List.exists_cons_of_ne_nil h.nonempty
  have hzero := List.rdropWhile_eq_nil_iff.mp hnil d List.mem_cons_self
  exact h.head r (by rw [of_decide_eq_true hzero])

theorem isWhole_zero : IsWhole ['0'] := ⟨⟨List.cons_ne_nil _ _, of_all (by decide)⟩, fun _ h => (List.cons.inj h).2.symm⟩

/-- Digits with a point among them. -/
theorem IsMagnitude.of_point {whole fraction : List Char} (hw : IsWhole whole) (hf : IsDigits fraction) :
    IsMagnitude (whole ++ '.' :: fraction) := by
  have h := IsMagnitude.intro hw (.some hf) .none
  rwa [List.append_nil] at h

/-- The digits of a positive number with their point. -/
theorem isMagnitude_positional (h : IsLeading ds) (point : Int) : IsMagnitude (positional ds point) := by
  unfold positional
  split
  · have hfraction : IsDigits (List.replicate (-point).toNat '0' ++ ds) := by
      refine ⟨fun hnil => h.nonempty (List.append_eq_nil_iff.mp hnil).2, fun c hc => ?_⟩
      exact (List.mem_append.mp hc).elim (isDigits_zeros _ c) (h.digits c)
    exact .of_point isWhole_zero hfraction
  next hpositive =>
  split
  · next hlength =>
      have hwhole : IsLeading (ds.take point.toNat) := by
        refine h.of_prefix (List.take_prefix _ _) fun hnil => ?_
        have hzero := congrArg List.length hnil
        rw [List.length_take, List.length_nil] at hzero
        omega
      have hfraction : IsDigits (ds.drop point.toNat) := by
        refine ⟨fun hnil => ?_, fun c hc => h.digits c (List.mem_of_mem_drop hc)⟩
        have hzero := congrArg List.length hnil
        rw [List.length_drop, List.length_nil] at hzero
        omega
      exact .of_point hwhole.isWhole hfraction
  · exact .of_point (h.append (isDigits_zeros _)).isWhole ⟨List.cons_ne_nil _ _, of_all (by decide)⟩

theorem isExponent_exponentText (e : Int) : IsExponent (exponentText e) := by
  have hdigits : IsDigits (if (digitsOf e.natAbs).length < 2 then '0' :: digitsOf e.natAbs else digitsOf e.natAbs) := by
    split
    · refine ⟨List.cons_ne_nil _ _, fun c hc => ?_⟩
      rcases List.mem_cons.mp hc with rfl | hc
      · rfl
      · exact isDigit_of_mem_digitsOf hc
    · exact (isWhole_digitsOf _).toIsDigits
  unfold exponentText
  by_cases he : e < 0
  · simp only [he, if_true]
    exact @IsExponent.some 'e' ['-'] _ (Or.inl rfl) (by decide) hdigits
  · simp only [he, if_false]
    exact @IsExponent.some 'e' ['+'] _ (Or.inl rfl) (by decide) hdigits

/-- The digits of a positive number with an exponent. -/
theorem isMagnitude_exponential (h : IsLeading ds) (point : Int) : IsMagnitude (exponential ds point) := by
  have he := isExponent_exponentText (point - 1)
  obtain ⟨d, rest, rfl⟩ := List.exists_cons_of_ne_nil h.nonempty
  have hfirst : IsWhole [d] := (h.of_prefix ⟨rest, rfl⟩ (List.cons_ne_nil _ _)).isWhole
  cases rest with
  | nil => exact .intro hfirst .none he
  | cons d' rest =>
      have hrest : IsDigits (d' :: rest) :=
        ⟨List.cons_ne_nil _ _, fun c hc => h.digits c (List.mem_cons_of_mem d hc)⟩
      exact .intro hfirst (.some hrest) he

/-- **A finite number is written as a number.** -/
theorem isNumber_renderFloat {x : Float} {negative : Bool} {m : Nat} {q : Int}
    (hx : Binary.ofFloat x = .finite negative m q) : IsNumber (renderFloat x) := by
  have hsigned : ∀ body, IsMagnitude body → IsNumber (if negative then '-' :: body else body) := by
    intro body hbody
    split
    · exact .negative hbody
    · exact .positive hbody
  unfold renderFloat plain
  simp only [hx]
  rw [String.toList_ofList]
  refine hsigned _ ?_
  split
  · exact @IsMagnitude.of_point ['0'] ['0'] isWhole_zero isWhole_zero.toIsDigits
  · next hm =>
      obtain ⟨hmax, hq, hq'⟩ := Binary.bounds_of_ofFloat hx
      have hdigits : IsLeading (digitsOf (shortest m q).1) :=
        isLeading_digitsOf (shortest_pos (Nat.pos_of_ne_zero hm) hmax hq hq')
      split
      · exact isMagnitude_positional hdigits.dropTrailingZeros _
      · exact isMagnitude_exponential hdigits.dropTrailingZeros _

end Numbers

/-! ## 4. Values -/

/-- A value whose numbers are finite. -/
inductive IsFinite : Json → Prop
  | null : IsFinite .null
  | bool (b : Bool) : IsFinite (.bool b)
  | int (i : Int) : IsFinite (.int i)
  | float {x : Float} {negative : Bool} {m : Nat} {q : Int} (h : Binary.ofFloat x = .finite negative m q) :
      IsFinite (.float x)
  | text (t : String) : IsFinite (.text t)
  | list {vs : List Json} (h : ∀ v ∈ vs, IsFinite v) : IsFinite (.list vs)
  | object {fs : List (String × Json)} (h : ∀ f ∈ fs, IsFinite f.2) : IsFinite (.object fs)

section Values

variable {l : Layout} {d : Nat}

theorem isGap_nil : IsGap [] := fun _ h => absurd h List.not_mem_nil

theorem spellsItems_renderItems (hl : l.IsBlank) (vs : List Json) (hvs : ∀ v ∈ vs, Spells (renderAt l (d + 1) v) v) :
    ∀ {g s : List Char} {v : Json}, IsGap g → Spells s v →
      SpellsItems (g ++ (s ++ (renderItems l d vs ++ l.closing d))) (v :: vs) := by
  induction vs with
  | nil =>
      intro g s v hg hs
      exact .one (.intro hg hs (hl.closing d).isGap)
  | cons w vs ih =>
      intro g s v hg hs
      have hrest : SpellsItems (l.between d ++ (renderAt l (d + 1) w ++ (renderItems l d vs ++ l.closing d))) (w :: vs) :=
        ih (fun u hu => hvs u (List.mem_cons_of_mem w hu)) (hl.between d).isGap (hvs w List.mem_cons_self)
      have hall := SpellsItems.more (.intro hg hs isGap_nil) hrest
      simpa only [renderItems, List.append_assoc, List.cons_append, List.append_nil, List.nil_append] using hall

theorem spellsFields_renderFields (hl : l.IsBlank) (fs : List (String × Json))
    (hfs : ∀ f ∈ fs, Spells (renderAt l (d + 1) f.2) f.2) :
    ∀ {g s : List Char} {n : String} {v : Json}, IsGap g → Spells s v →
      SpellsFields (g ++ (renderText n ++ (':' :: ' ' :: (s ++ (renderFields l d fs ++ l.closing d))))) ((n, v) :: fs) := by
  have hblank : IsGap [' '] := of_all (by decide)
  induction fs with
  | nil =>
      intro g s n v hg hs
      have hfield := SpellsField.intro hg (spellsText_escapes n.toList) isGap_nil
        (.intro hblank hs (hl.closing d).isGap)
      have hall := SpellsFields.one hfield
      simpa only [renderText, renderFields, List.append_assoc, List.cons_append, List.nil_append] using hall
  | cons f fs ih =>
      intro g s n v hg hs
      have hrest : SpellsFields (l.between d ++ (renderText f.1 ++ (':' :: ' ' ::
          (renderAt l (d + 1) f.2 ++ (renderFields l d fs ++ l.closing d))))) (f :: fs) :=
        ih (fun u hu => hfs u (List.mem_cons_of_mem f hu)) (hl.between d).isGap (hfs f List.mem_cons_self)
      have hfield := SpellsField.intro hg (spellsText_escapes n.toList) isGap_nil (.intro hblank hs isGap_nil)
      have hall := SpellsFields.more hfield hrest
      simpa only [renderText, renderFields, List.append_assoc, List.cons_append, List.append_nil, List.nil_append]
        using hall

/-- **What is written for a value with finite numbers spells it.** -/
theorem spells_renderAt (hl : l.IsBlank) {v : Json} (h : IsFinite v) : ∀ d, Spells (renderAt l d v) v := by
  induction h with
  | null => exact fun d => .null
  | bool b =>
      intro d
      cases b with
      | true => exact .true
      | false => exact .false
  | int i => exact fun d => spells_renderInt i
  | float h => exact fun d => .float (isNumber_renderFloat h) _
  | text t => exact fun d => spells_renderText t
  | @list vs h ih =>
      intro d
      cases vs with
      | nil => exact .emptyList isGap_nil
      | cons v vs =>
          have hitems := spellsItems_renderItems hl vs (fun w hw => ih w (List.mem_cons_of_mem v hw) (d + 1))
            (hl.opening d).isGap (ih v List.mem_cons_self (d + 1))
          have hall := Spells.list hitems
          simpa only [renderAt, List.append_assoc, List.cons_append] using hall
  | @object fs h ih =>
      intro d
      cases fs with
      | nil => exact .emptyObject isGap_nil
      | cons f fs =>
          have hfields := spellsFields_renderFields hl fs (fun g hg => ih g (List.mem_cons_of_mem f hg) (d + 1))
            (n := f.1) (hl.opening d).isGap (ih f List.mem_cons_self (d + 1))
          have hall := Spells.object hfields
          simpa only [renderAt, List.append_assoc, List.cons_append, List.nil_append] using hall

theorem spells_render {v : Json} (h : IsFinite v) : Spells (render v).toList v := by
  rw [render, String.toList_ofList]
  exact spells_renderAt Layout.isBlank_oneLine h 0

theorem spells_renderIndented {v : Json} (h : IsFinite v) : Spells (renderIndented v).toList v := by
  rw [renderIndented, String.toList_ofList]
  exact spells_renderAt Layout.isBlank_indented h 0

end Values

end FragmentSearch.Json
