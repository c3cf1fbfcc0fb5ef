import FragmentSearch.Proofs.Text.Words
import FragmentSearch.Source.Annotation
import FragmentSearch.Source.Printer
import Mathlib.Data.List.Induction

/-!
# Quoted annotations

An annotation may be quoted, and then its text is a forward reference. Of an annotation every name counts, of a forward
reference only the part of its text after the last point before the first bracket.

* `mem_annotationTypes` -- the types of an annotation are the names it mentions, at any depth;
* `read_print` -- what a forward reference reads of a written annotation follows from the parts of the annotation;
* `quoted_types_exact` -- which types are found in an annotation and in its quoted text, and when they are the same.
-/

namespace FragmentSearch.Source

open FragmentSearch.Text

/-! ## 1. The names in an annotation -/

/-- A name: it is not empty, and no character of it divides names. -/
def IsWord (s : String) : Prop := s.toList ≠ [] ∧ ∀ c ∈ s.toList, c ≠ '.' ∧ c ≠ '[' ∧ isBlank c = false

instance : DecidablePred IsWord := fun s =>
  have : Decidable (∀ c ∈ s.toList, c ≠ '.' ∧ c ≠ '[' ∧ isBlank c = false) := List.decidableBAll _ s.toList
  inferInstanceAs (Decidable (s.toList ≠ [] ∧ ∀ c ∈ s.toList, c ≠ '.' ∧ c ≠ '[' ∧ isBlank c = false))

/-- Annotations without quoted parts: names, attributes, arguments in brackets, lists and tuples of them, and unions. -/
inductive IsAnnotation : Expr → Prop
  | name {id : String} (hid : IsWord id) : IsAnnotation (.name id)
  | none : IsAnnotation (.constant .none)
  | ellipsis : IsAnnotation (.constant .ellipsis)
  | member {value : Expr} {name : String} (hvalue : IsAnnotation value) (hname : IsWord name) :
      IsAnnotation (.attribute value name)
  | subscript {value index : Expr} (hvalue : IsAnnotation value) (hindex : IsAnnotation index) :
      IsAnnotation (.subscript value index)
  | list {items : List Expr} (hitems : ∀ e ∈ items, IsAnnotation e) : IsAnnotation (.list items)
  | tuple {items : List Expr} (hitems : ∀ e ∈ items, IsAnnotation e) : IsAnnotation (.tuple items)
  | union {left right : Expr} (hleft : IsAnnotation left) (hright : IsAnnotation right) :
      IsAnnotation (.binary .bitOr left right)

/-- The name stands somewhere in the annotation. -/
inductive Mentions (n : String) : Expr → Prop
  | name : Mentions n (.name n)
  | member {value : Expr} : Mentions n (.attribute value n)
  | value {value : Expr} {name : String} (h : Mentions n value) : Mentions n (.attribute value name)
  | subscripted {value index : Expr} (h : Mentions n value) : Mentions n (.subscript value index)
  | index {value index : Expr} (h : Mentions n index) : Mentions n (.subscript value index)
  | listed {items : List Expr} {e : Expr} (hitem : e ∈ items) (h : Mentions n e) : Mentions n (.list items)
  | tupled {items : List Expr} {e : Expr} (hitem : e ∈ items) (h : Mentions n e) : Mentions n (.tuple items)
  | left {left right : Expr} (h : Mentions n left) : Mentions n (.binary .bitOr left right)
  | right {left right : Expr} (h : Mentions n right) : Mentions n (.binary .bitOr left right)

section Names

variable {e : Expr} {n : String}

theorem mem_unique {α : Type} [BEq α] [LawfulBEq α] {x : α} {xs : List α} : x ∈ unique xs ↔ x ∈ xs := by
  unfold unique
  rw [List.mem_reverse]
  induction xs using List.reverseRecOn with
  | nil => rfl
  | append_singleton xs y ih =>
      rw [List.foldl_append, List.foldl_cons, List.foldl_nil, List.mem_append, List.mem_singleton, ← ih]
      split
      · next hy =>
          have hmem := List.contains_iff_mem.mp hy
          exact ⟨Or.inl, fun h => h.elim id fun e => e ▸ hmem⟩
      · rw [List.mem_cons, or_comm]

theorem mem_besides {α : Type} {x : α} : ∀ {a b : List (List α)},
    x ∈ (besides a b).flatten ↔ x ∈ a.flatten ∨ x ∈ b.flatten
  | [], b => by simp only [besides, List.flatten_nil, List.not_mem_nil, false_or]
  | a :: as, [] => by simp only [besides, List.flatten_nil, List.not_mem_nil, or_false]
  | a :: as, b :: bs => by
      have ih := @mem_besides α x as bs
      simp only [besides, List.flatten_cons, List.mem_append, ih, or_assoc, or_left_comm]

theorem mem_levelsOfAll {x : Expr} : ∀ {items : List Expr},
    x ∈ (levelsOfAll items).flatten ↔ ∃ e ∈ items, x ∈ e.inBreadth
  | [] => by simp only [levelsOfAll, List.flatten_nil, List.not_mem_nil, false_and, exists_false]
  | e :: items => by
      have ih := @mem_levelsOfAll x items
      simp only [levelsOfAll, mem_besides, ih, List.mem_cons, exists_eq_or_imp]
      rfl

/-- The walk through the expression comes to the name. -/
def Reaches (n : String) (e : Expr) : Prop := ∃ x ∈ e.inBreadth, x.mention? = some n.toList

theorem reaches_iff {inner : List (List Expr)} (h : e.levels = [e] :: inner) :
    Reaches n e ↔ e.mention? = some n.toList ∨ ∃ x ∈ inner.flatten, x.mention? = some n.toList := by
  unfold Reaches Expr.inBreadth
  rw [h, List.flatten_cons, List.singleton_append]
  simp only [List.mem_cons, exists_eq_or_imp]

/-- An expression without parts leads to what it names itself. -/
theorem reaches_alone (h : e.levels = [[e]]) : Reaches n e ↔ e.mention? = some n.toList := by
  rw [reaches_iff h]
  simp only [List.flatten_nil, List.not_mem_nil, false_and, exists_false, or_false]

/-- An expression that names nothing itself leads to what its two parts lead to. -/
theorem reaches_besides {a b : Expr} (h : e.levels = [e] :: besides a.levels b.levels) (hself : e.mention? = none) :
    Reaches n e ↔ Reaches n a ∨ Reaches n b := by
  rw [reaches_iff h, hself]
  simp only [mem_besides, or_and_right, exists_or, reduceCtorEq, false_or]
  rfl

/-- An expression that names nothing itself leads to what its items lead to. -/
theorem reaches_items {items : List Expr} (h : e.levels = [e] :: levelsOfAll items) (hself : e.mention? = none) :
    Reaches n e ↔ ∃ i ∈ items, Reaches n i := by
  rw [reaches_iff h, hself]
  simp only [mem_levelsOfAll]
  constructor
  · rintro (h | ⟨x, ⟨i, hi, hx⟩, hn⟩)
    · cases h
    · exact ⟨i, hi, x, hx, hn⟩
  · rintro ⟨i, hi, x, hx, hn⟩
    exact Or.inr ⟨x, ⟨i, hi, hx⟩, hn⟩

theorem mention_eq_iff {m : String} : some m.toList = some n.toList ↔ m = n :=
  Option.some_inj.trans String.toList_inj

/-- The walk through an annotation comes to the names it mentions. -/
theorem reaches_iff_mentions (h : IsAnnotation e) : Reaches n e ↔ Mentions n e := by
  induction h with
  | name hid =>
      refine (reaches_alone rfl).trans ⟨fun h => ?_, fun h => ?_⟩
      · cases mention_eq_iff.mp h
        exact .name
      · cases h
        rfl
  | none | ellipsis => exact (reaches_alone rfl).trans ⟨nofun, nofun⟩
  | @member value name hvalue hname ih =>
      refine (@reaches_iff _ _ value.levels rfl).trans ⟨?_, ?_⟩
      · rintro (h | h)
        · cases mention_eq_iff.mp h
          exact .member
        · exact .value (ih.mp h)
      · rintro (_ | _ | h)
        · exact Or.inl rfl
        · exact Or.inr (ih.mpr h)
  | subscript _ _ ihvalue ihindex =>
      rw [reaches_besides rfl rfl, ihvalue, ihindex]
      constructor
      · rintro (h | h)
        · exact .subscripted h
        · exact .index h
      · intro h
        cases h with
        | subscripted h => exact Or.inl h
        | index h => exact Or.inr h
  | list _ ih =>
      rw [reaches_items rfl rfl]
      constructor
      · rintro ⟨e, he, h⟩
        exact .listed he ((ih e he).mp h)
      · intro h
        cases h with
        | listed he h => exact ⟨_, he, (ih _ he).mpr h⟩
  | tuple _ ih =>
      rw [reaches_items rfl rfl]
      constructor
      · rintro ⟨e, he, h⟩
        exact .tupled he ((ih e he).mp h)
      · intro h
        cases h with
        | tupled he h => exact ⟨_, he, (ih _ he).mpr h⟩
  | union _ _ ihleft ihright =>
      rw [reaches_besides rfl rfl, ihleft, ihright]
      constructor
      · rintro (h | h)
        · exact .left h
        · exact .right h
      · intro h
        cases h with
        | left h => exact Or.inl h
        | right h => exact Or.inr h

/-- The types of an annotation are the names of types that its walk comes to. -/
theorem mem_annotationTypes_iff : n ∈ annotationTypes [e] ↔ isTypeName n.toList = true ∧ Reaches n e := by
  unfold annotationTypes Reaches
  rw [mem_unique, List.flatMap_singleton]
  simp only [List.mem_map, List.mem_filter, List.mem_filterMap]
  constructor
  · rintro ⟨s, ⟨⟨x, hx, hs⟩, htype⟩, rfl⟩
    rw [String.toList_ofList]
    exact ⟨htype, x, hx, hs⟩
  · rintro ⟨htype, x, hx, hs⟩
    exact ⟨n.toList, ⟨⟨x, hx, hs⟩, htype⟩, String.ofList_toList⟩

/-- **The types of an annotation** are the names of types that it mentions, however deep. -/
theorem mem_annotationTypes (h : IsAnnotation e) :
    n ∈ annotationTypes [e] ↔ isTypeName n.toList = true ∧ Mentions n e := by
  rw [mem_annotationTypes_iff, reaches_iff_mentions h]

end Names

/-! ## 2. Forward references -/

/-- The quoted text. -/
def quoted (s : String) : Expr := .constant (.text (codes s) false)

theorem charOfCode_toNat (c : Char) : charOfCode c.toNat = c := by
  have hvalid : c.toNat < 0xd800 ∨ 0xdfff < c.toNat ∧ c.toNat < 0x110000 := c.valid
  unfold charOfCode
  rw [if_neg (by omega), Char.ofNat_toNat]

theorem forwardName_codes (s : String) :
    forwardName (codes s) =
      (((trimRight (trimLeft s.toList)).takeWhile (· ≠ '[')).reverse.takeWhile (· ≠ '.')).reverse := by
  have hchars : (codes s).map charOfCode = s.toList := by
    unfold codes
    rw [List.map_map]
    exact (List.map_congr_left fun c _ => charOfCode_toNat c).trans (List.map_id _)
  unfold forwardName
  rw [hchars]

/-- A forward reference has at most one type. -/
theorem mem_annotationTypes_quoted {n s : String} :
    n ∈ annotationTypes [quoted s] ↔ isTypeName n.toList = true ∧ n.toList = forwardName (codes s) := by
  rw [mem_annotationTypes_iff, reaches_alone rfl]
  unfold quoted Expr.mention?
  rw [Option.some_inj, eq_comm (a := forwardName _)]

/-! ## 3. Reading a text -/

/-- How far a forward reference has been read: what stands after the last point, and whether a bracket has been met,
after which nothing more is read. -/
structure Reading where
  name : List Char
  ended : Bool

namespace Reading

/-- Nothing has been read. -/
def start : Reading := ⟨[], false⟩

/-- One more character. -/
def step (r : Reading) (c : Char) : Reading :=
  if r.ended then r
  else if c = '[' then ⟨r.name, true⟩
  else if c = '.' then ⟨[], false⟩
  else ⟨r.name ++ [c], false⟩

/-- More characters. -/
def through (r : Reading) (s : List Char) : Reading := s.foldl step r

@[simp]
theorem through_append (r : Reading) (s t : List Char) : r.through (s ++ t) = (r.through s).through t :=
  List.foldl_append

theorem through_ended {r : Reading} (h : r.ended = true) (s : List Char) : r.through s = r := by
  induction s with
  | nil => rfl
  | cons c s ih =>
      have hstep : r.step c = r := if_pos h
      rw [through, List.foldl_cons, hstep]
      exact ih

theorem ended_bracket (r : Reading) : (r.through "[".toList).ended = true := by
  cases h : r.ended with
  | true => rw [through_ended h, h]
  | false =>
      show (r.step '[').ended = true
      rw [step, if_neg (by rw [h]; exact Bool.false_ne_true)]
      rfl

/-- Characters that divide nothing are added. -/
theorem through_word {name s : List Char} (h : ∀ c ∈ s, c ≠ '.' ∧ c ≠ '[') :
    through ⟨name, false⟩ s = ⟨name ++ s, false⟩ := by
  induction s generalizing name with
  | nil => rw [List.append_nil]; rfl
  | cons c s ih =>
      obtain ⟨hpoint, hbracket⟩ := h c List.mem_cons_self
      have hstep : step ⟨name, false⟩ c = ⟨name ++ [c], false⟩ :=
        (if_neg hbracket).trans (if_neg hpoint)
      rw [through, List.foldl_cons, hstep]
      refine (ih fun d hd => h d (List.mem_cons_of_mem c hd)).trans ?_
      rw [List.append_assoc, List.singleton_append]

/-- What is read of a text: the part after the last point before the first bracket. -/
theorem through_start (s : List Char) :
    start.through s = ⟨((s.takeWhile (· ≠ '[')).reverse.takeWhile (· ≠ '.')).reverse, decide ('[' ∈ s)⟩ := by
  induction s using List.reverseRecOn with
  | nil => rfl
  | append_singleton s c ih =>
      rw [through_append, ih]
      by_cases hs : '[' ∈ s
      · have hmem : '[' ∈ s ++ [c] := List.mem_append_left _ hs
        have hshort : (s ++ [c]).takeWhile (· ≠ '[') = s.takeWhile (· ≠ '[') := by
          rw [List.takeWhile_append, if_neg]
          intro hlength
          have hall := List.takeWhile_eq_self_iff.mp ((List.takeWhile_prefix _).eq_of_length hlength)
          exact absurd (hall _ hs) (by decide)
        rw [through_ended (decide_eq_true hs), hshort, decide_eq_true hs, decide_eq_true hmem]
      · have hall : ∀ d ∈ s, decide (d ≠ '[') = true := fun d hd =>
          decide_eq_true fun hbracket => hs (hbracket ▸ hd)
        rw [List.takeWhile_append_of_pos hall, List.takeWhile_eq_self_iff.mpr hall, decide_eq_false hs]
        by_cases hbracket : c = '['
        · subst hbracket
          have hmem : '[' ∈ s ++ ['['] := List.mem_append_right _ List.mem_cons_self
          rw [decide_eq_true hmem]
          simp [through, step]
        · have hmem : '[' ∉ s ++ [c] := by
            simp only [List.mem_append, List.mem_singleton, hs, false_or]
            exact fun h => hbracket h.symm
          have hone : [c].takeWhile (· ≠ '[') = [c] := by simp [hbracket]
          rw [decide_eq_false hmem, hone, List.reverse_append, List.reverse_singleton, List.singleton_append]
          by_cases hpoint : c = '.'
          · subst hpoint
            rfl
          · have hstep : step ⟨(s.reverse.takeWhile (· ≠ '.')).reverse, false⟩ c =
                ⟨(s.reverse.takeWhile (· ≠ '.')).reverse ++ [c], false⟩ := (if_neg hbracket).trans (if_neg hpoint)
            rw [List.takeWhile_cons_of_pos (by simp [hpoint]), List.reverse_cons]
            exact hstep

end Reading

/-- The text starts and ends with characters that are not blank. -/
structure Solid (s : List Char) : Prop where
  first : ∀ c ∈ s.head?, isBlank c = false
  last : ∀ c ∈ s.getLast?, isBlank c = false
  ne_nil : s ≠ []

namespace Solid

variable {s t u : List Char}

theorem trim_eq (h : Solid s) : trimRight (trimLeft s) = s := by
  unfold trimLeft trimRight
  exact Trimmed.eq ⟨⟨[], [], (List.append_nil s).symm, nofun, nofun⟩, h.first, h.last⟩

/-- Whatever stands between solid texts. -/
theorem around (hs : Solid s) (ht : Solid t) : Solid (s ++ (u ++ t)) := by
  refine ⟨fun c hc => hs.first c ?_, fun c hc => ht.last c ?_, ?_⟩
  · obtain ⟨d, hd⟩ := Option.isSome_iff_exists.mp (List.isSome_head?.mpr hs.ne_nil)
    rw [List.head?_append, hd] at hc
    rw [hd]
    exact hc
  · obtain ⟨d, hd⟩ : ∃ d, t.getLast? = some d := ⟨_, List.getLast?_eq_some_getLast ht.ne_nil⟩
    rw [← List.append_assoc, List.getLast?_append, hd] at hc
    rw [hd]
    exact hc
  · exact List.append_ne_nil_of_left_ne_nil hs.ne_nil _

theorem single {c : Char} (h : isBlank c = false) : Solid [c] := by
  refine ⟨?_, ?_, List.cons_ne_nil _ _⟩ <;> rintro d ⟨⟩ <;> exact h

end Solid

theorem IsWord.solid {n : String} (h : IsWord n) : Solid n.toList := by
  obtain ⟨hne, hchars⟩ := h
  exact ⟨fun c hc => (hchars c (List.mem_of_mem_head? hc)).2.2,
    fun c hc => (hchars c (List.mem_of_getLast? hc)).2.2, hne⟩

theorem solid_append {s t u : String} (hs : Solid s.toList) (ht : Solid t.toList) : Solid (s ++ (u ++ t)).toList := by
  rw [String.toList_append, String.toList_append]
  exact hs.around ht

theorem forwardName_of_solid {s : String} (h : Solid s.toList) :
    forwardName (codes s) = (Reading.start.through s.toList).name := by
  rw [forwardName_codes, h.trim_eq, Reading.through_start]

/-! ## 4. Reading a written annotation -/

mutual

/-- A forward reference is read over an expression that is written where level `p` is asked for. Once a bracket has been
met, nothing else matters. -/
def Expr.read (p : Precedence) : Expr → Reading → Reading
  | .name id, r => r.through id.toList
  | .constant .none, r => r.through "None".toList
  | .constant .ellipsis, r => r.through "...".toList
  | .attribute value name, r => ((value.read Precedence.atom r).through ".".toList).through name.toList
  | .subscript value _, r => (value.read Precedence.atom r).through "[".toList
  | .list _, r => r.through "[".toList
  | .tuple items, r => (readItems items (r.through "(".toList)).through ")".toList
  | .binary .bitOr left right, r =>
    let inner (r : Reading) :=
      right.read Precedence.bitOr.next ((left.read Precedence.bitOr r).through " | ".toList)
    if Precedence.bitOr < p then (inner (r.through "(".toList)).through ")".toList else inner r
  | _, r => r

/-- A forward reference is read over the items of a tuple. -/
def readItems : List Expr → Reading → Reading
  | [], r => r
  | [e], r => (e.read Precedence.test r).through ",".toList
  | e :: es, r => readMore es (e.read Precedence.test r)

/-- A forward reference is read over further items. -/
def readMore : List Expr → Reading → Reading
  | [], r => r
  | e :: es, r => readMore es (e.read Precedence.test (r.through ", ".toList))

end

/-- The name that a forward reference to the annotation reads. -/
def Expr.lead (e : Expr) : List Char := (e.read Precedence.test .start).name

section Writing

variable {e value left right : Expr} {items : List Expr} {p : Precedence} {name : String}

theorem codes_append (s t : String) : codes (s ++ t) = codes s ++ codes t := by
  unfold codes
  rw [String.toList_append, List.map_append]

theorem textOfCodes_codes (s : String) : textOfCodes (codes s) = s := by
  have hchars : (codes s).map Char.ofNat = s.toList := by
    unfold codes
    rw [List.map_map]
    exact (List.map_congr_left fun c _ => Char.ofNat_toNat c).trans (List.map_id _)
  unfold textOfCodes
  rw [hchars, String.ofList_toList]

theorem print_attribute {v : Codes} (hv : value.print false Precedence.atom = .ok v) (hvalue : IsAnnotation value) :
    (Expr.attribute value name).print false p = .ok (v ++ codes "." ++ codes name) := by
  have hinteger : isIntegerConstant value = false := by cases hvalue <;> rfl
  rw [Expr.print, hv, hinteger]
  rfl

theorem print_list {cs : List Codes} (hcs : printAll false Precedence.test items = .ok cs) :
    (Expr.list items).print false p = .ok (codes "[" ++ separated ", " cs ++ codes "]") := by
  rw [Expr.print, hcs]
  rfl

theorem print_tuple {cs : List Codes} (hcs : printAll false Precedence.test items = .ok cs)
    (hp : Precedence.tuple < p) :
    (Expr.tuple items).print false p = .ok (codes "(" ++ tupleItems cs ++ codes ")") := by
  have hparentheses : (items.isEmpty || decide (Precedence.tuple < p)) = true := by rw [decide_eq_true hp, Bool.or_true]
  rw [Expr.print, hcs]
  show Except.ok (if (items.isEmpty || decide (Precedence.tuple < p)) = true then _ else _) = _
  rw [if_pos hparentheses]

theorem print_subscript {index : Expr} {v : Codes} (hv : value.print false Precedence.atom = .ok v)
    (hindex : ∃ s : String, index.print false Precedence.test = .ok (codes s))
    (hitems : ∀ items, index = .tuple items →
      ∃ cs, printAll false Precedence.test items = .ok cs ∧ ∃ s : String, tupleItems cs = codes s) :
    ∃ s : String, (Expr.subscript value index).print false p = .ok (v ++ codes "[" ++ codes s ++ codes "]") := by
  rw [Expr.print.eq_def]
  dsimp only
  rw [hv]
  split
  · next e es =>
      obtain ⟨cs, hcs, s, hs⟩ := hitems _ rfl
      refine ⟨s, ?_⟩
      rw [← hs]
      rw [printAll] at hcs
      cases he : e.print false Precedence.test with
      | error fault =>
          rw [he] at hcs
          cases hcs
      | ok c =>
      rw [he] at hcs
      cases hes : printAll false Precedence.test es with
      | error fault =>
          rw [hes] at hcs
          cases hcs
      | ok ds =>
          rw [hes] at hcs
          cases hcs
          rfl
  · obtain ⟨s, hs⟩ := hindex
    rw [hs]
    exact ⟨s, rfl⟩

theorem print_union {l r : Codes} (hl : left.print false Precedence.bitOr = .ok l)
    (hr : right.print false Precedence.bitOr.next = .ok r) :
    (Expr.binary .bitOr left right).print false p =
      .ok (parenthesize Precedence.bitOr p (l ++ codes " " ++ codes "|" ++ codes " " ++ r)) := by
  rw [Expr.print]
  dsimp only [BinaryOp.symbol]
  rw [if_neg (by decide)]
  dsimp only
  rw [hl, hr]
  rfl

/-- The annotation is written as a text that a forward reference reads as it reads the annotation. -/
def IsRead (e : Expr) (p : Precedence) : Prop :=
  ∃ s : String, e.print false p = .ok (codes s) ∧ Solid s.toList ∧ ∀ r : Reading, r.through s.toList = e.read p r

theorem through_toList_append (r : Reading) (s t : String) :
    r.through (s ++ t).toList = (r.through s.toList).through t.toList := by
  rw [String.toList_append, Reading.through_append]

/-- Further items, each after a comma. -/
def further : List String → String
  | [] => ""
  | s :: ss => ", " ++ (s ++ further ss)

/-- The items of a tuple, of which one alone has a comma after it. -/
def tupleText : List String → String
  | [] => ""
  | [s] => s ++ ","
  | s :: ss => s ++ further ss

theorem separated_codes (s : String) (ss : List String) :
    separated ", " ((s :: ss).map codes) = codes (s ++ further ss) := by
  induction ss generalizing s with
  | nil =>
      rw [further, String.append_empty]
      rfl
  | cons t ss ih =>
      have htail := ih t
      rw [List.map_cons] at htail
      rw [List.map_cons, List.map_cons, separated, htail, further]
      · simp only [codes_append, List.append_assoc]
      · nofun

theorem tupleItems_codes : ∀ ss : List String, tupleItems (ss.map codes) = codes (tupleText ss)
  | [] => rfl
  | [s] => (codes_append s ",").symm
  | s :: t :: ss => separated_codes s (t :: ss)

theorem print_all (h : ∀ e ∈ items, IsRead e Precedence.test) :
    ∃ ss : List String, printAll false Precedence.test items = .ok (ss.map codes) ∧
      List.Forall₂ (fun e s => ∀ r : Reading, r.through s.toList = e.read Precedence.test r) items ss := by
  induction items with
  | nil => exact ⟨[], rfl, .nil⟩
  | cons e items ih =>
      obtain ⟨s, hs, -, hread⟩ := h e List.mem_cons_self
      obtain ⟨ss, hss, hreads⟩ := ih fun e he => h e (List.mem_cons_of_mem _ he)
      refine ⟨s :: ss, ?_, .cons hread hreads⟩
      rw [printAll, hs, hss]
      rfl

theorem through_further {ss : List String}
    (h : List.Forall₂ (fun e s => ∀ r : Reading, r.through s.toList = e.read Precedence.test r) items ss)
    (r : Reading) :
    r.through (further ss).toList = readMore items r := by
  induction h generalizing r with
  | nil => rfl
  | cons hread _ ih =>
      rw [further, through_toList_append, through_toList_append, hread, ih]
      rfl

theorem through_tupleText {ss : List String}
    (h : List.Forall₂ (fun e s => ∀ r : Reading, r.through s.toList = e.read Precedence.test r) items ss)
    (r : Reading) :
    r.through (tupleText ss).toList = readItems items r := by
  cases h with
  | nil => rfl
  | cons hread hreads =>
      cases hreads with
      | nil =>
          rw [tupleText, through_toList_append, hread]
          rfl
      | cons hread' hreads =>
          have hmore := through_further (.cons hread' hreads)
          rw [tupleText, through_toList_append, hread, hmore]
          · rfl
          · nofun

namespace IsRead

theorem member (h : IsRead value Precedence.atom) (hvalue : IsAnnotation value) (hname : IsWord name) :
    IsRead (.attribute value name) p := by
  obtain ⟨s, hs, hsolid, hread⟩ := h
  refine ⟨s ++ ("." ++ name), ?_, solid_append hsolid hname.solid, fun r => ?_⟩
  · rw [print_attribute hs hvalue, codes_append, codes_append, List.append_assoc]
  · rw [through_toList_append, through_toList_append, hread]
    rfl

/-- Of the index it only matters that it is written. -/
theorem subscript {index : Expr} (hvalue : IsRead value Precedence.atom) (hindex : IsRead index Precedence.test)
    (hitems : ∀ items, index = .tuple items →
      ∃ cs, printAll false Precedence.test items = .ok cs ∧ ∃ s : String, tupleItems cs = codes s) :
    IsRead (.subscript value index) p := by
  obtain ⟨s, hs, hsolid, hread⟩ := hvalue
  obtain ⟨i, hi, -, -⟩ := hindex
  obtain ⟨t, ht⟩ := @print_subscript value p index (codes s) hs ⟨i, hi⟩ hitems
  refine ⟨s ++ ("[" ++ (t ++ "]")), ?_, ?_, fun r => ?_⟩
  · rw [ht, codes_append, codes_append, codes_append, List.append_assoc, List.append_assoc]
  · have hend : Solid "]".toList := Solid.single rfl
    rw [← @String.append_assoc "[" t "]"]
    exact solid_append hsolid hend
  · rw [through_toList_append, through_toList_append, hread, Reading.through_ended (Reading.ended_bracket _)]
    rfl

theorem list (h : ∀ e ∈ items, IsRead e Precedence.test) : IsRead (.list items) p := by
  obtain ⟨ss, hss, -⟩ := print_all h
  obtain ⟨t, ht⟩ : ∃ t : String, separated ", " (ss.map codes) = codes t := by
    cases ss with
    | nil => exact ⟨"", rfl⟩
    | cons s ss => exact ⟨_, separated_codes s ss⟩
  refine ⟨"[" ++ (t ++ "]"), ?_, solid_append (Solid.single rfl) (Solid.single rfl), fun r => ?_⟩
  · rw [print_list hss, ht, codes_append, codes_append, List.append_assoc]
  · rw [through_toList_append, Reading.through_ended (Reading.ended_bracket _)]
    rfl

theorem tuple (h : ∀ e ∈ items, IsRead e Precedence.test) (hp : Precedence.tuple < p) : IsRead (.tuple items) p := by
  obtain ⟨ss, hss, hreads⟩ := print_all h
  refine ⟨"(" ++ (tupleText ss ++ ")"), ?_, solid_append (Solid.single rfl) (Solid.single rfl), fun r => ?_⟩
  · rw [print_tuple hss hp, tupleItems_codes, codes_append, codes_append, List.append_assoc]
  · rw [through_toList_append, through_toList_append, through_tupleText hreads]
    rfl

/-- A union is written in parentheses only where its operator binds less than what is asked for. -/
theorem union (hleft : IsRead left Precedence.bitOr) (hright : IsRead right Precedence.bitOr.next) :
    IsRead (.binary .bitOr left right) p := by
  obtain ⟨s, hs, hsolid, hread⟩ := hleft
  obtain ⟨t, ht, hsolid', hread'⟩ := hright
  have hinner : codes s ++ codes " " ++ codes "|" ++ codes " " ++ codes t = codes (s ++ (" | " ++ t)) := by
    rw [codes_append, codes_append, List.append_assoc, List.append_assoc, List.append_assoc]
    rfl
  have hover (r : Reading) : r.through (s ++ (" | " ++ t)).toList =
      right.read Precedence.bitOr.next ((left.read Precedence.bitOr r).through " | ".toList) := by
    rw [through_toList_append, through_toList_append, hread, hread']
  have hprint := print_union (p := p) hs ht
  rw [hinner] at hprint
  unfold parenthesize at hprint
  by_cases hp : Precedence.bitOr < p
  · rw [if_pos hp] at hprint
    refine ⟨"(" ++ ((s ++ (" | " ++ t)) ++ ")"), ?_, solid_append (Solid.single rfl) (Solid.single rfl), fun r => ?_⟩
    · rw [hprint, codes_append "(", codes_append _ ")", List.append_assoc]
    · rw [through_toList_append, through_toList_append, hover]
      exact (if_pos hp).symm
  · rw [if_neg hp] at hprint
    refine ⟨s ++ (" | " ++ t), hprint, solid_append hsolid hsolid', fun r => ?_⟩
    rw [hover]
    exact (if_neg hp).symm

end IsRead

/-- **A written annotation** is read part by part. A tuple as an index is written without its parentheses, so that the
induction carries what is written of its items too. -/
theorem read_print (h : IsAnnotation e) :
    (∀ p, Precedence.tuple < p → IsRead e p) ∧ ∀ items, e = .tuple items →
      ∃ cs, printAll false Precedence.test items = .ok cs ∧ ∃ s : String, tupleItems cs = codes s := by
  induction h with
  | @name id hid => exact ⟨fun p hp => ⟨id, rfl, hid.solid, fun r => rfl⟩, nofun⟩
  | none => exact ⟨fun p hp => ⟨"None", rfl, IsWord.solid (by decide), fun r => rfl⟩, nofun⟩
  | ellipsis =>
      have hsolid : Solid "...".toList := @Solid.around _ _ ['.'] (Solid.single rfl) (Solid.single rfl)
      exact ⟨fun p hp => ⟨"...", rfl, hsolid, fun r => rfl⟩, nofun⟩
  | member hvalue hname ih => exact ⟨fun p hp => (ih.1 Precedence.atom (by decide)).member hvalue hname, nofun⟩
  | subscript _ _ ihvalue ihindex =>
      have hvalue := ihvalue.1 Precedence.atom (by decide)
      have hindex := ihindex.1 Precedence.test (by decide)
      exact ⟨fun p hp => hvalue.subscript hindex ihindex.2, nofun⟩
  | list _ ih => exact ⟨fun p hp => .list fun e he => (ih e he).1 Precedence.test (by decide), nofun⟩
  | tuple _ ih =>
      have hitems := fun e he => (ih e he).1 Precedence.test (by decide)
      refine ⟨fun p hp => .tuple hitems hp, ?_⟩
      rintro _ ⟨⟩
      obtain ⟨ss, hss, -⟩ := print_all hitems
      exact ⟨_, hss, _, tupleItems_codes ss⟩
  | union _ _ ihleft ihright =>
      have hleft := ihleft.1 Precedence.bitOr (by decide)
      have hright := ihright.1 Precedence.bitOr.next (by decide)
      exact ⟨fun p hp => hleft.union hright, nofun⟩

end Writing

/-! ## 5. Quoting -/

/-- The annotation is a name with points, and this is the last part of it. -/
inductive Dotted : String → Expr → Prop
  | name {n : String} : Dotted n (.name n)
  | member {n m : String} {value : Expr} (h : Dotted m value) : Dotted n (.attribute value n)

/-- The annotation starts with a name with points and with arguments, and this is the last part of the name. -/
inductive Applied (n : String) : Expr → Prop
  | first {value index : Expr} (h : Dotted n value) : Applied n (.subscript value index)
  | again {value index : Expr} (h : Applied n value) : Applied n (.subscript value index)
  | member {value : Expr} {name : String} (h : Applied n value) : Applied n (.attribute value name)

section Quoting

variable {e : Expr} {n : String} {p : Precedence}

theorem IsWord.through {m : String} (h : IsWord m) (name : List Char) :
    Reading.through ⟨name, false⟩ m.toList = ⟨name ++ m.toList, false⟩ :=
  Reading.through_word fun c hc => ⟨(h.2 c hc).1, (h.2 c hc).2.1⟩

theorem Dotted.read_eq (hn : Dotted n e) (h : IsAnnotation e) : e.read p .start = ⟨n.toList, false⟩ := by
  induction hn generalizing p with
  | name =>
      cases h with
      | name hid => exact hid.through []
  | member _ ih =>
      cases h with
      | member hvalue hname =>
          rw [Expr.read, ih hvalue]
          exact hname.through []

theorem Applied.read_eq (hn : Applied n e) (h : IsAnnotation e) : e.read p .start = ⟨n.toList, true⟩ := by
  induction hn generalizing p with
  | first hn =>
      cases h with
      | subscript hvalue _ =>
          rw [Expr.read, hn.read_eq hvalue]
          rfl
  | again _ ih =>
      cases h with
      | subscript hvalue _ =>
          rw [Expr.read, ih hvalue]
          rfl
  | member _ ih =>
      cases h with
      | member hvalue _ =>
          rw [Expr.read, ih hvalue, Reading.through_ended rfl, Reading.through_ended rfl]

/-- Every name in an annotation is a word. -/
theorem Mentions.isWord (hn : Mentions n e) (h : IsAnnotation e) : IsWord n := by
  induction hn with
  | name => cases h with | name hid => exact hid
  | member => cases h with | member _ hname => exact hname
  | value _ ih => cases h with | member hvalue _ => exact ih hvalue
  | subscripted _ ih => cases h with | subscript hvalue _ => exact ih hvalue
  | index _ ih => cases h with | subscript _ hindex => exact ih hindex
  | listed hitem _ ih => cases h with | list hitems => exact ih (hitems _ hitem)
  | tupled hitem _ ih => cases h with | tuple hitems => exact ih (hitems _ hitem)
  | left _ ih => cases h with | union hleft _ => exact ih hleft
  | right _ ih => cases h with | union _ hright => exact ih hright

/-- A union of two names is read as one, with its bar. -/
theorem lead_union {left : Expr} {m : String} (hn : Dotted n left) (h : IsAnnotation (.binary .bitOr left (.name m))) :
    (Expr.binary .bitOr left (.name m)).lead = (n ++ " | " ++ m).toList := by
  cases h with
  | union hleft hright =>
  cases hright with
  | name hm =>
      have hbar : ∀ c ∈ " | ".toList, c ≠ '.' ∧ c ≠ '[' := by simp
      unfold Expr.lead
      rw [Expr.read, if_neg (by decide)]
      dsimp only
      rw [hn.read_eq hleft, Reading.through_word hbar, Expr.read, hm.through, String.toList_append,
        String.toList_append]

/-- **What quoting does to the types of an annotation.** Unquoted, every type that it mentions is found. Its text,
quoted, has no type but the name that is read first: the last part of a name before its arguments, and of a union of
names the union itself, which is no name at all. The types are the same just when that name is the only type that the
annotation mentions, or neither has one. -/
theorem quoted_types_exact (h : IsAnnotation e) :
    (∀ n, n ∈ annotationTypes [e] ↔ isTypeName n.toList = true ∧ Mentions n e) ∧
    ∃ s, e.text = .ok s ∧
      (∀ n, n ∈ annotationTypes [quoted s] ↔ isTypeName n.toList = true ∧ n.toList = e.lead) ∧
      ((∀ n, n ∈ annotationTypes [quoted s] ↔ n ∈ annotationTypes [e]) ↔
        ∀ n, isTypeName n.toList = true → (n.toList = e.lead ↔ Mentions n e)) ∧
      (∀ n, Dotted n e ∨ Applied n e → e.lead = n.toList) ∧
      ∀ left n m, e = .binary .bitOr left (.name m) → Dotted n left →
        e.lead = (n ++ " | " ++ m).toList ∧ ¬ Mentions (n ++ " | " ++ m) e := by
  have htypes (n : String) : n ∈ annotationTypes [e] ↔ isTypeName n.toList = true ∧ Mentions n e :=
    mem_annotationTypes h
  obtain ⟨s, hs, hsolid, hread⟩ := (read_print h).1 Precedence.test (by decide)
  have htext : e.text = .ok s := by
    unfold Expr.text
    rw [hs, Except.map, textOfCodes_codes]
  have hlead : forwardName (codes s) = e.lead := by
    rw [forwardName_of_solid hsolid, hread]
    rfl
  have hquoted (n : String) : n ∈ annotationTypes [quoted s] ↔ isTypeName n.toList = true ∧ n.toList = e.lead := by
    rw [mem_annotationTypes_quoted, hlead]
  refine ⟨htypes, s, htext, hquoted, ?_, ?_, ?_⟩
  · simp only [htypes, hquoted, and_congr_right_iff]
  · rintro n (hn | hn)
    · exact congrArg Reading.name (hn.read_eq h)
    · exact congrArg Reading.name (hn.read_eq h)
  · rintro left n m rfl hn
    refine ⟨lead_union hn h, fun hmention => ?_⟩
    have hword := hmention.isWord h
    have hblank : ' ' ∈ (n ++ " | " ++ m).toList := by
      rw [String.toList_append, String.toList_append]
      exact List.mem_append_left _ (List.mem_append_right _ List.mem_cons_self)
    exact absurd (hword.2 ' ' hblank).2.2 (by decide)

end Quoting

/-- An annotation with arguments. -/
def usersByName : Expr := .subscript (.name "Dict") (.tuple [.name "str", .name "User"])

/-- A union. -/
def readerOrWriter : Expr := .binary .bitOr (.name "Reader") (.name "Writer")

theorem isAnnotation_usersByName : IsAnnotation usersByName := by
  refine .subscript (.name (by decide)) (.tuple ?_)
  rintro e he
  rcases List.mem_cons.mp he with rfl | he
  · exact .name (by decide)
  · cases List.mem_singleton.mp he
    exact .name (by decide)

theorem quoted_types_usersByName :
    IsAnnotation usersByName ∧ ∃ s, usersByName.text = .ok s ∧ ∀ n, n ∈ annotationTypes [quoted s] ↔
      isTypeName n.toList = true ∧ n.toList = usersByName.lead := by
  obtain ⟨-, s, hs, hquoted, -⟩ := quoted_types_exact isAnnotation_usersByName
  exact ⟨isAnnotation_usersByName, s, hs, hquoted⟩

/-- **Quoting changes types.** The arguments of a quoted annotation are lost, and a quoted union is no name. -/
theorem quoting_changes_types :
    (usersByName.text = .ok "Dict[str, User]" ∧ annotationTypes [usersByName] = ["User"] ∧
      annotationTypes [quoted "Dict[str, User]"] = []) ∧
    (readerOrWriter.text = .ok "Reader | Writer" ∧ annotationTypes [readerOrWriter] = ["Reader", "Writer"] ∧
      annotationTypes [quoted "Reader | Writer"] = ["Reader | Writer"]) := by
  refine ⟨⟨?_, ?_, ?_⟩, ?_, ?_, ?_⟩ <;> decide +kernel

end FragmentSearch.Source
