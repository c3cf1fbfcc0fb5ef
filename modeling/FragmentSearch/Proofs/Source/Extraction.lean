import FragmentSearch.Proofs.Order.Traversal
import FragmentSearch.Proofs.Source.Bindings
import FragmentSearch.Source.Extraction
import Mathlib.Algebra.GroupWithZero.Nat

/-!
# The fragments of a module are its bindings

One binding gives one fragment, which is called after the class in which the binding stands. So what is read from a
source follows from the list of its bindings:

* `fragmentsOfAll_eq` -- the fragments are those of the bindings, one after another;
* `WellPlaced` -- the lines of a statement hold those of the statements in it;
* `Extracted` -- every fragment tells of its binding, comes after that of its class and lies inside its lines.

Reading fails only where the text of a definition cannot be written back.
-/

namespace FragmentSearch.Source

/-! ## 1. The fragment of a binding -/

namespace Stmt

/-- The kind of the fragments of a statement. -/
def kind : Stmt → Kind
  | .classDef _ _ h _ => h.kind
  | .functionDef _ _ _ _ => .method
  | _ => .field

/-- The lines of a statement with its decorators. -/
def span (s : Stmt) : Extent := s.extent.withDecorators s.decorators

/-- The first line of a text. -/
def firstLine (s : String) : String := String.ofList (s.toList.takeWhile (· ≠ '\n'))

/-- The text by which a statement is shown. -/
def signature : Stmt → Except PrintFault String
  | .classDef _ _ h _ => h.signature
  | .functionDef _ _ h _ => h.signature
  | .assign _ targets value => (assignText targets value).map firstLine
  | .annotate _ target type value bare => (annotateText target type value bare).map firstLine
  | _ => .ok ""

/-- The types that a statement depends on. -/
def dependencies : Stmt → List String
  | .classDef _ _ h _ => unique h.baseNames
  | .functionDef _ _ h _ => annotationTypes h.annotations
  | .annotate _ _ type _ _ => annotationTypes [type]
  | _ => []

end Stmt

/-- The identifier of what stands around a statement: the innermost class, or the package. -/
def enclosingId (package : String) : List Stmt → String
  | [] => package
  | c :: above => enclosingId package above ++ "." ++ c.name?.getD ""

/-- The fragment of a binding, if the text of its statement can be written. -/
def Origin.fragmentAt (o : Origin) (b : Binding) : Except PrintFault Fragment :=
  b.stmt.signature.map fun text =>
    o.fragment (enclosingId o.package b.above) b.name b.stmt.kind b.stmt.span text (documentation? b.stmt.children)
      b.stmt.dependencies

section Fragments

variable (o : Origin) {above : List Stmt} {place : List Nat}

theorem classFragment_eq (place : List Nat) (e : Extent) (d : List Nat) (h : ClassHead) (body : List Stmt) :
    o.classFragment (enclosingId o.package above) e d h body =
      o.fragmentAt ⟨place, above, .classDef e d h body, h.name⟩ := by
  cases hs : h.signature <;> simp [Origin.classFragment, Origin.fragmentAt, Stmt.signature, hs] <;> rfl

theorem functionFragment_eq (place : List Nat) (e : Extent) (d : List Nat) (h : FunctionHead) (body : List Stmt) :
    o.functionFragment (enclosingId o.package above) e d h body =
      o.fragmentAt ⟨place, above, .functionDef e d h body, h.name⟩ := by
  cases hs : h.signature <;> simp [Origin.functionFragment, Origin.fragmentAt, Stmt.signature, hs] <;> rfl

/-- The plain names among the targets of an assignment give the fragments of their bindings. -/
theorem fieldFragments_eq {s : Stmt} {text : Except PrintFault String} {deps : List String} {k : Nat}
    {ts : List Expr} (hkind : s.kind = .field) (htext : s.signature = text.map Stmt.firstLine)
    (hchildren : s.children = []) (hdecorators : s.decorators = []) (hdeps : s.dependencies = deps) :
    o.fieldFragments (enclosingId o.package above) s.extent text deps ts =
      (targetBindings above place s k ts).mapM o.fragmentAt := by
  fun_induction targetBindings above place s k ts with
  | case1 k => rfl
  | case2 k id r ih =>
      rw [List.mapM_cons, ← ih, Origin.fieldFragments, Origin.fragmentAt, hkind, htext, hchildren, Stmt.span,
        hdecorators, hdeps]
      cases text <;> rfl
  | case3 k e r he ih =>
      rw [← ih]
      cases e with
      | name id => exact absurd rfl (he id)
      | _ => rfl

/-- The fragments of statements in a row follow from those of each. -/
theorem fragmentsOfAll_eq_of_each {i : Nat} {body : List Stmt}
    (hbody : ∀ t ∈ body, ∀ at', o.fragmentsOf (enclosingId o.package above) (!above.isEmpty) t =
      (t.bindings above at').mapM o.fragmentAt) :
    o.fragmentsOfAll (enclosingId o.package above) (!above.isEmpty) body =
      (bindingsIn above place i body).mapM o.fragmentAt := by
  induction body generalizing i with
  | nil => rfl
  | cons s body ih =>
      rw [Origin.fragmentsOfAll, bindingsIn, List.mapM_append, hbody s List.mem_cons_self (place ++ [i]),
        ih fun t ht => hbody t (List.mem_cons_of_mem s ht)]

/-- The fragments of a statement are those of its bindings. -/
theorem fragmentsOf_eq (s : Stmt) :
    o.fragmentsOf (enclosingId o.package above) (!above.isEmpty) s = (s.bindings above place).mapM o.fragmentAt := by
  induction s using Stmt.induction generalizing above place with
  | step s ih =>
      cases s with
      | classDef e d h body =>
          have hinside : o.fragmentsOfAll (enclosingId o.package above ++ "." ++ h.name) true body =
              (bindingsIn (.classDef e d h body :: above) place 0 body).mapM o.fragmentAt :=
            @fragmentsOfAll_eq_of_each o (.classDef e d h body :: above) place 0 body fun t ht _ => ih t ht
          rw [Origin.fragmentsOf, Stmt.bindings, List.mapM_cons, classFragment_eq o place, ← hinside]
          cases hs : h.signature <;> simp [Origin.fragmentAt, Stmt.signature, hs] <;> rfl
      | functionDef e d h body =>
          rw [Origin.fragmentsOf, Stmt.bindings, List.mapM_cons, functionFragment_eq o place]
          rfl
      | assign e ts v =>
          cases above with
          | nil => rfl
          | cons c above => exact @fieldFragments_eq o (c :: above) place (.assign e ts v) _ _ 0 ts rfl rfl rfl rfl rfl
      | annotate e t type v bare =>
          cases above with
          | nil => rfl
          | cons c above =>
              exact @fieldFragments_eq o (c :: above) place (.annotate e t type v bare) _ _ 0 [t] rfl rfl rfl rfl rfl
      | expression e v => rfl
      | other e blocks => rfl

/-- **The fragments of a module are those of its bindings, one after another.** -/
theorem fragmentsOfAll_eq (tree : Module) :
    o.fragmentsOfAll o.package false tree = (bindings tree).mapM o.fragmentAt :=
  @fragmentsOfAll_eq_of_each o [] [] 0 tree fun t _ _ => fragmentsOf_eq o t

end Fragments

/-! ## 2. Lines -/

/-- The lines of a statement are in order and hold those of the statements in it, with their decorators. -/
inductive WellPlaced : Stmt → Prop
  | intro {s : Stmt} (ordered : s.extent.first ≤ s.extent.last)
      (after : ∀ c ∈ s.children, s.extent.first ≤ c.extent.first ∧ ∀ d ∈ c.decorators, s.extent.first ≤ d)
      (before : ∀ c ∈ s.children, c.extent.last ≤ s.extent.last) (inner : ∀ c ∈ s.children, WellPlaced c) :
      WellPlaced s

theorem foldl_min_le (n : Nat) (ds : List Nat) : ds.foldl min n ≤ n := by
  induction ds generalizing n with
  | nil => exact Nat.le_refl n
  | cons d ds ih => exact Nat.le_trans (ih (min n d)) (Nat.min_le_left n d)

theorem le_foldl_min {m n : Nat} {ds : List Nat} (hn : m ≤ n) (hds : ∀ d ∈ ds, m ≤ d) : m ≤ ds.foldl min n := by
  induction ds generalizing n with
  | nil => exact hn
  | cons d ds ih =>
      have hd : m ≤ d := hds d List.mem_cons_self
      exact ih (Nat.le_min.mpr ⟨hn, hd⟩) fun x hx => hds x (List.mem_cons_of_mem d hx)

namespace WellPlaced

variable {s c : Stmt}

theorem span_ordered (h : WellPlaced s) : s.span.first ≤ s.span.last := by
  cases h with
  | intro ordered after before inner => exact Nat.le_trans (foldl_min_le s.extent.first s.decorators) ordered

theorem leaf (hs : s.children = []) (hordered : s.extent.first ≤ s.extent.last) : WellPlaced s :=
  .intro hordered (by simp [hs]) (by simp [hs]) (by simp [hs])

theorem child (h : WellPlaced s) (hc : c ∈ s.children) : WellPlaced c := by
  cases h with
  | intro ordered after before inner => exact inner c hc

/-- A statement with its decorators lies inside the lines of the one around it. -/
theorem span_child (h : WellPlaced s) (hc : c ∈ s.children) :
    s.span.first ≤ c.span.first ∧ c.span.last ≤ s.span.last := by
  cases h with
  | intro ordered after before inner =>
      obtain ⟨hfirst, hdecorators⟩ := after c hc
      have hspan : s.extent.first ≤ c.span.first := le_foldl_min hfirst hdecorators
      exact ⟨Nat.le_trans (foldl_min_le s.extent.first s.decorators) hspan, before c hc⟩

theorem of_stands {tree : Module} (htree : ∀ t ∈ tree, WellPlaced t) {place : List Nat} {above : List Stmt}
    (hs : Stands tree place above s) : WellPlaced s := by
  induction hs with
  | top h => exact htree _ (List.mem_of_getElem? h)
  | inside hp h ih => exact ih.child (List.mem_of_getElem? h)

end WellPlaced

/-! ## 3. Where a binding stands -/

section Standing

variable {tree : Module} {b : Binding}

theorem Binds.stands (h : Binds tree b) :
    ∃ place, place <+: b.place ∧ Stands tree place b.above b.stmt ∧ ∀ c ∈ b.above, c.isClass = true := by
  cases h with
  | definition hs hclasses hname => exact ⟨_, List.prefix_rfl, hs, hclasses⟩
  | target hs hclasses hinside htarget => exact ⟨_, List.prefix_append _ _, hs, hclasses⟩

/-- A class has a name. -/
theorem Stmt.exists_name {c : Stmt} (h : c.isClass = true) : ∃ name, c.name? = some name := by
  cases c with
  | classDef e d head body => exact ⟨head.name, rfl⟩
  | _ => cases h

/-- A binding inside a class comes after that of the class. -/
theorem Binds.enclosing (h : Binds tree b) {c : Stmt} {above : List Stmt} (ha : b.above = c :: above) :
    ∃ e, Binds tree e ∧ e.stmt.name? = some e.name ∧ e.place <+: b.place ∧ e.place < b.place ∧
      b.above = e.stmt :: e.above ∧ b.stmt ∈ e.stmt.children := by
  obtain ⟨place, hplace, hs, hclasses⟩ := h.stands
  rw [ha] at hs hclasses
  cases hs with
  | @inside p above c i s hp hi =>
      obtain ⟨name, hname⟩ := Stmt.exists_name (hclasses c List.mem_cons_self)
      refine ⟨⟨p, above, c, name⟩, ?_, hname, ?_, lt_of_inside hplace, ha, List.mem_of_getElem? hi⟩
      · exact Binds.definition hp (fun t ht => hclasses t (List.mem_cons_of_mem c ht)) hname
      · exact (List.prefix_append p [i]).trans hplace

/-- A field stands in a class. -/
theorem Binds.above_ne_nil (h : Binds tree b) (hkind : b.stmt.kind = .field) : b.above ≠ [] := by
  cases h with
  | @definition place above s name hs hclasses hname =>
      cases s with
      | classDef e d h body =>
          have hclass : h.kind ≠ .field := by
            unfold ClassHead.kind
            split
            · simp
            · split <;> simp
          exact absurd hkind hclass
      | functionDef e d h body => cases hkind
      | _ => cases hname
  | target hs hclasses hinside htarget => exact hinside

end Standing

/-! ## 4. What the fragments tell -/

/-- What a fragment says of its binding. -/
structure Describes (o : Origin) (b : Binding) (f : Fragment) : Prop where
  name : f.name = some b.name
  kind : f.kind = b.stmt.kind
  package : f.package = some o.package
  id_top : b.above = [] → f.id = o.package ++ "." ++ b.name
  inside : f.kind = .field → b.above ≠ []
  first : f.startLine = b.stmt.span.first
  last : f.endLine = b.stmt.span.last
  ordered : f.startLine ≤ f.endLine

/-- The binding `e` with fragment `g` is that of the class around the binding `b` with fragment `f`. -/
structure Encloses (e : Binding) (g : Fragment) (b : Binding) (f : Fragment) : Prop where
  above : b.above = e.stmt :: e.above
  place : e.place <+: b.place
  id : f.id = g.id ++ "." ++ b.name
  first : g.startLine ≤ f.startLine
  last : f.endLine ≤ g.endLine

/-- Fragments that say of bindings what there is to say, each after that of the class around it. -/
structure Extracted (o : Origin) (bs : List Binding) (fs : List Fragment) : Prop where
  each : List.Forall₂ (Describes o) bs fs
  enclosed : ∀ (i : Nat) (b : Binding) (f : Fragment), bs[i]? = some b → fs[i]? = some f → b.above ≠ [] →
    ∃ (k : Nat) (e : Binding) (g : Fragment), k < i ∧ bs[k]? = some e ∧ fs[k]? = some g ∧ Encloses e g b f

section Fragments

variable {o : Origin} {tree : Module} {b e : Binding} {f g : Fragment}

/-- A fragment is read just when the text of its statement is written. -/
theorem exists_fragmentAt : (∃ f, o.fragmentAt b = .ok f) ↔ ∃ text, b.stmt.signature = .ok text := by
  unfold Origin.fragmentAt
  cases b.stmt.signature with
  | error e => simp [Except.map]
  | ok text => simp [Except.map]

theorem fragmentAt_error {e : PrintFault} : o.fragmentAt b = .error e ↔ b.stmt.signature = .error e := by
  unfold Origin.fragmentAt
  cases b.stmt.signature with
  | error e => simp [Except.map]
  | ok text => simp [Except.map]

theorem exists_of_fragmentAt (h : o.fragmentAt b = .ok f) :
    ∃ text, f = o.fragment (enclosingId o.package b.above) b.name b.stmt.kind b.stmt.span text
      (documentation? b.stmt.children) b.stmt.dependencies := by
  unfold Origin.fragmentAt at h
  cases hs : b.stmt.signature with
  | error e =>
      rw [hs] at h
      cases h
  | ok text =>
      rw [hs] at h
      cases h
      exact ⟨text, rfl⟩

theorem describes_of_fragmentAt (htree : ∀ t ∈ tree, WellPlaced t) (hb : Binds tree b)
    (h : o.fragmentAt b = .ok f) : Describes o b f := by
  obtain ⟨text, rfl⟩ := exists_of_fragmentAt h
  obtain ⟨place, -, hs, -⟩ := hb.stands
  have hordered : b.stmt.span.first ≤ b.stmt.span.last := (WellPlaced.of_stands htree hs).span_ordered
  exact
    { name := rfl
      kind := rfl
      package := rfl
      id_top := fun ha => by rw [ha]; rfl
      inside := fun hk => hb.above_ne_nil hk
      first := rfl
      last := rfl
      ordered := Int.ofNat_le.mpr hordered }

theorem encloses_of_fragmentAt (htree : ∀ t ∈ tree, WellPlaced t) (he : Binds tree e)
    (hname : e.stmt.name? = some e.name) (hplace : e.place <+: b.place) (ha : b.above = e.stmt :: e.above)
    (hchild : b.stmt ∈ e.stmt.children) (hg : o.fragmentAt e = .ok g) (hf : o.fragmentAt b = .ok f) :
    Encloses e g b f := by
  obtain ⟨_, rfl⟩ := exists_of_fragmentAt hf
  obtain ⟨_, rfl⟩ := exists_of_fragmentAt hg
  obtain ⟨place, -, hs, -⟩ := he.stands
  obtain ⟨hfirst, hlast⟩ := (WellPlaced.of_stands htree hs).span_child hchild
  have hid : enclosingId o.package b.above = enclosingId o.package e.above ++ "." ++ e.name := by
    rw [ha, enclosingId, hname]
    rfl
  exact
    { above := ha
      place := hplace
      id := by
        show enclosingId o.package b.above ++ "." ++ b.name = _
        rw [hid]
        rfl
      first := Int.ofNat_le.mpr hfirst
      last := Int.ofNat_le.mpr hlast }

/-- In a list in the order of the source, what has the earlier place comes first. -/
theorem index_lt_of_place_lt {bs : List Binding} (hbs : bs.Pairwise (·.place < ·.place)) {i k : Nat}
    (hi : bs[i]? = some b) (hk : bs[k]? = some e) (h : e.place < b.place) : k < i := by
  obtain ⟨hi', rfl⟩ := List.getElem?_eq_some_iff.mp hi
  obtain ⟨hk', rfl⟩ := List.getElem?_eq_some_iff.mp hk
  rcases Nat.lt_trichotomy k i with hki | rfl | hik
  · exact hki
  · exact absurd h (List.lt_irrefl _)
  · have hback := List.pairwise_iff_getElem.mp hbs i k hi' hk' hik
    exact absurd (List.lt_trans h hback) (List.lt_irrefl _)

/-- **The fragments of a module with well placed statements tell of its bindings**, if they can be written. -/
theorem extracted_of_ok (htree : ∀ t ∈ tree, WellPlaced t) {fs : List Fragment}
    (h : o.fragmentsOfAll o.package false tree = .ok fs) : Extracted o (bindings tree) fs := by
  rw [fragmentsOfAll_eq] at h
  have heach : List.Forall₂ (fun b f => o.fragmentAt b = .ok f) (bindings tree) fs := forall₂_of_mapM_ok h
  constructor
  · have hbinds : ∀ b ∈ bindings tree, Binds tree b := fun b hb => mem_bindings.mp hb
    refine ((List.forall₂_and_left _ _).mpr ⟨hbinds, heach⟩).imp ?_
    rintro b f ⟨hb, hf⟩
    exact describes_of_fragmentAt htree hb hf
  · intro i b f hb hf ha
    have hbinds : Binds tree b := mem_bindings.mp (List.mem_of_getElem? hb)
    obtain ⟨c, above, hc⟩ := List.exists_cons_of_ne_nil ha
    obtain ⟨e, he, hname, hplace, hlt, hae, hchild⟩ := hbinds.enclosing hc
    obtain ⟨k, hk⟩ := List.getElem?_of_mem (mem_bindings.mpr he)
    obtain ⟨f', hf', hbf⟩ := exists_getElem?_of_forall₂ heach hb
    obtain ⟨g, hg, heg⟩ := exists_getElem?_of_forall₂ heach hk
    cases hf.symm.trans hf'
    have hki : k < i := index_lt_of_place_lt (pairwise_bindings tree) hb hk hlt
    exact ⟨k, e, g, hki, hk, hg, encloses_of_fragmentAt htree he hname hplace hae hchild heg hbf⟩

end Fragments

/-! ## 5. What is read from a module -/

/-- **What is read from a module.** The list of its bindings is in the order of the source and complete. If the text of
each can be written, the fragments tell of the bindings, and otherwise reading fails with the fault of one of them. -/
theorem fragments_of_bindings (o : Origin) {tree : Module} (htree : ∀ s ∈ tree, WellPlaced s) :
    (bindings tree).Pairwise (·.place < ·.place) ∧ (∀ b, b ∈ bindings tree ↔ Binds tree b) ∧
      ((∀ b ∈ bindings tree, ∃ text, b.stmt.signature = .ok text) →
        ∃ fs, o.fragmentsOfAll o.package false tree = .ok fs ∧ Extracted o (bindings tree) fs) ∧
      ((∃ b ∈ bindings tree, ∀ text, b.stmt.signature ≠ .ok text) →
        ∃ b ∈ bindings tree, ∃ fault,
          b.stmt.signature = .error fault ∧ o.fragmentsOfAll o.package false tree = .error fault) := by
  refine ⟨pairwise_bindings tree, fun b => mem_bindings, ?_, ?_⟩
  · intro hwritten
    obtain ⟨fs, hfs⟩ := exists_mapM_ok fun b hb => exists_fragmentAt.mpr (hwritten b hb)
    have hread : o.fragmentsOfAll o.package false tree = .ok fs := (fragmentsOfAll_eq o tree).trans hfs
    exact ⟨fs, hread, extracted_of_ok htree hread⟩
  · rintro ⟨b, hb, hunwritten⟩
    cases hread : o.fragmentsOfAll o.package false tree with
    | error fault =>
        obtain ⟨c, hc, hfault⟩ := exists_of_mapM_error ((fragmentsOfAll_eq o tree).symm.trans hread)
        exact ⟨c, hc, fault, fragmentAt_error.mp hfault, rfl⟩
    | ok fs =>
        have heach := forall₂_of_mapM_ok ((fragmentsOfAll_eq o tree).symm.trans hread)
        obtain ⟨k, hk⟩ := List.getElem?_of_mem hb
        obtain ⟨f, -, hf⟩ := exists_getElem?_of_forall₂ heach hk
        obtain ⟨text, htext⟩ := exists_fragmentAt.mp ⟨f, hf⟩
        exact absurd htext (hunwritten text)

/-- A decorated class with two names for one value, a function that has a class in it, a class in a condition, and a
class with an annotated name. -/
def decoratedClass : Module :=
  [.assign ⟨1, 1⟩ [.name "limit"] (.constant (.integer 3)),
    .classDef ⟨3, 11⟩ [2] ⟨"Shape", [.name "Base"], []⟩
      [.assign ⟨4, 4⟩ [.name "x", .name "y"] (.constant (.integer 0)),
        .functionDef ⟨6, 7⟩ [5] ⟨false, "area", [], none⟩ [.classDef ⟨7, 7⟩ [] ⟨"Local", [], []⟩ []],
        .other ⟨8, 9⟩ [.classDef ⟨9, 9⟩ [] ⟨"Chosen", [], []⟩ []],
        .classDef ⟨10, 11⟩ [] ⟨"Part", [], []⟩ [.annotate ⟨11, 11⟩ (.name "size") (.name "Length") none true]]]

theorem wellPlaced_decoratedClass : ∀ s ∈ decoratedClass, WellPlaced s := by
  simp only [decoratedClass, List.forall_mem_cons, List.not_mem_nil, false_imp_iff, implies_true, and_true]
  refine ⟨.leaf rfl (by decide), .intro (by decide) (by simp [Stmt.children, Stmt.extent, Stmt.decorators])
    (by simp [Stmt.children, Stmt.extent]) ?_⟩
  simp only [Stmt.children, List.forall_mem_cons, List.not_mem_nil, false_imp_iff, implies_true, and_true]
  refine ⟨.leaf rfl (by decide), ?_, ?_, ?_⟩
  all_goals
    refine .intro (by decide) (by simp [Stmt.children, Stmt.extent, Stmt.decorators])
      (by simp [Stmt.children, Stmt.extent]) fun c hc => ?_
    cases List.mem_singleton.mp hc
    exact .leaf rfl (by decide)

theorem fragments_of_bindings_decoratedClass :
    (bindings decoratedClass).map (·.name) = ["Shape", "x", "y", "area", "Part", "size"] ∧
      (∀ s ∈ decoratedClass, WellPlaced s) ∧
      ∃ fs, (Origin.mk "m" "m.py" []).fragmentsOfAll "m" false decoratedClass = .ok fs ∧
        Extracted ⟨"m", "m.py", []⟩ (bindings decoratedClass) fs := by
  have hwritten : ∀ b ∈ bindings decoratedClass, ∃ text, b.stmt.signature = .ok text := by
    simp only [decoratedClass, bindings, bindingsIn, Stmt.bindings, targetBindings, List.isEmpty_cons,
      List.isEmpty_nil, List.nil_append, List.append_nil, List.cons_append, List.forall_mem_cons, List.not_mem_nil,
      false_imp_iff, implies_true, and_true, if_true, if_false, reduceCtorEq]
    exact ⟨⟨_, rfl⟩, ⟨_, rfl⟩, ⟨_, rfl⟩, ⟨_, rfl⟩, ⟨_, rfl⟩, ⟨_, rfl⟩⟩
  have hplaced : ∀ s ∈ decoratedClass, WellPlaced s := wellPlaced_decoratedClass
  exact ⟨rfl, hplaced, (fragments_of_bindings ⟨"m", "m.py", []⟩ hplaced).2.2.1 hwritten⟩

/-- A class that gives a name the least integer that has too many digits. -/
def longInteger : Module :=
  [.classDef ⟨1, 2⟩ [] ⟨"A", [], []⟩ [.assign ⟨2, 2⟩ [.name "y"] (.constant (.integer (10 ^ Decimal.maxIntegerDigits)))]]

/-- An integer with too many digits cannot be written. -/
theorem print_integer_of_long {n : Nat} (h : 10 ^ Decimal.maxIntegerDigits ≤ n) (sparing : Bool) :
    (Constant.integer n).print sparing = .error .integerTooLong := by
  have hdigits : ¬ (Decimal.digitsOf n).length ≤ Decimal.maxIntegerDigits := by
    intro hle
    have hlt : n < 10 ^ Decimal.maxIntegerDigits := (Nat.length_toDigits_le_iff (by decide) (by decide)).mp hle
    exact absurd hlt (Nat.not_lt.mpr h)
  exact if_pos (Nat.lt_of_not_le hdigits)

theorem signature_of_long {n : Nat} (h : 10 ^ Decimal.maxIntegerDigits ≤ n) (e : Extent) (id : String) :
    (Stmt.assign e [.name id] (.constant (.integer n))).signature = .error .integerTooLong := by
  have hvalue : (Expr.constant (.integer n)).print false Precedence.test = .error .integerTooLong :=
    print_integer_of_long h false
  rw [Stmt.signature, assignText, hvalue]
  rfl

/-- **The definitions of a well placed module are not always read**: the value of `y` is not written back. -/
theorem not_read_longInteger :
    (∀ s ∈ longInteger, WellPlaced s) ∧ (bindings longInteger).map (·.name) = ["A", "y"] ∧
      ¬ ∃ fs, (Origin.mk "m" "m.py" []).fragmentsOfAll "m" false longInteger = .ok fs ∧
        Extracted ⟨"m", "m.py", []⟩ (bindings longInteger) fs := by
  refine ⟨?_, rfl, ?_⟩
  · simp only [longInteger, List.forall_mem_singleton]
    refine .intro (by decide) (by simp [Stmt.children, Stmt.extent, Stmt.decorators])
      (by simp [Stmt.children, Stmt.extent]) fun c hc => ?_
    cases List.mem_singleton.mp hc
    exact .leaf rfl (by decide)
  · rintro ⟨fs, hread, -⟩
    have heach := forall₂_of_mapM_ok ((fragmentsOfAll_eq ⟨"m", "m.py", []⟩ longInteger).symm.trans hread)
    obtain ⟨f, -, hf⟩ := exists_getElem?_of_forall₂ heach (k := 1) rfl
    obtain ⟨text, htext⟩ := exists_fragmentAt.mp ⟨f, hf⟩
    have hfault := signature_of_long (Nat.le_refl (10 ^ Decimal.maxIntegerDigits)) ⟨2, 2⟩ "y"
    cases hfault.symm.trans htext

end FragmentSearch.Source
