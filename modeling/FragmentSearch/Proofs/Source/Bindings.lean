import FragmentSearch.Source.Extraction

/-!
# What a module binds for others to find

A statement of a module has a place, a list of numbers that leads to it from the outside to the inside, and places
compared number by number are in the order of the source, a statement before what stands in it.

* `Stands` -- where a statement stands, and within which others;
* `Binds` -- classes and functions count that stand inside classes only, and the plain names that an assignment gives
  a value to directly in such a class;
* `bindings` -- the list of them;
* `pairwise_bindings`, `mem_bindings` -- each occurs in it once, in the order of the source, and nothing else does.
-/

namespace FragmentSearch.Source

/-! ## 1. Statements -/

namespace Stmt

/-- The lines of a statement. -/
def extent : Stmt → Extent
  | .classDef e _ _ _ => e
  | .functionDef e _ _ _ => e
  | .assign e _ _ => e
  | .annotate e _ _ _ _ => e
  | .expression e _ => e
  | .other e _ => e

/-- The lines on which the decorators of a statement begin. -/
def decorators : Stmt → List Nat
  | .classDef _ d _ _ => d
  | .functionDef _ d _ _ => d
  | _ => []

/-- The statements that stand directly in a statement. -/
def children : Stmt → List Stmt
  | .classDef _ _ _ body => body
  | .functionDef _ _ _ body => body
  | .other _ blocks => blocks
  | _ => []

/-- Is the statement a class? -/
def isClass : Stmt → Bool
  | .classDef _ _ _ _ => true
  | _ => false

/-- The name of a class or a function. -/
def name? : Stmt → Option String
  | .classDef _ _ h _ => some h.name
  | .functionDef _ _ h _ => some h.name
  | _ => none

/-- What an assignment gives a value to. -/
def targets : Stmt → List Expr
  | .assign _ ts _ => ts
  | .annotate _ t _ _ _ => [t]
  | _ => []

theorem sizeOf_lt_of_mem_children {s c : Stmt} (h : c ∈ s.children) : sizeOf c < sizeOf s := by
  cases s with
  | classDef e d head body =>
      have hc : c ∈ body := h
      have := List.sizeOf_lt_of_mem hc
      simp only [classDef.sizeOf_spec]
      omega
  | functionDef e d head body =>
      have hc : c ∈ body := h
      have := List.sizeOf_lt_of_mem hc
      simp only [functionDef.sizeOf_spec]
      omega
  | other e blocks =>
      have hc : c ∈ blocks := h
      have := List.sizeOf_lt_of_mem hc
      simp only [other.sizeOf_spec]
      omega
  | assign e ts v => cases h
  | annotate e t type v bare => cases h
  | expression e v => cases h

/-- What holds of a statement as soon as it holds of those in it holds of every statement. -/
theorem induction {motive : Stmt → Prop} (step : ∀ s, (∀ c ∈ s.children, motive c) → motive s) (s : Stmt) : motive s :=
  step s fun c _ => induction step c
termination_by sizeOf s
decreasing_by
  next h => exact sizeOf_lt_of_mem_children h

end Stmt

/-! ## 2. Places -/

/-- At a place of a module stands a statement within those `above`, the innermost first. -/
inductive Stands (tree : Module) : List Nat → List Stmt → Stmt → Prop
  | top {i : Nat} {s : Stmt} (h : tree[i]? = some s) : Stands tree [i] [] s
  | inside {place : List Nat} {above : List Stmt} {p : Stmt} {i : Nat} {s : Stmt} (hp : Stands tree place above p)
      (h : p.children[i]? = some s) : Stands tree (place ++ [i]) (p :: above) s

/-- A name that a statement binds at a place within those `above`. -/
structure Binding where
  place : List Nat
  above : List Stmt
  stmt : Stmt
  name : String

/-- What a module binds for others to find. The targets of an assignment have their places in it. -/
inductive Binds (tree : Module) : Binding → Prop
  | definition {place : List Nat} {above : List Stmt} {s : Stmt} {name : String} (hs : Stands tree place above s)
      (hclasses : ∀ c ∈ above, c.isClass = true) (hname : s.name? = some name) : Binds tree ⟨place, above, s, name⟩
  | target {place : List Nat} {above : List Stmt} {s : Stmt} {k : Nat} {name : String} (hs : Stands tree place above s)
      (hclasses : ∀ c ∈ above, c.isClass = true) (hinside : above ≠ []) (htarget : s.targets[k]? = some (.name name)) :
      Binds tree ⟨place ++ [k], above, s, name⟩

/-! ## 3. The list of bindings -/

/-- The plain names among targets, the first of which has the number `k`. -/
def targetBindings (above : List Stmt) (place : List Nat) (s : Stmt) (k : Nat) : List Expr → List Binding
  | [] => []
  | .name id :: r => ⟨place ++ [k], above, s, id⟩ :: targetBindings above place s (k + 1) r
  | _ :: r => targetBindings above place s (k + 1) r

mutual

/-- What a statement binds at a place within the classes `above`. -/
def Stmt.bindings (above : List Stmt) (place : List Nat) : Stmt → List Binding
  | .classDef e d h body =>
    ⟨place, above, .classDef e d h body, h.name⟩ :: bindingsIn (.classDef e d h body :: above) place 0 body
  | .functionDef e d h body => [⟨place, above, .functionDef e d h body, h.name⟩]
  | .assign e ts v => if above.isEmpty then [] else targetBindings above place (.assign e ts v) 0 ts
  | .annotate e t type v bare =>
    if above.isEmpty then [] else targetBindings above place (.annotate e t type v bare) 0 [t]
  | .expression _ _ => []
  | .other _ _ => []

/-- What statements in a row bind, the first of which has the number `i`. -/
def bindingsIn (above : List Stmt) (place : List Nat) (i : Nat) : List Stmt → List Binding
  | [] => []
  | s :: r => s.bindings above (place ++ [i]) ++ bindingsIn above place (i + 1) r

end

/-- What a module binds. -/
def bindings (tree : Module) : List Binding := bindingsIn [] [] 0 tree

section Lists

variable {above : List Stmt} {place : List Nat} {s : Stmt} {b : Binding}

theorem mem_targetBindings {k : Nat} {ts : List Expr} :
    b ∈ targetBindings above place s k ts ↔
      ∃ i id, ts[i]? = some (.name id) ∧ b = ⟨place ++ [k + i], above, s, id⟩ := by
  fun_induction targetBindings above place s k ts with
  | case1 k => simp
  | case2 k id r ih =>
      rw [List.mem_cons, ih]
      constructor
      · rintro (rfl | ⟨i, id', hi, rfl⟩)
        · exact ⟨0, id, rfl, rfl⟩
        · exact ⟨i + 1, id', hi, by rw [Nat.add_right_comm, Nat.add_assoc]⟩
      · rintro ⟨i, id', hi, rfl⟩
        cases i with
        | zero =>
            cases hi
            exact Or.inl rfl
        | succ i => exact Or.inr ⟨i, id', hi, by rw [Nat.add_right_comm, Nat.add_assoc]⟩
  | case3 k e r he ih =>
      rw [ih]
      constructor
      · rintro ⟨i, id', hi, rfl⟩
        exact ⟨i + 1, id', hi, by rw [Nat.add_right_comm, Nat.add_assoc]⟩
      · rintro ⟨i, id', hi, rfl⟩
        cases i with
        | zero => exact absurd (Option.some.inj hi) (he id')
        | succ i => exact ⟨i, id', hi, by rw [Nat.add_right_comm, Nat.add_assoc]⟩

theorem mem_bindingsIn {i : Nat} {body : List Stmt} :
    b ∈ bindingsIn above place i body ↔
      ∃ (k : Nat) (t : Stmt), body[k]? = some t ∧ b ∈ t.bindings above (place ++ [i + k]) := by
  induction body generalizing i with
  | nil => simp [bindingsIn]
  | cons s body ih =>
      rw [bindingsIn, List.mem_append, ih]
      constructor
      · rintro (h | ⟨k, t, hk, h⟩)
        · exact ⟨0, s, rfl, h⟩
        · exact ⟨k + 1, t, hk, by rwa [Nat.add_right_comm, Nat.add_assoc] at h⟩
      · rintro ⟨k, t, hk, h⟩
        cases k with
        | zero =>
            cases hk
            exact Or.inl h
        | succ k => exact Or.inr ⟨k, t, hk, by rwa [Nat.add_right_comm, Nat.add_assoc]⟩

/-- What a statement binds: its own name, its targets if it stands in a class, and what a class has in it. -/
theorem Stmt.mem_bindings :
    b ∈ s.bindings above place ↔
      (∃ name, s.name? = some name ∧ b = ⟨place, above, s, name⟩) ∨
        (above ≠ [] ∧ ∃ k name, s.targets[k]? = some (.name name) ∧ b = ⟨place ++ [k], above, s, name⟩) ∨
          (s.isClass = true ∧
            ∃ (k : Nat) (t : Stmt), s.children[k]? = some t ∧ b ∈ t.bindings (s :: above) (place ++ [k])) := by
  cases s with
  | classDef e d h body => simp [Stmt.bindings, Stmt.name?, Stmt.targets, Stmt.isClass, Stmt.children, mem_bindingsIn]
  | functionDef e d h body => simp [Stmt.bindings, Stmt.name?, Stmt.targets, Stmt.isClass]
  | assign e ts v =>
      by_cases ha : above = [] <;>
        simp [Stmt.bindings, Stmt.name?, Stmt.targets, Stmt.isClass, mem_targetBindings, ha]
  | annotate e t type v bare =>
      by_cases ha : above = [] <;>
        simp [Stmt.bindings, Stmt.name?, Stmt.targets, Stmt.isClass, mem_targetBindings, ha]
  | expression e v => simp [Stmt.bindings, Stmt.name?, Stmt.targets, Stmt.isClass]
  | other e blocks => simp [Stmt.bindings, Stmt.name?, Stmt.targets, Stmt.isClass]

end Lists

/-! ## 4. The list has all bindings and no others -/

section Members

variable {tree : Module} {above : List Stmt} {place : List Nat} {s : Stmt} {b : Binding}

/-- A binding of a statement that stands within classes only is one of the module. -/
theorem binds_of_mem (hs : Stands tree place above s) (hclasses : ∀ c ∈ above, c.isClass = true)
    (hb : b ∈ s.bindings above place) : Binds tree b := by
  induction s using Stmt.induction generalizing above place with
  | step s ih =>
      rcases Stmt.mem_bindings.mp hb with ⟨name, hname, rfl⟩ | ⟨hinside, k, name, htarget, rfl⟩ | ⟨hclass, k, t, ht, hb⟩
      · exact Binds.definition hs hclasses hname
      · exact Binds.target hs hclasses hinside htarget
      · have hmem : t ∈ s.children := List.mem_of_getElem? ht
        have habove : ∀ c ∈ s :: above, c.isClass = true := by
          intro c hc
          rcases List.mem_cons.mp hc with rfl | hc
          · exact hclass
          · exact hclasses c hc
        exact ih t hmem (Stands.inside hs ht) habove hb

/-- A binding of a statement that stands within classes only is in the list. -/
theorem mem_bindings_of_stands (hs : Stands tree place above s) (hclasses : ∀ c ∈ above, c.isClass = true)
    (hb : b ∈ s.bindings above place) : b ∈ bindings tree := by
  induction hs with
  | top h => exact mem_bindingsIn.mpr ⟨_, _, h, by simpa using hb⟩
  | @inside place above p i s hp h ih =>
      have hclass : p.isClass = true := hclasses p List.mem_cons_self
      refine ih (fun c hc => hclasses c (List.mem_cons_of_mem p hc)) ?_
      exact Stmt.mem_bindings.mpr (Or.inr (Or.inr ⟨hclass, i, s, h, hb⟩))

/-- **The list has the bindings of a module and nothing else.** -/
theorem mem_bindings : b ∈ bindings tree ↔ Binds tree b := by
  constructor
  · intro hb
    obtain ⟨k, t, ht, hb⟩ := mem_bindingsIn.mp hb
    rw [Nat.zero_add] at hb
    exact binds_of_mem (Stands.top ht) (by simp) hb
  · intro hb
    cases hb with
    | definition hs hclasses hname =>
        exact mem_bindings_of_stands hs hclasses (Stmt.mem_bindings.mpr (Or.inl ⟨_, hname, rfl⟩))
    | target hs hclasses hinside htarget =>
        exact mem_bindings_of_stands hs hclasses
          (Stmt.mem_bindings.mpr (Or.inr (Or.inl ⟨hinside, _, _, htarget, rfl⟩)))

end Members

/-! ## 5. The list is in the order of the source -/

section Order

variable {above : List Stmt} {place : List Nat} {b : Binding}

/-- A place comes before those in it. -/
theorem lt_of_inside {p q : List Nat} {k : Nat} (h : p ++ [k] <+: q) : p < q := by
  obtain ⟨r, rfl⟩ := h
  have h : p ++ [] < p ++ k :: r := List.append_left_lt (List.nil_lt_cons k r)
  simpa using h

/-- Places that part from each other are in the order of the numbers with which they do. -/
theorem lt_of_parting {p a b : List Nat} {i k : Nat} (hik : i < k) (ha : p ++ [i] <+: a) (hb : p ++ [k] <+: b) :
    a < b := by
  obtain ⟨r, rfl⟩ := ha
  obtain ⟨t, rfl⟩ := hb
  rw [List.append_assoc, List.append_assoc]
  exact List.append_left_lt (List.cons_lt_cons_iff.mpr (Or.inl hik))

/-- What a statement binds has its place in the statement. -/
theorem Stmt.prefix_of_mem_bindings {s : Stmt} (hb : b ∈ s.bindings above place) : place <+: b.place := by
  induction s using Stmt.induction generalizing above place with
  | step s ih =>
      rcases Stmt.mem_bindings.mp hb with ⟨_, -, rfl⟩ | ⟨-, k, _, -, rfl⟩ | ⟨-, k, t, ht, hb⟩
      · exact List.prefix_rfl
      · exact List.prefix_append place [k]
      · have hin : place ++ [k] <+: b.place := ih t (List.mem_of_getElem? ht) hb
        exact (List.prefix_append place [k]).trans hin

/-- What statements in a row bind has its place in one of them. -/
theorem prefix_of_mem_bindingsIn {i : Nat} {body : List Stmt} (hb : b ∈ bindingsIn above place i body) :
    ∃ k, i ≤ k ∧ place ++ [k] <+: b.place := by
  obtain ⟨k, t, -, hb⟩ := mem_bindingsIn.mp hb
  exact ⟨i + k, Nat.le_add_right i k, Stmt.prefix_of_mem_bindings hb⟩

theorem pairwise_targetBindings {s : Stmt} {k : Nat} {ts : List Expr} :
    (targetBindings above place s k ts).Pairwise (·.place < ·.place) := by
  fun_induction targetBindings above place s k ts with
  | case1 k => exact List.Pairwise.nil
  | case2 k id r ih =>
      refine List.Pairwise.cons (fun b hb => ?_) ih
      obtain ⟨i, _, -, rfl⟩ := mem_targetBindings.mp hb
      exact lt_of_parting (by omega) List.prefix_rfl List.prefix_rfl
  | case3 k e r he ih => exact ih

theorem pairwise_bindingsIn {i : Nat} {body : List Stmt}
    (hbody : ∀ t ∈ body, ∀ at', (t.bindings above at').Pairwise (·.place < ·.place)) :
    (bindingsIn above place i body).Pairwise (·.place < ·.place) := by
  induction body generalizing i with
  | nil => simp [bindingsIn]
  | cons s body ih =>
      rw [bindingsIn, List.pairwise_append]
      refine ⟨hbody s List.mem_cons_self _, ih fun t ht => hbody t (List.mem_cons_of_mem s ht), ?_⟩
      intro a ha b hb
      obtain ⟨k, hk, hb⟩ := prefix_of_mem_bindingsIn hb
      exact lt_of_parting hk (Stmt.prefix_of_mem_bindings ha) hb

theorem Stmt.pairwise_bindings (s : Stmt) : (s.bindings above place).Pairwise (·.place < ·.place) := by
  induction s using Stmt.induction generalizing above place with
  | step s ih =>
      cases s with
      | classDef e d h body =>
          rw [Stmt.bindings]
          refine List.Pairwise.cons (fun b hb => ?_) (pairwise_bindingsIn fun t ht _ => ih t ht)
          obtain ⟨k, -, hb⟩ := prefix_of_mem_bindingsIn hb
          exact lt_of_inside hb
      | functionDef e d h body => simp [Stmt.bindings]
      | assign e ts v =>
          rw [Stmt.bindings]
          split
          · exact List.Pairwise.nil
          · exact pairwise_targetBindings
      | annotate e t type v bare =>
          rw [Stmt.bindings]
          split
          · exact List.Pairwise.nil
          · exact pairwise_targetBindings
      | expression e v => simp [Stmt.bindings]
      | other e blocks => simp [Stmt.bindings]

/-- **The list is in the order of the source**, so that it has no binding twice. -/
theorem pairwise_bindings (tree : Module) : (bindings tree).Pairwise (·.place < ·.place) :=
  pairwise_bindingsIn fun t _ _ => t.pairwise_bindings

end Order

end FragmentSearch.Source
