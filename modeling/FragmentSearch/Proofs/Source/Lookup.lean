import FragmentSearch.Proofs.Index.Attachment
import FragmentSearch.Proofs.Source.Content
import FragmentSearch.Proofs.Source.Names
import Mathlib.Data.List.Flatten
import Mathlib.Data.List.Nodup
import Mathlib.Data.List.Perm.Basic

/-!
# Finding fragments by their ids

The id of a fragment is the path of its binding, joined by points. Two bindings of one path have one id, and then only
the last of them is found by it.

* `nodup_paths_iff` -- no path occurs twice in a module just when none of its bodies binds a name twice;
* `dotted_inj` -- a path can be read off its id, since no name holds a point;
* `place_iff`, `places_iff` -- which fragments are found in an index by their ids;
* `found_exact` -- every fragment of a source is found by its id just when no body binds a name twice;
* `found_exact_box`, `setter_hides_getter` -- a source where all are found, and one where a getter is not.
-/

namespace FragmentSearch.Source

/-! ## 1. Paths -/

/-- The plain names among targets. -/
def plainNames (targets : List Expr) : List String :=
  targets.filterMap fun
    | .name id => some id
    | _ => none

namespace Stmt

/-- The names that a statement binds where it stands. -/
def boundNames (inClass : Bool) (s : Stmt) : List String :=
  s.name?.toList ++ if inClass then plainNames s.targets else []

end Stmt

/-- No body binds a name twice: not the module, and none of the classes that are found from it. -/
inductive BindsOnce : Bool → List Stmt → Prop
  | intro {inClass : Bool} {body : List Stmt} (hnames : (body.flatMap (Stmt.boundNames inClass)).Nodup)
      (hinside : ∀ s ∈ body, s.isClass = true → BindsOnce true s.children) : BindsOnce inClass body

/-- The names of the classes around a statement, the outermost first. -/
def classPath (above : List Stmt) : List String := (above.map fun c => c.name?.getD "").reverse

/-- The names that lead to a binding. -/
def Binding.path (b : Binding) : List String := classPath b.above ++ [b.name]

mutual

/-- The paths of what a statement binds, from where it stands. -/
def Stmt.paths (inClass : Bool) : Stmt → List (List String)
  | .classDef _ _ h body => [h.name] :: (pathsIn true body).map (h.name :: ·)
  | .functionDef _ _ h _ => [[h.name]]
  | .assign _ ts _ => if inClass then (plainNames ts).map ([·]) else []
  | .annotate _ t _ _ _ => if inClass then (plainNames [t]).map ([·]) else []
  | .expression _ _ => []
  | .other _ _ => []

/-- The paths of what statements in a row bind. -/
def pathsIn (inClass : Bool) : List Stmt → List (List String)
  | [] => []
  | s :: r => s.paths inClass ++ pathsIn inClass r

end

section Paths

variable {inClass : Bool} {body : List Stmt} {s : Stmt}

theorem pathsIn_eq (inClass : Bool) (body : List Stmt) : pathsIn inClass body = body.flatMap (Stmt.paths inClass) := by
  induction body with
  | nil => rfl
  | cons s body ih => rw [pathsIn, ih, List.flatMap_cons]

/-- The paths of what a class has in it. -/
def Stmt.innerPaths (s : Stmt) : List (List String) :=
  if s.isClass then (pathsIn true s.children).map (s.name?.getD "" :: ·) else []

/-- A statement binds its names where it stands, and a class what it has in it. -/
theorem Stmt.paths_eq (s : Stmt) : s.paths inClass = (s.boundNames inClass).map ([·]) ++ s.innerPaths := by
  cases s with
  | classDef e d h body => cases inClass <;> rfl
  | functionDef e d h body => cases inClass <;> rfl
  | assign e ts v => cases inClass <;> simp [Stmt.paths, boundNames, innerPaths, name?, isClass, targets]
  | annotate e t type v bare => cases inClass <;> simp [Stmt.paths, boundNames, innerPaths, name?, isClass, targets]
  | expression e v => cases inClass <;> rfl
  | other e blocks => cases inClass <;> rfl

theorem Stmt.mem_innerPaths {p : List String} (h : p ∈ s.innerPaths) :
    s.isClass = true ∧ ∃ q ∈ pathsIn true s.children, p = s.name?.getD "" :: q := by
  unfold innerPaths at h
  split at h
  · next hclass =>
      obtain ⟨q, hq, rfl⟩ := List.mem_map.mp h
      exact ⟨hclass, q, hq, rfl⟩
  · cases h

theorem ne_nil_of_mem_paths {p : List String} (h : p ∈ pathsIn inClass body) : p ≠ [] := by
  rw [pathsIn_eq] at h
  obtain ⟨s, -, hp⟩ := List.mem_flatMap.mp h
  rw [s.paths_eq] at hp
  rcases List.mem_append.mp hp with hp | hp
  · obtain ⟨n, -, rfl⟩ := List.mem_map.mp hp
    exact List.cons_ne_nil _ _
  · obtain ⟨-, q, -, rfl⟩ := Stmt.mem_innerPaths hp
    exact List.cons_ne_nil _ _

/-- The name of a class is bound where the class stands. -/
theorem Stmt.name_mem_boundNames (h : s.isClass = true) : s.name?.getD "" ∈ s.boundNames inClass := by
  cases s with
  | classDef e d head body => exact List.mem_cons_self
  | _ => cases h

/-- Different names lead to different things inside. -/
theorem Stmt.disjoint_innerPaths {t : Stmt} (h : (s.boundNames inClass).Disjoint (t.boundNames inClass)) :
    s.innerPaths.Disjoint t.innerPaths := by
  intro p hs ht
  obtain ⟨hclass, q, -, rfl⟩ := mem_innerPaths hs
  obtain ⟨hclass', q', -, hp⟩ := mem_innerPaths ht
  have hname : s.name?.getD "" = t.name?.getD "" := (List.cons.inj hp).1
  exact h (name_mem_boundNames hclass) (hname ▸ name_mem_boundNames hclass')

/-- A body has no path twice just when it binds no name twice and no class in it has a path twice. -/
theorem nodup_pathsIn_iff : (pathsIn inClass body).Nodup ↔
    (body.flatMap (Stmt.boundNames inClass)).Nodup ∧
      ∀ s ∈ body, s.isClass = true → (pathsIn true s.children).Nodup := by
  have hperm : (pathsIn inClass body).Perm
      ((body.flatMap (Stmt.boundNames inClass)).map ([·]) ++ body.flatMap Stmt.innerPaths) := by
    rw [pathsIn_eq, List.map_flatMap, List.flatMap_congr fun s _ => s.paths_eq]
    exact (List.flatMap_append_perm body _ _).symm
  have hsingle : Function.Injective fun n : String => [n] := fun n m h => List.singleton_inj.mp h
  have hapart : ∀ p ∈ (body.flatMap (Stmt.boundNames inClass)).map ([·]),
      ∀ q ∈ body.flatMap Stmt.innerPaths, p ≠ q := by
    rintro p hp q hq rfl
    obtain ⟨n, -, rfl⟩ := List.mem_map.mp hp
    obtain ⟨s, -, hs⟩ := List.mem_flatMap.mp hq
    obtain ⟨-, q, hq, hn⟩ := Stmt.mem_innerPaths hs
    exact ne_nil_of_mem_paths hq (List.cons.inj hn).2.symm
  have hinner (hnames : (body.flatMap (Stmt.boundNames inClass)).Nodup) :
      (body.flatMap Stmt.innerPaths).Nodup ↔ ∀ s ∈ body, s.isClass = true → (pathsIn true s.children).Nodup := by
    have hpairs : body.Pairwise (Function.onFun List.Disjoint Stmt.innerPaths) :=
      (List.nodup_flatMap.mp hnames).2.imp fun h => Stmt.disjoint_innerPaths h
    have heach (s : Stmt) : s.innerPaths.Nodup ↔ (s.isClass = true → (pathsIn true s.children).Nodup) := by
      unfold Stmt.innerPaths
      split
      · next hclass =>
          rw [List.nodup_map_iff fun p q h => (List.cons.inj h).2]
          exact ⟨fun h _ => h, fun h => h hclass⟩
      · next hclass => exact ⟨fun _ h => absurd h hclass, fun _ => List.nodup_nil⟩
    rw [List.nodup_flatMap, and_iff_left hpairs]
    exact forall₂_congr fun s _ => heach s
  rw [hperm.nodup_iff, List.nodup_append, List.nodup_map_iff hsingle]
  constructor
  · rintro ⟨hnames, hin, -⟩
    exact ⟨hnames, (hinner hnames).mp hin⟩
  · rintro ⟨hnames, hin⟩
    exact ⟨hnames, (hinner hnames).mpr hin, hapart⟩

/-- **A module has no path twice** just when none of its bodies binds a name twice. -/
theorem nodup_paths_iff : (pathsIn inClass body).Nodup ↔ BindsOnce inClass body := by
  constructor
  · intro h
    have hall : ∀ s : Stmt, (pathsIn true s.children).Nodup → BindsOnce true s.children := by
      intro s
      induction s using Stmt.induction with
      | step s ih =>
          intro h
          obtain ⟨hnames, hin⟩ := nodup_pathsIn_iff.mp h
          exact .intro hnames fun t ht hclass => ih t ht (hin t ht hclass)
    obtain ⟨hnames, hin⟩ := nodup_pathsIn_iff.mp h
    exact .intro hnames fun s hs hclass => hall s (hin s hs hclass)
  · intro h
    induction h with
    | intro hnames _ ih => exact nodup_pathsIn_iff.mpr ⟨hnames, ih⟩

instance : Decidable (BindsOnce inClass body) := decidable_of_iff _ nodup_paths_iff

end Paths

/-! ## 2. Paths of bindings -/

section Bindings

variable {above : List Stmt} {place : List Nat}

theorem path_targetBindings (s : Stmt) (k : Nat) (ts : List Expr) :
    (targetBindings above place s k ts).map Binding.path = (plainNames ts).map fun n => classPath above ++ [n] := by
  fun_induction targetBindings above place s k ts with
  | case1 k => rfl
  | case2 k id r ih =>
      rw [List.map_cons, ih]
      rfl
  | case3 k e r he ih =>
      rw [ih]
      cases e with
      | name id => exact absurd rfl (he id)
      | _ => rfl

theorem path_bindingsIn_of_each {i : Nat} {body : List Stmt}
    (hbody : ∀ t ∈ body, ∀ at', (t.bindings above at').map Binding.path =
      (t.paths (!above.isEmpty)).map (classPath above ++ ·)) :
    (bindingsIn above place i body).map Binding.path = (pathsIn (!above.isEmpty) body).map (classPath above ++ ·) := by
  induction body generalizing i with
  | nil => rfl
  | cons s body ih =>
      rw [bindingsIn, List.map_append, hbody s List.mem_cons_self, ih fun t ht => hbody t (List.mem_cons_of_mem s ht),
        pathsIn, List.map_append]

/-- The paths of the bindings of a statement. -/
theorem Stmt.path_bindings (s : Stmt) :
    (s.bindings above place).map Binding.path = (s.paths (!above.isEmpty)).map (classPath above ++ ·) := by
  induction s using Stmt.induction generalizing above place with
  | step s ih =>
      cases s with
      | classDef e d h body =>
          have hin := @path_bindingsIn_of_each (.classDef e d h body :: above) place 0 body fun t ht _ => ih t ht
          have hpath : classPath (.classDef e d h body :: above) = classPath above ++ [h.name] := List.reverse_cons
          rw [hpath] at hin
          rw [Stmt.bindings, List.map_cons, hin, Stmt.paths, List.map_cons, List.map_map]
          refine congrArg _ (List.map_congr_left fun p _ => ?_)
          rw [Function.comp_apply, List.append_assoc]
          rfl
      | functionDef e d h body => rfl
      | assign e ts v =>
          cases above with
          | nil => rfl
          | cons c above =>
              rw [Stmt.bindings, if_neg (by exact Bool.false_ne_true), path_targetBindings, Stmt.paths,
                if_pos (by exact rfl), List.map_map]
              rfl
      | annotate e t type v bare =>
          cases above with
          | nil => rfl
          | cons c above =>
              rw [Stmt.bindings, if_neg (by exact Bool.false_ne_true), path_targetBindings, Stmt.paths,
                if_pos (by exact rfl), List.map_map]
              rfl
      | expression e v => rfl
      | other e blocks => rfl

/-- **The paths of a module** are those of its bindings. -/
theorem path_bindings (tree : Module) : (bindings tree).map Binding.path = pathsIn false tree := by
  have h := @path_bindingsIn_of_each [] [] 0 tree fun t _ _ => t.path_bindings
  rw [bindings, h]
  exact List.map_id _

end Bindings

/-! ## 3. Ids -/

/-- Names after a text, each behind a point. -/
def dotted (start : String) (names : List String) : String := names.foldl (fun s n => s ++ "." ++ n) start

section Ids

variable {start : String} {ns ms : List String}

theorem toList_dotted (start : String) (ns : List String) :
    (dotted start ns).toList = start.toList ++ ns.flatMap fun n => '.' :: n.toList := by
  induction ns generalizing start with
  | nil => exact (List.append_nil _).symm
  | cons n ns ih =>
      have hstep : dotted start (n :: ns) = dotted (start ++ "." ++ n) ns := rfl
      rw [hstep, ih, String.toList_append, String.toList_append, List.flatMap_cons, List.append_assoc,
        List.append_assoc]
      rfl

/-- A name ends where the next one begins. -/
theorem takeWhile_plain {n : String} (hn : IsPlain n) (ns : List String) :
    (n.toList ++ ns.flatMap fun n => '.' :: n.toList).takeWhile (· ≠ '.') = n.toList := by
  have hall : ∀ c ∈ n.toList, decide (c ≠ '.') = true := fun c hc => decide_eq_true fun hpoint => hn (hpoint ▸ hc)
  rw [List.takeWhile_append_of_pos hall]
  cases ns with
  | nil => exact List.append_nil _
  | cons m ns => exact List.append_nil _

/-- **A path can be read off its id**, since no name holds a point. -/
theorem dotted_inj (hns : ∀ n ∈ ns, IsPlain n) (hms : ∀ m ∈ ms, IsPlain m) :
    dotted start ns = dotted start ms ↔ ns = ms := by
  refine ⟨fun h => ?_, congrArg _⟩
  have hchars : (ns.flatMap fun n => '.' :: n.toList) = ms.flatMap fun m => '.' :: m.toList := by
    have h' := congrArg String.toList h
    rw [toList_dotted, toList_dotted] at h'
    exact List.append_cancel_left h'
  clear h
  induction ns generalizing ms with
  | nil =>
      cases ms with
      | nil => rfl
      | cons m ms => cases hchars
  | cons n ns ih =>
      cases ms with
      | nil => cases hchars
      | cons m ms =>
          rw [List.flatMap_cons, List.flatMap_cons] at hchars
          rw [List.cons_append, List.cons_append] at hchars
          have hrest := (List.cons.inj hchars).2
          have hname : n = m := by
            have htake := congrArg (List.takeWhile (· ≠ '.')) hrest
            rw [takeWhile_plain (hns n List.mem_cons_self), takeWhile_plain (hms m List.mem_cons_self)] at htake
            exact String.toList_inj.mp htake
          subst hname
          rw [ih (fun n hn => hns n (List.mem_cons_of_mem _ hn)) (fun m hm => hms m (List.mem_cons_of_mem _ hm))
            (List.append_cancel_left hrest)]

theorem enclosingId_eq (package : String) (above : List Stmt) :
    enclosingId package above = dotted package (classPath above) := by
  induction above with
  | nil => rfl
  | cons c above ih =>
      have hpath : classPath (c :: above) = classPath above ++ [c.name?.getD ""] := List.reverse_cons
      rw [enclosingId, ih, hpath, dotted, dotted, List.foldl_append]
      rfl

/-- The id of a fragment is the path of its binding. -/
theorem id_of_fragmentAt {o : Origin} {b : Binding} {f : Fragment} (h : o.fragmentAt b = .ok f) :
    f.id = dotted o.package b.path := by
  obtain ⟨text, rfl⟩ := exists_of_fragmentAt h
  show enclosingId o.package b.above ++ "." ++ b.name = _
  rw [enclosingId_eq, Binding.path, dotted, dotted, List.foldl_append]
  rfl

end Ids

/-! ## 4. What is found by an id -/

section Found

variable {resolves : Bool} {fs : List Fragment} {f : Fragment} {i : Nat}

/-- **What is found by an id** is the last fragment that has it. -/
theorem place_iff (hf : fs[i]? = some f) :
    Table.get? f.id (Index.ofFragments resolves fs).place = some i ↔
      ∀ k g, i < k → fs[k]? = some g → g.id ≠ f.id := by
  rw [Index.get?_place]
  induction fs using List.reverseRecOn with
  | nil => cases hf
  | append_singleton fs g ih =>
      rw [List.zipIdx_append, List.filter_append, List.zipIdx_singleton, Nat.zero_add]
      by_cases hid : g.id = f.id
      · have hlast : ([(g, fs.length)].filter fun p => decide (p.1.id = f.id)) = [(g, fs.length)] :=
          List.filter_cons_of_pos (decide_eq_true hid)
        rw [hlast, List.getLast?_concat, Option.map_some, Option.some_inj]
        constructor
        · rintro rfl k g' hk hg'
          obtain ⟨hlt, -⟩ := List.getElem?_eq_some_iff.mp hg'
          rw [List.length_append, List.length_singleton] at hlt
          omega
        · intro h
          obtain ⟨hlt, -⟩ := List.getElem?_eq_some_iff.mp hf
          rw [List.length_append, List.length_singleton] at hlt
          by_contra hne
          exact h fs.length g (by omega) List.getElem?_concat_length hid
      · have hlt : i < fs.length := by
          obtain ⟨hlt, hget⟩ := List.getElem?_eq_some_iff.mp hf
          rw [List.length_append, List.length_singleton] at hlt
          by_contra hnot
          have hi : i = fs.length := by omega
          subst hi
          rw [List.getElem_concat_length rfl] at hget
          exact hid (congrArg Fragment.id hget)
        rw [List.getElem?_append_left hlt] at hf
        have hlast : ([(g, fs.length)].filter fun p => decide (p.1.id = f.id)) = [] :=
          List.filter_cons_of_neg (by rw [decide_eq_false hid]; exact Bool.false_ne_true)
        rw [hlast, List.append_nil, ih hf]
        constructor
        · intro h k g' hk hg'
          rcases Nat.lt_trichotomy k fs.length with hkl | rfl | hkl
          · exact h k g' hk ((List.getElem?_append_left hkl).symm.trans hg')
          · cases List.getElem?_concat_length.symm.trans hg'
            exact hid
          · obtain ⟨hbound, -⟩ := List.getElem?_eq_some_iff.mp hg'
            rw [List.length_append, List.length_singleton] at hbound
            omega
        · intro h k g' hk hg'
          obtain ⟨hkl, -⟩ := List.getElem?_eq_some_iff.mp hg'
          exact h k g' hk ((List.getElem?_append_left hkl).trans hg')

/-- Every fragment is found by its id just when no id occurs twice. -/
theorem places_iff : (∀ i f, fs[i]? = some f → Table.get? f.id (Index.ofFragments resolves fs).place = some i) ↔
    (fs.map (·.id)).Nodup := by
  unfold List.Nodup
  rw [List.pairwise_map, List.pairwise_iff_getElem]
  constructor
  · intro h i k hi hk hik hid
    exact (place_iff (List.getElem?_eq_getElem hi)).mp (h i _ (List.getElem?_eq_getElem hi)) k _ hik
      (List.getElem?_eq_getElem hk) hid.symm
  · intro h i f hf
    refine (place_iff hf).mpr fun k g hik hg hid => ?_
    obtain ⟨hi, rfl⟩ := List.getElem?_eq_some_iff.mp hf
    obtain ⟨hk, rfl⟩ := List.getElem?_eq_some_iff.mp hg
    exact h i k hi hk hik hid.symm

variable (resolves) in
/-- By the id of a fragment, some fragment is found that has it. -/
theorem exists_place (hf : fs[i]? = some f) :
    ∃ k g, fs[k]? = some g ∧ g.id = f.id ∧ Table.get? f.id (Index.ofFragments resolves fs).place = some k := by
  cases hk : Table.get? f.id (Index.ofFragments resolves fs).place with
  | none =>
      rw [Index.get?_place, Option.map_eq_none_iff, List.getLast?_eq_none_iff, List.filter_eq_nil_iff] at hk
      exact absurd (decide_eq_true rfl) (hk (f, i) (List.mem_zipIdx_iff_getElem?.mpr hf))
  | some k =>
      obtain ⟨g, hg, hid⟩ := Index.exists_at_place hk
      exact ⟨k, g, hg, hid, rfl⟩

end Found

/-! ## 5. The fragments of a module -/

section Modules

variable {o : Origin} {tree : Module} {fs : List Fragment} {resolves : Bool}

theorem ids_eq (h : o.fragmentsOfAll o.package false tree = .ok fs) :
    List.Forall₂ (fun b f => f.id = dotted o.package b.path) (bindings tree) fs := by
  rw [fragmentsOfAll_eq] at h
  exact (forall₂_of_mapM_ok h).imp fun b f hf => id_of_fragmentAt hf

/-- The names on the way to a binding are names of bindings. -/
theorem Binds.plain_path (hnames : ∀ b ∈ bindings tree, IsPlain b.name) {b : Binding} (hb : Binds tree b) :
    ∀ n ∈ b.path, IsPlain n := by
  generalize habove : b.above = above
  induction above generalizing b with
  | nil =>
      intro n hn
      rw [Binding.path, habove] at hn
      cases List.mem_singleton.mp hn
      exact hnames b (mem_bindings.mpr hb)
  | cons c above ih =>
      obtain ⟨e, he, hname, -, -, hae, -⟩ := hb.enclosing habove
      cases habove.symm.trans hae
      have hpath : b.path = e.path ++ [b.name] := by
        have hclass : classPath (e.stmt :: e.above) = e.path := by
          rw [Binding.path, classPath, List.map_cons, List.reverse_cons, hname]
          rfl
        rw [Binding.path, hae, hclass]
      intro n hn
      rw [hpath] at hn
      rcases List.mem_append.mp hn with hn | hn
      · exact ih he rfl n hn
      · cases List.mem_singleton.mp hn
        exact hnames b (mem_bindings.mpr hb)

/-- Two bindings have one id just when they have one path. -/
theorem id_eq_iff (hnames : ∀ b ∈ bindings tree, IsPlain b.name) {b c : Binding} (hb : b ∈ bindings tree)
    (hc : c ∈ bindings tree) : dotted o.package b.path = dotted o.package c.path ↔ b.path = c.path :=
  dotted_inj ((mem_bindings.mp hb).plain_path hnames) ((mem_bindings.mp hc).plain_path hnames)

theorem nodup_ids_iff (h : o.fragmentsOfAll o.package false tree = .ok fs)
    (hnames : ∀ b ∈ bindings tree, IsPlain b.name) : (fs.map (·.id)).Nodup ↔ BindsOnce false tree := by
  have hids : fs.map (·.id) = (bindings tree).map fun b => dotted o.package b.path := by
    have heach := List.forall₂_map_left_iff.mpr (List.forall₂_map_right_iff.mpr (ids_eq h).flip)
    rwa [List.forall₂_eq_eq_eq] at heach
  rw [hids, ← nodup_paths_iff, ← path_bindings]
  unfold List.Nodup
  rw [List.pairwise_map, List.pairwise_map]
  refine List.Pairwise.iff_of_mem fun {b c} hb hc => ?_
  exact not_congr (id_eq_iff hnames hb hc)

/-- At the place stands the last binding of the path. -/
def IsLastOf (bs : List Binding) (path : List String) (k : Nat) : Prop :=
  (∃ c, bs[k]? = some c ∧ c.path = path) ∧ ∀ l d, k < l → bs[l]? = some d → d.path ≠ path

variable (resolves) in
/-- What is found by the id of a binding is the fragment of the last binding that has its path. -/
theorem isLastOf_place (h : o.fragmentsOfAll o.package false tree = .ok fs)
    (hnames : ∀ b ∈ bindings tree, IsPlain b.name) {i : Nat} {b : Binding} (hb : (bindings tree)[i]? = some b) :
    ∃ f k, fs[i]? = some f ∧ IsLastOf (bindings tree) b.path k ∧
      Table.get? f.id (Index.ofFragments resolves fs).place = some k := by
  have heach := ids_eq h
  obtain ⟨f, hf, hid⟩ := exists_getElem?_of_forall₂ heach hb
  obtain ⟨k, g, hg, hsame, hk⟩ := exists_place resolves hf
  obtain ⟨c, hc, hcid⟩ := exists_getElem?_of_forall₂ heach.flip hg
  have hlast := (place_iff hg).mp (hsame ▸ hk)
  refine ⟨f, k, hf, ⟨⟨c, hc, ?_⟩, fun l d hkl hd hpath => ?_⟩, hk⟩
  · exact (id_eq_iff hnames (List.mem_of_getElem? hc) (List.mem_of_getElem? hb)).mp (hcid.symm.trans (hsame.trans hid))
  · obtain ⟨g', hg', hid'⟩ := exists_getElem?_of_forall₂ heach hd
    have hsame' : g'.id = g.id := by rw [hid', hsame, hid, hpath]
    exact hlast l g' hkl hg' hsame'

/-- **Which fragments of a source are found by their ids.** No id occurs twice, and every fragment is found by its own,
just when no body binds a name twice. If one does, the id of a binding finds the fragment of the last binding that has
its path. -/
theorem found_exact {named : List Char → Option Nat} {source package file : String} {fs : List Fragment}
    (h : fragments named source package file = .ok fs) (resolves : Bool) :
    ∃ tree, Module.ofSource? named source = some tree ∧
      ((fs.map (·.id)).Nodup ↔ BindsOnce false tree) ∧
      ((∀ i f, fs[i]? = some f → Table.get? f.id (Index.ofFragments resolves fs).place = some i) ↔
        BindsOnce false tree) ∧
      ∀ (i : Nat) (b : Binding), (bindings tree)[i]? = some b → ∃ (f : Fragment) (k : Nat),
        fs[i]? = some f ∧ f.id = dotted package b.path ∧ IsLastOf (bindings tree) b.path k ∧
        Table.get? f.id (Index.ofFragments resolves fs).place = some k ∧
        (Index.ofFragments resolves fs).get? f.id = fs[k]? := by
  obtain ⟨tree, htree, hfs⟩ := exists_of_fragments h
  have hnames : ∀ b ∈ bindings tree, IsPlain b.name := plain_ofSource? htree
  have hnodup : (fs.map (·.id)).Nodup ↔ BindsOnce false tree := nodup_ids_iff hfs hnames
  refine ⟨tree, htree, hnodup, places_iff.trans hnodup, fun i b hb => ?_⟩
  obtain ⟨f, k, hf, hlast, hk⟩ := isLastOf_place resolves hfs hnames hb
  obtain ⟨f', hf', hid⟩ := exists_getElem?_of_forall₂ (ids_eq hfs) hb
  cases hf.symm.trans hf'
  refine ⟨f, k, hf, hid, hlast, hk, ?_⟩
  rw [Index.get?, hk, Option.bind_some, Index.fragments_ofFragments]

/-- A class with an attribute and a method. -/
theorem found_exact_box :
    let source := "class Box:\n    size = 0\n\n    def grow(self): pass\n"
    ∃ fs, fragments (fun _ => none) source "m" "m.py" = .ok fs ∧
      fs.map (·.id) = ["m.Box", "m.Box.size", "m.Box.grow"] ∧
      ∀ i f, fs[i]? = some f → Table.get? f.id (Index.ofFragments false fs).place = some i := by
  intro source
  have hread : (fragments (fun _ => none) source "m" "m.py").toOption.map (·.map (·.id)) =
      some ["m.Box", "m.Box.size", "m.Box.grow"] := by
    decide +kernel
  cases hfs : fragments (fun _ => none) source "m" "m.py" with
  | error e =>
      rw [hfs] at hread
      cases hread
  | ok fs =>
      rw [hfs] at hread
      have hids : fs.map (·.id) = ["m.Box", "m.Box.size", "m.Box.grow"] := Option.some.inj hread
      obtain ⟨tree, -, hnodup, hfound, -⟩ := found_exact hfs false
      refine ⟨fs, rfl, hids, hfound.mpr (hnodup.mp ?_)⟩
      rw [hids]
      decide

/-- A getter and a setter have one id, and only the setter is found by it. -/
theorem setter_hides_getter :
    let source := "class Box:\n    @property\n    def size(self):\n        return self.n\n\n    @size.setter\n" ++
      "    def size(self, n):\n        self.n = n\n"
    ∃ c f g, fragments (fun _ => none) source "m" "<string>" = .ok [c, f, g] ∧
      f.id = "m.Box.size" ∧ f.startLine = 2 ∧ g.id = "m.Box.size" ∧ g.startLine = 6 ∧
      (Index.ofFragments false [c, f, g]).get? f.id = some g := by
  intro source
  have hread : (fragments (fun _ => none) source "m" "<string>").toOption.map
      (·.map fun f => (f.id, f.startLine)) = some [("m.Box", 1), ("m.Box.size", 2), ("m.Box.size", 6)] := by
    decide +kernel
  cases hfs : fragments (fun _ => none) source "m" "<string>" with
  | error e =>
      rw [hfs] at hread
      cases hread
  | ok fs =>
      rw [hfs] at hread
      have hfields := Option.some.inj hread
      obtain ⟨c, fs, rfl, -, hfields⟩ := List.map_eq_cons_iff.mp hfields
      obtain ⟨f, fs, rfl, hf, hfields⟩ := List.map_eq_cons_iff.mp hfields
      obtain ⟨g, rfl, hg⟩ := List.map_eq_singleton_iff.mp hfields
      obtain ⟨hfid, hfstart⟩ := Prod.mk.inj hf
      obtain ⟨hgid, hgstart⟩ := Prod.mk.inj hg
      refine ⟨c, f, g, rfl, hfid, hfstart, hgid, hgstart, ?_⟩
      rw [Index.get?_ofFragments, hfid, ← hgid]
      have hlast : [g].filter (fun h => decide (h.id = g.id)) = [g] := List.filter_cons_of_pos (decide_eq_true rfl)
      have hsplit : [c, f, g] = [c, f] ++ [g] := rfl
      rw [hsplit, List.filter_append, hlast, List.getLast?_concat]

end Modules

end FragmentSearch.Source
