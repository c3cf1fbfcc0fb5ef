import FragmentSearch.Files.Tree

/-!
# Written files

What stands where after a node has been put at a place, and where a path leads then.

* `Node.get?_put_self`, `Node.get?_put_above`, `Node.get?_put_aside` -- the node stands at its place, directories
  lead to it, and everything else is as before;
* `Node.Leads` -- where a path leads, as a relation: it is followed exactly there (`Node.follow_iff`);
* `Node.Clear` -- no link stands on the way to a place: links are followed, never passed (`Node.Leads.clear`);
* `Node.Leads.put` -- so a path that leads to a place leads there after a file has been put there;
* `FileTree.bytes_write` -- and what has been written under a path is read under it;
* `FileTree.resolve_name` -- a name in the root directory that is not that of a link is resolved to itself.
-/

namespace FragmentSearch

namespace Node

/-! ## 1. Places -/

section Places

variable {root : Node}

theorem get?_append (q r : List String) : ∀ root : Node, get? root (q ++ r) = (get? root q).bind (get? · r) := by
  induction q with
  | nil => intro root; rfl
  | cons n q ih =>
      intro root
      cases root with
      | directory es =>
          show (child? n es).bind (get? · (q ++ r)) = ((child? n es).bind (get? · q)).bind (get? · r)
          cases child? n es with
          | none => rfl
          | some w => exact ih w
      | file b => rfl
      | link target => rfl

/-- What stands in a directory. -/
theorem get?_snoc {q : List String} {es : List (String × Node)} (h : get? root q = some (.directory es))
    (n : String) : get? root (q ++ [n]) = child? n es := by
  rw [get?_append, h]
  show (child? n es).bind (fun w => some w) = _
  exact Option.bind_fun_some _

/-- Whatever stands at a place, directories lead to it. -/
theorem directory_above {q r : List String} {w : Node} (h : get? root (q ++ r) = some w) (hr : r ≠ []) :
    ∃ es, get? root q = some (.directory es) := by
  obtain ⟨n, r, rfl⟩ := List.exists_cons_of_ne_nil hr
  rw [get?_append] at h
  obtain ⟨d, hd, hw⟩ := Option.bind_eq_some_iff.mp h
  cases d with
  | directory es => exact ⟨es, hd⟩
  | file b => cases hw
  | link target => cases hw

end Places

/-! ## 2. Putting a node at a place -/

section Putting

variable {v : Node}

theorem child?_setChild_self (name : String) (es : List (String × Node)) :
    child? name (setChild name v es) = some v := by
  induction es with
  | nil => simp only [setChild, child?, if_true]
  | cons e es ih =>
      obtain ⟨n, w⟩ := e
      by_cases h : n = name
      · rw [setChild, if_pos h, child?, if_pos h]
      · rw [setChild, if_neg h, child?, if_neg h, ih]

theorem child?_setChild_of_ne {name n : String} (h : name ≠ n) (es : List (String × Node)) :
    child? n (setChild name v es) = child? n es := by
  induction es with
  | nil => exact if_neg h
  | cons e es ih =>
      obtain ⟨m, w⟩ := e
      by_cases hm : m = name
      · rw [setChild, if_pos hm, child?, child?, if_neg (hm ▸ h), if_neg (hm ▸ h)]
      · rw [setChild, if_neg hm, child?, child?, ih]

/-- Putting a node below a name puts it below what stands there; anything but a directory is replaced by one. -/
theorem get?_put_cons (name n : String) (r q : List String) (root : Node) :
    get? (put v (name :: r) root) (n :: q) =
      if name = n then get? (put v r ((get? root [name]).getD (.directory []))) q else get? root (n :: q) := by
  cases root with
  | directory es =>
      have e : get? (.directory es) [name] = child? name es := by
        show (child? name es).bind (fun w => some w) = _
        exact Option.bind_fun_some _
      rw [put, get?, e]
      by_cases h : name = n
      · rw [if_pos h, ← h, child?_setChild_self]
        rfl
      · rw [if_neg h, child?_setChild_of_ne h, get?]
  | file b =>
      rw [put, get?, child?]
      by_cases h : name = n
      · rw [if_pos h, if_pos h]
        rfl
      · rw [if_neg h, if_neg h]
        rfl
      · exact fun es h => nomatch h
  | link target =>
      rw [put, get?, child?]
      by_cases h : name = n
      · rw [if_pos h, if_pos h]
        rfl
      · rw [if_neg h, if_neg h]
        rfl
      · exact fun es h => nomatch h

/-- The node stands at its place. -/
theorem get?_put_self (p : List String) : ∀ root : Node, get? (put v p root) p = some v := by
  induction p with
  | nil => intro root; rfl
  | cons name r ih =>
      intro root
      rw [get?_put_cons, if_pos rfl, ih]

/-- Directories lead to the node. -/
theorem get?_put_above (q : List String) (n : String) (r : List String) :
    ∀ root : Node, ∃ es, get? (put v (q ++ n :: r) root) q = some (.directory es) := by
  induction q with
  | nil =>
      intro root
      cases root with
      | directory es => exact ⟨_, rfl⟩
      | file b => exact ⟨_, rfl⟩
      | link target => exact ⟨_, rfl⟩
  | cons m q ih =>
      intro root
      rw [List.cons_append, get?_put_cons, if_pos rfl]
      exact ih _

/-- A place that is neither above nor below the node is as before. -/
theorem get?_put_aside (p : List String) : ∀ (q : List String) (root : Node), ¬ p <+: q → ¬ q <+: p →
    get? (put v p root) q = get? root q := by
  induction p with
  | nil => exact fun q root h _ => absurd List.nil_prefix h
  | cons name r ih =>
      intro q root hp hq
      cases q with
      | nil => exact absurd List.nil_prefix hq
      | cons n q =>
          rw [get?_put_cons]
          split
          · next h =>
              subst h
              have hp' : ¬ r <+: q := fun h => hp (List.prefix_cons_inj name |>.mpr h)
              have hq' : ¬ q <+: r := fun h => hq (List.prefix_cons_inj name |>.mpr h)
              obtain ⟨m, q, rfl⟩ := List.exists_cons_of_ne_nil fun e : q = [] => hq' (e ▸ List.nil_prefix)
              have e : get? root (name :: m :: q) = (get? root [name]).bind (get? · (m :: q)) :=
                get?_append [name] (m :: q) root
              rw [ih _ _ hp' hq', e]
              cases get? root [name] with
              | none => rfl
              | some w => rfl
          · rfl

end Putting

/-! ## 3. Where a path leads -/

section Leads

/-- The path `todo` leads from a place, whose last name stands first, to what is found, over at most `links`
links. -/
inductive Leads (root : Node) : Nat → List String → List String → Found → Prop
  | done (links : Nat) (place : List String) : Leads root links place [] ⟨place, root.get? place.reverse⟩
  | back {links : Nat} {place rest : List String} {es : List (String × Node)} {f : Found}
      (hd : root.get? place.reverse = some (.directory es)) (h : Leads root links place.tail rest f) :
      Leads root links place (".." :: rest) f
  | stay {links : Nat} {place rest : List String} {es : List (String × Node)} {f : Found}
      (hd : root.get? place.reverse = some (.directory es)) (h : Leads root links place rest f) :
      Leads root links place ("." :: rest) f
  /-- Nothing has the last name. -/
  | fresh (links : Nat) {place : List String} {name : String} {es : List (String × Node)}
      (hd : root.get? place.reverse = some (.directory es)) (hb : name ≠ "..") (hs : name ≠ ".")
      (hc : child? name es = none) : Leads root links place [name] ⟨name :: place, none⟩
  | link {more : Nat} {place rest : List String} {name target : String} {es : List (String × Node)} {f : Found}
      (hd : root.get? place.reverse = some (.directory es)) (hb : name ≠ "..") (hs : name ≠ ".")
      (hc : child? name es = some (.link target))
      (h : Leads root more (if (Path.ofText target).isAbsolute then [] else place)
        (Path.targetParts target ++ rest) f) :
      Leads root (more + 1) place (name :: rest) f
  | enter {links : Nat} {place rest : List String} {name : String} {es : List (String × Node)} {w : Node} {f : Found}
      (hd : root.get? place.reverse = some (.directory es)) (hb : name ≠ "..") (hs : name ≠ ".")
      (hc : child? name es = some w) (hw : ∀ target, w ≠ .link target)
      (h : Leads root links (name :: place) rest f) :
      Leads root links place (name :: rest) f

variable {root : Node} {f : Found}

theorem Leads.here {place : List String} {w : Node} (h : root.get? place.reverse = some w) (links : Nat) :
    Leads root links place [] ⟨place, some w⟩ := by
  rw [← h]
  exact .done links place

theorem leads_of_follow (links : Nat) (place todo : List String) (h : follow root links place todo = .ok f) :
    Leads root links place todo f := by
  cases todo with
  | nil =>
      rw [follow] at h
      cases h
      exact .done links place
  | cons name rest =>
      rw [follow] at h
      split at h
      · next es hd =>
          split at h
          · next hb =>
              subst hb
              exact .back hd (leads_of_follow links place.tail rest h)
          split at h
          · next hs =>
              subst hs
              exact .stay hd (leads_of_follow links place rest h)
          next hb hs =>
          split at h
          · next hc =>
              split at h
              · next hr =>
                  cases h
                  rw [List.isEmpty_iff.mp hr]
                  exact .fresh links hd hb hs hc
              · cases h
          · next target hc =>
              cases links with
              | zero => cases h
              | succ more => exact .link hd hb hs hc (leads_of_follow more _ _ h)
          · next w hw hc => exact .enter hd hb hs hc (fun target e => hw target e) (leads_of_follow links _ rest h)
      · cases h
      · cases h
termination_by (links, todo.length)

theorem follow_of_leads {links : Nat} {place todo : List String} (h : Leads root links place todo f) :
    follow root links place todo = .ok f := by
  induction h with
  | done links place => rw [follow]
  | back hd h ih =>
      rw [follow, hd]
      exact ih
  | stay hd h ih =>
      rw [follow, hd]
      exact ih
  | fresh links hd hb hs hc =>
      rw [follow, hd]
      simp only [if_neg hb, if_neg hs, hc]
      rfl
  | link hd hb hs hc h ih =>
      rw [follow, hd]
      simp only [if_neg hb, if_neg hs, hc]
      exact ih
  | @enter links place rest name es w f hd hb hs hc hw h ih =>
      rw [follow, hd]
      simp only [if_neg hb, if_neg hs, hc]
      cases w with
      | directory es' => exact ih
      | file b => exact ih
      | link target => exact absurd rfl (hw target)

/-- **A path is followed to where it leads.** -/
theorem follow_iff {links : Nat} {place todo : List String} :
    follow root links place todo = .ok f ↔ Leads root links place todo f :=
  ⟨leads_of_follow links place todo, follow_of_leads⟩

end Leads

/-! ## 4. Links on the way -/

section Links

variable {root : Node} {place : List String}

/-- No link stands on the way to a place, whose last name stands first, nor at the place. -/
def Clear (root : Node) (place : List String) : Prop :=
  ∀ q, q <+: place.reverse → ∀ target, get? root q ≠ some (.link target)

/-- No link stands on the way to what is no link. -/
theorem clear_of_get? {w : Node} (h : get? root place.reverse = some w) (hw : ∀ target, w ≠ .link target) :
    Clear root place := by
  rintro q ⟨r, hr⟩ target hq
  rw [← hr] at h
  by_cases hnil : r = []
  · rw [hnil, List.append_nil, hq] at h
    exact hw target (Option.some.inj h).symm
  · obtain ⟨es, he⟩ := directory_above h hnil
    rw [hq] at he
    cases he

theorem clear_of_directory {es : List (String × Node)} (hd : get? root place.reverse = some (.directory es)) :
    Clear root place :=
  clear_of_get? hd fun _ h => nomatch h

theorem Clear.of_prefix {place' : List String} (h : Clear root place) (hp : place'.reverse <+: place.reverse) :
    Clear root place' :=
  fun q hq => h q (hq.trans hp)

theorem Clear.cons {name : String} {es : List (String × Node)} (hd : get? root place.reverse = some (.directory es))
    (hc : ∀ target, child? name es ≠ some (.link target)) : Clear root (name :: place) := by
  intro q hq target e
  rw [List.reverse_cons] at hq
  rcases List.prefix_concat_iff.mp hq with rfl | hq
  · rw [get?_snoc hd] at e
    exact hc target e
  · exact clear_of_directory hd q hq target e

/-- **Links are followed, never passed**: from a clear place a path leads to a clear place, and what is found
is what stands there. -/
theorem Leads.clear {links : Nat} {todo : List String} {f : Found} (h : Leads root links place todo f)
    (hplace : Clear root place) : Clear root f.place ∧ f.node = get? root f.place.reverse := by
  induction h with
  | done links place => exact ⟨hplace, rfl⟩
  | @back links place rest es f hd h ih =>
      refine ih (hplace.of_prefix ?_)
      cases place with
      | nil => exact List.prefix_rfl
      | cons n place =>
          rw [List.tail_cons, List.reverse_cons]
          exact List.prefix_append _ _
  | stay hd h ih => exact ih hplace
  | @fresh links place name es hd hb hs hc =>
      refine ⟨Clear.cons hd fun target e => ?_, ?_⟩
      · rw [hc] at e
        cases e
      · rw [List.reverse_cons, get?_snoc hd, hc]
  | link hd hb hs hc h ih =>
      refine ih ?_
      split
      · exact hplace.of_prefix List.nil_prefix
      · exact hplace
  | enter hd hb hs hc hw h ih =>
      refine ih (Clear.cons hd fun target e => ?_)
      rw [hc] at e
      exact hw target (Option.some.inj e)

end Links

/-! ## 5. After writing -/

section Writing

variable {root : Node} {p : List String} {b : ByteArray}

/-- A place that a file may be put at: no directory stands there, and no link on the way. -/
structure Writable (root : Node) (p : List String) : Prop where
  clear : Clear root p.reverse
  free : ∀ es, get? root p ≠ some (.directory es)

/-- Nothing stands below a writable place. -/
theorem Writable.not_below (h : Writable root p) {q : List String} {w : Node} (hq : get? root q = some w)
    (hne : q ≠ p) : ¬ p <+: q := by
  rintro ⟨r, rfl⟩
  have hr : r ≠ [] := by
    rintro rfl
    exact hne (List.append_nil p)
  obtain ⟨es, he⟩ := directory_above hq hr
  exact h.free es he

/-- Above the file that was put there is a directory. -/
theorem directory_of_above {q : List String} (hqp : q <+: p) (hne : q ≠ p) :
    ∃ es, get? (put (.file b) p root) q = some (.directory es) := by
  obtain ⟨r, rfl⟩ := hqp
  obtain ⟨n, r, rfl⟩ := List.exists_cons_of_ne_nil fun hr : r = [] => hne (by rw [hr, List.append_nil])
  exact get?_put_above q n r root

/-- Directories are still directories. -/
theorem Writable.directory (h : Writable root p) {q : List String} {es : List (String × Node)}
    (hq : get? root q = some (.directory es)) : ∃ es', get? (put (.file b) p root) q = some (.directory es') := by
  have hne : q ≠ p := by
    rintro rfl
    exact h.free es hq
  by_cases hqp : q <+: p
  · exact directory_of_above hqp hne
  · exact ⟨es, (get?_put_aside p q root (h.not_below hq hne) hqp).trans hq⟩

/-- Links are the same. -/
theorem Writable.link (h : Writable root p) {q : List String} {target : String}
    (hq : get? root q = some (.link target)) : get? (put (.file b) p root) q = some (.link target) := by
  have hqp : ¬ q <+: p := fun hqp => h.clear q (by rw [List.reverse_reverse]; exact hqp) target hq
  have hne : q ≠ p := by
    rintro rfl
    exact hqp List.prefix_rfl
  exact (get?_put_aside p q root (h.not_below hq hne) hqp).trans hq

/-- What is no link is none afterwards. -/
theorem Writable.no_link (h : Writable root p) {q : List String} {w : Node} (hq : get? root q = some w)
    (hw : ∀ target, w ≠ .link target) :
    ∃ w', get? (put (.file b) p root) q = some w' ∧ ∀ target, w' ≠ .link target := by
  by_cases hne : q = p
  · rw [hne]
    exact ⟨_, get?_put_self p root, fun _ e => nomatch e⟩
  · by_cases hqp : q <+: p
    · obtain ⟨es, he⟩ : ∃ es, get? (put (.file b) p root) q = some (.directory es) := directory_of_above hqp hne
      exact ⟨_, he, fun _ e => nomatch e⟩
    · exact ⟨w, (get?_put_aside p q root (h.not_below hq hne) hqp).trans hq, hw⟩

/-- **A path leads to the file that was put where it leads.** -/
theorem Leads.put {links : Nat} {place todo : List String} {f : Found} (h : Leads root links place todo f)
    (hw : Writable root f.place.reverse) :
    Leads (Node.put (.file b) f.place.reverse root) links place todo ⟨f.place, some (.file b)⟩ := by
  induction h with
  | done links place => exact .here (get?_put_self _ root) links
  | back hd h ih =>
      obtain ⟨es, hd'⟩ := hw.directory hd
      exact .back hd' (ih hw)
  | stay hd h ih =>
      obtain ⟨es, hd'⟩ := hw.directory hd
      exact .stay hd' (ih hw)
  | @fresh links place name es hd hb hs hc =>
      obtain ⟨es', hd'⟩ := hw.directory (b := b) hd
      have hself : get? (Node.put (.file b) (name :: place).reverse root) (name :: place).reverse =
          some (.file b) :=
        get?_put_self _ root
      have hc' : child? name es' = some (.file b) := by
        rw [← get?_snoc hd', ← List.reverse_cons]
        exact hself
      exact .enter hd' hb hs hc' (fun _ e => nomatch e) (.here hself links)
  | @link more place rest name target es f hd hb hs hc h ih =>
      obtain ⟨es', hd'⟩ := hw.directory (b := b) hd
      have hl := hw.link (b := b) ((get?_snoc hd name).trans hc)
      rw [get?_snoc hd'] at hl
      exact .link hd' hb hs hl (ih hw)
  | @enter links place rest name es w f hd hb hs hc hnl h ih =>
      obtain ⟨es', hd'⟩ := hw.directory (b := b) hd
      obtain ⟨w', hc', hnl'⟩ := hw.no_link (b := b) ((get?_snoc hd name).trans hc) hnl
      rw [get?_snoc hd'] at hc'
      exact .enter hd' hb hs hc' hnl' (ih hw)

end Writing

end Node

namespace FileTree

/-! ## 6. Reading what was written -/

variable {t t' : FileTree} {p : Path} {b : ByteArray}

/-- The place at which the path begins. -/
def start (t : FileTree) (p : Path) : List String := if p.isAbsolute then [] else t.here.reverse

/-- A path under which a file can be written: it leads somewhere, and not to a directory. -/
def IsWritable (t : FileTree) (p : Path) : Prop :=
  ∃ f, t.find p = .ok f ∧ ∀ es, f.node ≠ some (.directory es)

/-- Writing succeeds exactly where a file can be written, whatever is written. -/
theorem write_eq (hf : t.IsWritable p) (b : ByteArray) :
    ∃ f, t.find p = .ok f ∧ t.write p b = .ok { t with root := Node.put (.file b) f.place.reverse t.root } := by
  obtain ⟨⟨place, node⟩, hfind, hd⟩ := hf
  refine ⟨_, hfind, ?_⟩
  unfold write
  rw [hfind]
  split
  · next h =>
      cases h
      exact absurd rfl (hd _)
  · next h =>
      cases h
      rfl
  · next h => cases h

theorem isWritable_of_write (h : t.write p b = .ok t') : t.IsWritable p := by
  unfold write at h
  split at h
  · cases h
  · next place node hd hfind => exact ⟨_, hfind, hd⟩
  · cases h

/-- Where a path that goes on begins, there is a directory. -/
theorem directory_of_leads {root : Node} {links : Nat} {place rest : List String} {name : String} {f : Node.Found}
    (h : Node.Leads root links place (name :: rest) f) : ∃ es, root.get? place.reverse = some (.directory es) := by
  cases h with
  | back hd _ => exact ⟨_, hd⟩
  | stay hd _ => exact ⟨_, hd⟩
  | fresh _ hd _ _ _ => exact ⟨_, hd⟩
  | link hd _ _ _ _ => exact ⟨_, hd⟩
  | enter hd _ _ _ _ _ => exact ⟨_, hd⟩

/-- **What has been written under a path is read under it.** -/
theorem bytes_write (h : t.write p b = .ok t') : t'.bytes p = .ok b := by
  obtain ⟨f, hfind, hwrite⟩ := write_eq (isWritable_of_write h) b
  obtain ⟨_, hf, hfree⟩ := isWritable_of_write h
  obtain rfl := Except.ok.inj (hfind.symm.trans hf)
  obtain rfl := Except.ok.inj (hwrite.symm.trans h)
  have hnew : Node.follow (Node.put (.file b) f.place.reverse t.root) Node.maxLinks (t.start p) p.parts =
      .ok ⟨f.place, some (.file b)⟩ := by
    have hleads : Node.Leads t.root Node.maxLinks (t.start p) p.parts f := Node.follow_iff.mp hfind
    rw [Node.follow_iff]
    cases hp : p.parts with
    | nil =>
        rw [hp] at hleads
        cases hleads
        exact .here (Node.get?_put_self _ t.root) Node.maxLinks
    | cons name rest =>
        rw [hp] at hleads
        obtain ⟨es, hd⟩ := directory_of_leads hleads
        obtain ⟨hclear, hnode⟩ := hleads.clear (Node.clear_of_directory hd)
        refine hleads.put ⟨?_, fun es' he => hfree es' (hnode.trans he)⟩
        rw [List.reverse_reverse]
        exact hclear
  have hfound : FileTree.find { t with root := Node.put (.file b) f.place.reverse t.root } p =
      .ok ⟨f.place, some (.file b)⟩ := hnew
  unfold bytes node
  rw [hfound]

/-! ## 7. Resolving -/

/-- A name in the root directory stands for itself, unless it is that of a link. -/
theorem resolve_name {es : List (String × Node)} {p : Path} {name : String} (hp : p.parts = [name]) (hb : name ≠ "..")
    (hs : name ≠ ".") (hl : ∀ target, Node.child? name es ≠ some (.link target)) :
    (⟨.directory es, []⟩ : FileTree).resolve p = .ok ⟨"/", [name]⟩ := by
  have hnode : (Node.directory es).get? [name] = Node.child? name es := by
    show (Node.child? name es).bind _ = _
    cases Node.child? name es <;> rfl
  have hunlink : unlink (.directory es) Node.maxLinks [] [] [name] = (true, [name]) := by
    rw [unlink, if_neg hb]
    simp only [List.reverse_cons, List.reverse_nil, List.nil_append, hnode]
    split
    · next h _ => exact absurd h (hl _)
    · next h _ => exact absurd h (hl _)
    · rw [unlink]
  obtain ⟨f, hf⟩ : ∃ f, (⟨.directory es, []⟩ : FileTree).find (Path.absolute [name]) = .ok f := by
    cases hc : Node.child? name es with
    | none => exact ⟨_, Node.follow_of_leads (.fresh _ rfl hb hs hc)⟩
    | some w =>
        have hw : ∀ target, w ≠ .link target := fun target e => hl target (hc.trans (congrArg some e))
        exact ⟨_, Node.follow_of_leads (.enter rfl hb hs hc hw (.done _ _))⟩
  have hstep : ([name].reverse.foldl step []).reverse = [name] := by
    show (step [] name).reverse = _
    rw [step, if_neg hb]
    rfl
  unfold resolve
  rw [List.reverse_nil, ite_self, hp, hunlink]
  dsimp only
  rw [hstep, hf]
  rfl

end FileTree

end FragmentSearch
