import FragmentSearch.Proofs.Files.Tree

/-!
# Resolved directories

Resolving replaces links one inside the other and gives up where they go round in a circle, while a path is followed
with a budget for its links. Where following comes to an end there is no circle, so both agree.

* `Node.Passes` -- a path leads from a place to another, with the number of links on the way, counted for each link
  with those of its target;
* `Node.passes_unique` -- the number is determined, so no link can stand on the way to its own target;
* `FileTree.unlink_of_passes` -- hence what is passed is resolved;
* `FileTree.resolve_of_isDirectory` -- and the path of a directory is resolved to a path of this directory;
* `FileTree.isDirectory_of_resolve` -- so what has been resolved may be resolved once more.
-/

namespace FragmentSearch

namespace Node

variable {root : Node}

/-! ## 1. Counting links -/

/-- The place from which the target of a link leads. -/
def targetStart (place : List String) (target : String) : List String :=
  if (Path.ofText target).isAbsolute then [] else place

/-- From a place, whose last name stands first, `todo` leads to another one over `n` links. -/
inductive Passes (root : Node) : Nat → List String → List String → List String → Prop
  | done (place : List String) : Passes root 0 place [] place
  | back {n : Nat} {place rest q : List String} {name : String} {es : List (String × Node)}
      (hd : root.get? place.reverse = some (.directory es)) (hb : name = "..") (h : Passes root n place.tail rest q) :
      Passes root n place (name :: rest) q
  | stay {n : Nat} {place rest q : List String} {name : String} {es : List (String × Node)}
      (hd : root.get? place.reverse = some (.directory es)) (hs : name = ".") (h : Passes root n place rest q) :
      Passes root n place (name :: rest) q
  | enter {n : Nat} {place rest q : List String} {name : String} {es : List (String × Node)} {w : Node}
      (hd : root.get? place.reverse = some (.directory es)) (hb : name ≠ "..") (hs : name ≠ ".")
      (hc : child? name es = some w) (hw : ∀ target, w ≠ .link target) (h : Passes root n (name :: place) rest q) :
      Passes root n place (name :: rest) q
  | link {n m : Nat} {place rest q q' : List String} {name target : String} {es : List (String × Node)}
      (hd : root.get? place.reverse = some (.directory es)) (hb : name ≠ "..") (hs : name ≠ ".")
      (hc : child? name es = some (.link target))
      (ht : Passes root m (targetStart place target) (Path.targetParts target) q') (h : Passes root n q' rest q) :
      Passes root (m + n + 1) place (name :: rest) q

/-- What leads somewhere passes its first part, and the rest leads there with the links that are left. -/
theorem passes_of_leads {f : Found} (hf : f.node ≠ none) (links : Nat) (xs ys place : List String)
    (h : Leads root links place (xs ++ ys) f) :
    ∃ n q, n ≤ links ∧ Passes root n place xs q ∧ Leads root (links - n) q ys f := by
  cases xs with
  | nil => exact ⟨0, place, Nat.zero_le _, .done place, h⟩
  | cons name xs =>
      rw [List.cons_append] at h
      generalize hrest : xs ++ ys = rest at h
      cases h with
      | back hd h =>
          subst hrest
          obtain ⟨n, q, hn, hq, hys⟩ := passes_of_leads hf links xs ys _ h
          exact ⟨n, q, hn, .back hd rfl hq, hys⟩
      | stay hd h =>
          subst hrest
          obtain ⟨n, q, hn, hq, hys⟩ := passes_of_leads hf links xs ys _ h
          exact ⟨n, q, hn, .stay hd rfl hq, hys⟩
      | fresh _ hd hb hs hc => exact absurd rfl hf
      | enter hd hb hs hc hw h =>
          subst hrest
          obtain ⟨n, q, hn, hq, hys⟩ := passes_of_leads hf links xs ys _ h
          exact ⟨n, q, hn, .enter hd hb hs hc hw hq, hys⟩
      | @link more _ _ _ target _ _ hd hb hs hc h =>
          subst hrest
          obtain ⟨m, q', hm, hq', hrest⟩ := passes_of_leads hf more (Path.targetParts target) (xs ++ ys) _ h
          obtain ⟨n, q, hn, hq, hys⟩ := passes_of_leads hf (more - m) xs ys q' hrest
          have hleft : more + 1 - (m + n + 1) = more - m - n := by omega
          exact ⟨m + n + 1, q, by omega, .link hd hb hs hc hq' hq, by rwa [hleft]⟩
termination_by (links, xs.length)

/-- Where a path leads, and over how many links, is determined. -/
theorem passes_unique {n n' : Nat} {place todo q q' : List String} (h : Passes root n place todo q)
    (h' : Passes root n' place todo q') : n = n' ∧ q = q' := by
  induction h generalizing n' q' with
  | done place =>
      cases h'
      exact ⟨rfl, rfl⟩
  | back hd hb h ih =>
      subst hb
      cases h' with
      | back hd' hb' h' => exact ih h'
      | stay hd' hs' h' => exact absurd hs' (by decide)
      | enter hd' hb' => exact absurd rfl hb'
      | link hd' hb' => exact absurd rfl hb'
  | stay hd hs h ih =>
      subst hs
      cases h' with
      | back hd' hb' h' => exact absurd hb' (by decide)
      | stay hd' hs' h' => exact ih h'
      | enter hd' hb' hs' => exact absurd rfl hs'
      | link hd' hb' hs' => exact absurd rfl hs'
  | enter hd hb hs hc hw h ih =>
      cases h' with
      | back hd' hb' => exact absurd hb' hb
      | stay hd' hs' => exact absurd hs' hs
      | enter hd' hb' hs' hc' hw' h' => exact ih h'
      | link hd' hb' hs' hc' ht' h' =>
          cases hd.symm.trans hd'
          exact absurd (Option.some.inj (hc.symm.trans hc')) (hw _)
  | link hd hb hs hc ht h iht ih =>
      cases h' with
      | back hd' hb' => exact absurd hb' hb
      | stay hd' hs' => exact absurd hs' hs
      | enter hd' hb' hs' hc' hw' h' =>
          cases hd.symm.trans hd'
          exact absurd (Option.some.inj (hc'.symm.trans hc)) (hw' _)
      | link hd' hb' hs' hc' ht' h' =>
          cases hd.symm.trans hd'
          cases hc.symm.trans hc'
          obtain ⟨rfl, rfl⟩ := iht ht'
          obtain ⟨rfl, rfl⟩ := ih h'
          exact ⟨rfl, rfl⟩

/-! ## 2. Resolving what is passed -/

/-- At a place, whose last name stands first, there is a link whose target is passed over `m` links. -/
def Costs (root : Node) (at' : List String) (m : Nat) : Prop :=
  ∃ name place target es q, at' = name :: place ∧ root.get? place.reverse = some (.directory es) ∧
    child? name es = some (.link target) ∧ Passes root m (targetStart place target) (Path.targetParts target) q

theorem costs_unique {at' : List String} {m m' : Nat} (h : Costs root at' m) (h' : Costs root at' m') : m = m' := by
  obtain ⟨name, place, target, es, q, hat, hd, hc, hq⟩ := h
  obtain ⟨name', place', target', es', q', hat', hd', hc', hq'⟩ := h'
  obtain ⟨rfl, rfl⟩ := List.cons.inj (hat.symm.trans hat')
  cases hd.symm.trans hd'
  cases hc.symm.trans hc'
  exact (passes_unique hq hq').1

/-! ## 3. Names on the way -/

/-- A name of its own, which leads neither back nor nowhere. -/
def IsProper (name : String) : Prop := name ≠ ".." ∧ name ≠ "."

theorem Passes.isProper {n : Nat} {place todo q : List String} (h : Passes root n place todo q)
    (hplace : ∀ name ∈ place, IsProper name) : ∀ name ∈ q, IsProper name := by
  induction h with
  | done place => exact hplace
  | back hd hb h ih => exact ih fun name hname => hplace name (List.mem_of_mem_tail hname)
  | stay hd hs h ih => exact ih hplace
  | enter hd hb hs hc hw h ih =>
      refine ih fun name hname => ?_
      rcases List.mem_cons.mp hname with rfl | hname
      · exact ⟨hb, hs⟩
      · exact hplace name hname
  | link hd hb hs hc ht h iht ih =>
      refine ih (iht fun name hname => ?_)
      unfold targetStart at hname
      split at hname
      · exact absurd hname List.not_mem_nil
      · exact hplace name hname

/-- Proper names that no link bears lead to where they say. -/
theorem leads_of_proper {w : Node} (hw : ∀ target, w ≠ .link target) (links : Nat) {names : List String}
    (hnames : ∀ name ∈ names, IsProper name) : ∀ {place : List String}, root.get? (place.reverse ++ names) = some w →
      Leads root links place names ⟨names.reverse ++ place, some w⟩ := by
  induction names with
  | nil =>
      intro place hget
      rw [List.append_nil] at hget
      exact .here hget links
  | cons name names ih =>
      intro place hget
      obtain ⟨hb, hs⟩ := hnames name List.mem_cons_self
      obtain ⟨es, hd⟩ := directory_above hget (List.cons_ne_nil name names)
      have hnext : root.get? ((name :: place).reverse ++ names) = some w := by
        rwa [List.reverse_cons, List.append_assoc, List.singleton_append]
      have hclear : ∀ target, child? name es ≠ some (.link target) := by
        intro target hc
        have hlink : root.get? (name :: place).reverse = some (.link target) := by
          rw [List.reverse_cons, get?_snoc hd, hc]
        cases names with
        | nil =>
            rw [List.append_nil, hlink] at hnext
            exact hw target (Option.some.inj hnext).symm
        | cons n names =>
            obtain ⟨es', hd'⟩ := directory_above hnext (List.cons_ne_nil n names)
            cases hlink.symm.trans hd'
      obtain ⟨v, hv⟩ : ∃ v, child? name es = some v := by
        cases hc : child? name es with
        | some v => exact ⟨v, rfl⟩
        | none =>
            rw [get?_append, List.reverse_cons, get?_snoc hd, hc] at hnext
            cases hnext
      have hleads := ih (fun n hn => hnames n (List.mem_cons_of_mem name hn)) hnext
      rw [List.reverse_cons, List.append_assoc, List.singleton_append]
      exact .enter hd hb hs hv (fun target e => hclear target (hv.trans (congrArg some e))) hleads

end Node

namespace Path

/-- A target is made of the names that its text has, but for a dot at the end. -/
theorem filter_targetParts (target : String) : (targetParts target).filter (· ≠ ".") = (ofText target).parts := by
  have hparts : (partsOf target.toList).filter (· ≠ ".") = partsOf target.toList := by
    refine List.filter_eq_self.mpr fun name hname => ?_
    have h := (List.mem_filter.mp hname).2
    simp only [Bool.and_eq_true, decide_eq_true_eq] at h
    simpa using h.2
  unfold targetParts
  rw [List.filter_append, hparts]
  split
  · exact List.append_nil _
  · exact List.append_nil _

end Path

namespace FileTree

open Node

/-! ## 4. Resolving what is passed -/

section Unlinking

variable {root : Node}

/-- A name is entered that is not that of a link. -/
theorem unlink_enter {name : String} {place : List String} (hb : name ≠ "..")
    (hl : ∀ target, root.get? (name :: place).reverse ≠ some (.link target)) (fuel : Nat)
    (entered : List (List String)) (rest : List String) :
    unlink root fuel entered place (name :: rest) = unlink root fuel entered (name :: place) rest := by
  rw [unlink, if_neg hb]
  dsimp only
  split
  · next h => exact absurd h (hl _)
  · next h => exact absurd h (hl _)
  · rfl

/-- **What is passed is resolved**, if each of the links that are being replaced has at least as many on its way. -/
theorem unlink_of_passes {n : Nat} {place todo q : List String} (h : Passes root n place todo q) :
    ∀ (fuel : Nat) (entered : List (List String)), n ≤ fuel → (∀ e ∈ entered, ∃ m, Costs root e m ∧ n ≤ m) →
      unlink root fuel entered place (todo.filter (· ≠ ".")) = (true, q) := by
  induction h with
  | done place =>
      intro fuel entered _ _
      rw [List.filter_nil, unlink]
  | back hd hb h ih =>
      subst hb
      intro fuel entered hfuel hentered
      rw [List.filter_cons_of_pos (by decide), unlink, if_pos rfl]
      exact ih fuel entered hfuel hentered
  | stay hd hs h ih =>
      subst hs
      intro fuel entered hfuel hentered
      rw [List.filter_cons_of_neg (by decide)]
      exact ih fuel entered hfuel hentered
  | @enter n place rest q name es w hd hb hs hc hw h ih =>
      intro fuel entered hfuel hentered
      have hl : ∀ target, root.get? (name :: place).reverse ≠ some (.link target) := by
        intro target hget
        rw [List.reverse_cons, get?_snoc hd, hc] at hget
        exact hw target (Option.some.inj hget)
      rw [List.filter_cons_of_pos (by simpa using hs), unlink_enter hb hl]
      exact ih fuel entered hfuel hentered
  | @link n m place rest q q' name target es hd hb hs hc ht h iht ih =>
      intro fuel entered hfuel hentered
      obtain ⟨more, rfl⟩ : ∃ more, fuel = more + 1 := ⟨fuel - 1, by omega⟩
      have hcost : Costs root (name :: place) m := ⟨name, place, target, es, q', rfl, hd, hc, ht⟩
      -- a link on the way to its own target would have more links on its way than it has
      have hfresh : name :: place ∉ entered := by
        intro hmem
        obtain ⟨m', hm', hle⟩ := hentered _ hmem
        have hsame := costs_unique hcost hm'
        omega
      have hget : root.get? (name :: place).reverse = some (.link target) := by
        rw [List.reverse_cons, get?_snoc hd, hc]
      have htarget : unlink root more ((name :: place) :: entered) (targetStart place target)
          (Path.ofText target).parts = (true, q') := by
        rw [← Path.filter_targetParts]
        refine iht more _ (by omega) fun e he => ?_
        rcases List.mem_cons.mp he with rfl | he
        · exact ⟨m, hcost, Nat.le_refl m⟩
        · obtain ⟨m', hm', hle⟩ := hentered e he
          exact ⟨m', hm', by omega⟩
      have hrest : unlink root (more + 1) entered q' (rest.filter (· ≠ ".")) = (true, q) := by
        refine ih (more + 1) entered (by omega) fun e he => ?_
        obtain ⟨m', hm', hle⟩ := hentered e he
        exact ⟨m', hm', by omega⟩
      unfold targetStart at htarget
      rw [List.filter_cons_of_pos (by simpa using hs), unlink, if_neg hb]
      simp only [hget, if_neg hfresh, htarget]
      exact hrest

end Unlinking

/-! ## 5. Resolved paths -/

section Resolved

variable {root : Node}

theorem foldl_step_of_proper {names : List String} (h : ∀ name ∈ names, IsProper name) (place : List String) :
    names.foldl step place = names.reverse ++ place := by
  induction names generalizing place with
  | nil => rfl
  | cons name names ih =>
      have hstep : step place name = name :: place := if_neg (h name List.mem_cons_self).1
      rw [List.foldl_cons, hstep, ih fun n hn => h n (List.mem_cons_of_mem name hn), List.reverse_cons,
        List.append_assoc, List.singleton_append]

theorem dot_not_mem_step {place : List String} {name : String} (hplace : "." ∉ place) (hname : "." ≠ name) :
    "." ∉ step place name := by
  unfold step
  split
  · exact fun h => hplace (List.mem_of_mem_tail h)
  · exact fun h => (List.mem_cons.mp h).elim hname hplace

theorem dot_not_mem_foldl_step {names place : List String} (hplace : "." ∉ place) (hnames : "." ∉ names) :
    "." ∉ names.foldl step place := by
  induction names generalizing place with
  | nil => exact hplace
  | cons name names ih =>
      obtain ⟨hname, hrest⟩ := not_or.mp (fun h => hnames (List.mem_cons.mpr h))
      exact ih (dot_not_mem_step hplace hname) hrest

theorem dot_not_mem_parts (s : String) : "." ∉ (Path.ofText s).parts := by
  rw [← Path.filter_targetParts]
  exact fun h => by simpa using (List.mem_filter.mp h).2

/-- No dot comes in where links are replaced. -/
theorem dot_not_mem_unlink (fuel : Nat) (entered : List (List String)) (place rest : List String)
    (hplace : "." ∉ place) (hrest : "." ∉ rest) : "." ∉ (unlink root fuel entered place rest).2 := by
  cases rest with
  | nil =>
      rw [unlink]
      exact hplace
  | cons name rest =>
      obtain ⟨hname, hrest⟩ := not_or.mp (fun h => hrest (List.mem_cons.mpr h))
      have hnext : "." ∉ name :: place := fun h => (List.mem_cons.mp h).elim hname hplace
      have hleft : ∀ {back : List String}, "." ∉ back → "." ∉ rest.reverse ++ back := fun hback h =>
        (List.mem_append.mp h).elim (fun h => hrest (List.mem_reverse.mp h)) hback
      by_cases hb : name = ".."
      · rw [unlink, if_pos hb]
        exact dot_not_mem_unlink fuel entered _ rest (fun h => hplace (List.mem_of_mem_tail h)) hrest
      by_cases hlink : ∃ target, root.get? (name :: place).reverse = some (.link target)
      · obtain ⟨target, hget⟩ := hlink
        rw [unlink, if_neg hb]
        cases fuel with
        | zero =>
            simp only [hget]
            exact hleft hnext
        | succ more =>
            simp only [hget]
            split
            · exact hleft hnext
            have hstart : "." ∉ (if (Path.ofText target).isAbsolute then [] else place) := by
              split
              · exact List.not_mem_nil
              · exact hplace
            generalize (if (Path.ofText target).isAbsolute then [] else place) = start at hstart ⊢
            have hreached := dot_not_mem_unlink more ((name :: place) :: entered) start _ hstart (dot_not_mem_parts target)
            split
            · exact dot_not_mem_unlink (more + 1) entered _ rest hreached hrest
            · exact hleft hreached
      · rw [unlink_enter hb fun target h => hlink ⟨target, h⟩]
        exact dot_not_mem_unlink fuel entered _ rest hnext hrest
termination_by (fuel, rest.length)
decreasing_by
  all_goals
    subst_vars
    decreasing_tactic

variable {t : FileTree} {p p' : Path}

/-- **The path of a directory is resolved to a path of this directory.** -/
theorem resolve_of_isDirectory (habsolute : p.isAbsolute = true) (hdot : "." ∉ p.parts) (h : t.isDirectory p = true) :
    ∃ root, t.resolve p = .ok root ∧ t.isDirectory root = true := by
  obtain ⟨place, es, hfind⟩ : ∃ place es, t.find p = .ok ⟨place, some (.directory es)⟩ := by
    unfold isDirectory node at h
    cases hf : t.find p with
    | error e => rw [hf] at h; cases h
    | ok f =>
        obtain ⟨place, w⟩ := f
        rw [hf] at h
        cases w with
        | none => cases h
        | some w =>
            cases w with
            | directory es => exact ⟨place, es, rfl⟩
            | file b => cases h
            | link target => cases h
  have hleads : Leads t.root maxLinks [] (p.parts ++ []) ⟨place, some (.directory es)⟩ := by
    rw [List.append_nil]
    unfold find at hfind
    rw [if_pos habsolute] at hfind
    exact follow_iff.mp hfind
  obtain ⟨n, q, hn, hpasses, hrest⟩ := passes_of_leads (Option.some_ne_none _) maxLinks p.parts [] [] hleads
  have hproper : ∀ name ∈ q.reverse, IsProper name := fun name hname =>
    hpasses.isProper (fun _ h => absurd h List.not_mem_nil) name (List.mem_reverse.mp hname)
  have hget : t.root.get? q.reverse = some (.directory es) := by
    generalize maxLinks - n = left at hrest
    generalize hf : (⟨place, some (.directory es)⟩ : Found) = f at hrest
    cases hrest
    exact (congrArg Found.node hf).symm
  have hunlink : unlink t.root maxLinks [] [] p.parts = (true, q) := by
    have hfilter : p.parts.filter (· ≠ ".") = p.parts := by
      refine List.filter_eq_self.mpr fun name hname => ?_
      simp only [decide_not, Bool.not_eq_true', decide_eq_false_iff_not]
      rintro rfl
      exact hdot hname
    have hpassed := unlink_of_passes hpasses maxLinks [] hn fun e he => absurd he List.not_mem_nil
    rwa [hfilter] at hpassed
  have hsteps : (q.reverse.foldl step []).reverse = q.reverse := by
    rw [foldl_step_of_proper hproper, List.append_nil, List.reverse_reverse]
  have hroot : t.find (Path.absolute q.reverse) = .ok ⟨q, some (.directory es)⟩ := by
    have hleads' := @leads_of_proper t.root (.directory es) (fun _ h => nomatch h) maxLinks _ hproper [] hget
    rw [List.reverse_reverse, List.append_nil] at hleads'
    exact follow_of_leads hleads'
  refine ⟨Path.absolute q.reverse, ?_, ?_⟩
  · unfold resolve
    rw [if_pos habsolute, hunlink]
    dsimp only
    rw [hsteps, hroot]
  · unfold isDirectory node
    rw [hroot]

/-- **A resolved path of a directory stays one when it is resolved once more.** -/
theorem isDirectory_of_resolve {root : Path} (hhere : "." ∉ t.here) {s : String}
    (hp : t.resolve (Path.ofText s) = .ok p) (hroot : t.resolve p = .ok root) (h : t.isDirectory p = true) :
    t.isDirectory root = true := by
  have hp' : ∃ back, "." ∉ back ∧ p = Path.absolute back := by
    unfold resolve at hp
    dsimp only at hp
    split at hp
    · cases hp
    · cases hp
      refine ⟨_, ?_, rfl⟩
      rw [List.mem_reverse]
      refine dot_not_mem_foldl_step List.not_mem_nil ?_
      rw [List.mem_reverse]
      refine dot_not_mem_unlink _ _ _ _ ?_ (dot_not_mem_parts s)
      split
      · exact List.not_mem_nil
      · exact fun h => hhere (List.mem_reverse.mp h)
  obtain ⟨back, hdot, rfl⟩ := hp'
  obtain ⟨root', hroot', hd⟩ := resolve_of_isDirectory rfl hdot h
  cases hroot.symm.trans hroot'
  exact hd

end Resolved

end FileTree

end FragmentSearch
