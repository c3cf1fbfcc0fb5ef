import FragmentSearch.Files.Scan
import FragmentSearch.Proofs.Files.Resolution
import Mathlib.Data.List.Nodup

/-!
# Which files a scan finds

A scan walks down from a directory and turns back at names that are excluded. What it finds can be said of each path
by itself, without the walk.

* `Node.Tidy` -- in every directory the names are proper and no name comes twice;
* `Node.mem_leavesOf` -- the walk passes what is no directory and has no excluded name above it;
* `FileTree.node_eq_iff` -- a path is followed over the links that it passes, so what is below a directory is found below
  its path (`FileTree.node_under`), and a file that is found below it is a leaf of the walk (`FileTree.leaf_of_node`);
* `Path.pairwise_inOrder` -- the paths that are found are in the order of their names;
* `FileTree.scan_exact` -- a scan finds exactly the paths that are `IsSource`, each once and in order.
-/

namespace FragmentSearch

namespace Node

/-! ## 1. Tidy trees -/

section Tidy

/-- In every directory at or below a node the names are proper, and no name comes twice. -/
inductive Tidy : Node → Prop
  | file (b : ByteArray) : Tidy (.file b)
  | link (target : String) : Tidy (.link target)
  | directory {es : List (String × Node)} (once : (es.map (·.1)).Nodup) (proper : ∀ e ∈ es, IsProper e.1)
      (below : ∀ e ∈ es, Tidy e.2) : Tidy (.directory es)

variable {es : List (String × Node)} {n : String} {w : Node}

theorem mem_of_child? (h : child? n es = some w) : (n, w) ∈ es := by
  induction es with
  | nil => cases h
  | cons e es ih =>
      obtain ⟨m, v⟩ := e
      rw [child?] at h
      split at h
      · next hm =>
          subst hm
          cases h
          exact List.mem_cons_self
      · exact List.mem_cons_of_mem _ (ih h)

theorem child?_of_mem (once : (es.map (·.1)).Nodup) (h : (n, w) ∈ es) : child? n es = some w := by
  induction es with
  | nil => exact absurd h List.not_mem_nil
  | cons e es ih =>
      obtain ⟨m, v⟩ := e
      obtain ⟨hm, once'⟩ := List.nodup_cons.mp once
      rcases List.mem_cons.mp h with heq | hmem
      · cases heq
        exact if_pos rfl
      · have hne : m ≠ n := fun e => hm (List.mem_map.mpr ⟨_, hmem, e.symm⟩)
        rw [child?, if_neg hne, ih once' hmem]

theorem tidy_of_get? {root : Node} (h : root.Tidy) {q : List String} (hget : get? root q = some w) : w.Tidy := by
  induction q generalizing root with
  | nil =>
      cases hget
      exact h
  | cons n q ih =>
      cases h with
      | file b => cases hget
      | link target => cases hget
      | @directory es once proper below =>
          obtain ⟨v, hv, hget'⟩ := Option.bind_eq_some_iff.mp hget
          exact ih (below _ (mem_of_child? hv)) hget'

theorem Tidy.isProper {root : Node} (h : root.Tidy) {q : List String} (hget : get? root q = some w) :
    ∀ n ∈ q, IsProper n := by
  induction q generalizing root with
  | nil => exact fun n hn => absurd hn List.not_mem_nil
  | cons m q ih =>
      cases h with
      | file b => cases hget
      | link target => cases hget
      | @directory es once proper below =>
          obtain ⟨v, hv, hget'⟩ := Option.bind_eq_some_iff.mp hget
          have hmem : (m, v) ∈ es := mem_of_child? hv
          intro n hn
          rcases List.mem_cons.mp hn with rfl | hn
          · exact proper _ hmem
          · exact ih (below _ hmem) hget' n hn

end Tidy

/-! ## 2. What a walk passes -/

section Leaves

/-- The node is no directory. -/
def IsLeaf (v : Node) : Prop := ∀ es, v ≠ .directory es

theorem isLeaf_file (b : ByteArray) : IsLeaf (.file b) := fun _ e => nomatch e

theorem isLeaf_link (target : String) : IsLeaf (.link target) := fun _ e => nomatch e

variable {excluded here names : List String} {name : String} {es : List (String × Node)} {v : Node}

theorem leavesOf_eq_flatMap (excluded here : List String) (es : List (String × Node)) :
    leavesOf excluded here es = es.flatMap fun e => e.2.leaves excluded here e.1 := by
  induction es with
  | nil => rw [leavesOf, List.flatMap_nil]
  | cons e es ih => rw [leavesOf, ih, List.flatMap_cons]

/-- The places below `v` that a walk passes: no directory stands there, and no name above it is excluded. -/
def Passed (excluded : List String) (v : Node) (below : List String) : Prop :=
  (∃ w, get? v below = some w ∧ w.IsLeaf) ∧ ∀ n ∈ below.dropLast, n ∉ excluded

theorem passed_nil : Passed excluded v [] ↔ v.IsLeaf := by
  refine ⟨fun ⟨⟨w, hw, hleaf⟩, _⟩ => ?_, fun h => ⟨⟨v, rfl, h⟩, fun n hn => absurd hn List.not_mem_nil⟩⟩
  cases hw
  exact hleaf

/-- What a walk passes below a directory is passed below one of its entries, whose name is not excluded if it is that of
a directory. -/
theorem passed_directory (once : (es.map (·.1)).Nodup) {below : List String} :
    Passed excluded (.directory es) below ↔
      ∃ e ∈ es, ∃ rest, below = e.1 :: rest ∧ Passed excluded e.2 rest ∧ (rest ≠ [] → e.1 ∉ excluded) := by
  have hget : ∀ e ∈ es, ∀ rest, get? (.directory es) (e.1 :: rest) = get? e.2 rest := by
    intro e he rest
    rw [get?, child?_of_mem once he]
    rfl
  constructor
  · rintro ⟨⟨w, hw, hleaf⟩, hexcluded⟩
    cases below with
    | nil =>
        cases hw
        exact absurd rfl (hleaf es)
    | cons n rest =>
        obtain ⟨u, hu, hw'⟩ := Option.bind_eq_some_iff.mp hw
        refine ⟨(n, u), mem_of_child? hu, rest, rfl, ⟨⟨w, hw', hleaf⟩, fun m hm => hexcluded m ?_⟩, fun hne => ?_⟩
        · rw [List.dropLast_cons_of_ne_nil (List.ne_nil_of_mem ((List.dropLast_sublist rest).subset hm))]
          exact List.mem_cons_of_mem n hm
        · refine hexcluded n ?_
          rw [List.dropLast_cons_of_ne_nil hne]
          exact List.mem_cons_self
  · rintro ⟨e, he, rest, rfl, ⟨⟨w, hw, hleaf⟩, hrest⟩, hname⟩
    refine ⟨⟨w, (hget e he rest).trans hw, hleaf⟩, fun m hm => ?_⟩
    cases rest with
    | nil => exact absurd hm List.not_mem_nil
    | cons n rest =>
        rw [List.dropLast_cons_of_ne_nil (List.cons_ne_nil n rest)] at hm
        rcases List.mem_cons.mp hm with rfl | hm
        · exact hname (List.cons_ne_nil n rest)
        · exact hrest m hm

/-- Of what has nothing below it a walk passes its own place. -/
theorem eq_snoc_iff_passed (hnone : ∀ n r, get? v (n :: r) = none) (hleaf : v.IsLeaf) :
    names = here ++ [name] ↔ ∃ rest, names = here ++ name :: rest ∧ Passed excluded v rest ∧ (rest ≠ [] → name ∉ excluded) := by
  constructor
  · rintro rfl
    exact ⟨[], rfl, passed_nil.mpr hleaf, fun hne => absurd rfl hne⟩
  · rintro ⟨rest, rfl, ⟨⟨w, hw, _⟩, _⟩, _⟩
    cases rest with
    | nil => rfl
    | cons n r =>
        rw [hnone] at hw
        cases hw

/-- **The places of a walk below an entry** are those that it passes there; a directory of an excluded name has none. -/
theorem Tidy.mem_leaves (h : v.Tidy) : ∀ {here name names},
    names ∈ v.leaves excluded here name ↔
      ∃ rest, names = here ++ name :: rest ∧ Passed excluded v rest ∧ (rest ≠ [] → name ∉ excluded) := by
  induction h with
  | file b =>
      intro here name names
      rw [leaves, List.mem_singleton]
      exact eq_snoc_iff_passed (fun _ _ => rfl) (isLeaf_file b)
  | link target =>
      intro here name names
      rw [leaves, List.mem_singleton]
      exact eq_snoc_iff_passed (fun _ _ => rfl) (isLeaf_link target)
  | @directory es once proper below ih =>
      intro here name names
      rw [leaves]
      split
      · next hname =>
          refine ⟨fun h => absurd h List.not_mem_nil, ?_⟩
          rintro ⟨rest, rfl, hrest, hne⟩
          cases rest with
          | nil => exact absurd rfl (passed_nil.mp hrest es)
          | cons n r => exact absurd hname (hne (List.cons_ne_nil n r))
      · next hname =>
          rw [leavesOf_eq_flatMap, List.mem_flatMap]
          constructor
          · rintro ⟨e, he, hmem⟩
            obtain ⟨rest, rfl, hrest⟩ := (ih e he).mp hmem
            refine ⟨e.1 :: rest, ?_, (passed_directory once).mpr ⟨e, he, rest, rfl, hrest⟩, fun _ => hname⟩
            rw [List.append_assoc, List.singleton_append]
          · rintro ⟨rest, rfl, hrest, -⟩
            obtain ⟨e, he, rest, rfl, hpassed⟩ := (passed_directory once).mp hrest
            refine ⟨e, he, (ih e he).mpr ⟨rest, ?_, hpassed⟩⟩
            rw [List.append_assoc, List.singleton_append]

/-- **The places of a walk below a directory** are those that it passes there. -/
theorem mem_leavesOf (h : Tidy (.directory es)) : names ∈ leavesOf excluded [] es ↔ Passed excluded (.directory es) names := by
  cases h with
  | directory once proper below =>
      rw [leavesOf_eq_flatMap, List.mem_flatMap, passed_directory once]
      exact exists_congr fun e => and_congr_right fun he => (below e he).mem_leaves

/-- Different entries have different places, so none comes twice. -/
theorem nodup_leavesOf_of (once : (es.map (·.1)).Nodup) (below : ∀ e ∈ es, Tidy e.2)
    (h : ∀ e ∈ es, (e.2.leaves excluded here e.1).Nodup) : (leavesOf excluded here es).Nodup := by
  rw [leavesOf_eq_flatMap, List.nodup_flatMap]
  refine ⟨h, (List.pairwise_map.mp once).imp_of_mem fun {e e'} he he' hne => ?_⟩
  intro names hnames hnames'
  obtain ⟨rest, rfl, _⟩ := (below e he).mem_leaves.mp hnames
  obtain ⟨rest', heq, _⟩ := (below e' he').mem_leaves.mp hnames'
  exact hne (List.cons.inj (List.append_cancel_left heq)).1

theorem Tidy.nodup_leaves (h : v.Tidy) : ∀ here name, (v.leaves excluded here name).Nodup := by
  induction h with
  | file b =>
      intro here name
      rw [leaves]
      exact List.nodup_singleton _
  | link target =>
      intro here name
      rw [leaves]
      exact List.nodup_singleton _
  | directory once proper below ih =>
      intro here name
      rw [leaves]
      split
      · exact List.nodup_nil
      · exact nodup_leavesOf_of once below fun e he => ih e he _ _

theorem nodup_leavesOf (h : Tidy (.directory es)) : (leavesOf excluded [] es).Nodup := by
  cases h with
  | directory once proper below => exact nodup_leavesOf_of once below fun e he => (below e he).nodup_leaves _ _

end Leaves

/-! ## 3. Following into a directory -/

section Following

variable {root : Node}

/-- A path is followed over the links that it passes, and goes on from where it has come. -/
theorem Passes.leads {n : Nat} {place xs q : List String} (h : Passes root n place xs q) :
    ∀ {links : Nat} {ys : List String} {f : Found}, Leads root links q ys f → Leads root (links + n) place (xs ++ ys) f := by
  induction h with
  | done place => exact id
  | back hd hb h ih =>
      subst hb
      exact fun hys => .back hd (ih hys)
  | stay hd hs h ih =>
      subst hs
      exact fun hys => .stay hd (ih hys)
  | enter hd hb hs hc hw h ih => exact fun hys => .enter hd hb hs hc hw (ih hys)
  | @link n m place rest q q' name target es hd hb hs hc ht h iht ih =>
      intro links ys f hys
      have htarget : Leads root (links + n + m) (targetStart place target) (Path.targetParts target ++ (rest ++ ys)) f :=
        iht (ih hys)
      have hlinks : links + (m + n + 1) = links + n + m + 1 := by omega
      rw [hlinks]
      exact .link hd hb hs hc htarget

/-- A path that is used up has led where it began. -/
theorem leads_nil_iff {links : Nat} {place : List String} {f : Found} :
    Leads root links place [] f ↔ f = ⟨place, root.get? place.reverse⟩ := by
  constructor
  · intro h
    cases h
    rfl
  · rintro rfl
    exact .done links place

/-- Where proper names lead to a file from a directory, and none of them but the last is that of a link, a leaf
stands. -/
theorem leaf_of_leads {links : Nat} {names : List String} (hproper : ∀ n ∈ names, IsProper n) :
    ∀ {place : List String} {es : List (String × Node)} {f : Found} {b : ByteArray}, Leads root links place names f →
      f.node = some (.file b) → root.get? place.reverse = some (.directory es) →
      (∀ above, above <+: names → above ≠ names → ∀ target, get? (.directory es) above ≠ some (.link target)) →
      ∃ w, get? (.directory es) names = some w ∧ w.IsLeaf := by
  induction names with
  | nil =>
      intro place es f b h hf hplace _
      rw [leads_nil_iff.mp h, hplace] at hf
      cases hf
  | cons n rest ih =>
      intro place es f b h hf hplace hlinks
      have hget : ∀ {u : Node}, child? n es = some u → ∀ r, get? (.directory es) (n :: r) = get? u r := by
        intro u hu r
        rw [get?, hu]
        rfl
      obtain ⟨hback, hstay⟩ := hproper n List.mem_cons_self
      cases h with
      | back => exact absurd rfl hback
      | stay => exact absurd rfl hstay
      | fresh => cases hf
      | @link more _ _ _ target _ _ hd _ _ hc _ =>
          cases hplace.symm.trans hd
          cases rest with
          | nil => exact ⟨.link target, hget hc [], isLeaf_link target⟩
          | cons m rest =>
              have habove : [n] <+: n :: m :: rest := List.prefix_append [n] (m :: rest)
              exact absurd (hget hc []) (hlinks [n] habove (by simp) target)
      | @enter _ _ _ _ _ w _ hd _ _ hc hw h =>
          cases hplace.symm.trans hd
          have hnext : root.get? (n :: place).reverse = some w := by rw [List.reverse_cons, get?_snoc hplace, hc]
          cases w with
          | link target => exact absurd rfl (hw target)
          | file b' =>
              cases rest with
              | nil => exact ⟨.file b', hget hc [], isLeaf_file b'⟩
              | cons m rest =>
                  obtain ⟨es', hd'⟩ := FileTree.directory_of_leads h
                  cases hnext.symm.trans hd'
          | directory es' =>
              rw [hget hc]
              refine ih (fun m hm => hproper m (List.mem_cons_of_mem n hm)) h hf hnext fun above hpre hne target => ?_
              rw [← hget hc]
              refine hlinks (n :: above) (List.prefix_cons_inj n |>.mpr hpre) (fun e => hne (List.cons.inj e).2) target

end Following

end Node

/-! ## 4. Order -/

namespace Path

/-- Paths are in the order of their names, if all begin alike. -/
theorem key_lt_key {p q : Path} (h : p.anchor = q.anchor) : p.key < q.key ↔ p.parts < q.parts := by
  unfold key
  rw [h]
  split
  · exact Iff.rfl
  · rw [List.cons_lt_cons_iff]
    exact ⟨fun h => (h.resolve_left (String.lt_irrefl _)).2, fun h => Or.inr ⟨rfl, h⟩⟩

theorem mem_inOrder {p : Path} {ps : List Path} : p ∈ inOrder ps ↔ p ∈ ps := (List.mergeSort_perm ps _).mem_iff

/-- **Different paths that begin alike come in the order of their names.** -/
theorem pairwise_inOrder {ps : List Path} (hps : ps.Nodup) (h : ∀ p ∈ ps, ∀ q ∈ ps, p.anchor = q.anchor) :
    (inOrder ps).Pairwise fun p q => p.parts < q.parts := by
  have hle : ∀ a b : Path, (!decide (b.key < a.key)) = true ↔ ¬ b.key < a.key := by
    intro a b
    rw [Bool.not_eq_true', decide_eq_false_iff_not]
  have hsorted : (inOrder ps).Pairwise fun a b => (!decide (b.key < a.key)) = true := by
    refine List.pairwise_mergeSort (fun a b c hab hbc => ?_) (fun a b => ?_) ps
    · rw [hle, List.not_lt] at hab hbc ⊢
      exact List.le_trans hab hbc
    · rw [Bool.or_eq_true, hle, hle, List.not_lt, List.not_lt]
      exact List.le_total a.key b.key
  have hperm : (inOrder ps).Perm ps := List.mergeSort_perm ps _
  refine (hsorted.and (hperm.nodup_iff.mpr hps)).imp_of_mem fun {a b} ha hb hab => ?_
  obtain ⟨hnot, hne⟩ := hab
  have hanchor : a.anchor = b.anchor := h a (hperm.mem_iff.mp ha) b (hperm.mem_iff.mp hb)
  by_contra hlt
  rw [hle, key_lt_key hanchor.symm] at hnot
  have hparts : a.parts = b.parts := List.le_antisymm (List.not_lt.mp hnot) (List.not_lt.mp hlt)
  obtain ⟨anchorA, partsA⟩ := a
  obtain ⟨anchorB, partsB⟩ := b
  cases hanchor
  cases hparts
  exact hne rfl

end Path

namespace FileTree

open Node

variable {t : FileTree} {p root : Path} {names : List String}

/-! ## 5. Below a directory -/

theorem node_eq_ok_iff {v : Node} : t.node p = .ok v ↔ ∃ place, t.find p = .ok ⟨place, some v⟩ := by
  unfold node
  cases t.find p with
  | error e => exact ⟨nofun, nofun⟩
  | ok f =>
      obtain ⟨place, w⟩ := f
      cases w with
      | none => exact ⟨nofun, nofun⟩
      | some w =>
          constructor
          · rintro ⟨⟩
            exact ⟨place, rfl⟩
          · rintro ⟨_, ⟨⟩⟩
            rfl

theorem bytes_eq_ok_iff {b : ByteArray} : t.bytes p = .ok b ↔ t.node p = .ok (.file b) := by
  unfold bytes
  cases t.node p with
  | error e => exact ⟨nofun, nofun⟩
  | ok w =>
      cases w with
      | file b' =>
          constructor
          · rintro ⟨⟩
            rfl
          · rintro ⟨⟩
            rfl
      | directory es => exact ⟨nofun, nofun⟩
      | link target => exact ⟨nofun, nofun⟩

/-- **A path leads where it passes**, if it passes no more links than may be followed. -/
theorem node_eq_iff {v : Node} :
    t.node p = .ok v ↔ ∃ n q, n ≤ maxLinks ∧ Passes t.root n (t.start p) p.parts q ∧ t.root.get? q.reverse = some v := by
  rw [node_eq_ok_iff]
  constructor
  · rintro ⟨place, hfind⟩
    have hleads : Leads t.root maxLinks (t.start p) (p.parts ++ []) ⟨place, some v⟩ := by
      rw [List.append_nil]
      exact follow_iff.mp hfind
    obtain ⟨n, q, hn, hq, hrest⟩ := passes_of_leads (Option.some_ne_none v) maxLinks p.parts [] _ hleads
    exact ⟨n, q, hn, hq, (congrArg Found.node (leads_nil_iff.mp hrest)).symm⟩
  · rintro ⟨n, q, hn, hq, hv⟩
    have hleads : Leads t.root (maxLinks - n + n) (t.start p) (p.parts ++ []) ⟨q, some v⟩ := hq.leads (.here hv _)
    rw [Nat.sub_add_cancel hn, List.append_nil] at hleads
    exact ⟨q, follow_iff.mpr hleads⟩

/-- **What stands below a directory is found below its path.** -/
theorem node_under {es : List (String × Node)} (hroot : t.node root = .ok (.directory es))
    (hproper : ∀ n ∈ names, IsProper n) {w : Node} (hw : ∀ target, w ≠ .link target)
    (hget : get? (.directory es) names = some w) : t.node (root.under names) = .ok w := by
  obtain ⟨n, q, hn, hq, hdirectory⟩ := node_eq_iff.mp hroot
  have hplace : t.root.get? (q.reverse ++ names) = some w := by
    rw [get?_append, hdirectory]
    exact hget
  have hleads : Leads t.root (maxLinks - n + n) (t.start root) (root.parts ++ names) ⟨names.reverse ++ q, some w⟩ :=
    hq.leads (leads_of_proper hw (maxLinks - n) hproper hplace)
  rw [Nat.sub_add_cancel hn] at hleads
  exact node_eq_ok_iff.mpr ⟨_, follow_iff.mpr hleads⟩

/-- There is a link at the path itself, whose last name is not followed. -/
def IsLink (t : FileTree) (p : Path) : Prop :=
  ∃ es target, t.node p.parent = .ok (.directory es) ∧ child? p.name es = some (.link target)

/-- Below a directory there are links where they stand. -/
theorem isLink_under {es : List (String × Node)} (hroot : t.node root = .ok (.directory es))
    (hproper : ∀ n ∈ names, IsProper n) (hne : names ≠ []) {w : Node} (hget : get? (.directory es) names = some w) :
    t.IsLink (root.under names) ↔ ∃ target, w = .link target := by
  obtain ⟨above, n, rfl⟩ : ∃ above n, names = above ++ [n] := ⟨_, _, (List.dropLast_append_getLast hne).symm⟩
  obtain ⟨es', hes'⟩ := directory_above hget (List.cons_ne_nil n [])
  have hproper' : ∀ m ∈ above, IsProper m := fun m hm => hproper m (List.mem_append_left _ hm)
  have hnode : t.node (root.under above) = .ok (.directory es') := node_under hroot hproper' nofun hes'
  have hparent : (root.under (above ++ [n])).parent = root.under above := by
    unfold Path.parent Path.under
    rw [← List.append_assoc, List.dropLast_concat]
  have hname : (root.under (above ++ [n])).name = n := by
    unfold Path.name Path.under
    rw [← List.append_assoc, List.getLast?_concat]
    rfl
  unfold IsLink
  rw [hparent, hname, hnode]
  rw [get?_snoc hes'] at hget
  constructor
  · rintro ⟨_, target, ⟨⟩, hlink⟩
    exact ⟨target, Option.some.inj (hget.symm.trans hlink)⟩
  · rintro ⟨target, rfl⟩
    exact ⟨es', target, rfl, hget⟩

/-- **A file that is found below a path is a leaf below the directory of the path**, if no link is above it. -/
theorem leaf_of_node {b : ByteArray} (hfile : t.node (root.under names) = .ok (.file b)) (hne : names ≠ [])
    (hproper : ∀ n ∈ names, IsProper n)
    (hlinks : ∀ above, above <+: names → above ≠ [] → above ≠ names → ¬ t.IsLink (root.under above)) :
    ∃ es w, t.node root = .ok (.directory es) ∧ get? (.directory es) names = some w ∧ w.IsLeaf := by
  obtain ⟨place, hfind⟩ := node_eq_ok_iff.mp hfile
  have hleads : Leads t.root maxLinks (t.start root) (root.parts ++ names) ⟨place, some (.file b)⟩ := follow_iff.mp hfind
  obtain ⟨n, q, hn, hq, hrest⟩ := passes_of_leads (Option.some_ne_none _) maxLinks root.parts names _ hleads
  obtain ⟨es, hes⟩ : ∃ es, t.root.get? q.reverse = some (.directory es) := by
    obtain ⟨m, rest, rfl⟩ := List.exists_cons_of_ne_nil hne
    exact directory_of_leads hrest
  have hroot : t.node root = .ok (.directory es) := node_eq_iff.mpr ⟨n, q, hn, hq, hes⟩
  obtain ⟨w, hw, hleaf⟩ := leaf_of_leads hproper hrest rfl hes fun above hpre hneq target hlink => by
    have hnil : above ≠ [] := by
      rintro rfl
      cases hlink
    have hproper' : ∀ m ∈ above, IsProper m := fun m hm => hproper m (hpre.subset hm)
    exact hlinks above hpre hnil hneq ((isLink_under hroot hproper' hnil hlink).mpr ⟨target, rfl⟩)
  exact ⟨es, w, hroot, hw, hleaf⟩

/-! ## 6. What a scan finds -/

/-- The names lead, from a directory, to a source file: there is a file of at most the largest size, links followed, its
name has one of the extensions, and of the directories between, none has an excluded name or is a link. -/
structure IsSource (t : FileTree) (c : Config) (root : Path) (names : List String) : Prop where
  below : names ≠ []
  proper : ∀ n ∈ names, IsProper n
  file : ∃ b, t.bytes (root.under names) = .ok b ∧ (b.size : Int) ≤ c.maxFileBytes
  extension : Path.extension (root.under names).name ∈ c.extensions
  entered : ∀ n ∈ names.dropLast, n ∉ c.excludedDirs
  unlinked : ∀ above, above <+: names → above ≠ [] → above ≠ names → ¬ t.IsLink (root.under above)

theorem isFileUpTo_iff {limit : Int} : t.isFileUpTo limit p = true ↔ ∃ b, t.bytes p = .ok b ∧ (b.size : Int) ≤ limit := by
  simp only [bytes_eq_ok_iff]
  unfold isFileUpTo
  constructor
  · intro h
    split at h
    · next b hb => exact ⟨b, hb, of_decide_eq_true h⟩
    · cases h
  · rintro ⟨b, hb, hlimit⟩
    rw [hb]
    exact decide_eq_true hlimit

theorem mem_leaves_iff {excluded : List String} : names ∈ t.leaves excluded root ↔
    ∃ es, t.node root = .ok (.directory es) ∧ names ∈ leavesOf excluded [] es := by
  unfold leaves
  constructor
  · intro h
    split at h
    · next es hes => exact ⟨es, hes, h⟩
    · exact absurd h List.not_mem_nil
  · rintro ⟨es, hes, h⟩
    rw [hes]
    exact h

theorem tidy_of_node (h : t.root.Tidy) {v : Node} (hv : t.node p = .ok v) : v.Tidy := by
  obtain ⟨_, q, _, _, hget⟩ := node_eq_iff.mp hv
  exact tidy_of_get? h hget

theorem nodup_leaves (h : t.root.Tidy) (excluded : List String) (root : Path) : (t.leaves excluded root).Nodup := by
  unfold leaves
  split
  · next es hes => exact nodup_leavesOf (tidy_of_node h hes)
  · exact List.nodup_nil

/-- **The sources are the leaves of the walk** with one of the extensions that are files of at most the largest size. -/
theorem isSource_iff (h : t.root.Tidy) {c : Config} : t.IsSource c root names ↔
    names ∈ t.leaves c.excludedDirs root ∧ Path.extension (names.getLast?.getD "") ∈ c.extensions ∧
      t.isFileUpTo c.maxFileBytes (root.under names) = true := by
  have hname : names ≠ [] → (root.under names).name = names.getLast?.getD "" := by
    intro hne
    unfold Path.name Path.under
    rw [List.getLast?_append_of_ne_nil _ hne]
  rw [mem_leaves_iff, isFileUpTo_iff]
  constructor
  · rintro ⟨hne, hproper, ⟨b, hb, hsize⟩, hextension, hentered, hunlinked⟩
    obtain ⟨es, w, hroot, hget, hleaf⟩ := leaf_of_node (bytes_eq_ok_iff.mp hb) hne hproper hunlinked
    have hleaves : names ∈ leavesOf c.excludedDirs [] es :=
      (mem_leavesOf (tidy_of_node h hroot)).mpr ⟨⟨w, hget, hleaf⟩, hentered⟩
    exact ⟨⟨es, hroot, hleaves⟩, hname hne ▸ hextension, b, hb, hsize⟩
  · rintro ⟨⟨es, hroot, hleaves⟩, hextension, hfile⟩
    have htidy : Tidy (.directory es) := tidy_of_node h hroot
    obtain ⟨⟨w, hget, hleaf⟩, hentered⟩ := (mem_leavesOf htidy).mp hleaves
    have hne : names ≠ [] := by
      rintro rfl
      cases hget
      exact hleaf es rfl
    have hproper : ∀ n ∈ names, IsProper n := htidy.isProper hget
    refine ⟨hne, hproper, hfile, (hname hne).symm ▸ hextension, hentered, fun above hpre hnil hneq => ?_⟩
    -- what is above a leaf is a directory
    obtain ⟨rest, rfl⟩ := hpre
    have hrest : rest ≠ [] := fun e => hneq (by rw [e, List.append_nil])
    obtain ⟨es', hdirectory⟩ := directory_above hget hrest
    rw [isLink_under hroot (fun n hn => hproper n (List.mem_append_left _ hn)) hnil hdirectory]
    exact nofun

theorem mem_scan_iff {c : Config} : p ∈ t.scan c root ↔
    ∃ names, p = root.under names ∧ names ∈ t.leaves c.excludedDirs root ∧
      Path.extension (names.getLast?.getD "") ∈ c.extensions ∧ t.isFileUpTo c.maxFileBytes (root.under names) = true := by
  unfold scan
  rw [Path.mem_inOrder, List.mem_filter, List.mem_map]
  constructor
  · rintro ⟨⟨names, hnames, rfl⟩, hfile⟩
    obtain ⟨hleaves, hextension⟩ := List.mem_filter.mp hnames
    exact ⟨names, rfl, hleaves, List.contains_iff_mem.mp hextension, hfile⟩
  · rintro ⟨names, rfl, hleaves, hextension, hfile⟩
    exact ⟨⟨names, List.mem_filter.mpr ⟨hleaves, List.contains_iff_mem.mpr hextension⟩, rfl⟩, hfile⟩

/-- **A scan finds exactly the source files below a directory**, each once and in the order of their names, name by name.
The name of the directory itself does not matter: only the names below it are compared with the excluded ones. -/
theorem scan_exact (t : FileTree) (c : Config) (root : Path) (h : t.root.Tidy) :
    (∀ p, p ∈ t.scan c root ↔ ∃ names, p = root.under names ∧ t.IsSource c root names) ∧
    (t.scan c root).Nodup ∧ (t.scan c root).Pairwise fun p q => p.parts < q.parts := by
  have hinj : Function.Injective root.under := fun a b e => List.append_cancel_left (congrArg Path.parts e)
  have hnodup : ((((t.leaves c.excludedDirs root).filter fun parts =>
      c.extensions.contains (Path.extension (parts.getLast?.getD ""))).map root.under).filter
        (t.isFileUpTo c.maxFileBytes)).Nodup :=
    (((nodup_leaves h _ root).filter _).map hinj).filter _
  refine ⟨fun p => ?_, (List.mergeSort_perm _ _).nodup_iff.mpr hnodup, Path.pairwise_inOrder hnodup fun p hp q hq => ?_⟩
  · rw [mem_scan_iff]
    exact exists_congr fun names => and_congr_right fun _ => (isSource_iff h).symm
  · obtain ⟨_, _, rfl⟩ := List.mem_map.mp (List.mem_of_mem_filter hp)
    obtain ⟨_, _, rfl⟩ := List.mem_map.mp (List.mem_of_mem_filter hq)
    rfl

/-- A directory with a source file and a link to it, and with a directory of an excluded name and a link to a directory,
both of which hold one more. -/
def project : Node :=
  .directory [("src", .directory [("a.py", .file ⟨#[]⟩), ("z.py", .link "a.py"), ("lib", .link "/ext"),
    ("build", .directory [("b.py", .file ⟨#[]⟩)])]), ("ext", .directory [("c.py", .file ⟨#[]⟩)])]

theorem tidy_project : project.Tidy := by
  have hfile : ∀ (name : String), IsProper name → Tidy (.directory [(name, .file ⟨#[]⟩)]) := by
    intro name hname
    refine .directory (List.nodup_singleton _) (fun e he => ?_) (fun e he => ?_)
    · rw [List.mem_singleton.mp he]
      exact hname
    · rw [List.mem_singleton.mp he]
      exact .file _
  unfold project
  refine .directory (by decide) (by simp [IsProper]) fun e he => ?_
  simp only [List.mem_cons, List.not_mem_nil, or_false] at he
  rcases he with rfl | rfl
  · refine .directory (by decide) (by simp [IsProper]) fun e he => ?_
    simp only [List.mem_cons, List.not_mem_nil, or_false] at he
    rcases he with rfl | rfl | rfl | rfl
    · exact .file _
    · exact .link _
    · exact .link _
    · exact hfile "b.py" ⟨by decide, by decide⟩
  · exact hfile "c.py" ⟨by decide, by decide⟩

/-- The file and the link to it are found. What is below an excluded name or a linked directory is not, although the
path leads to it. -/
theorem scan_exact_project :
    let t : FileTree := ⟨project, []⟩
    let root : Path := ⟨"", ["src"]⟩
    t.root.Tidy ∧ root.under ["a.py"] ∈ t.scan {} root ∧ root.under ["z.py"] ∈ t.scan {} root ∧
      t.bytes (root.under ["lib", "c.py"]) = .ok ⟨#[]⟩ ∧ root.under ["lib", "c.py"] ∉ t.scan {} root ∧
      t.bytes (root.under ["build", "b.py"]) = .ok ⟨#[]⟩ ∧ root.under ["build", "b.py"] ∉ t.scan {} root := by
  intro t root
  have hsrc : ∃ es, t.node root = .ok (.directory es) ∧ child? "lib" es = some (.link "/ext") :=
    ⟨_, node_eq_iff.mpr ⟨0, _, by decide, .enter rfl (by decide) (by decide) rfl nofun (.done _), rfl⟩, rfl⟩
  have ha : t.bytes (root.under ["a.py"]) = .ok ⟨#[]⟩ := by
    refine bytes_eq_ok_iff.mpr (node_eq_iff.mpr ⟨0, ["a.py", "src"], by decide, ?_, rfl⟩)
    exact .enter rfl (by decide) (by decide) rfl nofun (.enter rfl (by decide) (by decide) rfl nofun (.done _))
  have hz : t.bytes (root.under ["z.py"]) = .ok ⟨#[]⟩ := by
    have htarget : Passes project 0 (targetStart ["src"] "a.py") (Path.targetParts "a.py") ["a.py", "src"] := by
      have hstart : targetStart ["src"] "a.py" = ["src"] := by decide +kernel
      have hparts : Path.targetParts "a.py" = ["a.py"] := by decide +kernel
      rw [hstart, hparts]
      exact .enter rfl (by decide) (by decide) rfl nofun (.done _)
    refine bytes_eq_ok_iff.mpr (node_eq_iff.mpr ⟨1, ["a.py", "src"], by decide, ?_, rfl⟩)
    exact .enter rfl (by decide) (by decide) rfl nofun (.link rfl (by decide) (by decide) rfl htarget (.done _))
  have hc : t.bytes (root.under ["lib", "c.py"]) = .ok ⟨#[]⟩ := by
    have htarget : Passes project 0 (targetStart ["src"] "/ext") (Path.targetParts "/ext") ["ext"] := by
      have hstart : targetStart ["src"] "/ext" = [] := by decide +kernel
      have hparts : Path.targetParts "/ext" = ["ext"] := by decide +kernel
      rw [hstart, hparts]
      exact .enter rfl (by decide) (by decide) rfl nofun (.done _)
    refine bytes_eq_ok_iff.mpr (node_eq_iff.mpr ⟨1, ["c.py", "ext"], by decide, ?_, rfl⟩)
    have hrest : Passes project 0 ["ext"] ["c.py"] ["c.py", "ext"] :=
      .enter rfl (by decide) (by decide) rfl nofun (.done _)
    exact .enter rfl (by decide) (by decide) rfl nofun (.link rfl (by decide) (by decide) rfl htarget hrest)
  have hb : t.bytes (root.under ["build", "b.py"]) = .ok ⟨#[]⟩ := by
    refine bytes_eq_ok_iff.mpr (node_eq_iff.mpr ⟨0, ["b.py", "build", "src"], by decide, ?_, rfl⟩)
    refine .enter rfl (by decide) (by decide) rfl nofun (.enter rfl (by decide) (by decide) rfl nofun ?_)
    exact .enter rfl (by decide) (by decide) rfl nofun (.done _)
  have hsource : ∀ name, IsProper name → Path.extension name = ".py" → t.bytes (root.under [name]) = .ok ⟨#[]⟩ →
      t.IsSource {} root [name] := by
    intro name hname hextension hbytes
    refine ⟨List.cons_ne_nil _ _, fun n hn => ?_, ⟨_, hbytes, by decide⟩, ?_, nofun, fun above hpre hnil hne => ?_⟩
    · rw [List.mem_singleton.mp hn]
      exact hname
    · exact List.mem_singleton.mpr hextension
    · rcases List.prefix_cons_iff.mp hpre with h | ⟨rest, rfl, hrest⟩
      · exact absurd h hnil
      · rw [List.prefix_nil.mp hrest] at hne
        exact absurd rfl hne
  obtain ⟨hmem, _, _⟩ := scan_exact t {} root tidy_project
  have hunder : ∀ names names', root.under names = root.under names' → names = names' :=
    fun _ _ e => List.append_cancel_left (congrArg Path.parts e)
  refine ⟨tidy_project, ?_, ?_, hc, fun h => ?_, hb, fun h => ?_⟩
  · exact (hmem _).mpr ⟨["a.py"], rfl, hsource _ ⟨by decide, by decide⟩ (by decide +kernel) ha⟩
  · exact (hmem _).mpr ⟨["z.py"], rfl, hsource _ ⟨by decide, by decide⟩ (by decide +kernel) hz⟩
  · obtain ⟨names, he, hs⟩ := (hmem _).mp h
    obtain rfl := hunder _ _ he
    obtain ⟨es, hes, hlib⟩ := hsrc
    exact hs.unlinked ["lib"] (List.prefix_append ["lib"] ["c.py"]) (by decide) (by decide) ⟨es, "/ext", hes, hlib⟩
  · obtain ⟨names, he, hs⟩ := (hmem _).mp h
    obtain rfl := hunder _ _ he
    exact hs.entered "build" (by decide) (by decide)

end FileTree

end FragmentSearch
