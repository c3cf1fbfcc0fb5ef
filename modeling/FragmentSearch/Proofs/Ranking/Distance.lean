import FragmentSearch.Proofs.Index.Snapshot
import FragmentSearch.Ranking.Proximity
import Mathlib.Data.List.Nodup
import Mathlib.Data.Nat.Find
import Mathlib.Logic.Function.Iterate

/-!
# What the expansion reaches, and how far away it is

The expansion of the ranking by proximity goes over the neighbours of fragments level by level. Here its
result is compared with walks, which know nothing of levels:

* `Walk near f n g` -- `g` is `n` steps away from `f`, each step from a fragment to one that is near it;
* `Distance near start g n` -- a shortest walk to `g` from one of the fragments in `start` has `n` steps;
* `Level` -- the invariant: after `d` levels, what has been found are the fragments at distance `d` or
  less, each once and in the order of their distances, and the frontier are those at distance `d`;
* `mem_expand_iff` -- so the expansion finds exactly the fragments within `maxDepth` steps, each at its
  distance;
* `Search.run_expand` -- taking the fragments one at a time from a queue comes to an end, with the same
  result in the same order.
-/

namespace FragmentSearch.Proximity

/-! ## 1. Walks and distances -/

/-- `g` is reached from `f` by a walk of so many steps. -/
inductive Walk (near : Fragment → Fragment → Prop) (f : Fragment) : Nat → Fragment → Prop where
  | here : Walk near f 0 f
  | step {n : Nat} {g h : Fragment} (w : Walk near f n g) (hgh : near g h) : Walk near f (n + 1) h

/-- The shortest walks to `g` from a fragment in `start` have `n` steps. -/
structure Distance (near : Fragment → Fragment → Prop) (start : List Fragment) (g : Fragment) (n : Nat) :
    Prop where
  walk : ∃ s ∈ start, Walk near s n g
  shortest : ∀ s ∈ start, ∀ m, Walk near s m g → n ≤ m

section Walks

variable {near : Fragment → Fragment → Prop} {start : List Fragment}

theorem walk_zero {f g : Fragment} : Walk near f 0 g ↔ g = f := by
  constructor
  · intro w
    cases w
    rfl
  · rintro rfl
    exact .here

theorem walk_succ {f h : Fragment} {n : Nat} : Walk near f (n + 1) h ↔ ∃ g, Walk near f n g ∧ near g h := by
  constructor
  · intro w
    cases w with
    | step w hgh => exact ⟨_, w, hgh⟩
  · rintro ⟨g, w, hgh⟩
    exact .step w hgh

theorem Distance.unique {g : Fragment} {m n : Nat} (hm : Distance near start g m) (hn : Distance near start g n) :
    m = n := by
  obtain ⟨s, hs, w⟩ := hm.walk
  obtain ⟨s', hs', w'⟩ := hn.walk
  exact Nat.le_antisymm (hm.shortest s' hs' n w') (hn.shortest s hs m w)

/-- What is reached by a walk has a distance, and no greater one. -/
theorem exists_distance {s g : Fragment} {n : Nat} (hs : s ∈ start) (w : Walk near s n g) :
    ∃ m ≤ n, Distance near start g m := by
  classical
  have h : ∃ m, ∃ s ∈ start, Walk near s m g := ⟨n, s, hs, w⟩
  refine ⟨Nat.find h, Nat.find_min' h ⟨s, hs, w⟩, Nat.find_spec h, fun s' hs' m w' => ?_⟩
  exact Nat.find_min' h ⟨s', hs', w'⟩

/-- With more steps to choose from, the walks are still there. -/
theorem Walk.mono {near' : Fragment → Fragment → Prop} (hnear : ∀ f g, near f g → near' f g) {f g : Fragment} {n : Nat}
    (w : Walk near f n g) : Walk near' f n g := by
  induction w with
  | here => exact .here
  | step _ hgh ih => exact .step ih (hnear _ _ hgh)

/-- With more steps to choose from, no distance grows. -/
theorem Distance.mono {near' : Fragment → Fragment → Prop} (hnear : ∀ f g, near f g → near' f g) {g : Fragment}
    {n : Nat} (h : Distance near start g n) : ∃ m ≤ n, Distance near' start g m := by
  obtain ⟨s, hs, w⟩ := h.walk
  exact exists_distance hs (w.mono hnear)

theorem distance_zero {g : Fragment} : Distance near start g 0 ↔ g ∈ start := by
  constructor
  · intro h
    obtain ⟨s, hs, w⟩ := h.walk
    rw [walk_zero.mp w]
    exact hs
  · intro h
    exact ⟨⟨g, h, .here⟩, fun _ _ _ _ => Nat.zero_le _⟩

/-- Distances depend on the members of the start only. -/
theorem distance_congr {start' : List Fragment} (h : ∀ s, s ∈ start' ↔ s ∈ start) {g : Fragment} {n : Nat} :
    Distance near start' g n ↔ Distance near start g n := by
  constructor
  · rintro ⟨⟨s, hs, w⟩, hshort⟩
    exact ⟨⟨s, (h s).mp hs, w⟩, fun s' hs' => hshort s' ((h s').mpr hs')⟩
  · rintro ⟨⟨s, hs, w⟩, hshort⟩
    exact ⟨⟨s, (h s).mpr hs, w⟩, fun s' hs' => hshort s' ((h s').mp hs')⟩

/-- **One step further**: at distance `d + 1` are the neighbours of what is at distance `d`, less what is at
a smaller distance. -/
theorem distance_succ {g : Fragment} {d : Nat} :
    Distance near start g (d + 1) ↔
      (∃ f, Distance near start f d ∧ near f g) ∧ ∀ m ≤ d, ¬ Distance near start g m := by
  constructor
  · intro h
    refine ⟨?_, fun m hm hd => ?_⟩
    · obtain ⟨s, hs, w⟩ := h.walk
      obtain ⟨f, w', hfg⟩ := walk_succ.mp w
      refine ⟨f, ⟨⟨s, hs, w'⟩, fun s' hs' m w'' => ?_⟩, hfg⟩
      exact Nat.le_of_succ_le_succ (h.shortest s' hs' (m + 1) (.step w'' hfg))
    · have := hd.unique h
      omega
  · rintro ⟨⟨f, hf, hfg⟩, hnot⟩
    obtain ⟨s, hs, w⟩ := hf.walk
    refine ⟨⟨s, hs, .step w hfg⟩, fun s' hs' m w' => ?_⟩
    obtain ⟨k, hkm, hk⟩ := exists_distance hs' w'
    have : ¬ k ≤ d := fun hkd => hnot k hkd hk
    omega

end Walks

/-! ## 2. Adding what is new -/

/-- Fragments among which no two have one id. -/
def Apart (known : Fragment → Prop) : Prop := ∀ f g, known f → known g → f.id = g.id → f = g

theorem reach_eq (d : Nat) (found : List Reached) (f : Fragment) :
    ((∃ r ∈ found, r.fragment.id = f.id) ∧ reach d found f = found) ∨
      ((∀ r ∈ found, r.fragment.id ≠ f.id) ∧ reach d found f = found ++ [⟨f, d⟩]) := by
  unfold reach
  cases h : found.any (·.fragment.id = f.id) with
  | true =>
      obtain ⟨r, hr, e⟩ := List.any_eq_true.mp h
      exact Or.inl ⟨⟨r, hr, of_decide_eq_true e⟩, rfl⟩
  | false =>
      refine Or.inr ⟨fun r hr e => ?_, rfl⟩
      have := List.any_eq_false.mp h r hr
      exact this (decide_eq_true e)

/-- What a list of fragments adds to what was found: those of its fragments that are new, at the given depth
and behind the others. -/
structure Adds (d : Nat) (cs : List Fragment) (found new : List Reached) : Prop where
  result : cs.foldl (reach d) found = found ++ new
  depth : ∀ r ∈ new, r.depth = d
  source : ∀ r ∈ new, r.fragment ∈ cs
  fresh : ∀ r ∈ new, ∀ r' ∈ found, r'.fragment.id ≠ r.fragment.id
  /-- Afterwards every id of the list has been found. -/
  all : ∀ f ∈ cs, ∃ r ∈ found ++ new, r.fragment.id = f.id
  once : (found.map (·.fragment.id)).Nodup → ((found ++ new).map (·.fragment.id)).Nodup

theorem Adds.nil (d : Nat) (found : List Reached) : Adds d [] found [] where
  result := (List.append_nil found).symm
  depth := fun _ h => absurd h List.not_mem_nil
  source := fun _ h => absurd h List.not_mem_nil
  fresh := fun _ h => absurd h List.not_mem_nil
  all := fun _ h => absurd h List.not_mem_nil
  once := fun h => by rw [List.append_nil]; exact h

section Adding

variable {d : Nat} {f : Fragment} {cs : List Fragment} {found new : List Reached}

/-- A fragment that was reached before adds nothing. -/
theorem Adds.cons_found (a : Adds d cs found new) (hf : ∃ r ∈ found, r.fragment.id = f.id)
    (h : reach d found f = found) : Adds d (f :: cs) found new where
  result := by rw [List.foldl_cons, h, a.result]
  depth := a.depth
  source := fun r hr => List.mem_cons_of_mem _ (a.source r hr)
  fresh := a.fresh
  all := by
    intro g hg
    rcases List.mem_cons.mp hg with rfl | hg
    · obtain ⟨r, hr, e⟩ := hf
      exact ⟨r, List.mem_append_left _ hr, e⟩
    · exact a.all g hg
  once := a.once

/-- Any other fragment is added before those that come after it. -/
theorem Adds.cons_new (a : Adds d cs (found ++ [⟨f, d⟩]) new) (hf : ∀ r ∈ found, r.fragment.id ≠ f.id)
    (h : reach d found f = found ++ [⟨f, d⟩]) : Adds d (f :: cs) found (⟨f, d⟩ :: new) where
  result := by rw [List.foldl_cons, h, a.result, List.append_assoc, List.singleton_append]
  depth := by
    intro r hr
    rcases List.mem_cons.mp hr with rfl | hr
    · rfl
    · exact a.depth r hr
  source := by
    intro r hr
    rcases List.mem_cons.mp hr with rfl | hr
    · exact List.mem_cons_self
    · exact List.mem_cons_of_mem _ (a.source r hr)
  fresh := by
    intro r hr r' hr'
    rcases List.mem_cons.mp hr with rfl | hr
    · exact hf r' hr'
    · exact a.fresh r hr r' (List.mem_append_left _ hr')
  all := by
    intro g hg
    rw [← List.singleton_append, ← List.append_assoc]
    rcases List.mem_cons.mp hg with rfl | hg
    · exact ⟨⟨g, d⟩, by simp, rfl⟩
    · exact a.all g hg
  once := by
    intro hn
    rw [← List.singleton_append, ← List.append_assoc]
    refine a.once ?_
    rw [List.map_append, List.nodup_append]
    refine ⟨hn, List.nodup_singleton _, fun i hi j hj => ?_⟩
    obtain ⟨r, hr, rfl⟩ := List.mem_map.mp hi
    rw [List.mem_singleton.mp hj]
    exact hf r hr

theorem exists_adds (d : Nat) (cs : List Fragment) : ∀ found : List Reached, ∃ new, Adds d cs found new := by
  induction cs with
  | nil => exact fun found => ⟨[], .nil d found⟩
  | cons f cs ih =>
      intro found
      rcases reach_eq d found f with ⟨hf, h⟩ | ⟨hf, h⟩
      · obtain ⟨new, a⟩ := ih found
        exact ⟨new, a.cons_found hf h⟩
      · obtain ⟨new, a⟩ := ih (found ++ [⟨f, d⟩])
        exact ⟨⟨f, d⟩ :: new, a.cons_new hf h⟩

/-- Among fragments that are apart, those of the list are added that were not found before. -/
theorem Adds.mem_iff {known : Fragment → Prop} (a : Adds d cs found new) (hk : Apart known)
    (hcs : ∀ f ∈ cs, known f) (hfound : ∀ r ∈ found, known r.fragment) (g : Fragment) :
    ⟨g, d⟩ ∈ new ↔ g ∈ cs ∧ ∀ r ∈ found, r.fragment ≠ g := by
  constructor
  · intro hg
    exact ⟨a.source _ hg, fun r hr e => a.fresh _ hg r hr (congrArg Fragment.id e)⟩
  · rintro ⟨hg, hnew⟩
    obtain ⟨r, hr, e⟩ := a.all g hg
    rcases List.mem_append.mp hr with hr | hr
    · exact absurd (hk _ _ (hfound r hr) (hcs g hg) e) (hnew r hr)
    · have hrg : r.fragment = g := hk _ _ (hcs _ (a.source r hr)) (hcs g hg) e
      rw [← hrg, ← a.depth r hr]
      exact hr

end Adding

/-! ## 3. Levels -/

/-- The state of the expansion after `d` levels. -/
structure Level (next : Fragment → List Fragment) (start : List Fragment) (d : Nat) (frontier : List Fragment)
    (found : List Reached) : Prop where
  /-- Found are the fragments at distance `d` or less. -/
  exact : ∀ g n, ⟨g, n⟩ ∈ found ↔ Distance (fun f g => g ∈ next f) start g n ∧ n ≤ d
  /-- In the frontier are those at distance `d`. -/
  front : ∀ g, g ∈ frontier ↔ Distance (fun f g => g ∈ next f) start g d
  once : (found.map (·.fragment.id)).Nodup
  ordered : found.Pairwise fun a b => a.depth ≤ b.depth

section Levels

variable {known : Fragment → Prop} {next : Fragment → List Fragment} {start : List Fragment}

theorem Level.depth_le {d : Nat} {frontier : List Fragment} {found : List Reached}
    (l : Level next start d frontier found) : ∀ r ∈ found, r.depth ≤ d :=
  fun r hr => ((l.exact r.fragment r.depth).mp hr).2

/-- Whatever is reached from known fragments is known. -/
theorem known_of_distance (hnext : ∀ f, known f → ∀ g ∈ next f, known g) (hstart : ∀ s ∈ start, known s)
    {g : Fragment} {n : Nat} (h : Distance (fun f g => g ∈ next f) start g n) : known g := by
  obtain ⟨s, hs, w⟩ := h.walk
  clear h
  induction w with
  | here => exact hstart _ hs
  | step _ hgh ih => exact hnext _ ih _ hgh

theorem Level.all_known (hnext : ∀ f, known f → ∀ g ∈ next f, known g) (hstart : ∀ s ∈ start, known s)
    {d : Nat} {frontier : List Fragment} {found : List Reached} (l : Level next start d frontier found) :
    ∀ r ∈ found, known r.fragment :=
  fun r hr => known_of_distance hnext hstart ((l.exact r.fragment r.depth).mp hr).1

/-- The fragments at which an expansion begins: of those given, the first one of each id. -/
def roots (start : List Fragment) : List Fragment := (start.foldl (reach 0) []).map (·.fragment)

theorem nodup_roots (start : List Fragment) : ((roots start).map (·.id)).Nodup := by
  obtain ⟨new, a⟩ := exists_adds 0 start []
  have hn := a.once List.nodup_nil
  unfold roots
  rw [a.result, List.map_map]
  exact hn

/-- Of fragments that are apart, all are roots. -/
theorem mem_roots (hk : Apart known) (hstart : ∀ s ∈ start, known s) (g : Fragment) : g ∈ roots start ↔ g ∈ start := by
  obtain ⟨new, a⟩ := exists_adds 0 start []
  have hnil : ∀ r ∈ ([] : List Reached), known r.fragment := fun _ h => absurd h List.not_mem_nil
  unfold roots
  rw [a.result, List.nil_append, List.mem_map]
  constructor
  · rintro ⟨r, hr, rfl⟩
    exact a.source r hr
  · intro h
    exact ⟨⟨g, 0⟩, (a.mem_iff hk hstart hnil g).mpr ⟨h, fun _ hr => absurd hr List.not_mem_nil⟩, rfl⟩

/-- The roots are level 0, whatever the start. -/
theorem level_roots (next : Fragment → List Fragment) (start : List Fragment) :
    Level next (roots start) 0 (roots start) (start.foldl (reach 0) []) := by
  obtain ⟨new, a⟩ := exists_adds 0 start []
  have hroots : roots start = new.map (·.fragment) := by
    unfold roots
    rw [a.result, List.nil_append]
  rw [hroots, a.result, List.nil_append]
  have hmem : ∀ g n, ⟨g, n⟩ ∈ new ↔ g ∈ new.map (·.fragment) ∧ n = 0 := by
    intro g n
    rw [List.mem_map]
    constructor
    · intro h
      exact ⟨⟨_, h, rfl⟩, a.depth _ h⟩
    · rintro ⟨⟨r, hr, rfl⟩, rfl⟩
      rw [← a.depth r hr]
      exact hr
  refine ⟨fun g n => ?_, fun g => distance_zero.symm, a.once List.nodup_nil, ?_⟩
  · rw [hmem g n]
    constructor
    · rintro ⟨h, rfl⟩
      exact ⟨distance_zero.mpr h, Nat.le_refl 0⟩
    · rintro ⟨h, hn⟩
      obtain rfl := Nat.le_zero.mp hn
      exact ⟨distance_zero.mp h, rfl⟩
  · exact List.pairwise_of_forall_mem_list fun r hr r' _ => by rw [a.depth r hr]; exact Nat.zero_le _

/-- The fragments from which the expansion starts are its level 0, if they are apart. -/
theorem level_zero (hk : Apart known) (hstart : ∀ s ∈ start, known s) :
    Level next start 0 (roots start) (start.foldl (reach 0) []) := by
  have hmem : ∀ s, s ∈ start ↔ s ∈ roots start := fun s => (mem_roots hk hstart s).symm
  have l := level_roots next start
  refine ⟨fun g n => ?_, fun g => ?_, l.once, l.ordered⟩
  · rw [distance_congr hmem]
    exact l.exact g n
  · rw [distance_congr hmem]
    exact l.front g

/-- **One level further**: the neighbours of the frontier, as far as they are new, are the next level. -/
theorem Level.succ (hk : Apart known) (hnext : ∀ f, known f → ∀ g ∈ next f, known g)
    (hstart : ∀ s ∈ start, known s) {d : Nat} {frontier : List Fragment} {found : List Reached}
    (l : Level next start d frontier found) :
    ∃ new, (frontier.flatMap next).foldl (reach (d + 1)) found = found ++ new ∧
      Level next start (d + 1) (new.map (·.fragment)) (found ++ new) := by
  have hcs : ∀ g ∈ frontier.flatMap next, known g := by
    intro g hg
    obtain ⟨f, hf, hfg⟩ := List.mem_flatMap.mp hg
    exact hnext f (known_of_distance hnext hstart ((l.front f).mp hf)) g hfg
  obtain ⟨new, a⟩ := exists_adds (d + 1) (frontier.flatMap next) found
  -- a neighbour of the frontier is new exactly when no smaller distance is its own
  have hmem : ∀ g, ⟨g, d + 1⟩ ∈ new ↔ Distance (fun f g => g ∈ next f) start g (d + 1) := by
    intro g
    rw [a.mem_iff hk hcs (l.all_known hnext hstart) g, distance_succ, List.mem_flatMap]
    refine and_congr ⟨?_, ?_⟩ ⟨?_, ?_⟩
    · rintro ⟨f, hf, hfg⟩
      exact ⟨f, (l.front f).mp hf, hfg⟩
    · rintro ⟨f, hf, hfg⟩
      exact ⟨f, (l.front f).mpr hf, hfg⟩
    · intro h m hm hg
      exact h ⟨g, m⟩ ((l.exact g m).mpr ⟨hg, hm⟩) rfl
    · rintro h r hr rfl
      obtain ⟨hg, hm⟩ := (l.exact r.fragment r.depth).mp hr
      exact h r.depth hm hg
  refine ⟨new, a.result, fun g n => ?_, fun g => ?_, a.once l.once, ?_⟩
  · rw [List.mem_append, l.exact g n]
    constructor
    · rintro (⟨hg, hn⟩ | h)
      · exact ⟨hg, Nat.le_succ_of_le hn⟩
      · obtain rfl : n = d + 1 := a.depth _ h
        exact ⟨(hmem g).mp h, Nat.le_refl _⟩
    · rintro ⟨hg, hn⟩
      rcases Nat.le_succ_iff.mp hn with hn | rfl
      · exact Or.inl ⟨hg, hn⟩
      · exact Or.inr ((hmem g).mpr hg)
  · rw [List.mem_map, ← hmem g]
    constructor
    · rintro ⟨r, hr, rfl⟩
      rw [← a.depth r hr]
      exact hr
    · intro h
      exact ⟨⟨g, d + 1⟩, h, rfl⟩
  · rw [List.pairwise_append]
    refine ⟨l.ordered, ?_, fun r hr r' hr' => ?_⟩
    · exact List.pairwise_of_forall_mem_list fun r hr r' hr' => by rw [a.depth r hr, a.depth r' hr']
    · rw [a.depth r' hr']
      exact Nat.le_succ_of_le (l.depth_le r hr)

/-- **The levels of a whole expansion.** -/
theorem level_widen (hk : Apart known) (hnext : ∀ f, known f → ∀ g ∈ next f, known g)
    (hstart : ∀ s ∈ start, known s) (steps : Nat) :
    ∀ (d : Nat) (frontier : List Fragment) (found : List Reached), Level next start d frontier found →
      ∃ last, Level next start (d + steps) last (widen next steps d frontier found) := by
  induction steps with
  | zero => intro d frontier found l; exact ⟨frontier, l⟩
  | succ steps ih =>
      intro d frontier found l
      obtain ⟨new, e, l'⟩ := l.succ hk hnext hstart
      obtain ⟨last, l''⟩ := ih (d + 1) _ _ l'
      refine ⟨last, ?_⟩
      rw [show d + (steps + 1) = d + 1 + steps by omega]
      simp only [widen, e, List.drop_left]
      exact l''

end Levels

/-! ## 4. One fragment at a time -/

/-- A search that takes one fragment at a time: what is still to be widened, in its order, and what was
found. -/
structure Search where
  queue : List Reached
  found : List Reached

namespace Search

/-- Takes the first member of the queue. Unless it lies at the greatest depth, those of its neighbours that
are new are found, and join the end of the queue. -/
def step (next : Fragment → List Fragment) : Search → Search
  | ⟨[], found⟩ => ⟨[], found⟩
  | ⟨r :: rest, found⟩ =>
    if maxDepth ≤ r.depth then ⟨rest, found⟩
    else
      let wider := (next r.fragment).foldl (reach (r.depth + 1)) found
      ⟨rest ++ wider.drop found.length, wider⟩

variable {next : Fragment → List Fragment}

theorem step_cons {d : Nat} {r : Reached} {rest found new : List Reached} (hd : d < maxDepth) (hr : r.depth = d)
    (e : (next r.fragment).foldl (reach (d + 1)) found = found ++ new) :
    step next ⟨r :: rest, found⟩ = ⟨rest ++ new, found ++ new⟩ := by
  have h : ¬ maxDepth ≤ d := by omega
  simp only [step, hr, if_neg h, e, List.drop_left]

/-- A level at the front of the queue is taken member by member, and the next level comes to stand behind
the rest. -/
theorem run_level {d : Nat} (hd : d < maxDepth) (level : List Reached) :
    ∀ rest found : List Reached, (∀ r ∈ level, r.depth = d) → ∃ new,
      ((level.map (·.fragment)).flatMap next).foldl (reach (d + 1)) found = found ++ new ∧
      (step next)^[level.length] ⟨level ++ rest, found⟩ = ⟨rest ++ new, found ++ new⟩ := by
  induction level with
  | nil => intro rest found _; exact ⟨[], by simp, by simp⟩
  | cons r level ih =>
      intro rest found hl
      obtain ⟨new, a⟩ := exists_adds (d + 1) (next r.fragment) found
      obtain ⟨new', e', h⟩ := ih (rest ++ new) (found ++ new) fun r' hr' => hl r' (List.mem_cons_of_mem _ hr')
      refine ⟨new ++ new', ?_, ?_⟩
      · rw [List.map_cons, List.flatMap_cons, List.foldl_append, a.result, e', List.append_assoc]
      · rw [List.length_cons, Function.iterate_succ_apply, List.cons_append,
          step_cons hd (hl r List.mem_cons_self) a.result, List.append_assoc, h, List.append_assoc, List.append_assoc]

/-- At the greatest depth the queue runs empty and nothing more is found. -/
theorem run_bound (level : List Reached) (found : List Reached) (hl : ∀ r ∈ level, r.depth = maxDepth) :
    (step next)^[level.length] ⟨level, found⟩ = ⟨[], found⟩ := by
  induction level with
  | nil => rfl
  | cons r level ih =>
      have hr : maxDepth ≤ r.depth := Nat.le_of_eq (hl r List.mem_cons_self).symm
      rw [List.length_cons, Function.iterate_succ_apply]
      simp only [step, if_pos hr]
      exact ih fun r' hr' => hl r' (List.mem_cons_of_mem _ hr')

/-- The queue comes to an end, and has then found what the levels find. -/
theorem run_widen (steps : Nat) : ∀ (d : Nat) (level found : List Reached), d + steps = maxDepth →
    (∀ r ∈ level, r.depth = d) →
    ∃ n, (step next)^[n] ⟨level, found⟩ = ⟨[], widen next steps d (level.map (·.fragment)) found⟩ := by
  induction steps with
  | zero =>
      intro d level found hd hl
      exact ⟨level.length, run_bound level found fun r hr => (hl r hr).trans hd⟩
  | succ steps ih =>
      intro d level found hd hl
      obtain ⟨new, e, h⟩ := run_level (by omega) level [] found hl
      rw [List.append_nil, List.nil_append] at h
      have hnew : ∀ r ∈ new, r.depth = d + 1 := by
        obtain ⟨new', a⟩ := exists_adds (d + 1) ((level.map (·.fragment)).flatMap next) found
        rw [a.result, List.append_cancel_left_eq] at e
        exact e ▸ a.depth
      obtain ⟨n, hn⟩ := ih (d + 1) new (found ++ new) (by omega) hnew
      refine ⟨n + level.length, ?_⟩
      rw [Function.iterate_add_apply, h, hn]
      simp only [widen, e, List.drop_left]

end Search

/-! ## 5. The expansion of an index -/

/-- `g` is one step away from `f`: a dependency, a dependent, or one of the first siblings. -/
def Neighbour (ix : Index) (f g : Fragment) : Prop :=
  g ∈ ix.dependencies f.id ∨ g ∈ ix.dependents f.id ∨ g ∈ (ix.siblings f).take siblingLimit

section Expansion

variable {ix : Index} {start : List Fragment}

theorem mem_neighbours {f g : Fragment} : g ∈ neighbours ix f ↔ Neighbour ix f g := by
  unfold neighbours Neighbour
  rw [List.mem_append, List.mem_append, or_assoc]

theorem neighbours_known {f g : Fragment} (h : g ∈ neighbours ix f) : g ∈ ix.fragments := by
  rcases mem_neighbours.mp h with h | h | h
  · exact Index.mem_dependencies h
  · exact Index.mem_dependents h
  · exact Index.mem_siblings (List.mem_of_mem_take h)

/-- Fragments with ids that are all different are apart. -/
theorem apart_of_nodup {fs : List Fragment} (h : (fs.map (·.id)).Nodup) : Apart (· ∈ fs) :=
  fun _ _ hf hg e => List.inj_on_of_nodup_map h hf hg e

/-- The expansion is its last level. -/
theorem level_expand (hk : Apart (· ∈ ix.fragments)) (hstart : ∀ s ∈ start, s ∈ ix.fragments) :
    ∃ last, Level (neighbours ix) start maxDepth last (expand ix start) := by
  have hnext : ∀ f, f ∈ ix.fragments → ∀ g ∈ neighbours ix f, g ∈ ix.fragments := fun _ _ _ h => neighbours_known h
  have h := level_widen hk hnext hstart maxDepth 0 _ _ (level_zero hk hstart)
  rw [Nat.zero_add] at h
  exact h

/-- **What the expansion finds**: the fragments within `maxDepth` steps, each at its distance. -/
theorem mem_expand_iff (hk : Apart (· ∈ ix.fragments)) (hstart : ∀ s ∈ start, s ∈ ix.fragments) (g : Fragment)
    (n : Nat) : ⟨g, n⟩ ∈ expand ix start ↔ Distance (Neighbour ix) start g n ∧ n ≤ maxDepth := by
  obtain ⟨_, l⟩ := level_expand hk hstart
  have e : (fun f g => g ∈ neighbours ix f) = Neighbour ix := by
    funext f g
    exact propext mem_neighbours
  rw [l.exact g n, e]

/-- The queue, begun with the fragments from which the expansion starts, runs empty with its result. -/
theorem run_expand (ix : Index) (start : List Fragment) :
    ∃ n, (Search.step (neighbours ix))^[n] ⟨start.foldl (reach 0) [], start.foldl (reach 0) []⟩ =
      ⟨[], expand ix start⟩ := by
  obtain ⟨new, a⟩ := exists_adds 0 start []
  refine Search.run_widen maxDepth 0 _ _ (Nat.zero_add _) ?_
  rw [a.result, List.nil_append]
  exact a.depth

end Expansion

end FragmentSearch.Proximity
