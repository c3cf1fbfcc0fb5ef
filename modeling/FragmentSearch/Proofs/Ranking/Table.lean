import FragmentSearch.Index.Basic
import FragmentSearch.Proofs.Decimal.Order
import FragmentSearch.Proofs.Order.Stable
import FragmentSearch.Ranking.ScoreTable
import Mathlib.Data.List.Nodup
import Mathlib.Data.List.Perm.Basic

/-!
# Score tables: one entry for each id, and the best of them first

* `ids_adjust` -- entering a fragment appends its id or leaves the ids as they are, so no id comes to stand
  in a table twice (`nodup_adjust`);
* `Arranged t r` -- `r` holds the entries of `t` by scores that do not increase, entries of equal score in the
  order of `t`; there is only one such list (`Arranged.unique`);
* `arranged_sorted` -- as long as every score is a number, sorting a table arranges it;
* `Records ix t` -- the table `t` holds fragments of the index, each id once. Entering a fragment of the index
  keeps this (`Records.adjust`).
-/

namespace FragmentSearch

open FragmentSearch.Decimal

namespace ScoreTable

/-! ## 1. Entries -/

section Entries

variable {α : Type}

/-- The ids of a table in order of entry. -/
def ids (t : ScoreTable α) : List String := t.map (·.fragment.id)

theorem adjust_of_not_mem {f : Fragment} {t : ScoreTable α} (g : Option α → α) (h : f.id ∉ ids t) :
    adjust f g t = t ++ [⟨f, g none⟩] := by
  induction t with
  | nil => rfl
  | cons e t ih =>
      have hne : ¬ e.fragment.id = f.id := fun e' => h (List.mem_cons.mpr (Or.inl e'.symm))
      have ht : f.id ∉ ids t := fun h' => h (List.mem_cons_of_mem _ h')
      rw [adjust, if_neg hne, ih ht, List.cons_append]

/-- Of an id that stands in a table once, the score is changed in its place. -/
theorem adjust_of_mem {f : Fragment} {t : ScoreTable α} (g : Option α → α) (hn : (ids t).Nodup) (h : f.id ∈ ids t) :
    adjust f g t = t.map fun e => if e.fragment.id = f.id then { e with score := g (some e.score) } else e := by
  induction t with
  | nil => exact absurd h List.not_mem_nil
  | cons e t ih =>
      obtain ⟨he, hn'⟩ := List.nodup_cons.mp hn
      by_cases hef : e.fragment.id = f.id
      · have hrest : ∀ e' ∈ t, e'.fragment.id ≠ f.id := by
          intro e' he' h'
          exact he (List.mem_map.mpr ⟨e', he', h'.trans hef.symm⟩)
        rw [adjust, if_pos hef, List.map_cons, if_pos hef]
        congr 1
        refine (List.map_id' t).symm.trans (List.map_congr_left fun e' he' => ?_)
        rw [if_neg (hrest e' he')]
      · have ht : f.id ∈ ids t := (List.mem_cons.mp h).resolve_left fun e' => hef e'.symm
        rw [adjust, if_neg hef, List.map_cons, if_neg hef, ih hn' ht]

theorem ids_adjust (f : Fragment) (g : Option α → α) (t : ScoreTable α) :
    ids (adjust f g t) = if f.id ∈ ids t then ids t else ids t ++ [f.id] := by
  induction t with
  | nil => rfl
  | cons e t ih =>
      by_cases hef : e.fragment.id = f.id
      · have : f.id ∈ ids (e :: t) := List.mem_cons.mpr (Or.inl hef.symm)
        rw [adjust, if_pos hef, if_pos this]
        rfl
      · have hmem : f.id ∈ ids (e :: t) ↔ f.id ∈ ids t :=
          List.mem_cons.trans ⟨fun h => h.resolve_left fun e' => hef e'.symm, Or.inr⟩
        rw [adjust, if_neg hef]
        show e.fragment.id :: ids (adjust f g t) = _
        rw [ih]
        by_cases ht : f.id ∈ ids t
        · rw [if_pos ht, if_pos (hmem.mpr ht)]
          rfl
        · rw [if_neg ht, if_neg fun h => ht (hmem.mp h)]
          rfl

theorem mem_ids_adjust {f : Fragment} {g : Option α → α} {t : ScoreTable α} {id : String} :
    id ∈ ids (adjust f g t) ↔ id ∈ ids t ∨ f.id = id := by
  rw [ids_adjust]
  split
  · next hf => exact ⟨Or.inl, fun h => h.elim (fun h => h) fun e => e ▸ hf⟩
  · rw [List.mem_append, List.mem_singleton, eq_comm]

theorem nodup_adjust {f : Fragment} {g : Option α → α} {t : ScoreTable α} (h : (ids t).Nodup) :
    (ids (adjust f g t)).Nodup := by
  rw [ids_adjust]
  split
  · exact h
  · rename_i hf
    rw [List.nodup_append]
    refine ⟨h, List.nodup_singleton _, fun i hi j hj => ?_⟩
    rw [List.mem_singleton.mp hj]
    rintro rfl
    exact hf hi

/-- A table holds no other fragments than those that were entered. -/
theorem fragment_of_mem_adjust {f : Fragment} {g : Option α → α} {t : ScoreTable α} {e : Scored α}
    (h : e ∈ adjust f g t) : e.fragment = f ∨ ∃ e' ∈ t, e'.fragment = e.fragment := by
  induction t with
  | nil => exact Or.inl (congrArg Scored.fragment (List.mem_singleton.mp h))
  | cons e₀ t ih =>
      rw [adjust] at h
      split at h
      · rcases List.mem_cons.mp h with rfl | h
        · exact Or.inr ⟨e₀, List.mem_cons_self, rfl⟩
        · exact Or.inr ⟨e, List.mem_cons_of_mem _ h, rfl⟩
      · rcases List.mem_cons.mp h with rfl | h
        · exact Or.inr ⟨e, List.mem_cons_self, rfl⟩
        · rcases ih h with h' | ⟨e', he', h'⟩
          · exact Or.inl h'
          · exact Or.inr ⟨e', List.mem_cons_of_mem _ he', h'⟩

/-- Entering fragments of different new ids appends them in their order. -/
theorem foldl_put_eq {β : Type} (fragment : β → Fragment) (score : β → α) (xs : List β) : ∀ t : ScoreTable α,
    (t.ids ++ xs.map fun x => (fragment x).id).Nodup →
    xs.foldl (fun t x => t.put (fragment x) (score x)) t = t ++ xs.map fun x => ⟨fragment x, score x⟩ := by
  induction xs with
  | nil => intro t _; exact (List.append_nil t).symm
  | cons x xs ih =>
      intro t h
      have hx : (fragment x).id ∉ t.ids := by
        intro hx
        exact (List.nodup_append.mp h).2.2 _ hx _ List.mem_cons_self rfl
      have e : t.put (fragment x) (score x) = t ++ [⟨fragment x, score x⟩] := adjust_of_not_mem _ hx
      have hids : (t ++ [(⟨fragment x, score x⟩ : Scored α)]).ids = t.ids ++ [(fragment x).id] := List.map_append
      rw [List.foldl_cons, e, ih, List.append_assoc]
      · rfl
      · rw [hids, List.append_assoc]
        exact h

/-- Of an empty table there is no best part. -/
theorem best_nil [Score α] (limit : Int) : best limit ([] : ScoreTable α) = [] := by
  rw [best, sorted, List.mergeSort_nil, List.take_nil]

/-- A smaller limit gives the beginning of the same result. -/
theorem best_take [Score α] {m n : Int} (h : m ≤ n) (t : ScoreTable α) : best m t = (best n t).take m.toNat := by
  have : m.toNat ≤ n.toNat := by omega
  rw [best, best, List.take_take, Nat.min_eq_left this]

end Entries

/-! ## 2. Arrangement -/

section Arrangement

/-- In an arrangement of `t` the entry `a` belongs before `b`: its score is greater, or it is equal and `a`
entered the table first. -/
def Before (t : ScoreTable Float) (a b : Scored Float) : Prop :=
  b.score < a.score ∨ (a.score == b.score) = true ∧ [a, b].Sublist t

/-- `r` is the table `t` arranged by scores that do not increase, equal scores in order of entry. -/
structure Arranged (t r : ScoreTable Float) : Prop where
  perm : r.Perm t
  ordered : r.Pairwise (Before t)

/-- The scores of a table are numbers. -/
def HasNumbers (t : ScoreTable Float) : Prop := ∀ e ∈ t, e.score.isNaN = false

variable {t : ScoreTable Float}

/-- No two entries belong before each other. -/
theorem Before.antisymm (hnum : HasNumbers t) (hn : t.Nodup) {a b : Scored Float} (ha : a ∈ t) (hb : b ∈ t)
    (hab : Before t a b) (hba : Before t b a) : a = b := by
  unfold Before at hab hba
  rw [float_lt_iff (hnum b hb) (hnum a ha), float_beq_iff (hnum a ha) (hnum b hb)] at hab
  rw [float_lt_iff (hnum a ha) (hnum b hb), float_beq_iff (hnum b hb) (hnum a ha)] at hba
  rcases hab with hab | ⟨hab, sab⟩
  · rcases hba with hba | ⟨hba, _⟩
    · exact absurd hba (Magnitude.not_less_or.resolve_right (not_not.mpr hab))
    · exact absurd hba hab.not_same
  · rcases hba with hba | ⟨_, sba⟩
    · exact absurd hab hba.not_same
    · exact absurd sba (Stable.not_sublist_swap hn sab)

/-- **A table has one arrangement only.** -/
theorem Arranged.unique (hnum : HasNumbers t) (hn : t.Nodup) {r r' : ScoreTable Float} (h : Arranged t r)
    (h' : Arranged t r') : r = r' := by
  refine List.Perm.eq_of_pairwise (fun a b ha hb => ?_) h.ordered h'.ordered (h.perm.trans h'.perm.symm)
  exact Before.antisymm hnum hn (h.perm.mem_iff.mp ha) (h'.perm.mem_iff.mp hb)

/-- The comparison by which a table is sorted, on the integers of the scores. -/
def notLess (a b : Scored Float) : Bool := !decide ((magnitude a.score).Less (magnitude b.score))

theorem notLess_iff {a b : Scored Float} : notLess a b = true ↔ ¬ (magnitude a.score).Less (magnitude b.score) := by
  unfold notLess
  rw [Bool.not_eq_true', decide_eq_false_iff_not]

theorem notLess_trans (a b c : Scored Float) (hab : notLess a b = true) (hbc : notLess b c = true) :
    notLess a c = true :=
  notLess_iff.mpr (Magnitude.not_less_trans (notLess_iff.mp hab) (notLess_iff.mp hbc))

theorem notLess_total (a b : Scored Float) : (notLess a b || notLess b a) = true := by
  rw [Bool.or_eq_true, notLess_iff, notLess_iff]
  exact Magnitude.not_less_or

/-- On a table of numbers the comparison of scores is that of their integers. -/
theorem sorted_eq (hnum : HasNumbers t) : sorted t = t.mergeSort notLess := by
  have h := List.map_mergeSort (r := fun a b : Scored Float => !(decide (a.score < b.score))) (s := notLess) (f := id)
    (l := t) fun a ha b hb => congrArg Bool.not (decide_eq_decide.mpr (float_lt_iff (hnum a ha) (hnum b hb)))
  rw [List.map_id, List.map_id] at h
  exact h

/-- **Sorting arranges a table of numbers.** -/
theorem arranged_sorted (hnum : HasNumbers t) (hn : t.Nodup) : Arranged t (sorted t) := by
  rw [sorted_eq hnum]
  have hperm := List.mergeSort_perm t notLess
  refine ⟨hperm, (Stable.pairwise_mergeSort notLess_trans notLess_total hn).imp_of_mem fun {a b} ha hb hab => ?_⟩
  obtain ⟨hle, hstable⟩ := hab
  have ha' := hnum a (hperm.mem_iff.mp ha)
  have hb' := hnum b (hperm.mem_iff.mp hb)
  unfold Before
  rw [float_lt_iff hb' ha', float_beq_iff ha' hb']
  rcases Magnitude.less_or_same (notLess_iff.mp hle) with hlt | hsame
  · exact Or.inl hlt
  · exact Or.inr ⟨hsame, hstable (notLess_iff.mpr hsame.not_less.2)⟩

end Arrangement

end ScoreTable

/-! ## 3. Tables of records -/

/-- The entries of a score table are fragments of the index, each id once. -/
structure Records {α : Type} (ix : Index) (t : ScoreTable α) : Prop where
  once : t.ids.Nodup
  known : ∀ e ∈ t, e.fragment ∈ ix.fragments

namespace Records

variable {α : Type} {ix : Index} {t : ScoreTable α}

theorem nil : Records ix ([] : ScoreTable α) := ⟨List.nodup_nil, fun _ h => absurd h List.not_mem_nil⟩

theorem adjust (h : Records ix t) {f : Fragment} (hf : f ∈ ix.fragments) (g : Option α → α) :
    Records ix (t.adjust f g) := by
  refine ⟨ScoreTable.nodup_adjust h.once, fun e he => ?_⟩
  rcases ScoreTable.fragment_of_mem_adjust he with e' | ⟨e₀, he₀, e'⟩
  · rw [e']
    exact hf
  · rw [← e']
    exact h.known e₀ he₀

/-- What is taken from a table, in whatever order, holds no other fragments and no id twice. -/
theorem of_subperm {r : ScoreTable α} (h : Records ix t) (hr : r.Subperm t) : Records ix r := by
  obtain ⟨l, hp, hs⟩ := hr
  refine ⟨(hp.map _).nodup_iff.mp (h.once.sublist (hs.map _)), fun e he => ?_⟩
  exact h.known e (hs.subset (hp.mem_iff.mpr he))

theorem best [Score α] (h : Records ix t) (limit : Int) : Records ix (t.best limit) := by
  have hp : (ScoreTable.sorted t).Perm t := List.mergeSort_perm _ _
  exact h.of_subperm ((List.take_sublist _ _).subperm.trans hp.subperm)

/-- Folding steps each of which keeps a table of records. -/
theorem foldl {β : Type} {step : ScoreTable α → β → ScoreTable α} (xs : List β)
    (hstep : ∀ t x, x ∈ xs → Records ix t → Records ix (step t x)) : ∀ {t}, Records ix t →
    Records ix (xs.foldl step t) := by
  induction xs with
  | nil => intro t h; exact h
  | cons x xs ih =>
      intro t h
      exact ih (fun t x hx => hstep t x (List.mem_cons_of_mem _ hx)) (hstep t x List.mem_cons_self h)

end Records

end FragmentSearch
