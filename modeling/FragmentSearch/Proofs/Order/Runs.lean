import FragmentSearch.Proofs.Order.Stable
import Mathlib.Data.List.SplitBy

/-!
# Runs of a list

A list is cut wherever two neighbours are not related. `splitBy_map` and the two lemmas after it say how its runs are
found from the front; `splitBy_eq_iff_parted` says what they are: the only pieces of the list that part neighbours
just where they are to be parted.
-/

namespace FragmentSearch.Cutting

variable {α β : Type} {r : α → α → Bool} {l p q : List α} {pieces : List (List α)} {a x y : α}

/-! ## 1. Runs from the front -/

theorem splitBy_map (f : β → α) (l : List β) :
    (l.map f).splitBy r = (l.splitBy fun x y => r (f x) (f y)).map (List.map f) := by
  rw [List.splitBy_eq_iff]
  refine ⟨?_, ?_, ?_, ?_⟩
  · rw [← List.map_flatten, List.flatten_splitBy]
  · intro h
    obtain ⟨p, hp, he⟩ := List.mem_map.mp h
    exact List.ne_nil_of_mem_splitBy hp (List.map_eq_nil_iff.mp he)
  · intro q hq
    obtain ⟨p, hp, rfl⟩ := List.mem_map.mp hq
    exact (List.isChain_map f).mpr (List.isChain_of_mem_splitBy hp)
  · refine (List.isChain_map _).mpr ((List.isChain_getLast_head_splitBy _ l).imp ?_)
    rintro p q ⟨hp, hq, hcut⟩
    exact ⟨List.map_eq_nil_iff.not.mpr hp, List.map_eq_nil_iff.not.mpr hq, by rwa [List.getLast_map, List.head_map]⟩

/-- A member that is not related to the next one is a run by itself. -/
theorem splitBy_cons_of_cut (h : ∀ y ∈ l.head?, r a y = false) : (a :: l).splitBy r = [a] :: l.splitBy r := by
  have hsplit : ([a] ++ l).splitBy r = [a].splitBy r ++ l.splitBy r :=
    List.splitBy_append fun x hx y hy => by
      cases hx
      exact h y hy
  rwa [List.splitBy_of_isChain (List.cons_ne_nil a []) (List.isChain_singleton a)] at hsplit

/-- A member that is related to the next one joins its run. -/
theorem splitBy_cons_of_joined (hjoined : ∀ y ∈ l.head?, r a y = true) (h : l.splitBy r = p :: pieces) :
    (a :: l).splitBy r = (a :: p) :: pieces := by
  obtain ⟨hflat, hne, hruns, hcuts⟩ := List.splitBy_eq_iff.mp h
  obtain ⟨hp, hpieces⟩ := List.forall_mem_cons.mp hruns
  have hpne : p ≠ [] := fun e => hne (e ▸ List.mem_cons_self)
  have hhead : ∀ y ∈ p.head?, r a y = true := by
    intro y hy
    refine hjoined y ?_
    rwa [hflat, List.flatten_cons, List.head?_append_of_ne_nil _ hpne]
  rw [List.splitBy_eq_iff]
  refine ⟨congrArg (a :: ·) hflat, ?_, ?_, ?_⟩
  · intro hmem
    exact hne (List.mem_cons_of_mem p ((List.mem_cons.mp hmem).resolve_left (List.cons_ne_nil a p).symm))
  · exact List.forall_mem_cons.mpr ⟨List.isChain_cons.mpr ⟨hhead, hp⟩, hpieces⟩
  · obtain ⟨hnext, hrest⟩ := List.isChain_cons.mp hcuts
    refine List.isChain_cons.mpr ⟨fun q hq => ?_, hrest⟩
    obtain ⟨_, hqne, hcut⟩ := hnext q hq
    exact ⟨List.cons_ne_nil a p, hqne, by rwa [List.getLast_cons hpne]⟩

/-! ## 2. What the runs are -/

/-- Do `x` and `y` stand in no piece together? -/
def Parted (pieces : List (List α)) (x y : α) : Prop := ∀ p ∈ pieces, x ∈ p → y ∉ p

/-- In a chain any two neighbours are related. -/
theorem isChain_iff_neighbours {R : α → α → Prop} : l.IsChain R ↔ ∀ x y, [x, y] <:+: l → R x y := by
  constructor
  · intro h x y hxy
    have hpair : [x, y].IsChain R := List.IsChain.infix h hxy
    exact List.isChain_pair.mp hpair
  · intro h
    exact (List.isChain_isInfix l).imp fun x y => h x y

theorem disjoint_of_sublist (hn : pieces.flatten.Nodup) (h : [p, q].Sublist pieces) : p.Disjoint q :=
  List.pairwise_iff_forall_sublist.mp (List.nodup_flatten.mp hn).2 h

/-- Of pieces without repetition only one holds a member. -/
theorem eq_of_mem_pieces (hn : pieces.flatten.Nodup) (hp : p ∈ pieces) (hq : q ∈ pieces) (hxp : x ∈ p) (hxq : x ∈ q) :
    p = q := by
  by_contra hne
  rcases Stable.pair_sublist hp hq hne with h | h
  · exact disjoint_of_sublist hn h hxp hxq
  · exact disjoint_of_sublist hn h hxq hxp

/-- What ends a piece is parted from what starts the next one. -/
theorem parted_getLast_head (hn : pieces.flatten.Nodup) (hpq : [p, q] <:+: pieces) (hp : p ≠ []) (hq : q ≠ []) :
    Parted pieces (p.getLast hp) (q.head hq) := by
  intro piece hpiece hlast hhead
  have hmem : p ∈ pieces := hpq.subset List.mem_cons_self
  obtain rfl : p = piece := eq_of_mem_pieces hn hmem hpiece (List.getLast_mem hp) hlast
  exact disjoint_of_sublist hn hpq.sublist hhead (List.head_mem hq)

/-- **The runs of a list without repetition** are the only pieces that part neighbours just where they are to be
parted. -/
theorem splitBy_eq_iff_parted (hn : l.Nodup) :
    l.splitBy r = pieces ↔
      pieces.flatten = l ∧ [] ∉ pieces ∧ ∀ x y, [x, y] <:+: l → (Parted pieces x y ↔ r x y = false) := by
  rw [List.splitBy_eq_iff, eq_comm]
  refine and_congr_right fun hflat => and_congr_right fun hne => ?_
  rw [← isChain_iff_neighbours, ← hflat, List.isChain_flatten hne]
  rw [← hflat] at hn
  -- two neighbours stand in one piece or in two that follow each other
  refine and_congr (forall₂_congr fun p hp => List.IsChain.iff_of_mem_imp fun x y hx hy => ?_) ?_
  · have htogether : ¬ Parted pieces x y := fun h => h p hp hx hy
    rw [iff_false_left htogether, Bool.not_eq_false]
  · rw [isChain_iff_neighbours, isChain_iff_neighbours]
    refine forall₂_congr fun p q => forall_congr' fun hpq => ?_
    have hp : p ≠ [] := fun e => hne (e ▸ hpq.subset List.mem_cons_self)
    have hq : q ≠ [] := fun e => hne (e ▸ hpq.subset (List.mem_cons_of_mem p List.mem_cons_self))
    have hparted := parted_getLast_head hn hpq hp hq
    rw [List.getLast?_eq_some_getLast hp, List.head?_eq_some_head hq]
    constructor
    · rintro ⟨_, _, hcut⟩ x hx y hy
      cases hx
      cases hy
      exact iff_of_true hparted hcut
    · intro h
      exact ⟨hp, hq, (h _ rfl _ rfl).mp hparted⟩

end FragmentSearch.Cutting
