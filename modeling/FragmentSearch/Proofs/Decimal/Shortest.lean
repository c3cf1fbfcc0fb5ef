import FragmentSearch.Decimal.Shortest
import Mathlib.Algebra.GroupWithZero.Nat

/-!
# The digits of a positive number

A positive number is not written as zero. Its digits are tried from one to seventeen, and those that read back as the
number are never zero; and if none did, the last ones tried were nearest to more than a hundred thousand billions of
their unit, since the decimal exponent is found closely enough.

* `Reached` -- the powers of ten that a fraction reaches;
* `reached_decimalExponent` -- sixteen below the exponent that is found there is a power that is reached;
* `shortest_pos` -- so the digits of a positive number are not zero.
-/

namespace FragmentSearch.Decimal

/-! ## 1. Powers of ten and of two -/

/-- The fraction `num / den` is at least `10^p`. -/
def Reached (num den : Nat) (p : Int) : Prop := den * 10 ^ p.toNat ≤ num * 10 ^ (-p).toNat

section Powers

variable {num den : Nat}

/-- Smaller powers are reached too. -/
theorem Reached.of_le {p p' : Int} (h : Reached num den p) (hp : p' ≤ p) : Reached num den p' := by
  have hpos : den * 10 ^ p'.toNat ≤ den * 10 ^ p.toNat :=
    Nat.mul_le_mul_left den (Nat.pow_le_pow_right (by decide) (by omega))
  have hneg : num * 10 ^ (-p).toNat ≤ num * 10 ^ (-p').toNat :=
    Nat.mul_le_mul_left num (Nat.pow_le_pow_right (by decide) (by omega))
  exact Nat.le_trans hpos (Nat.le_trans h hneg)

/-- As `10^3 ≤ 2^10`. -/
theorem ten_pow_le_two_pow {a b : Nat} (h : 10 * a ≤ 3 * b) : 10 ^ a ≤ 2 ^ b := by
  refine (Nat.pow_le_pow_iff_left (n := 10) (by decide)).mp ?_
  calc (10 ^ a) ^ 10 = 10 ^ (10 * a) := by rw [← Nat.pow_mul, Nat.mul_comm]
    _ ≤ 10 ^ (3 * b) := Nat.pow_le_pow_right (by decide) h
    _ = (10 ^ 3) ^ b := Nat.pow_mul ..
    _ ≤ (2 ^ 10) ^ b := Nat.pow_le_pow_left (by decide) b
    _ = (2 ^ b) ^ 10 := by rw [← Nat.pow_mul, ← Nat.pow_mul, Nat.mul_comm]

/-- As `2^13 ≤ 10^4`. -/
theorem two_pow_le_ten_pow {a b : Nat} (h : 4 * b ≤ 13 * a) : 2 ^ b ≤ 10 ^ a := by
  refine (Nat.pow_le_pow_iff_left (n := 13) (by decide)).mp ?_
  calc (2 ^ b) ^ 13 = (2 ^ 13) ^ b := by rw [← Nat.pow_mul, ← Nat.pow_mul, Nat.mul_comm]
    _ ≤ (10 ^ 4) ^ b := Nat.pow_le_pow_left (by decide) b
    _ = 10 ^ (4 * b) := (Nat.pow_mul ..).symm
    _ ≤ 10 ^ (13 * a) := Nat.pow_le_pow_right (by decide) h
    _ = (10 ^ a) ^ 13 := by rw [← Nat.pow_mul, Nat.mul_comm]

/-- A power of ten that the powers of two around a fraction reach is reached by the fraction. -/
theorem reached_of_log2 (hnum : num ≠ 0) {p : Int}
    (hpos : 10 * p ≤ 3 * ((num.log2 : Int) - den.log2 - 1) ∨ p < 0)
    (hneg : 4 * ((den.log2 : Int) + 1 - num.log2) ≤ 13 * -p ∨ 0 ≤ p) : Reached num den p := by
  have hden : den ≤ 2 ^ (den.log2 + 1) := Nat.le_of_lt Nat.lt_log2_self
  have hlow : 2 ^ num.log2 ≤ num := Nat.log2_self_le hnum
  have htwo : 2 ^ (den.log2 + 1) * 10 ^ p.toNat ≤ 2 ^ num.log2 * 10 ^ (-p).toNat := by
    by_cases hp : 0 ≤ p
    · have hten : 10 ^ p.toNat ≤ 2 ^ (num.log2 - (den.log2 + 1)) := ten_pow_le_two_pow (by omega)
      have hsum : den.log2 + 1 + (num.log2 - (den.log2 + 1)) = num.log2 := by omega
      calc 2 ^ (den.log2 + 1) * 10 ^ p.toNat
          ≤ 2 ^ (den.log2 + 1) * 2 ^ (num.log2 - (den.log2 + 1)) := Nat.mul_le_mul_left _ hten
        _ = 2 ^ num.log2 := by rw [← Nat.pow_add, hsum]
        _ ≤ 2 ^ num.log2 * 10 ^ (-p).toNat := Nat.le_mul_of_pos_right _ (Nat.pow_pos (by decide))
    · have hzero : p.toNat = 0 := by omega
      have hten : 2 ^ (den.log2 + 1 - num.log2) ≤ 10 ^ (-p).toNat := two_pow_le_ten_pow (by omega)
      calc 2 ^ (den.log2 + 1) * 10 ^ p.toNat = 2 ^ (den.log2 + 1) := by rw [hzero, Nat.pow_zero, Nat.mul_one]
        _ ≤ 2 ^ (num.log2 + (den.log2 + 1 - num.log2)) := Nat.pow_le_pow_right (by decide) (by omega)
        _ = 2 ^ num.log2 * 2 ^ (den.log2 + 1 - num.log2) := Nat.pow_add ..
        _ ≤ 2 ^ num.log2 * 10 ^ (-p).toNat := Nat.mul_le_mul_left _ hten
  calc den * 10 ^ p.toNat ≤ 2 ^ (den.log2 + 1) * 10 ^ p.toNat := Nat.mul_le_mul_right _ hden
    _ ≤ 2 ^ num.log2 * 10 ^ (-p).toNat := htwo
    _ ≤ num * 10 ^ (-p).toNat := Nat.mul_le_mul_right _ hlow

end Powers

/-! ## 2. The decimal exponent -/

section Exponent

variable {num den : Nat}

theorem reached_iff {p : Int} :
    Reached num den p ↔ if 0 ≤ p then Nat.pow 10 p.toNat * den ≤ num else den ≤ num * Nat.pow 10 (-p).toNat := by
  unfold Reached
  split
  · next hp =>
      have hzero : (-p).toNat = 0 := by omega
      rw [hzero, Nat.pow_zero, Nat.mul_one, Nat.mul_comm]
      exact Iff.rfl
  · next hp =>
      have hzero : p.toNat = 0 := by omega
      rw [hzero, Nat.pow_zero, Nat.mul_one]
      exact Iff.rfl

/-- The search ends at a power that is reached, or with its fuel. -/
theorem decimalExponentFrom_cases (fuel : Nat) (p : Int) :
    Reached num den (decimalExponentFrom num den fuel p) ∨ decimalExponentFrom num den fuel p = p - fuel := by
  induction fuel generalizing p with
  | zero => exact Or.inr (by rw [decimalExponentFrom]; omega)
  | succ fuel ih =>
      by_cases h : Reached num den p
      · have hstop : decimalExponentFrom num den (fuel + 1) p = p := by
          rw [decimalExponentFrom]
          exact if_pos (reached_iff.mp h)
        exact Or.inl (by rwa [hstop])
      · have hgo : decimalExponentFrom num den (fuel + 1) p = decimalExponentFrom num den fuel (p - 1) := by
          rw [decimalExponentFrom]
          exact if_neg fun e => h (reached_iff.mpr e)
        rw [hgo]
        rcases ih (p - 1) with h | h
        · exact Or.inl h
        · exact Or.inr (by rw [h]; omega)

/-- Sixteen below the exponent that is found there is a power that is reached. -/
theorem reached_decimalExponent (hnum : num ≠ 0) (hlow : -2000 ≤ (num.log2 : Int) - den.log2)
    (hhigh : (num.log2 : Int) - den.log2 ≤ 2000) : Reached num den (decimalExponent num den - 16) := by
  show Reached num den (decimalExponentFrom num den 8 (((num.log2 : Int) - den.log2 + 1) * 30103 / 100000 + 1) - 16)
  rcases @decimalExponentFrom_cases num den 8
    (((num.log2 : Int) - den.log2 + 1) * 30103 / 100000 + 1) with h | h
  · exact h.of_le (by omega)
  · rw [h]
    refine reached_of_log2 hnum ?_ ?_ <;> omega

end Exponent

/-! ## 3. The digits -/

namespace Neighbourhood

variable {n : Neighbourhood} {p e : Int}

/-- Zero does not read back as a positive number. -/
theorem not_holds_zero (hlow : 0 < n.low) (e : Int) : n.holds 0 e = false := by
  have hpow : 0 < Nat.pow 10 (-e).toNat := Nat.pow_pos (by decide)
  have hright : ∀ k, 0 < k → ¬ n.low * k ≤ 0 ∧ ¬ n.low * k < 0 := fun k hk =>
    ⟨Nat.not_le.mpr (Nat.mul_pos hlow hk), Nat.not_lt_zero _⟩
  unfold holds
  by_cases he : 0 ≤ e
  · simp only [he, if_true, Nat.zero_mul, (hright 1 Nat.one_pos).1, (hright 1 Nat.one_pos).2, decide_false,
      Bool.false_and, ite_self]
  · simp only [he, if_false, Nat.zero_mul, (hright _ hpow).1, (hright _ hpow).2, decide_false, Bool.false_and,
      ite_self]

theorem pos_of_holds (hlow : 0 < n.low) {c : Nat} (h : n.holds c e = true) : 0 < c := by
  refine Nat.pos_of_ne_zero fun hc => ?_
  rw [hc, not_holds_zero hlow] at h
  cases h

theorem roundDiv_pos {a b : Nat} (hb : 0 < b) (h : b ≤ a) : 0 < roundDiv a b := by
  have hq : 0 < a / b := Nat.div_pos h hb
  unfold roundDiv
  dsimp only
  split
  · exact hq
  · split
    · exact Nat.succ_pos _
    · split
      · exact hq
      · exact Nat.succ_pos _

/-- What is nearest in a unit that is reached is not zero. -/
theorem candidates_pos (hden : 0 < n.den) (h : Reached n.num n.den e) : 0 < (n.candidates e).1 := by
  rw [reached_iff] at h
  unfold candidates
  by_cases he : 0 ≤ e
  · rw [if_pos he] at h
    simp only [he, if_true]
    exact roundDiv_pos (Nat.mul_pos hden (Nat.pow_pos (by decide))) (by rwa [Nat.mul_comm])
  · rw [if_neg he] at h
    simp only [he, if_false]
    exact roundDiv_pos hden h

theorem shortestFrom_pos (hlow : 0 < n.low) (hden : 0 < n.den) (hreached : Reached n.num n.den (p - 16)) :
    ∀ fuel digits : Nat, fuel + digits = 17 → 0 < (shortestFrom n p fuel digits).1 := by
  intro fuel
  induction fuel with
  | zero =>
      intro digits hdigits
      have he : p + 1 - digits = p - 16 := by omega
      rw [shortestFrom]
      exact candidates_pos hden (he ▸ hreached)
  | succ fuel ih =>
      intro digits hdigits
      rw [shortestFrom]
      dsimp only
      split
      · next h => exact pos_of_holds hlow h
      · split
        · next h => exact pos_of_holds hlow h
        · exact ih (digits + 1) (by omega)

end Neighbourhood

section Shortest

variable {m : Nat} {q : Int}

/-- What `Neighbourhood.of` makes of a positive number in the range of floating point numbers. -/
theorem Neighbourhood.of_bounds (hm : 0 < m) (hmax : m < 2 ^ 53) (hq : -1074 ≤ q) (hq' : q ≤ 971) :
    0 < (Neighbourhood.of m q).low ∧ 0 < (Neighbourhood.of m q).den ∧ 0 < (Neighbourhood.of m q).num ∧
      (Neighbourhood.of m q).num.log2 < 1100 ∧ (Neighbourhood.of m q).den.log2 < 1100 := by
  have hbelow : ∀ k, (4 * m - if m = Nat.pow 2 52 ∧ q ≠ -1074 then 1 else 2) * k = 0 → k = 0 := by
    intro k hk
    rcases Nat.mul_eq_zero.mp hk with h | h
    · split at h <;> omega
    · exact h
  have hfour : 4 * m < 2 ^ 55 := by omega
  unfold Neighbourhood.of
  by_cases h : 2 ≤ q
  · simp only [h, if_true]
    have hpow : 0 < Nat.pow 2 (q - 2).toNat := Nat.pow_pos (by decide)
    have hnum : 0 < 4 * m * Nat.pow 2 (q - 2).toNat := Nat.mul_pos (by omega) hpow
    refine ⟨Nat.pos_of_ne_zero fun e => ?_, Nat.one_pos, hnum, ?_, by decide⟩
    · exact absurd (hbelow _ e) (by omega)
    · refine (Nat.log2_lt (by omega)).mpr ?_
      calc 4 * m * Nat.pow 2 (q - 2).toNat < 2 ^ 55 * 2 ^ (q - 2).toNat := Nat.mul_lt_mul_of_pos_right hfour hpow
        _ = 2 ^ (55 + (q - 2).toNat) := (Nat.pow_add ..).symm
        _ ≤ 2 ^ 1100 := Nat.pow_le_pow_right (by decide) (by omega)
  · simp only [h, if_false]
    have hpow : 0 < Nat.pow 2 (2 - q).toNat := Nat.pow_pos (by decide)
    refine ⟨Nat.pos_of_ne_zero fun e => ?_, hpow, by omega, ?_, ?_⟩
    · exact absurd (hbelow _ e) (by omega)
    · have hlog : (4 * m * 1).log2 < 55 := (Nat.log2_lt (by omega)).mpr (by rwa [Nat.mul_one])
      omega
    · show (2 ^ (2 - q).toNat).log2 < 1100
      rw [Nat.log2_two_pow]
      omega

/-- **The digits of a positive number are not zero.** -/
theorem shortest_pos (hm : 0 < m) (hmax : m < 2 ^ 53) (hq : -1074 ≤ q) (hq' : q ≤ 971) : 0 < (shortest m q).1 := by
  obtain ⟨hlow, hden, hnum, hlog, hlog'⟩ := Neighbourhood.of_bounds hm hmax hq hq'
  refine Neighbourhood.shortestFrom_pos hlow hden ?_ 16 1 rfl
  exact reached_decimalExponent (by omega) (by omega) (by omega)

end Shortest

/-- The parts of a floating point number are in range. -/
theorem Binary.bounds_of_ofFloat {x : Float} {negative : Bool} {m : Nat} {q : Int}
    (h : Binary.ofFloat x = .finite negative m q) : m < 2 ^ 53 ∧ -1074 ≤ q ∧ q ≤ 971 := by
  unfold Binary.ofFloat at h
  have hfraction : x.toBits.toNat % Nat.pow 2 52 < 2 ^ 52 := Nat.mod_lt _ (by decide)
  have hexponent : x.toBits.toNat / Nat.pow 2 52 % Nat.pow 2 11 < 2048 := Nat.mod_lt _ (by decide)
  dsimp only at h
  split at h
  · split at h <;> cases h
  · next hmax =>
      split at h
      · cases h
        exact ⟨by omega, by omega, by omega⟩
      · cases h
        have hpow : Nat.pow 2 52 = 2 ^ 52 := rfl
        exact ⟨by omega, by omega, by omega⟩

end FragmentSearch.Decimal
