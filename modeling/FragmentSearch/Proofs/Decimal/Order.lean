/-!
# The order of floating point numbers

Floating point numbers are compared as the lists of three integers that `Magnitude.of` makes of them: a
class (the two infinities, below zero, zero, above zero), then the exponent, then the mantissa. So for what
is a number the strict order is transitive, and of two numbers one is less, or they are equal
(`float_lt_iff`, `float_beq_iff`). What is not a number is neither less than anything, nor equal, nor
greater.
-/

namespace FragmentSearch.Decimal

open Float.Model (UnpackedFloat)

/-! ## 1. Three integers in place of a number -/

/-- Three integers that stand for a number in comparisons. -/
structure Magnitude where
  cls : Int
  exponent : Int
  mantissa : Int

/-- The integers of a number. Below zero, exponents and mantissas count the other way round. -/
def Magnitude.of : UnpackedFloat → Magnitude
  | .infinity .negative => ⟨-2, 0, 0⟩
  | .finite .negative m e _ => ⟨-1, -e, -m⟩
  | .zero _ => ⟨0, 0, 0⟩
  | .finite .positive m e _ => ⟨1, e, m⟩
  | .infinity .positive => ⟨2, 0, 0⟩
  | .notANumber => ⟨0, 0, 0⟩

/-- The first difference decides. -/
def Magnitude.cmp (a b : Magnitude) : Ordering :=
  (compare a.cls b.cls).then ((compare a.exponent b.exponent).then (compare a.mantissa b.mantissa))

/-- `a` comes before `b`. -/
def Magnitude.Less (a b : Magnitude) : Prop :=
  a.cls < b.cls ∨ a.cls = b.cls ∧ (a.exponent < b.exponent ∨ a.exponent = b.exponent ∧ a.mantissa < b.mantissa)

/-- There is no difference. -/
def Magnitude.Same (a b : Magnitude) : Prop :=
  a.cls = b.cls ∧ a.exponent = b.exponent ∧ a.mantissa = b.mantissa

theorem Magnitude.cmp_eq_lt {a b : Magnitude} : a.cmp b = .lt ↔ a.Less b := by
  simp only [cmp, Less, Ordering.then_eq_lt, Int.compare_eq_lt, Int.compare_eq_eq]

theorem Magnitude.cmp_eq_eq {a b : Magnitude} : a.cmp b = .eq ↔ a.Same b := by
  simp only [cmp, Same, Ordering.then_eq_eq, Int.compare_eq_eq]

instance instDecidableMagnitudeLess (a b : Magnitude) : Decidable (a.Less b) :=
  inferInstanceAs (Decidable (_ ∨ _ ∧ (_ ∨ _ ∧ _)))

theorem Magnitude.not_less_trans {a b c : Magnitude} (h : ¬ a.Less b) (h' : ¬ b.Less c) : ¬ a.Less c := by
  unfold Less at *
  omega

theorem Magnitude.not_less_or {a b : Magnitude} : ¬ a.Less b ∨ ¬ b.Less a := by
  unfold Less
  omega

theorem Magnitude.Less.not_same {a b : Magnitude} (h : a.Less b) : ¬ a.Same b := by
  unfold Less at h
  unfold Same
  omega

theorem Magnitude.less_or_same {a b : Magnitude} (h : ¬ a.Less b) : b.Less a ∨ a.Same b := by
  unfold Less at *
  unfold Same
  omega

theorem Magnitude.Same.not_less {a b : Magnitude} (h : a.Same b) : ¬ a.Less b ∧ ¬ b.Less a := by
  unfold Same at h
  unfold Less
  omega

/-! ## 2. Comparing numbers -/

theorem compare_natCast (m n : Nat) : compare (m : Int) n = compare m n := by
  rcases Nat.lt_trichotomy m n with h | h | h
  · rw [Nat.compare_eq_lt.mpr h, Int.compare_eq_lt.mpr (by omega)]
  · rw [Nat.compare_eq_eq.mpr h, Int.compare_eq_eq.mpr (by omega)]
  · rw [Nat.compare_eq_gt.mpr h, Int.compare_eq_gt.mpr (by omega)]

theorem compare_neg (i j : Int) : compare (-i) (-j) = (compare i j).swap := by
  rcases Int.lt_trichotomy i j with h | h | h
  · rw [Int.compare_eq_lt.mpr h, Int.compare_eq_gt.mpr (by omega)]
    rfl
  · rw [Int.compare_eq_eq.mpr h, Int.compare_eq_eq.mpr (by omega)]
    rfl
  · rw [Int.compare_eq_gt.mpr h, Int.compare_eq_lt.mpr (by omega)]
    rfl

/-- **Numbers are compared as their integers are.** -/
theorem compare_eq_cmp {a b : UnpackedFloat} (ha : a.isNaN = false) (hb : b.isNaN = false) :
    a.compare b = some ((Magnitude.of a).cmp (.of b)) := by
  match a, b with
  | .notANumber, _ => exact Bool.noConfusion ha
  | _, .notANumber => exact Bool.noConfusion hb
  | .finite .positive m₁ e₁ _, .finite .positive m₂ e₂ _ =>
      show some ((compare e₁ e₂).then (compare m₁ m₂)) = some ((compare e₁ e₂).then (compare (m₁ : Int) m₂))
      rw [compare_natCast]
  | .finite .negative m₁ e₁ _, .finite .negative m₂ e₂ _ =>
      show some ((compare e₁ e₂).then (compare m₁ m₂)).swap =
        some ((compare (-e₁) (-e₂)).then (compare (-(m₁ : Int)) (-m₂)))
      rw [compare_neg, compare_neg, compare_natCast, Ordering.swap_then]
  | .finite .positive _ _ _, .finite .negative _ _ _ | .finite .negative _ _ _, .finite .positive _ _ _ => rfl
  | .finite .positive _ _ _, .zero _ | .finite .negative _ _ _, .zero _ => rfl
  | .finite .positive _ _ _, .infinity .positive | .finite .positive _ _ _, .infinity .negative => rfl
  | .finite .negative _ _ _, .infinity .positive | .finite .negative _ _ _, .infinity .negative => rfl
  | .zero _, .finite .positive _ _ _ | .zero _, .finite .negative _ _ _ | .zero _, .zero _ => rfl
  | .zero _, .infinity .positive | .zero _, .infinity .negative => rfl
  | .infinity .positive, .finite .positive _ _ _ | .infinity .positive, .finite .negative _ _ _ => rfl
  | .infinity .negative, .finite .positive _ _ _ | .infinity .negative, .finite .negative _ _ _ => rfl
  | .infinity .positive, .zero _ | .infinity .negative, .zero _ => rfl
  | .infinity .positive, .infinity .positive | .infinity .positive, .infinity .negative => rfl
  | .infinity .negative, .infinity .positive | .infinity .negative, .infinity .negative => rfl

/-- The integers of a floating point number. -/
def magnitude (x : Float) : Magnitude := .of x.toModel.unpack

theorem float_lt_iff {x y : Float} (hx : x.isNaN = false) (hy : y.isNaN = false) :
    x < y ↔ (magnitude x).Less (magnitude y) := by
  have e : x < y ↔ (x.toModel.unpack.compare y.toModel.unpack == some .lt) = true := decide_eq_true_iff
  rw [e, compare_eq_cmp hx hy, beq_iff_eq, Option.some.injEq, Magnitude.cmp_eq_lt]
  rfl

theorem float_beq_iff {x y : Float} (hx : x.isNaN = false) (hy : y.isNaN = false) :
    (x == y) = true ↔ (magnitude x).Same (magnitude y) := by
  show (x.toModel.unpack.compare y.toModel.unpack == some .eq) = true ↔ _
  rw [compare_eq_cmp hx hy, beq_iff_eq, Option.some.injEq, Magnitude.cmp_eq_eq]
  rfl

end FragmentSearch.Decimal
