import FragmentSearch.Proofs.Json.Text

/-!
# Written numbers

The reader takes from a number as much as belongs to it. What follows does not matter, as long as it does not
go on with the number.

* `readNumber_append` -- a number before a delimiter is read as it is read alone, faults included;
* `readNumber_start` -- what is read does not depend on the position;
* `readNumber_renderInt` -- a written integer is read as the integer, if it has no more digits than an integer
  may have.
-/

namespace FragmentSearch.Json

open FragmentSearch.Decimal

/-! ## 1. Delimiters -/

/-- Does the character end a value? -/
def isDelimiter (c : Char) : Bool := isGap c || c = ',' || c = ']' || c = '\x7d'

/-- What follows a value: nothing, or something that begins with a delimiter. -/
def Delimited (rest : List Char) : Prop := ∀ c ∈ rest.head?, isDelimiter c = true

theorem delimited_nil : Delimited [] := fun _ h => nomatch h

theorem delimited_cons {c : Char} {r : List Char} (h : isDelimiter c = true) : Delimited (c :: r) := by
  intro d hd
  obtain rfl : c = d := Option.some.inj hd
  exact h

theorem Delimited.ne_cons {x : List Char} {c : Char} (hx : Delimited x) (hc : isDelimiter c = false) :
    ∀ r, [] ++ x ≠ c :: r := by
  rintro r rfl
  have h := hx c rfl
  rw [hc] at h
  cases h

theorem cons_ne_cons {c d : Char} (h : c ≠ d) (s t : List Char) : c :: s ≠ d :: t := fun e => h (List.cons.inj e).1

theorem isDelimiter_iff {c : Char} :
    isDelimiter c = true ↔ c ∈ [' ', '\t', '\n', '\r', ',', ']', '\x7d'] := by
  simp only [isDelimiter, isGap, Bool.or_eq_true, decide_eq_true_eq, List.mem_cons, List.not_mem_nil, or_false,
    or_assoc]

/-- A delimiter is none of the characters with which numbers and keywords go on. -/
theorem ne_of_isDelimiter {c : Char} (h : isDelimiter c = true) :
    c.isDigit = false ∧ c ≠ 'e' ∧ c ≠ 'E' ∧ c ≠ 'I' := by
  have hall : ∀ c ∈ [' ', '\t', '\n', '\r', ',', ']', '\x7d'],
      c.isDigit = false ∧ c ≠ 'e' ∧ c ≠ 'E' ∧ c ≠ 'I' := of_all (by decide)
  exact hall c (isDelimiter_iff.mp h)

/-! ## 2. Numbers without their signs -/

/-- What `readNumber` does after the sign; the digits begin at `pos`. -/
def readMagnitude (negative : Bool) (pos : Nat) (body : List Char) : Step Json :=
  match takeWhole body with
  | ([], _) => stop .value (if negative then pos - 1 else pos)
  | (whole, rest) =>
    let (places, rest') := takeFraction rest
    let after := pos + whole.length + (if places.isEmpty then 0 else places.length + 1)
    let mantissa := digitsValue 0 (whole ++ places)
    match takeExponent? rest' with
    | some (e, width, rest'') => .ok (.float (ofDecimal negative mantissa (e - places.length)), rest'', after + width)
    | none =>
      if places.isEmpty then
        if maxIntegerDigits < whole.length then .error (.integerTooLong whole.length)
        else .ok (.int (if negative then -(mantissa : Int) else mantissa), rest', after)
      else .ok (.float (ofDecimal negative mantissa (-(places.length : Int))), rest', after)

theorem readNumber_minus (pos : Nat) (s : List Char) : readNumber pos ('-' :: s) = readMagnitude true (pos + 1) s := by
  have e : ('-' :: s).length - s.length = 1 := by
    rw [List.length_cons, Nat.add_sub_cancel_left]
  simp only [readNumber, e]
  rfl

theorem readNumber_plain {s : List Char} (hs : ∀ r, s ≠ '-' :: r) (pos : Nat) :
    readNumber pos s = readMagnitude false pos s := by
  unfold readNumber
  split
  next negative body h =>
  split at h
  · next r => exact absurd rfl (hs r)
  · cases h
    simp only [Nat.sub_self]
    rfl

/-! ## 3. Scanning before a delimiter -/

section Scanning

variable {x : List Char}

theorem takeDigits_append (hx : Delimited x) (s : List Char) :
    takeDigits (s ++ x) = ((takeDigits s).1, (takeDigits s).2 ++ x) := by
  induction s with
  | nil =>
      cases x with
      | nil => rfl
      | cons c x =>
          obtain ⟨hc, _⟩ := ne_of_isDelimiter (hx c rfl)
          rw [List.nil_append, takeDigits, List.takeWhile_cons_of_neg (by rw [hc]; exact Bool.false_ne_true),
            List.dropWhile_cons_of_neg (by rw [hc]; exact Bool.false_ne_true)]
          rfl
  | cons c s ih =>
      unfold takeDigits at ih ⊢
      by_cases hc : c.isDigit = true
      · rw [List.cons_append, List.takeWhile_cons_of_pos hc, List.dropWhile_cons_of_pos hc,
          List.takeWhile_cons_of_pos hc, List.dropWhile_cons_of_pos hc, (Prod.mk.inj ih).1, (Prod.mk.inj ih).2]
      · rw [List.cons_append, List.takeWhile_cons_of_neg hc, List.dropWhile_cons_of_neg hc,
          List.takeWhile_cons_of_neg hc, List.dropWhile_cons_of_neg hc]
        rfl

theorem takeWhole_append (hx : Delimited x) (s : List Char) :
    takeWhole (s ++ x) = ((takeWhole s).1, (takeWhole s).2 ++ x) := by
  have hzero : ∀ s : List Char, (∀ r, s ≠ '0' :: r) → takeWhole s = takeDigits s := by
    intro s hs
    unfold takeWhole
    split
    · next r => exact absurd rfl (hs r)
    · rfl
  cases s with
  | nil =>
      rw [hzero [] (fun r h => nomatch h), hzero _ (hx.ne_cons (by decide)), takeDigits_append hx]
  | cons c s =>
      by_cases hc : c = '0'
      · rw [hc]
        rfl
      · rw [hzero _ (cons_ne_cons hc s), List.cons_append, hzero _ (cons_ne_cons hc _), ← List.cons_append,
          takeDigits_append hx]

theorem takeFraction_append (hx : Delimited x) (s : List Char) :
    takeFraction (s ++ x) = ((takeFraction s).1, (takeFraction s).2 ++ x) := by
  have hpoint : ∀ s : List Char, (∀ r, s ≠ '.' :: r) → takeFraction s = ([], s) := by
    intro s hs
    unfold takeFraction
    split
    · next r => exact absurd rfl (hs r)
    · rfl
  cases s with
  | nil =>
      rw [hpoint [] (fun r h => nomatch h), hpoint _ (hx.ne_cons (by decide))]
  | cons c s =>
      by_cases hc : c = '.'
      · subst hc
        obtain ⟨ds, rest, e⟩ : ∃ ds rest, takeDigits s = (ds, rest) := ⟨_, _, rfl⟩
        rw [List.cons_append, takeFraction, takeFraction, takeDigits_append hx, e]
        cases ds <;> rfl
      · rw [hpoint _ (cons_ne_cons hc s), List.cons_append, hpoint _ (cons_ne_cons hc _)]

theorem takeSign_append (hx : Delimited x) (s : List Char) :
    takeSign (s ++ x) = ((takeSign s).1, (takeSign s).2 ++ x) := by
  have hsign : ∀ s : List Char, (∀ r, s ≠ '-' :: r) → (∀ r, s ≠ '+' :: r) → takeSign s = (false, s) := by
    intro s hm hp
    unfold takeSign
    split
    · next r => exact absurd rfl (hm r)
    · next r => exact absurd rfl (hp r)
    · rfl
  cases s with
  | nil =>
      rw [hsign [] (fun r h => nomatch h) (fun r h => nomatch h),
        hsign _ (hx.ne_cons (by decide)) (hx.ne_cons (by decide))]
  | cons c s =>
      by_cases hm : c = '-'
      · rw [hm]
        rfl
      by_cases hp : c = '+'
      · rw [hp]
        rfl
      rw [hsign _ (cons_ne_cons hm s) (cons_ne_cons hp s), List.cons_append,
        hsign _ (cons_ne_cons hm _) (cons_ne_cons hp _)]

theorem takeExponent?_append (hx : Delimited x) (s : List Char) :
    takeExponent? (s ++ x) = (takeExponent? s).map fun r => (r.1, r.2.1, r.2.2 ++ x) := by
  cases s with
  | nil =>
      cases x with
      | nil => rfl
      | cons c x =>
          obtain ⟨_, he, hE, _⟩ := ne_of_isDelimiter (hx c rfl)
          simp only [List.nil_append, takeExponent?, if_neg (not_or.mpr ⟨he, hE⟩)]
          rfl
  | cons c s =>
      by_cases hc : c = 'e' ∨ c = 'E'
      · obtain ⟨negative, body, hb⟩ : ∃ negative body, takeSign s = (negative, body) := ⟨_, _, rfl⟩
        obtain ⟨ds, rest, hd⟩ : ∃ ds rest, takeDigits body = (ds, rest) := ⟨_, _, rfl⟩
        have hlen : (s ++ x).length - (body ++ x).length = s.length - body.length := by
          rw [List.length_append, List.length_append, Nat.add_sub_add_right]
        simp only [List.cons_append, takeExponent?, if_pos hc, takeSign_append hx, takeDigits_append hx, hb, hd, hlen]
        cases ds <;> rfl
      · simp only [List.cons_append, takeExponent?, if_neg hc]
        rfl

theorem readMagnitude_append (hx : Delimited x) (negative : Bool) (pos : Nat) (s : List Char) :
    readMagnitude negative pos (s ++ x) = (readMagnitude negative pos s).map fun r => (r.1, r.2.1 ++ x, r.2.2) := by
  obtain ⟨whole, rest, hw⟩ : ∃ whole rest, takeWhole s = (whole, rest) := ⟨_, _, rfl⟩
  obtain ⟨places, rest', hf⟩ : ∃ places rest', takeFraction rest = (places, rest') := ⟨_, _, rfl⟩
  cases whole with
  | nil =>
      simp only [readMagnitude, takeWhole_append hx, hw]
      rfl
  | cons d ds =>
      simp only [readMagnitude, takeWhole_append hx, hw, takeFraction_append hx, hf, takeExponent?_append hx]
      cases takeExponent? rest' with
      | some r => rfl
      | none =>
          cases places with
          | cons p ps => rfl
          | nil =>
              simp only [Option.map_none, List.isEmpty_nil, if_true]
              split <;> rfl

/-- **A number before a delimiter** is read as it is read alone. -/
theorem readNumber_append (hx : Delimited x) (pos : Nat) (s : List Char) :
    readNumber pos (s ++ x) = (readNumber pos s).map fun r => (r.1, r.2.1 ++ x, r.2.2) := by
  cases s with
  | nil =>
      have hne : ∀ r, ([] : List Char) ≠ '-' :: r := fun r h => nomatch h
      rw [readNumber_plain hne, readNumber_plain (hx.ne_cons (by decide)), readMagnitude_append hx]
  | cons c s =>
      by_cases hc : c = '-'
      · rw [hc, List.cons_append, readNumber_minus, readNumber_minus, readMagnitude_append hx]
      · rw [readNumber_plain (cons_ne_cons hc s), List.cons_append, readNumber_plain (cons_ne_cons hc _),
          ← List.cons_append, readMagnitude_append hx]

end Scanning

/-! ## 4. What is left of a text -/

section Left

variable {s r : List Char}

theorem takeDigits_subset (s : List Char) : (takeDigits s).2 ⊆ s := (List.dropWhile_sublist _).subset

theorem takeWhole_subset (s : List Char) : (takeWhole s).2 ⊆ s := by
  unfold takeWhole
  split
  · exact List.subset_cons_self _ _
  · exact takeDigits_subset s

theorem takeFraction_subset (s : List Char) : (takeFraction s).2 ⊆ s := by
  unfold takeFraction
  split
  · next t =>
      have h := takeDigits_subset t
      split
      · exact List.Subset.refl _
      · next ds rest _ e =>
          rw [e] at h
          exact List.subset_cons_of_subset _ h
  · exact List.Subset.refl _

theorem takeSign_subset (s : List Char) : (takeSign s).2 ⊆ s := by
  unfold takeSign
  split
  · exact List.subset_cons_self _ _
  · exact List.subset_cons_self _ _
  · exact List.Subset.refl _

theorem takeExponent?_subset {e : Int} {width : Nat} (h : takeExponent? s = some (e, width, r)) : r ⊆ s := by
  cases s with
  | nil => cases h
  | cons c s =>
      obtain ⟨negative, body, hb⟩ : ∃ negative body, takeSign s = (negative, body) := ⟨_, _, rfl⟩
      obtain ⟨ds, rest, hd⟩ : ∃ ds rest, takeDigits body = (ds, rest) := ⟨_, _, rfl⟩
      have hs := takeSign_subset s
      have hr := takeDigits_subset body
      rw [hb] at hs
      rw [hd] at hr
      by_cases hc : c = 'e' ∨ c = 'E'
      · simp only [takeExponent?, if_pos hc, hb, hd] at h
        cases ds with
        | nil => cases h
        | cons d ds =>
            cases h
            exact List.subset_cons_of_subset _ (List.Subset.trans hr hs)
      · simp only [takeExponent?, if_neg hc] at h
        cases h

/-- What is read does not depend on where it starts, and what is left is made of characters of the text. -/
theorem readMagnitude_start {negative : Bool} {pos p : Nat} {v : Json}
    (h : readMagnitude negative pos s = .ok (v, r, p)) :
    (∀ pos', ∃ p', readMagnitude negative pos' s = .ok (v, r, p')) ∧ r ⊆ s := by
  obtain ⟨whole, rest, hw⟩ : ∃ whole rest, takeWhole s = (whole, rest) := ⟨_, _, rfl⟩
  obtain ⟨places, rest', hf⟩ : ∃ places rest', takeFraction rest = (places, rest') := ⟨_, _, rfl⟩
  have hsub : rest' ⊆ s := by
    have hw' := takeWhole_subset s
    have hf' := takeFraction_subset rest
    rw [hw] at hw'
    rw [hf] at hf'
    exact List.Subset.trans hf' hw'
  cases whole with
  | nil =>
      simp only [readMagnitude, hw] at h
      cases h
  | cons d ds =>
      simp only [readMagnitude, hw, hf] at h ⊢
      cases he : takeExponent? rest' with
      | some t =>
          rw [he] at h
          cases h
          exact ⟨fun _ => ⟨_, rfl⟩, List.Subset.trans (takeExponent?_subset he) hsub⟩
      | none =>
          rw [he] at h
          simp only at h ⊢
          split at h
          · next hp =>
              split at h
              · cases h
              · next hm =>
                  cases h
                  exact ⟨fun _ => ⟨_, by rw [if_pos hp, if_neg hm]⟩, hsub⟩
          · next hp =>
              cases h
              exact ⟨fun _ => ⟨_, by rw [if_neg hp]⟩, hsub⟩

theorem readNumber_start {pos p : Nat} {v : Json} (h : readNumber pos s = .ok (v, r, p)) :
    (∀ pos', ∃ p', readNumber pos' s = .ok (v, r, p')) ∧ r ⊆ s := by
  by_cases hs : ∃ t, s = '-' :: t
  · obtain ⟨t, rfl⟩ := hs
    rw [readNumber_minus] at h
    obtain ⟨hread, hsub⟩ := readMagnitude_start h
    refine ⟨fun pos' => ?_, List.subset_cons_of_subset _ hsub⟩
    rw [readNumber_minus]
    exact hread (pos' + 1)
  · have hne : ∀ t, s ≠ '-' :: t := fun t e => hs ⟨t, e⟩
    rw [readNumber_plain hne] at h
    obtain ⟨hread, hsub⟩ := readMagnitude_start h
    refine ⟨fun pos' => ?_, hsub⟩
    rw [readNumber_plain hne]
    exact hread pos'

end Left

/-! ## 5. Integers -/

section Integers

theorem digitsValue_digitsOf (n : Nat) : digitsValue 0 (digitsOf n) = n := by
  have h := Nat.ofDigitChars_ten_toDigits (n := n)
  rw [Nat.ofDigitChars_eq_foldl] at h
  exact h

theorem isDigit_of_mem_digitsOf {n : Nat} {c : Char} (h : c ∈ digitsOf n) : c.isDigit = true :=
  Nat.isDigit_of_mem_toDigits (by decide) (by decide) h

theorem digitsOf_ne_nil (n : Nat) : digitsOf n ≠ [] := Nat.toDigits_ne_nil

/-- Only zero is written with a zero in front. -/
theorem digitsOf_head {n : Nat} {r : List Char} (h : digitsOf n = '0' :: r) : r = [] := by
  induction n using Nat.strongRecOn generalizing r with
  | ind n ih =>
      unfold digitsOf at h ih
      rw [Nat.toDigits_eq_if (by decide)] at h
      split at h
      · exact (List.cons.inj h).2.symm
      · next hn =>
          obtain ⟨c, ds, e⟩ := List.exists_cons_of_ne_nil (Nat.toDigits_ne_nil (n := n / 10) (b := 10))
          rw [e, List.cons_append] at h
          obtain ⟨rfl, _⟩ := List.cons.inj h
          have hnil : ds = [] := ih (n / 10) (by omega) e
          -- the digits of `n / 10` are those of zero, but `n / 10` is positive
          have hv : digitsValue 0 (digitsOf (n / 10)) = n / 10 := digitsValue_digitsOf _
          unfold digitsOf at hv
          rw [e, hnil] at hv
          have : n / 10 = 0 := hv.symm
          omega

theorem takeDigits_self {s : List Char} (h : ∀ c ∈ s, c.isDigit = true) : takeDigits s = (s, []) := by
  have ht : (s ++ []).takeWhile Char.isDigit = s ++ [] := List.takeWhile_append_of_pos h
  have hd : (s ++ []).dropWhile Char.isDigit = [] := List.dropWhile_append_of_pos h
  rw [List.append_nil] at ht hd
  unfold takeDigits
  rw [ht, hd]

theorem takeWhole_digitsOf (n : Nat) : takeWhole (digitsOf n) = (digitsOf n, []) := by
  unfold takeWhole
  split
  · next r h => rw [h, digitsOf_head h]
  · exact takeDigits_self fun c => isDigit_of_mem_digitsOf

/-- The digits of a number are read as the number. -/
theorem readMagnitude_digitsOf {n : Nat} (h : (digitsOf n).length ≤ maxIntegerDigits) (negative : Bool) (pos : Nat) :
    readMagnitude negative pos (digitsOf n) =
      .ok (.int (if negative then -(n : Int) else n), [], pos + (digitsOf n).length) := by
  obtain ⟨d, ds, e⟩ := List.exists_cons_of_ne_nil (digitsOf_ne_nil n)
  have hw := takeWhole_digitsOf n
  have hv := digitsValue_digitsOf n
  rw [e] at h hw hv ⊢
  simp only [readMagnitude, hw, takeFraction, takeExponent?, List.append_nil, hv, List.isEmpty_nil, if_true,
    if_neg (Nat.not_lt.mpr h), Nat.add_zero]

/-- **A written integer is read as the integer.** -/
theorem readNumber_renderInt {i : Int} (h : (digitsOf i.natAbs).length ≤ maxIntegerDigits) (pos : Nat) :
    ∃ p, readNumber pos (renderInt i) = .ok (.int i, [], p) := by
  unfold renderInt
  split
  · next hi =>
      have e : -(i.natAbs : Int) = i := by omega
      refine ⟨pos + 1 + (digitsOf i.natAbs).length, ?_⟩
      rw [readNumber_minus, readMagnitude_digitsOf h, if_pos rfl, e]
  · next hi =>
      have hne : ∀ r, digitsOf i.natAbs ≠ '-' :: r := by
        intro r e
        have hd : '-'.isDigit = true := isDigit_of_mem_digitsOf (e ▸ List.mem_cons_self)
        exact absurd hd (by decide)
      have e : (i.natAbs : Int) = i := by omega
      refine ⟨pos + (digitsOf i.natAbs).length, ?_⟩
      rw [readNumber_plain hne, readMagnitude_digitsOf h, if_neg Bool.false_ne_true, e]

end Integers

end FragmentSearch.Json
