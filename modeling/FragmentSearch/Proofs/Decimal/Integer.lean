import FragmentSearch.Json.Convert
import FragmentSearch.Proofs.Text.Words

/-!
# Integers as they are written

* `Digits` -- decimal digits of any script with their values; an underscore may stand between two of them;
* `Writes` -- a text writes an integer with so many digits;
* `readInt_eq_ok_iff` -- an integer is read from just the texts that write one with at most `maxIntegerDigits` digits.
-/

namespace FragmentSearch.Decimal

open FragmentSearch.Text

/-! ## 1. How integers are written -/

/-- Digits with their values. -/
inductive Digits : List Char → List Nat → Prop
  | one {c : Char} {d : Nat} (h : digitValue? c = some d) : Digits [c] [d]
  | next {c : Char} {d : Nat} {s : List Char} {ds : List Nat} (h : digitValue? c = some d) (hs : Digits s ds) :
      Digits (c :: s) (d :: ds)
  | parted {c : Char} {d : Nat} {s : List Char} {ds : List Nat} (h : digitValue? c = some d) (hs : Digits s ds) :
      Digits (c :: '_' :: s) (d :: ds)

/-- The number with some digits in the decimal system. -/
def decimal (ds : List Nat) : Nat := ds.foldl (fun n d => 10 * n + d) 0

/-- A sign, as a factor. -/
inductive Sign : List Char → Int → Prop
  | absent : Sign [] 1
  | plus : Sign ['+'] 1
  | minus : Sign ['-'] (-1)

/-- Between blanks, a text has a sign and `n` digits, which write the integer `i`. -/
def Writes (s : String) (i : Int) (n : Nat) : Prop :=
  ∃ sign factor body ds, Trimmed isNumberBlank s.toList (sign ++ body) ∧ Sign sign factor ∧ Digits body ds ∧
    i = factor * decimal ds ∧ n = ds.length

/-! ## 2. Single digits -/

section Characters

variable {c : Char} {d : Nat}

/-- The ASCII digit of a value. -/
def digitChar (d : Nat) : Char := Char.ofNat (48 + d)

theorem toNat_digitChar (hd : d < 10) : (digitChar d).toNat = 48 + d := by
  revert d
  decide

theorem isDigit_digitChar (hd : d < 10) : (digitChar d).isDigit = true := by
  revert d
  decide

theorem digitValue?_lt (h : digitValue? c = some d) : d < 10 := by
  unfold digitValue? at h
  split at h
  · split at h
    · next hc =>
        cases h
        have hle : c.toNat ≤ 57 := (Char.isDigit_iff_toNat.mp hc).2
        have hzero : '0'.toNat = 48 := rfl
        omega
    · cases h
  · obtain ⟨k, -, rfl⟩ := Option.map_eq_some_iff.mp h
    exact Nat.mod_lt k (by decide)

theorem asciiDigit_of_digit (h : digitValue? c = some d) : asciiDigit c = digitChar d := by
  unfold asciiDigit
  rw [h]
  rfl

/-- What is no digit stays as it is. -/
theorem asciiDigit_of_none (h : digitValue? c = none) : asciiDigit c = c := by
  unfold asciiDigit
  rw [h]

/-- An ASCII digit comes from a digit. -/
theorem digit_of_isDigit (h : (asciiDigit c).isDigit = true) : ∃ d, digitValue? c = some d := by
  cases hc : digitValue? c with
  | some d => exact ⟨d, rfl⟩
  | none =>
      rw [asciiDigit_of_none hc] at h
      have hle : c.toNat ≤ 57 := (Char.isDigit_iff_toNat.mp h).2
      have hsmall : c.toNat < 128 := by omega
      unfold digitValue? at hc
      rw [if_pos hsmall, if_pos h] at hc
      cases hc

/-- Only the character itself becomes a character that is no digit. -/
theorem asciiDigit_eq_iff {x : Char} (hx : digitValue? x = none) (hx' : x.isDigit = false) :
    asciiDigit c = x ↔ c = x := by
  constructor
  · intro h
    cases hc : digitValue? c with
    | none => rwa [asciiDigit_of_none hc] at h
    | some d =>
        rw [asciiDigit_of_digit hc] at h
        rw [← h, isDigit_digitChar (digitValue?_lt hc)] at hx'
        cases hx'
  · rintro rfl
    exact asciiDigit_of_none hx

theorem asciiDigit_eq_underscore : asciiDigit c = '_' ↔ c = '_' := asciiDigit_eq_iff (by decide) (by decide)

theorem asciiDigit_eq_minus : asciiDigit c = '-' ↔ c = '-' := asciiDigit_eq_iff (by decide) (by decide)

theorem asciiDigit_eq_plus : asciiDigit c = '+' ↔ c = '+' := asciiDigit_eq_iff (by decide) (by decide)

end Characters

/-! ## 3. Digits and underscores -/

section Groups

variable {c : Char} {d : Nat} {s : List Char} {ds : List Nat}

theorem dropUnderscores_cons (hc : c ≠ '_') (before : Bool) (s : List Char) :
    dropUnderscores before (c :: s) = (dropUnderscores c.isDigit s).map (c :: ·) := by
  rw [dropUnderscores]
  · exact fun _ _ h => absurd h hc
  · exact fun h => absurd h hc

theorem dropUnderscores_digit (h : digitValue? c = some d) (before : Bool) (s : List Char) :
    dropUnderscores before (asciiDigit c :: s) = (dropUnderscores true s).map (digitChar d :: ·) := by
  have hdigit := isDigit_digitChar (digitValue?_lt h)
  have hne : digitChar d ≠ '_' := by
    intro e
    rw [e] at hdigit
    cases hdigit
  rw [asciiDigit_of_digit h, dropUnderscores_cons hne, hdigit]

/-- Digits are taken over, and the underscores between them are not. -/
theorem Digits.dropUnderscores (h : Digits s ds) :
    ∀ before, Decimal.dropUnderscores before (s.map asciiDigit) = some (ds.map digitChar) := by
  induction h with
  | one h =>
      intro before
      rw [List.map_cons, dropUnderscores_digit h]
      rfl
  | next h hs ih =>
      intro before
      rw [List.map_cons, dropUnderscores_digit h, ih]
      rfl
  | @parted c d s ds h hs ih =>
      intro before
      have hskip : Decimal.dropUnderscores true ('_' :: s.map asciiDigit) =
          Decimal.dropUnderscores true (s.map asciiDigit) := by
        obtain ⟨c', d', s', h', rfl⟩ : ∃ c' d' s', digitValue? c' = some d' ∧ s = c' :: s' := by
          cases hs with
          | one h' => exact ⟨_, _, _, h', rfl⟩
          | next h' _ => exact ⟨_, _, _, h', rfl⟩
          | parted h' _ => exact ⟨_, _, _, h', rfl⟩
        have hdigit : (asciiDigit c').isDigit = true := by
          rw [asciiDigit_of_digit h']
          exact isDigit_digitChar (digitValue?_lt h')
        rw [List.map_cons, Decimal.dropUnderscores, hdigit, Bool.and_self, if_pos rfl, dropUnderscores_digit h',
          asciiDigit_of_digit h']
      have hmark : asciiDigit '_' = '_' := asciiDigit_eq_underscore.mpr rfl
      rw [List.map_cons, List.map_cons, hmark, dropUnderscores_digit h, hskip, ih]
      rfl

/-- What comes after a digit, if nothing but digits is left when the underscores are taken out. -/
theorem digits_after {c : Char} {d : Nat} {s : List Char} (h : digitValue? c = some d) {xs : List Char}
    (hdrop : dropUnderscores true (s.map asciiDigit) = some xs) (hxs : ∀ x ∈ xs, x.isDigit = true) :
    ∃ ds, xs = ds.map digitChar ∧ Digits (c :: s) (d :: ds) := by
  cases s with
  | nil =>
      cases hdrop
      exact ⟨[], rfl, .one h⟩
  | cons c' s =>
      rw [List.map_cons] at hdrop
      by_cases hc' : c' = '_'
      · subst hc'
        rw [asciiDigit_eq_underscore.mpr rfl] at hdrop
        cases s with
        | nil => cases hdrop
        | cons c' s =>
            rw [List.map_cons, dropUnderscores, Bool.true_and] at hdrop
            split at hdrop
            · next hdigit =>
                obtain ⟨d', h'⟩ := digit_of_isDigit hdigit
                obtain ⟨ys, hys, rfl⟩ := Option.map_eq_some_iff.mp hdrop
                obtain ⟨ds, rfl, hds⟩ := digits_after h' hys fun x hx => hxs x (List.mem_cons_of_mem _ hx)
                rw [asciiDigit_of_digit h']
                exact ⟨d' :: ds, rfl, .parted h hds⟩
            · cases hdrop
      · rw [dropUnderscores_cons fun e => hc' (asciiDigit_eq_underscore.mp e)] at hdrop
        obtain ⟨ys, hys, rfl⟩ := Option.map_eq_some_iff.mp hdrop
        have hdigit : (asciiDigit c').isDigit = true := hxs _ List.mem_cons_self
        obtain ⟨d', h'⟩ := digit_of_isDigit hdigit
        rw [hdigit] at hys
        obtain ⟨ds, rfl, hds⟩ := digits_after h' hys fun x hx => hxs x (List.mem_cons_of_mem _ hx)
        rw [asciiDigit_of_digit h']
        exact ⟨d' :: ds, rfl, .next h hds⟩
termination_by s.length

/-- **What is read as digits is written as digits.** -/
theorem digits_of_dropUnderscores {xs : List Char} (hdrop : dropUnderscores false (s.map asciiDigit) = some xs)
    (hnil : xs ≠ []) (hxs : ∀ x ∈ xs, x.isDigit = true) : ∃ ds, xs = ds.map digitChar ∧ Digits s ds := by
  cases s with
  | nil =>
      cases hdrop
      exact absurd rfl hnil
  | cons c s =>
      rw [List.map_cons] at hdrop
      by_cases hc : c = '_'
      · subst hc
        rw [asciiDigit_eq_underscore.mpr rfl] at hdrop
        cases s with
        | nil => cases hdrop
        | cons c' s =>
            rw [List.map_cons, dropUnderscores, Bool.false_and] at hdrop
            cases hdrop
      · rw [dropUnderscores_cons fun e => hc (asciiDigit_eq_underscore.mp e)] at hdrop
        obtain ⟨ys, hys, rfl⟩ := Option.map_eq_some_iff.mp hdrop
        have hdigit : (asciiDigit c).isDigit = true := hxs _ List.mem_cons_self
        obtain ⟨d, h⟩ := digit_of_isDigit hdigit
        rw [hdigit] at hys
        obtain ⟨ds, rfl, hds⟩ := digits_after h hys fun x hx => hxs x (List.mem_cons_of_mem _ hx)
        rw [asciiDigit_of_digit h]
        exact ⟨d :: ds, rfl, hds⟩

theorem Digits.ne_nil (h : Digits s ds) : ds ≠ [] := by
  cases h with
  | one h => exact List.cons_ne_nil _ _
  | next h hs => exact List.cons_ne_nil _ _
  | parted h hs => exact List.cons_ne_nil _ _

theorem Digits.lt (h : Digits s ds) : ∀ d ∈ ds, d < 10 := by
  induction h with
  | one h => exact fun d hd => List.mem_singleton.mp hd ▸ digitValue?_lt h
  | next h hs ih => exact List.forall_mem_cons.mpr ⟨digitValue?_lt h, ih⟩
  | parted h hs ih => exact List.forall_mem_cons.mpr ⟨digitValue?_lt h, ih⟩

theorem isDigit_map (hds : ∀ d ∈ ds, d < 10) : ∀ c ∈ ds.map digitChar, c.isDigit = true := by
  intro c hc
  obtain ⟨d, hd, rfl⟩ := List.mem_map.mp hc
  exact isDigit_digitChar (hds d hd)

theorem digitsValue_map (hds : ∀ d ∈ ds, d < 10) : digitsValue 0 (ds.map digitChar) = decimal ds := by
  unfold digitsValue decimal
  rw [List.foldl_map]
  generalize 0 = value
  induction ds generalizing value with
  | nil => rfl
  | cons d ds ih =>
      have hd : (digitChar d).toNat - '0'.toNat = d := by
        rw [toNat_digitChar (hds d List.mem_cons_self)]
        exact Nat.add_sub_cancel_left 48 d
      rw [List.foldl_cons, List.foldl_cons, hd, ih fun d hd => hds d (List.mem_cons_of_mem _ hd)]

end Groups

/-! ## 4. Reading -/

section Reading

variable {s : String} {i : Int} {n : Nat}

theorem takeSign_map {sign body : List Char} {factor : Int} {ds : List Nat} (hsign : Sign sign factor)
    (hbody : Digits body ds) :
    takeSign ((sign ++ body).map asciiDigit) = (decide (factor = -1), body.map asciiDigit) := by
  cases hsign with
  | plus => rw [List.singleton_append, List.map_cons, asciiDigit_eq_plus.mpr rfl]; rfl
  | minus => rw [List.singleton_append, List.map_cons, asciiDigit_eq_minus.mpr rfl]; rfl
  | absent =>
      obtain ⟨c, d, rest, hc, rfl⟩ : ∃ c d rest, digitValue? c = some d ∧ body = c :: rest := by
        cases hbody with
        | one h => exact ⟨_, _, _, h, rfl⟩
        | next h _ => exact ⟨_, _, _, h, rfl⟩
        | parted h _ => exact ⟨_, _, _, h, rfl⟩
      have hminus : asciiDigit c ≠ '-' := fun e => by
        rw [asciiDigit_eq_minus.mp e] at hc
        cases hc
      have hplus : asciiDigit c ≠ '+' := fun e => by
        rw [asciiDigit_eq_plus.mp e] at hc
        cases hc
      rw [List.nil_append, List.map_cons, takeSign]
      · rfl
      · exact fun _ e => hminus (List.cons.inj e).1
      · exact fun _ e => hplus (List.cons.inj e).1

/-- **A text that writes an integer** is read, unless it has too many digits. -/
theorem readInt_of_writes (h : Writes s i n) :
    readInt s = if maxIntegerDigits < n then .error (.tooLong n) else .ok i := by
  obtain ⟨sign, factor, body, ds, htrim, hsign, hbody, rfl, rfl⟩ := h
  have hnumeral : numeral s = (sign ++ body).map asciiDigit := congrArg (List.map asciiDigit) htrim.eq
  have hnil : (ds.map digitChar).isEmpty = false := by
    rw [List.isEmpty_eq_false_iff]
    exact fun e => hbody.ne_nil (List.map_eq_nil_iff.mp e)
  have hall : (ds.map digitChar).all Char.isDigit = true := List.all_eq_true.mpr (isDigit_map hbody.lt)
  unfold readInt
  rw [hnumeral, takeSign_map hsign hbody]
  dsimp only
  rw [hbody.dropUnderscores false]
  dsimp only
  rw [hnil, hall, List.length_map, digitsValue_map hbody.lt]
  simp only [Bool.not_true, Bool.or_self, Bool.false_eq_true, if_false]
  refine if_congr Iff.rfl rfl (congrArg Except.ok ?_)
  cases hsign with
  | absent => exact (Int.one_mul _).symm
  | plus => exact (Int.one_mul _).symm
  | minus => exact (Int.neg_one_mul _).symm

/-- A text that is not malformed writes an integer. -/
theorem exists_writes (h : readInt s ≠ .error .malformed) : ∃ i n, Writes s i n := by
  obtain ⟨t, ht⟩ : ∃ t, Trimmed isNumberBlank s.toList t := ⟨_, trimmed_dropWhile isNumberBlank s.toList⟩
  have hnumeral : numeral s = t.map asciiDigit := congrArg (List.map asciiDigit) ht.eq
  obtain ⟨sign, factor, body, hsplit, hsign, hsigned⟩ : ∃ sign factor body, t = sign ++ body ∧ Sign sign factor ∧
      takeSign (t.map asciiDigit) = (decide (factor = -1), body.map asciiDigit) := by
    cases t with
    | nil => exact ⟨[], 1, [], rfl, .absent, rfl⟩
    | cons c rest =>
        by_cases hminus : c = '-'
        · subst hminus
          refine ⟨['-'], -1, rest, rfl, .minus, ?_⟩
          rw [List.map_cons, asciiDigit_eq_minus.mpr rfl]
          rfl
        by_cases hplus : c = '+'
        · subst hplus
          refine ⟨['+'], 1, rest, rfl, .plus, ?_⟩
          rw [List.map_cons, asciiDigit_eq_plus.mpr rfl]
          rfl
        refine ⟨[], 1, c :: rest, rfl, .absent, ?_⟩
        rw [List.map_cons, takeSign]
        · rfl
        · exact fun _ e => hminus (asciiDigit_eq_minus.mp (List.cons.inj e).1)
        · exact fun _ e => hplus (asciiDigit_eq_plus.mp (List.cons.inj e).1)
  subst hsplit
  unfold readInt at h
  rw [hnumeral, hsigned] at h
  dsimp only at h
  split at h
  · exact absurd rfl h
  next xs hxs =>
  split at h
  · exact absurd rfl h
  next hdigits =>
  rw [Bool.or_eq_true, not_or, Bool.not_eq_true', Bool.not_eq_false, List.isEmpty_iff] at hdigits
  obtain ⟨ds, rfl, hds⟩ := digits_of_dropUnderscores hxs hdigits.1 (List.all_eq_true.mp hdigits.2)
  exact ⟨_, _, sign, factor, body, ds, ht, hsign, hds, rfl, rfl⟩

/-- **An integer is read** from just the texts that write it with few enough digits. -/
theorem readInt_eq_ok_iff : readInt s = .ok i ↔ ∃ n, Writes s i n ∧ n ≤ maxIntegerDigits := by
  constructor
  · intro h
    obtain ⟨i', n, hwrites⟩ := exists_writes fun e => nomatch h.symm.trans e
    have hread := readInt_of_writes hwrites
    rw [h] at hread
    split at hread
    · cases hread
    · next hn =>
        cases hread
        exact ⟨n, hwrites, Nat.le_of_not_lt hn⟩
  · rintro ⟨n, hwrites, hn⟩
    rw [readInt_of_writes hwrites, if_neg (Nat.not_lt.mpr hn)]

theorem readInteger_eq_ok_iff : readInteger s = .ok i ↔ ∃ n, Writes s i n ∧ n ≤ maxIntegerDigits := by
  rw [← readInt_eq_ok_iff]
  unfold readInteger
  split
  · next h =>
      rw [h]
      exact ⟨fun e => congrArg _ (Except.ok.inj e), fun e => congrArg _ (Except.ok.inj e)⟩
  · next h =>
      rw [h]
      exact ⟨(fun e => nomatch e), fun e => nomatch e⟩
  · next h =>
      rw [h]
      exact ⟨(fun e => nomatch e), fun e => nomatch e⟩

/-- What is not read has too many digits, if it writes an integer at all. -/
theorem lt_of_writes (hread : ∀ i, readInt s ≠ .ok i) (h : Writes s i n) : maxIntegerDigits < n :=
  Nat.lt_of_not_le fun hn => hread i (readInt_eq_ok_iff.mpr ⟨n, h, hn⟩)

end Reading

end FragmentSearch.Decimal
