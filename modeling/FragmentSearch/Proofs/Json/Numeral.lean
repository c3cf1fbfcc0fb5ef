import FragmentSearch.Proofs.Json.Number

/-!
# The characters of numbers

Numbers are written in digits, signs, points and exponent marks, and nothing else is. So what is written for a
number is read as a number.

* `Numeral.renderFloat` -- a finite number is written in these characters;
* `readValue_numeral` -- what is written in them is read as a number, not as a keyword or a list;
* `readValue_renderFloat` -- a number whose text reads back by itself reads back in any place.
-/

namespace FragmentSearch.Json

open FragmentSearch.Decimal

/-! ## 1. The characters of numbers -/

/-- Is it a character of written numbers? -/
def Numeral (c : Char) : Prop := c.isDigit = true ∨ c ∈ ['-', '+', '.', 'e']

instance instDecidableNumeral (c : Char) : Decidable (Numeral c) :=
  inferInstanceAs (Decidable (c.isDigit = true ∨ c ∈ ['-', '+', '.', 'e']))

namespace Numeral

variable {ds : List Char}

theorem printable {c : Char} (h : Numeral c) : IsPrintable c := by
  rcases h with h | h
  · have hd : 48 ≤ c.toNat ∧ c.toNat ≤ 57 := Char.isDigit_iff_toNat.mp h
    exact ⟨by omega, by omega⟩
  · have hall : ∀ c ∈ ['-', '+', '.', 'e'], IsPrintable c := of_all (by decide)
    exact hall c h

theorem ne {c d : Char} (h : Numeral c) (hd : ¬ Numeral d) : c ≠ d := by
  rintro rfl
  exact hd h

theorem of_digitsOf {n : Nat} : ∀ c ∈ digitsOf n, Numeral c := fun _ h => Or.inl (isDigit_of_mem_digitsOf h)

theorem renderInt (i : Int) : ∀ c ∈ Json.renderInt i, Numeral c := by
  unfold Json.renderInt
  split
  · intro c h
    rcases List.mem_cons.mp h with rfl | h
    · decide
    · exact of_digitsOf c h
  · exact of_digitsOf

theorem append {s t : List Char} (hs : ∀ c ∈ s, Numeral c) (ht : ∀ c ∈ t, Numeral c) : ∀ c ∈ s ++ t, Numeral c :=
  fun c h => (List.mem_append.mp h).elim (hs c) (ht c)

theorem cons {c : Char} {s : List Char} (hc : Numeral c) (hs : ∀ d ∈ s, Numeral d) : ∀ d ∈ c :: s, Numeral d := by
  intro d h
  rcases List.mem_cons.mp h with rfl | h
  · exact hc
  · exact hs d h

theorem zeros (n : Nat) : ∀ c ∈ List.replicate n '0', Numeral c := by
  intro c h
  rw [(List.mem_replicate.mp h).2]
  decide

theorem dropTrailingZeros (h : ∀ c ∈ ds, Numeral c) : ∀ c ∈ Decimal.dropTrailingZeros ds, Numeral c := by
  intro c hc
  have hc' := (List.dropWhile_sublist _).subset (List.mem_reverse.mp hc)
  exact h c (List.mem_reverse.mp hc')

theorem positional (h : ∀ c ∈ ds, Numeral c) (point : Int) : ∀ c ∈ Decimal.positional ds point, Numeral c := by
  unfold Decimal.positional
  split
  · exact cons (by decide) (cons (by decide) (append (zeros _) h))
  split
  · exact append (fun c hc => h c (List.mem_of_mem_take hc))
      (cons (by decide) fun c hc => h c (List.mem_of_mem_drop hc))
  · exact append (append h (zeros _)) (of_all (by decide))

theorem exponentText (e : Int) : ∀ c ∈ Decimal.exponentText e, Numeral c := by
  unfold Decimal.exponentText
  refine cons (by decide) (cons ?_ ?_)
  · split <;> decide
  · split
    · exact cons (by decide) of_digitsOf
    · exact of_digitsOf

theorem exponential (h : ∀ c ∈ ds, Numeral c) (point : Int) : ∀ c ∈ Decimal.exponential ds point, Numeral c := by
  unfold Decimal.exponential
  refine append ?_ (exponentText _)
  split
  · exact h
  · next d rest _ =>
      exact cons (h d List.mem_cons_self) (cons (by decide) fun c hc => h c (List.mem_cons_of_mem _ hc))
  · exact h

/-- A finite number is written in characters of numbers. -/
theorem renderFloat {x : Float} {negative : Bool} {m : Nat} {q : Int} (hx : Binary.ofFloat x = .finite negative m q) :
    ∀ c ∈ Json.renderFloat x, Numeral c := by
  unfold Json.renderFloat plain
  simp only [hx]
  rw [String.toList_ofList]
  have hbody : ∀ body : List Char, (∀ c ∈ body, Numeral c) →
      ∀ c ∈ (if negative then '-' :: body else body), Numeral c := by
    intro body h
    split
    · exact cons (by decide) h
    · exact h
  refine hbody _ ?_
  split
  · exact of_all (by decide)
  · have hds : ∀ c ∈ Decimal.dropTrailingZeros (digitsOf (shortest m q).1), Numeral c := dropTrailingZeros of_digitsOf
    split
    · exact positional hds _
    · exact exponential hds _

end Numeral

/-! ## 2. Numbers as values -/

section Values

variable {s x : List Char}

/-- No keyword begins with the characters of a number. -/
theorem keyword?_numeral {c : Char} (hc : Numeral c) (hs : ∀ d ∈ s, Numeral d) (hx : Delimited x) :
    keyword? (c :: (s ++ x)) = none := by
  have hsecond : ∀ w, ('I' :: w).isPrefixOf (s ++ x) = false := by
    intro w
    cases hsx : s ++ x with
    | nil => rfl
    | cons d t =>
        have hd : 'I' ≠ d := by
          cases s with
          | nil =>
              obtain rfl : x = d :: t := hsx
              exact fun e => (ne_of_isDelimiter (hx d rfl)).2.2.2 e.symm
          | cons d' s =>
              obtain ⟨rfl, _⟩ := List.cons.inj hsx
              exact fun e => (hs d' List.mem_cons_self).ne (by decide) e.symm
        rw [List.isPrefixOf, beq_false_of_ne hd, Bool.false_and]
  have hfirst : ∀ a w, ¬ Numeral a → (a :: w).isPrefixOf (c :: (s ++ x)) = false := by
    intro a w ha
    rw [List.isPrefixOf, beq_false_of_ne fun e => hc.ne ha e.symm, Bool.false_and]
  unfold keyword?
  rw [List.find?_eq_none]
  intro k hk
  have hk' : k.1.toList.isPrefixOf (c :: (s ++ x)) = false := by
    simp only [keywords, List.mem_cons, List.not_mem_nil, or_false] at hk
    rcases hk with rfl | rfl | rfl | rfl | rfl | rfl
    · exact hfirst 'n' _ (by decide)
    · exact hfirst 't' _ (by decide)
    · exact hfirst 'f' _ (by decide)
    · exact hfirst 'N' _ (by decide)
    · exact hfirst 'I' _ (by decide)
    · show ('-' == c && ('I' :: _).isPrefixOf (s ++ x)) = false
      rw [hsecond, Bool.and_false]
  rw [hk']
  exact Bool.false_ne_true

/-- What is written in characters of numbers is read as a number. -/
theorem readValue_numeral (hne : s ≠ []) (hs : ∀ c ∈ s, Numeral c) (hx : Delimited x) (fuel pos : Nat) :
    readValue (fuel + 1) pos (s ++ x) = readNumber pos (s ++ x) := by
  obtain ⟨c, s, rfl⟩ := List.exists_cons_of_ne_nil hne
  have hc := hs c List.mem_cons_self
  have hk : keyword? (c :: (s ++ x)) = none := keyword?_numeral hc (fun d hd => hs d (List.mem_cons_of_mem _ hd)) hx
  rw [List.cons_append, readValue, if_neg (hc.ne (by decide)), if_neg (hc.ne (by decide)),
    if_neg (hc.ne (by decide)), hk]

/-- A keyword is read as its value. -/
theorem readValue_keyword {k : String × Json} (hk : k ∈ keywords) (x : List Char) (fuel pos : Nat) :
    readValue (fuel + 1) pos (k.1.toList ++ x) = .ok (k.2, x, pos + k.1.length) := by
  have hword : ∀ (c : Char) (w : List Char), c ≠ '"' → c ≠ '[' → c ≠ '\x7b' → k.1.toList = c :: w →
      keyword? (c :: (w ++ x)) = some k → (c :: (w ++ x)).drop k.1.length = x →
      readValue (fuel + 1) pos (k.1.toList ++ x) = .ok (k.2, x, pos + k.1.length) := by
    intro c w hq hl ho e hk hd
    rw [e, List.cons_append, readValue, if_neg hq, if_neg hl, if_neg ho, hk]
    exact congrArg (fun t => Except.ok (k.2, t, pos + k.1.length)) hd
  simp only [keywords, List.mem_cons, List.not_mem_nil, or_false] at hk
  rcases hk with rfl | rfl | rfl | rfl | rfl | rfl
  · exact hword 'n' ['u', 'l', 'l'] (by decide) (by decide) (by decide) rfl rfl rfl
  · exact hword 't' ['r', 'u', 'e'] (by decide) (by decide) (by decide) rfl rfl rfl
  · exact hword 'f' ['a', 'l', 's', 'e'] (by decide) (by decide) (by decide) rfl rfl rfl
  · exact hword 'N' ['a', 'N'] (by decide) (by decide) (by decide) rfl rfl rfl
  · exact hword 'I' ['n', 'f', 'i', 'n', 'i', 't', 'y'] (by decide) (by decide) (by decide) rfl rfl rfl
  · exact hword '-' ['I', 'n', 'f', 'i', 'n', 'i', 't', 'y'] (by decide) (by decide) (by decide) rfl rfl rfl

/-- A written integer is read as the integer. -/
theorem readValue_renderInt {i : Int} (h : (digitsOf i.natAbs).length ≤ maxIntegerDigits) (hx : Delimited x)
    (fuel pos : Nat) : ∃ p, readValue (fuel + 1) pos (renderInt i ++ x) = .ok (.int i, x, p) := by
  obtain ⟨p, hp⟩ := readNumber_renderInt h pos
  have hne : renderInt i ≠ [] := by
    intro e
    rw [e] at hp
    cases hp
  refine ⟨p, ?_⟩
  rw [readValue_numeral hne (Numeral.renderInt i) hx, readNumber_append hx, hp]
  rfl

end Values

/-! ## 3. Whole texts -/

section Whole

variable {cs : List Char}

/-- A text that begins with neither a blank nor a byte order mark is read from its first character on, and
nothing but blanks may be left. -/
theorem parse_ofList {c : Char} (hc : isGap c = false) (hb : c ≠ Char.ofNat 0xfeff) {v : Json} :
    parse (String.ofList (c :: cs)) = .ok v ↔
      ∃ rest p, readValue (2 * (c :: cs).length + 2) 0 (c :: cs) = .ok (v, rest, p) ∧ (skipGap p rest).1 = [] := by
  have hskip : skipGap 0 (c :: cs) = (c :: cs, 0) := if_neg (by rw [hc]; exact Bool.false_ne_true)
  unfold parse
  rw [String.toList_ofList]
  simp only [List.head?_cons, Option.some.injEq, if_neg hb, hskip]
  constructor
  · intro h
    split at h
    · cases h
    · next v' rest p hread =>
        split at h
        · next q hq =>
            cases h
            exact ⟨rest, p, hread, by rw [hq]⟩
        · cases h
  · rintro ⟨rest, p, hread, hrest⟩
    obtain ⟨q, hq⟩ : ∃ q, skipGap p rest = ([], q) := ⟨_, Prod.ext hrest rfl⟩
    simp only [hread, hq]

/-- A floating point number reads back if its text, taken by itself, is read as the same number. -/
def ReadsBack (a : Float) : Prop := parse (String.ofList (renderFloat a)) = .ok (.float a)

theorem Numeral.not_isGap {c : Char} (h : Numeral c) : isGap c = false := by
  have hall : ∀ c ∈ [' ', '\t', '\n', '\r'], ¬ Numeral c := of_all (by decide)
  refine Bool.eq_false_iff.mpr fun hg => ?_
  simp only [isGap, Bool.or_eq_true, decide_eq_true_eq, or_assoc] at hg
  exact hall c (by simp only [List.mem_cons, List.not_mem_nil, or_false]; exact hg) h

/-- A keyword by itself is read as its value. -/
theorem parse_keyword {k : String × Json} (hk : k ∈ keywords) : parse (String.ofList k.1.toList) = .ok k.2 := by
  obtain ⟨c, w, e, hc, hb⟩ : ∃ c w, k.1.toList = c :: w ∧ isGap c = false ∧ c ≠ Char.ofNat 0xfeff := by
    simp only [keywords, List.mem_cons, List.not_mem_nil, or_false] at hk
    rcases hk with rfl | rfl | rfl | rfl | rfl | rfl <;> exact ⟨_, _, rfl, by decide, by decide⟩
  have hread : ∀ fuel pos, readValue (fuel + 1) pos (c :: w) = .ok (k.2, [], pos + k.1.length) := by
    intro fuel pos
    have h := readValue_keyword hk [] fuel pos
    rw [List.append_nil, e] at h
    exact h
  rw [e, parse_ofList hc hb]
  exact ⟨[], _, hread _ 0, rfl⟩

/-- A number that reads back is read to the end of its text. -/
theorem readNumber_of_parse {v : Json} (hs : ∀ c ∈ cs, Numeral c) (h : parse (String.ofList cs) = .ok v) :
    cs ≠ [] ∧ ∀ pos, ∃ p, readNumber pos cs = .ok (v, [], p) := by
  cases cs with
  | nil =>
      rw [parse, String.toList_ofList] at h
      cases h
  | cons c t =>
      have hc := hs c List.mem_cons_self
      have hvalue : readValue (2 * (c :: t).length + 1 + 1) 0 (c :: t) = readNumber 0 (c :: t) := by
        have h' := readValue_numeral (List.cons_ne_nil c t) hs delimited_nil (2 * (c :: t).length + 1) 0
        rw [List.append_nil] at h'
        exact h'
      obtain ⟨rest, p, hread, hrest⟩ := (parse_ofList hc.not_isGap (hc.ne (by decide))).mp h
      rw [hvalue] at hread
      obtain ⟨hany, hsub⟩ := readNumber_start hread
      refine ⟨List.cons_ne_nil c t, ?_⟩
      -- what is left is made of characters of numbers, so a blank is not among it
      cases rest with
      | nil => exact hany
      | cons d rest =>
          have hd : isGap d = false := (hs d (hsub List.mem_cons_self)).not_isGap
          simp only [skipGap, hd, Bool.false_eq_true, if_false] at hrest
          cases hrest

/-- A written number that reads back by itself does so wherever it stands. -/
theorem readValue_renderFloat {a : Float} {x : List Char} (h : ReadsBack a) (hx : Delimited x) (fuel pos : Nat) :
    ∃ p, readValue (fuel + 1) pos (renderFloat a ++ x) = .ok (.float a, x, p) := by
  have hword : ∀ k ∈ keywords, renderFloat a = k.1.toList →
      ∃ p, readValue (fuel + 1) pos (renderFloat a ++ x) = .ok (.float a, x, p) := by
    intro k hk e
    rw [ReadsBack, e, parse_keyword hk] at h
    rw [e, ← Except.ok.inj h]
    exact ⟨_, readValue_keyword hk x fuel pos⟩
  cases ha : Binary.ofFloat a with
  | notANumber =>
      refine hword ("NaN", .float notANumber) (by simp [keywords]) ?_
      rw [renderFloat, ha]
  | infinite negative =>
      cases negative with
      | false =>
          refine hword ("Infinity", .float infinity) (by simp [keywords]) ?_
          rw [renderFloat, ha]
          rfl
      | true =>
          refine hword ("-Infinity", .float (-infinity)) (by simp [keywords]) ?_
          rw [renderFloat, ha]
          rfl
  | finite negative m q =>
      have hs := Numeral.renderFloat ha
      obtain ⟨hne, hread⟩ := readNumber_of_parse hs h
      obtain ⟨p, hp⟩ := hread pos
      refine ⟨p, ?_⟩
      rw [readValue_numeral hne hs hx, readNumber_append hx, hp]
      rfl

end Whole

end FragmentSearch.Json
