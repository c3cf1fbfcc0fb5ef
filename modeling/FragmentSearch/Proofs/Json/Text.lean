import FragmentSearch.Json.Reader
import FragmentSearch.Json.Writer

/-!
# Written texts

A text is written character by character, each as itself, by a short escape, by a numeric escape or by a pair
of them.

* `hexQuad?_hexDigits` -- four hexadecimal digits are read as the number that they write;
* `readText_escapeChar` -- what is written for a character is read as the character;
* `readText_escapes` -- so a written text is read as the text, whatever follows it;
* `escapeChar_printable` -- and it is written in printable ASCII characters.
-/

namespace FragmentSearch.Json

open FragmentSearch.Text

/-! ## 1. Hexadecimal digits -/

theorem hexDigit?_hexDigit {n : Nat} (h : n < 16) : hexDigit? (hexDigit n) = some n := by
  have hall : ∀ n < 16, hexDigit? (hexDigit n) = some n := by decide
  exact hall n h

theorem hexDigits_four (code : Nat) :
    hexDigits 4 code = [hexDigit (code / 16 / 16 / 16 % 16), hexDigit (code / 16 / 16 % 16),
      hexDigit (code / 16 % 16), hexDigit (code % 16)] := rfl

/-- Four digits are read as the number that they write. -/
theorem hexQuad?_hexDigits {code : Nat} (h : code < 0x10000) :
    hexQuad? (hexDigit (code / 16 / 16 / 16 % 16)) (hexDigit (code / 16 / 16 % 16)) (hexDigit (code / 16 % 16))
      (hexDigit (code % 16)) = some code := by
  have hlt : ∀ n : Nat, n % 16 < 16 := fun n => Nat.mod_lt n (by decide)
  unfold hexQuad?
  rw [hexDigit?_hexDigit (hlt _), hexDigit?_hexDigit (hlt _), hexDigit?_hexDigit (hlt _), hexDigit?_hexDigit (hlt _)]
  show some (((code / 16 / 16 / 16 % 16 * 16 + code / 16 / 16 % 16) * 16 + code / 16 % 16) * 16 + code % 16) = some code
  exact congrArg some (by omega)

/-! ## 2. Characters -/

section Characters

variable {start pos : Nat} {acc x : List Char}

/-- Characters of an escape that has been read are passed over. -/
theorem readText_skip (w : List Char) : ∀ pos,
    readText start acc pos w.length (w ++ x) = readText start acc (pos + w.length) 0 x := by
  induction w with
  | nil => intro pos; rfl
  | cons c w ih =>
      intro pos
      rw [List.cons_append, readText, if_pos (by simp), List.length_cons, Nat.add_sub_cancel, ih]
      rw [show pos + 1 + w.length = pos + (w.length + 1) by omega]

/-- A character that needs no escape. -/
theorem readText_plain {c : Char} (hq : c ≠ '"') (hb : c ≠ '\\') (hc : 32 ≤ c.toNat) :
    readText start acc pos 0 (c :: x) = readText start (c :: acc) (pos + 1) 0 x := by
  rw [readText, if_neg (Nat.lt_irrefl 0), if_neg hq, if_neg hb, if_neg (by omega)]

/-- An escape whose character and width are known. -/
theorem readText_escape {d : Char} {w : List Char} (h : readEscape start pos (w ++ x) = .ok (d, w.length)) :
    readText start acc pos 0 ('\\' :: (w ++ x)) = readText start (d :: acc) (pos + 1 + w.length) 0 x := by
  rw [readText, if_neg (Nat.lt_irrefl 0), if_neg (by decide), if_pos rfl, h]
  exact readText_skip w (pos + 1)

theorem readEscape_short {e d : Char} (he : e ≠ 'u') (h : shortEscape? e = some d) :
    readEscape start pos ([e] ++ x) = .ok (d, 1) := by
  show readEscape start pos (e :: x) = _
  rw [readEscape, if_neg he, h]

/-- A numeric escape that is not the first half of a pair. Something must follow it. -/
theorem readEscape_unicode {code : Nat} (hc : code < 0x10000) (hs : isHighSurrogate code = false) (hx : x ≠ []) :
    readEscape start pos ('u' :: hexDigits 4 code ++ x) = .ok (charOf code, 5) := by
  obtain ⟨y, x, rfl⟩ := List.exists_cons_of_ne_nil hx
  rw [hexDigits_four]
  show readEscape start pos ('u' :: _ :: _ :: _ :: _ :: y :: x) = _
  rw [readEscape, if_pos rfl, readUnicodeEscape, hexQuad?_hexDigits hc]
  simp only [hs, Bool.false_eq_true, if_false]

/-- Two numeric escapes that write a pair of surrogates. -/
theorem readEscape_pair {v : Nat} (hv : v < 0x100000) (hx : x ≠ []) :
    readEscape start pos ('u' :: hexDigits 4 (0xd800 + v / 1024) ++ unicodeEscape (0xdc00 + v % 1024) ++ x) =
      .ok (Char.ofNat (0x10000 + v), 11) := by
  obtain ⟨y, x, rfl⟩ := List.exists_cons_of_ne_nil hx
  have hhigh : isHighSurrogate (0xd800 + v / 1024) = true := by
    unfold isHighSurrogate
    rw [Bool.and_eq_true, decide_eq_true_eq, decide_eq_true_eq]
    omega
  have hlow : isLowSurrogate (0xdc00 + v % 1024) = true := by
    unfold isLowSurrogate
    rw [Bool.and_eq_true, decide_eq_true_eq, decide_eq_true_eq]
    omega
  unfold unicodeEscape
  rw [hexDigits_four, hexDigits_four]
  show readEscape start pos ('u' :: _ :: _ :: _ :: _ :: '\\' :: 'u' :: _ :: _ :: _ :: _ :: y :: x) = _
  rw [readEscape, if_pos rfl, readUnicodeEscape, hexQuad?_hexDigits (by omega)]
  simp only [hhigh, if_true, lowSurrogate?]
  rw [hexQuad?_hexDigits (by omega)]
  simp only [hlow, if_true]
  have e : 0x10000 + (0xd800 + v / 1024 - 0xd800) * 1024 + (0xdc00 + v % 1024 - 0xdc00) = 0x10000 + v := by omega
  rw [e]

/-- A character of the first plane is what its code stands for, and no half of a pair. -/
theorem charOf_toNat {c : Char} (h : c.toNat < 0x10000) : isHighSurrogate c.toNat = false ∧ charOf c.toNat = c := by
  -- a character is no surrogate
  have hvalid : c.toNat < 0xd800 ∨ 0xdfff < c.toNat := by
    rcases c.valid with hv | ⟨hv, _⟩
    · exact Or.inl hv
    · exact Or.inr hv
  have hhigh : isHighSurrogate c.toNat = false := by
    unfold isHighSurrogate
    rw [Bool.and_eq_false_iff, decide_eq_false_iff_not, decide_eq_false_iff_not]
    omega
  have hlow : isLowSurrogate c.toNat = false := by
    unfold isLowSurrogate
    rw [Bool.and_eq_false_iff, decide_eq_false_iff_not, decide_eq_false_iff_not]
    omega
  refine ⟨hhigh, ?_⟩
  rw [charOf, hhigh, hlow, Bool.or_false, if_neg Bool.false_ne_true]
  exact Char.ofNat_toNat c

/-- **One character**: what is written for it is read as the character, if something follows. -/
theorem readText_escapeChar (c : Char) (hx : x ≠ []) :
    ∃ p, readText start acc pos 0 (escapeChar c ++ x) = readText start (c :: acc) p 0 x := by
  have hshort : ∀ e : Char, e ≠ 'u' → shortEscape? e = some c →
      ∃ p, readText start acc pos 0 (['\\', e] ++ x) = readText start (c :: acc) p 0 x :=
    fun e he h => ⟨_, readText_escape (readEscape_short he h)⟩
  unfold escapeChar
  split
  · next h => exact hshort '"' (by decide) (by rw [h]; rfl)
  split
  · next h => exact hshort '\\' (by decide) (by rw [h]; rfl)
  split
  · next h => exact hshort 'n' (by decide) (by rw [h]; rfl)
  split
  · next h => exact hshort 'r' (by decide) (by rw [h]; rfl)
  split
  · next h => exact hshort 't' (by decide) (by rw [h]; rfl)
  split
  · next h => exact hshort 'f' (by decide) (by rw [← Char.ofNat_toNat c, h]; rfl)
  split
  · next h => exact hshort 'b' (by decide) (by rw [← Char.ofNat_toNat c, h]; rfl)
  next hq hb _ _ _ _ _ =>
  split
  · next h => exact ⟨_, readText_plain hq hb h.1⟩
  split
  · next h =>
      obtain ⟨hs, hc⟩ := charOf_toNat h
      have hread : readEscape start pos ('u' :: hexDigits 4 c.toNat ++ x) = .ok (charOf c.toNat, 5) :=
        readEscape_unicode h hs hx
      rw [hc] at hread
      exact ⟨_, readText_escape hread⟩
  · next h =>
      have hv : c.toNat - 0x10000 < 0x100000 := by
        rcases c.valid with hv | ⟨_, hv⟩
        · exact absurd (show c.toNat < 0xd800 from hv) (by omega)
        · have : c.toNat < 0x110000 := hv
          omega
      have hc : Char.ofNat (0x10000 + (c.toNat - 0x10000)) = c := by
        rw [Nat.add_sub_cancel' (by omega)]
        exact Char.ofNat_toNat c
      have hread : readEscape start pos ('u' :: hexDigits 4 (0xd800 + (c.toNat - 0x10000) / 1024) ++
          unicodeEscape (0xdc00 + (c.toNat - 0x10000) % 1024) ++ x) =
          .ok (Char.ofNat (0x10000 + (c.toNat - 0x10000)), 11) := readEscape_pair hv hx
      rw [hc] at hread
      exact ⟨_, readText_escape hread⟩

end Characters

/-! ## 3. Texts -/

/-- **A written text is read as the text**, whatever follows its closing quote. -/
theorem readText_escapes {start : Nat} (cs rest : List Char) : ∀ (acc : List Char) (pos : Nat),
    ∃ p, readText start acc pos 0 (cs.flatMap escapeChar ++ '"' :: rest) =
      .ok (String.ofList (acc.reverse ++ cs), rest, p) := by
  induction cs with
  | nil =>
      intro acc pos
      refine ⟨pos + 1, ?_⟩
      show readText start acc pos 0 ('"' :: rest) = _
      rw [readText, if_neg (Nat.lt_irrefl 0), if_pos rfl, List.append_nil]
  | cons c cs ih =>
      intro acc pos
      have hne : cs.flatMap escapeChar ++ '"' :: rest ≠ [] := by simp
      obtain ⟨p, hp⟩ : ∃ p, readText start acc pos 0 (escapeChar c ++ (cs.flatMap escapeChar ++ '"' :: rest)) =
          readText start (c :: acc) p 0 (cs.flatMap escapeChar ++ '"' :: rest) := readText_escapeChar c hne
      obtain ⟨p', hp'⟩ := ih (c :: acc) p
      refine ⟨p', ?_⟩
      rw [List.flatMap_cons, List.append_assoc, hp, hp', List.reverse_cons, List.append_assoc, List.singleton_append]

/-! ## 4. Printable characters -/

/-- Whether all characters of a list have a property is decided by going through the list. -/
theorem of_all {P : Char → Prop} [DecidablePred P] {s : List Char} (h : s.all (fun c => decide (P c)) = true) :
    ∀ c ∈ s, P c :=
  fun c hc => of_decide_eq_true (List.all_eq_true.mp h c hc)

/-- Is the character a printable ASCII character? -/
def IsPrintable (c : Char) : Prop := 32 ≤ c.toNat ∧ c.toNat ≤ 126

instance instDecidableIsPrintable (c : Char) : Decidable (IsPrintable c) :=
  inferInstanceAs (Decidable (32 ≤ c.toNat ∧ c.toNat ≤ 126))

theorem hexDigit_printable {n : Nat} (h : n < 16) : IsPrintable (hexDigit n) := by
  have hall : ∀ n < 16, IsPrintable (hexDigit n) := by decide
  exact hall n h

theorem hexDigits_printable (width : Nat) : ∀ n, ∀ c ∈ hexDigits width n, IsPrintable c := by
  induction width with
  | zero => exact fun n c h => absurd h List.not_mem_nil
  | succ width ih =>
      intro n c h
      rcases List.mem_append.mp h with h | h
      · exact ih _ c h
      · rw [List.mem_singleton.mp h]
        exact hexDigit_printable (Nat.mod_lt n (by decide))

theorem unicodeEscape_printable (code : Nat) : ∀ c ∈ unicodeEscape code, IsPrintable c := by
  intro c h
  rcases List.mem_cons.mp h with rfl | h
  · decide
  · rcases List.mem_cons.mp h with rfl | h
    · decide
    · exact hexDigits_printable 4 code c h

/-- A character is written in printable ASCII characters. -/
theorem escapeChar_printable (c : Char) : ∀ d ∈ escapeChar c, IsPrintable d := by
  have hshort : ∀ e : Char, IsPrintable e → ∀ d ∈ ['\\', e], IsPrintable d := by
    intro e he d hd
    rcases List.mem_cons.mp hd with rfl | hd
    · decide
    · rw [List.mem_singleton.mp hd]
      exact he
  unfold escapeChar
  split
  · exact hshort '"' (by decide)
  split
  · exact hshort '\\' (by decide)
  split
  · exact hshort 'n' (by decide)
  split
  · exact hshort 'r' (by decide)
  split
  · exact hshort 't' (by decide)
  split
  · exact hshort 'f' (by decide)
  split
  · exact hshort 'b' (by decide)
  split
  · next h =>
      intro d hd
      rw [List.mem_singleton.mp hd]
      exact h
  split
  · exact unicodeEscape_printable _
  · intro d hd
    rcases List.mem_append.mp hd with hd | hd
    · exact unicodeEscape_printable _ d hd
    · exact unicodeEscape_printable _ d hd

theorem renderText_printable (s : String) : ∀ c ∈ renderText s, IsPrintable c := by
  intro c h
  rcases List.mem_cons.mp h with rfl | h
  · decide
  · rcases List.mem_append.mp h with h | h
    · obtain ⟨d, _, hd⟩ := List.mem_flatMap.mp h
      exact escapeChar_printable d c hd
    · rw [List.mem_singleton.mp h]
      decide

end FragmentSearch.Json
