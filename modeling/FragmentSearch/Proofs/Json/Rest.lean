import FragmentSearch.Proofs.Json.Number
import Mathlib.Data.List.TakeWhile

/-!
# What a reader leaves

A step of reading JSON leaves the end of the text that it was given. It takes an integer for too long only where the text
has so many digits in a row (`parse_tooLong`), and everything else that it refuses is malformed.
-/

namespace FragmentSearch.Json

open FragmentSearch.Text FragmentSearch.Decimal

/-- So many digits in a row, and too many for an integer. -/
structure HasLongRun (n : Nat) (s : List Char) : Prop where
  tooLong : maxIntegerDigits < n
  run : ∃ ds, ds <:+: s ∧ ds.length = n ∧ ∀ c ∈ ds, c.isDigit = true

/-- What may become of a text in one step. -/
inductive Leaves {α : Type} (s : List Char) : Step α → Prop where
  | rest {a : α} {r : List Char} {p : Nat} (h : r <:+ s) : Leaves s (.ok (a, r, p))
  | malformed (reason : Reason) (p : Nat) : Leaves s (.error (.malformed reason p))
  | tooLong {n : Nat} (h : HasLongRun n s) : Leaves s (.error (.integerTooLong n))

section Steps

variable {α : Type} {s t : List Char}

theorem HasLongRun.mono {n : Nat} (h : HasLongRun n s) (hs : s <:+ t) : HasLongRun n t := by
  obtain ⟨ds, hds, hlength, hdigits⟩ := h.run
  exact ⟨h.tooLong, ds, hds.trans hs.isInfix, hlength, hdigits⟩

theorem Leaves.mono {r : Step α} (h : Leaves s r) (hs : s <:+ t) : Leaves t r := by
  cases h with
  | rest h => exact .rest (h.trans hs)
  | malformed reason p => exact .malformed reason p
  | tooLong h => exact .tooLong (h.mono hs)

/-- The error of one step as that of another one. -/
theorem Leaves.failed {β : Type} {x : Step α} {e : Fault} (h : Leaves s x) (hx : x = .error e) :
    Leaves s (.error e : Step β) := by
  cases h with
  | rest => cases hx
  | malformed reason p =>
      cases hx
      exact .malformed reason p
  | tooLong h =>
      cases hx
      exact .tooLong h

theorem Leaves.suffix {x : Step α} {a : α} {r : List Char} {p : Nat} (h : Leaves s x) (hx : x = .ok (a, r, p)) :
    r <:+ s := by
  cases h with
  | rest h =>
      cases hx
      exact h
  | malformed => cases hx
  | tooLong => cases hx

theorem skipGap_suffix (pos : Nat) (s : List Char) : (skipGap pos s).1 <:+ s := by
  induction s generalizing pos with
  | nil => exact List.suffix_rfl
  | cons c s ih =>
      unfold skipGap
      split
      · exact (ih _).trans (List.suffix_cons c s)
      · exact List.suffix_rfl

end Steps

/-! ## 1. Texts -/

section Texts

theorem malformed_of_lowSurrogate? {pos : Nat} {s : List Char} {e : Fault} (h : lowSurrogate? pos s = .error e) :
    ∃ reason p, e = .malformed reason p := by
  unfold lowSurrogate? at h
  split at h
  · split at h
    · cases h
      exact ⟨_, _, rfl⟩
    · cases h
  · cases h

theorem malformed_of_readUnicodeEscape {pos : Nat} {s : List Char} {e : Fault} (h : readUnicodeEscape pos s = .error e) :
    ∃ reason p, e = .malformed reason p := by
  unfold readUnicodeEscape at h
  split at h
  · split at h
    · cases h
      exact ⟨_, _, rfl⟩
    · split at h
      · split at h
        · next hlow =>
            cases h
            exact malformed_of_lowSurrogate? hlow
        · cases h
        · cases h
      · cases h
  · cases h
    exact ⟨_, _, rfl⟩

theorem malformed_of_readEscape {start pos : Nat} {s : List Char} {e : Fault} (h : readEscape start pos s = .error e) :
    ∃ reason p, e = .malformed reason p := by
  unfold readEscape at h
  split at h
  · cases h
    exact ⟨_, _, rfl⟩
  · split at h
    · split at h
      · cases h
      · next hunicode =>
          cases h
          exact malformed_of_readUnicodeEscape hunicode
    · split at h
      · cases h
      · cases h
        exact ⟨_, _, rfl⟩

theorem leaves_readText (start : Nat) (s : List Char) :
    ∀ acc pos skip, Leaves s (readText start acc pos skip s) := by
  induction s with
  | nil => exact fun acc pos skip => .malformed _ _
  | cons c s ih =>
      intro acc pos skip
      have hs : s <:+ c :: s := List.suffix_cons c s
      unfold readText
      split
      · exact (ih _ _ _).mono hs
      split
      · exact .rest hs
      split
      · split
        · exact (ih _ _ _).mono hs
        · next hescape =>
            obtain ⟨reason, p, rfl⟩ := malformed_of_readEscape hescape
            exact .malformed reason p
      split
      · exact .malformed _ _
      · exact (ih _ _ _).mono hs

end Texts

/-! ## 2. Numbers -/

section Numbers

variable {s : List Char}

theorem takeDigits_suffix (s : List Char) : (takeDigits s).2 <:+ s := List.dropWhile_suffix _

theorem takeFraction_suffix (s : List Char) : (takeFraction s).2 <:+ s := by
  unfold takeFraction
  split
  · next r =>
      have hr := takeDigits_suffix r
      split
      · exact List.suffix_rfl
      · next ds rest _ hdigits =>
          rw [hdigits] at hr
          exact hr.trans (List.suffix_cons _ _)
  · exact List.suffix_rfl

theorem takeSign_suffix (s : List Char) : (takeSign s).2 <:+ s := by
  unfold takeSign
  split
  · exact List.suffix_cons _ _
  · exact List.suffix_cons _ _
  · exact List.suffix_rfl

theorem takeExponent?_suffix {e : Int} {width : Nat} {r : List Char} (h : takeExponent? s = some (e, width, r)) :
    r <:+ s := by
  unfold takeExponent? at h
  split at h
  · cases h
  · next c t =>
      split at h
      · dsimp only at h
        split at h
        · cases h
        · next ds rest _ hdigits =>
            cases h
            have hr := takeDigits_suffix (takeSign t).2
            rw [hdigits] at hr
            exact (hr.trans (takeSign_suffix t)).trans (List.suffix_cons _ _)
      · cases h

/-- The digits in front of the point, and what comes after them. -/
theorem takeWhole_eq (s : List Char) :
    s = (takeWhole s).1 ++ (takeWhole s).2 ∧ ∀ c ∈ (takeWhole s).1, c.isDigit = true := by
  unfold takeWhole
  split
  · refine ⟨rfl, fun c hc => ?_⟩
    rw [List.mem_singleton.mp hc]
    decide
  · exact ⟨List.takeWhile_append_dropWhile.symm, fun c hc => List.mem_takeWhile_imp hc⟩

theorem leaves_readMagnitude (negative : Bool) (pos : Nat) (s : List Char) : Leaves s (readMagnitude negative pos s) := by
  obtain ⟨hwhole, hdigits⟩ := takeWhole_eq s
  unfold readMagnitude
  split
  · exact .malformed _ _
  · next whole rest _ htake =>
      rw [htake] at hwhole hdigits
      have hrest : (takeFraction rest).2 <:+ s := (takeFraction_suffix rest).trans (hwhole ▸ List.suffix_append whole rest)
      dsimp only
      split
      · next hexponent => exact .rest ((takeExponent?_suffix hexponent).trans hrest)
      · split
        · split
          · next hlong => exact .tooLong ⟨hlong, whole, (hwhole ▸ List.prefix_append whole rest).isInfix, rfl, hdigits⟩
          · exact .rest hrest
        · exact .rest hrest

theorem leaves_readNumber (pos : Nat) (s : List Char) : Leaves s (readNumber pos s) := by
  by_cases hminus : ∃ r, s = '-' :: r
  · obtain ⟨r, rfl⟩ := hminus
    rw [readNumber_minus]
    exact (leaves_readMagnitude true _ r).mono (List.suffix_cons _ _)
  · rw [readNumber_plain fun r hr => hminus ⟨r, hr⟩]
    exact leaves_readMagnitude false pos s

end Numbers

/-! ## 3. Values -/

section Values

variable {fuel : Nat}

/-- What the rest of a value leaves after its opening bracket and a gap. -/
theorem Leaves.afterOpening {α : Type} {c : Char} {r : List Char} {pos : Nat} {x : Step α}
    (h : Leaves (skipGap pos r).1 x) : Leaves (c :: r) x :=
  h.mono ((skipGap_suffix pos r).trans (List.suffix_cons c r))

/-- What comes after the character that stands behind a gap. -/
theorem suffix_of_skipGap {pos : Nat} {c : Char} {s r t : List Char} (h : (skipGap pos s).1 = c :: r) (hs : s <:+ t) :
    r <:+ t :=
  (List.suffix_cons c r).trans (h ▸ (skipGap_suffix pos s).trans hs)

theorem leaves_readValue_succ (hitems : ∀ acc pos s, Leaves s (readItems fuel acc pos s))
    (hfields : ∀ acc pos s, Leaves s (readFields fuel acc pos s)) (pos : Nat) (s : List Char) :
    Leaves s (readValue (fuel + 1) pos s) := by
  cases s with
  | nil => exact .malformed _ _
  | cons c r =>
      have hr : r <:+ c :: r := List.suffix_cons c r
      unfold readValue
      split
      · have htext := leaves_readText pos r [] (pos + 1) 0
        split
        · next heq => exact .rest ((htext.suffix heq).trans hr)
        · next heq => exact (htext.failed heq).mono hr
      split
      · dsimp only
        split
        · next heq => exact .rest (suffix_of_skipGap heq hr)
        · exact (hitems _ _ _).afterOpening
      split
      · dsimp only
        split
        · next heq => exact .rest (suffix_of_skipGap heq hr)
        · exact (hfields _ _ _).afterOpening
      split
      · exact .rest (List.drop_suffix _ _)
      · exact leaves_readNumber pos _

theorem leaves_readItems_succ (hvalue : ∀ pos s, Leaves s (readValue fuel pos s))
    (hitems : ∀ acc pos s, Leaves s (readItems fuel acc pos s)) (acc : List Json) (pos : Nat) (s : List Char) :
    Leaves s (readItems (fuel + 1) acc pos s) := by
  unfold readItems
  split
  · next heq => exact (hvalue pos s).failed heq
  · next v rest p heq =>
      have hrest := (hvalue pos s).suffix heq
      dsimp only
      split
      · next heq => exact .rest (suffix_of_skipGap heq hrest)
      · next more heq => exact (hitems _ _ _).mono ((skipGap_suffix _ more).trans (suffix_of_skipGap heq hrest))
      · exact .malformed _ _

/-- A field is a text, a colon and a value, and what it leaves ends with what each of them leaves. -/
theorem leaves_readFields_succ (hvalue : ∀ pos s, Leaves s (readValue fuel pos s))
    (hfields : ∀ acc pos s, Leaves s (readFields fuel acc pos s)) (acc : List (String × Json)) (pos : Nat)
    (s : List Char) : Leaves s (readFields (fuel + 1) acc pos s) := by
  unfold readFields
  split
  · next r =>
      have htext := leaves_readText pos r [] (pos + 1) 0
      have hr : r <:+ '"' :: r := List.suffix_cons _ r
      split
      · next heq => exact (htext.failed heq).mono hr
      · next name rest p heq =>
          have hrest := (htext.suffix heq).trans hr
          dsimp only
          split
          · next rest' heq =>
              have hrest' := (skipGap_suffix ((skipGap p rest).2 + 1) rest').trans (suffix_of_skipGap heq hrest)
              split
              · next heq => exact ((hvalue _ _).failed heq).mono hrest'
              · next v rest'' p'' heq =>
                  have hrest'' := ((hvalue _ _).suffix heq).trans hrest'
                  split
                  · next heq => exact .rest (suffix_of_skipGap heq hrest'')
                  · next more heq =>
                      exact (hfields _ _ _).mono ((skipGap_suffix _ more).trans (suffix_of_skipGap heq hrest''))
                  · exact .malformed _ _
          · exact .malformed _ _
  · exact .malformed _ _

/-- **A step of reading leaves the end of its text.** The induction is on the fuel; each part of a value is read from the
end that the part before it has left. -/
theorem leaves_read (fuel : Nat) :
    (∀ pos s, Leaves s (readValue fuel pos s)) ∧ (∀ acc pos s, Leaves s (readItems fuel acc pos s)) ∧
      ∀ acc pos s, Leaves s (readFields fuel acc pos s) := by
  induction fuel with
  | zero => exact ⟨fun _ _ => .malformed _ _, fun _ _ _ => .malformed _ _, fun _ _ _ => .malformed _ _⟩
  | succ fuel ih =>
      obtain ⟨hvalue, hitems, hfields⟩ := ih
      exact ⟨leaves_readValue_succ hitems hfields, leaves_readItems_succ hvalue hitems,
        leaves_readFields_succ hvalue hfields⟩

end Values

/-- **An integer is too long only where the text has so many digits in a row.** -/
theorem parse_tooLong {s : String} {n : Nat} (h : parse s = .error (.integerTooLong n)) : HasLongRun n s.toList := by
  unfold parse at h
  dsimp only at h
  split at h
  · cases h
  · have hread := (leaves_read (2 * s.toList.length + 2)).1 (skipGap 0 s.toList).2 (skipGap 0 s.toList).1
    split at h
    · next e he =>
        cases h
        rw [he] at hread
        cases hread with
        | tooLong hrun => exact hrun.mono (skipGap_suffix 0 s.toList)
    · split at h <;> cases h

end FragmentSearch.Json
