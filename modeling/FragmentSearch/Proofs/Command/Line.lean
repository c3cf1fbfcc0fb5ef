import FragmentSearch.Command.Shell
import FragmentSearch.Proofs.Text.Words

/-!
# Lines of the shell

* `Splits` -- the parts of a line: its first word, and what comes after it;
* `exists_splits` -- every line has them;
* `splitLine_of_splits`, `lower_of_splits` -- they are what a line is split into, so they are determined but for the case
  of the word.
-/

namespace FragmentSearch.Shell

open FragmentSearch.Text

/-- Without the blanks at its ends, a line is a word, or a word, a space and more; the argument is what comes after the
space, without the blanks at its ends. -/
inductive Splits (line : String) : String → String → Prop
  | alone {word : String} (h : Trimmed isBlank line.toList word.toList) (hword : ' ' ∉ word.toList) : Splits line word ""
  | followed {word argument : String} {rest : List Char} (h : Trimmed isBlank line.toList (word.toList ++ ' ' :: rest))
      (hword : ' ' ∉ word.toList) (harg : Trimmed isBlank rest argument.toList) : Splits line word argument

section Lines

variable {line word argument : String}

theorem splitLine_of_splits (h : Splits line word argument) : splitLine line = (lower word, argument) := by
  have hspace : ∀ {w : List Char}, ' ' ∉ w → ∀ c ∈ w, decide (c ≠ ' ') = true := fun hw c hc =>
    decide_eq_true fun e => hw (e ▸ hc)
  cases h with
  | alone h hword =>
      have hall := hspace hword
      have htake : word.toList.takeWhile (· ≠ ' ') = word.toList := List.takeWhile_eq_self_iff.mpr hall
      have hdrop : word.toList.dropWhile (· ≠ ' ') = [] := List.dropWhile_eq_nil_iff.mpr hall
      unfold splitLine
      rw [trim_eq_of_trimmed h]
      dsimp only
      rw [htake, hdrop, String.ofList_toList]
      rfl
  | @followed word rest h hword harg =>
      have hall := hspace hword
      have htake : (word.toList ++ ' ' :: rest).takeWhile (· ≠ ' ') = word.toList := by
        rw [List.takeWhile_append_of_pos hall, List.takeWhile_cons_of_neg (by decide), List.append_nil]
      have hdrop : (word.toList ++ ' ' :: rest).dropWhile (· ≠ ' ') = ' ' :: rest := by
        rw [List.dropWhile_append_of_pos hall, List.dropWhile_cons_of_neg (by decide)]
      have htrim : (trim line).toList = word.toList ++ ' ' :: rest := by
        rw [toList_trim]
        exact h.eq
      have hrest : trim (String.ofList rest) = argument := trim_eq_of_trimmed (by rwa [String.toList_ofList])
      unfold splitLine
      dsimp only
      rw [htrim, htake, hdrop, String.ofList_toList, List.drop_one, List.tail_cons, hrest]

theorem lower_of_splits {word' argument' : String} (h : Splits line word argument) (h' : Splits line word' argument') :
    lower word' = lower word ∧ argument' = argument :=
  Prod.mk.inj ((splitLine_of_splits h').symm.trans (splitLine_of_splits h))

/-- Every line has its parts. -/
theorem exists_splits (line : String) : ∃ word argument, Splits line word argument := by
  have htrim := trimmed_trim line
  generalize hword : String.ofList ((trim line).toList.takeWhile (· ≠ ' ')) = word
  have hword' : word.toList = (trim line).toList.takeWhile (· ≠ ' ') := by rw [← hword, String.toList_ofList]
  have hspace : ' ' ∉ word.toList := by
    rw [hword']
    exact fun h => by simpa using List.mem_takeWhile_imp h
  have hsplit : (trim line).toList = word.toList ++ (trim line).toList.dropWhile (· ≠ ' ') := by
    rw [hword', List.takeWhile_append_dropWhile]
  rw [hsplit] at htrim
  cases hrest : (trim line).toList.dropWhile (· ≠ ' ') with
  | nil =>
      rw [hrest, List.append_nil] at htrim
      exact ⟨word, "", .alone htrim hspace⟩
  | cons c rest =>
      have hc : c = ' ' := by
        have h := head_dropWhile (· ≠ ' ') (trim line).toList c (by rw [hrest]; rfl)
        simpa using h
      subst hc
      rw [hrest] at htrim
      refine ⟨word, trim (String.ofList rest), .followed htrim hspace ?_⟩
      have hrest' := trimmed_trim (String.ofList rest)
      rwa [String.toList_ofList] at hrest'

/-- The word of a line of blanks is empty. -/
theorem word_of_blank (h : (trim line).isEmpty = true) (hsplits : Splits line word argument) : lower word = "" := by
  have hcommand : (splitLine line).1 = lower word := congrArg Prod.fst (splitLine_of_splits hsplits)
  rw [← hcommand, splitLine, String.isEmpty_iff.mp h]
  rfl

theorem splits_words (hline : trim line = word ++ " " ++ argument) (hword : ' ' ∉ word.toList)
    (hargument : trim argument = argument) : Splits line word argument := by
  refine @Splits.followed line word argument argument.toList ?_ hword ?_
  · have htrim := trimmed_trim line
    rw [hline, String.toList_append, String.toList_append, List.append_assoc] at htrim
    exact htrim
  · have htrim := trimmed_trim argument
    rwa [hargument] at htrim

end Lines

end FragmentSearch.Shell
