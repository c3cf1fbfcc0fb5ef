import FragmentSearch.Proofs.Command.Line
import FragmentSearch.Proofs.Decimal.Integer
import FragmentSearch.Proofs.Files.Tree
import FragmentSearch.Proofs.Index.Attachment
import FragmentSearch.Proofs.Ranking.BestFirst

/-!
# Sessions of the shell

A session keeps what the last search found, and `show` speaks of it by the numbers of its listing. The listing is made of
the results of a ranking, while the fragments that are kept are looked up by their ids; where the ids are pairwise
distinct, they are the same.

* `listing` -- what a search prints, a numbered line for each fragment of its ranking;
* `Answers` -- what `show` prints, if it refers to some fragments;
* `Handled` -- what one line does, `handled` proves it;
* `converse` -- the session after many lines; `exists_converse_eq`, `converse_of_not_finds` and `converse_of_finds` say
  what becomes of it, and `handle_exact` what the next line is answered.
-/

namespace FragmentSearch

open FragmentSearch.Text

namespace Shell

/-! ## 1. What is printed -/

/-- A line of a listing: a fragment with its number and its score. -/
def numberedLine (i : Nat) (e : Scored Float) : String :=
  "  [" ++ toString i ++ "] " ++ e.fragment.kind.name ++ ": " ++ Fragment.shown e.fragment.name ++ " - " ++
    e.fragment.filePath ++ ":" ++ toString e.fragment.startLine ++ "   (score " ++ Decimal.fixed 3 e.score ++ ")"

/-- The listing of a ranking: one line for each of its fragments, numbered from 0, below a heading. -/
def listing (a : Setting) (strategy : String) (ranking : ScoreTable Float) : String :=
  if ranking = [] then "\n  No results found.\n"
  else
    let thin := Report.rule (Report.width a.columns)
    "\n".intercalate (["\n" ++ thin, Report.heading ranking.length strategy (some a.elapsed), thin] ++
      (ranking.zipIdx.map fun p => numberedLine p.2 p.1) ++ [thin, "  Use 'show <n>' for details"])

/-- What `show` prints for an argument, if it refers to some fragments. -/
structure Answers (fs : List Fragment) (argument : String) (t : Turn) : Prop where
  detail : ∀ i n f, Decimal.Writes argument i n → n ≤ Decimal.maxIntegerDigits → 0 ≤ i → fs[i.toNat]? = some f →
    t = printed (Report.detail f)
  outside : ∀ i n, Decimal.Writes argument i n → n ≤ Decimal.maxIntegerDigits → fs ≠ [] → i < 0 ∨ fs.length ≤ i →
    t = printed ("Invalid result number. Choose 0-" ++ toString (fs.length - 1) ++ ".")
  nothing : ∀ i n, Decimal.Writes argument i n → n ≤ Decimal.maxIntegerDigits → fs = [] →
    t = printed "No search results. Run 'search <query>' first."
  invalid : (∀ i n, Decimal.Writes argument i n → Decimal.maxIntegerDigits < n) →
    t = printed "Invalid number. Use 'show <n>'."

section Printing

theorem console_eq (a : Setting) (strategy : String) (ranking : ScoreTable Float) :
    Report.console a.columns (SearchResult.ofRanking strategy ranking) strategy (some a.elapsed) =
      listing a strategy ranking := by
  have hlines : (SearchResult.ofRanking strategy ranking).zipIdx.map (fun p => Report.resultLine p.2 p.1) =
      ranking.zipIdx.map fun p => numberedLine p.2 p.1 := by
    refine List.ext_getElem? fun i => ?_
    simp only [SearchResult.ofRanking, List.getElem?_map, List.getElem?_zipIdx, Option.map_map, Nat.zero_add]
    exact Option.map_congr fun e _ => rfl
  have hlength : (SearchResult.ofRanking strategy ranking).length = ranking.length := by
    rw [SearchResult.ofRanking, List.length_map, List.length_zipIdx]
  have hempty : (SearchResult.ofRanking strategy ranking).isEmpty = true ↔ ranking = [] := by
    rw [List.isEmpty_iff, ← List.length_eq_zero_iff, hlength, List.length_eq_zero_iff]
  unfold Report.console listing
  rw [hlines, hlength]
  exact if_congr hempty rfl rfl

/-- **The numbers of the last search are those of its fragments.** -/
theorem answers_showNumbered (s : Shell) (argument : String) : Answers s.last argument (s.showNumbered argument) := by
  have hread : ∀ i n, Decimal.Writes argument i n → n ≤ Decimal.maxIntegerDigits →
      s.showNumbered argument = printed (s.details i) := by
    intro i n hwrites hn
    unfold showNumbered
    rw [Decimal.readInteger_eq_ok_iff.mpr ⟨n, hwrites, hn⟩]
  refine ⟨fun i n f hwrites hn hi hf => ?_, fun i n hwrites hn hlast hi => ?_, fun i n hwrites hn hlast => ?_,
    fun h => ?_⟩
  · have hlast : ¬ s.last.isEmpty = true := by
      rw [List.isEmpty_iff]
      intro e
      rw [e] at hf
      cases hf
    rw [hread i n hwrites hn, details, if_neg hlast]
    dsimp only
    rw [if_neg (Int.not_lt.mpr hi), hf]
  · rw [hread i n hwrites hn, details, if_neg fun e => hlast (List.isEmpty_iff.mp e)]
    dsimp only
    by_cases hneg : i < 0
    · rw [if_pos hneg]
    · have hnone : s.last[i.toNat]? = none := List.getElem?_eq_none (by omega)
      rw [if_neg hneg, hnone]
  · rw [hread i n hwrites hn, details, if_pos (List.isEmpty_iff.mpr hlast)]
  · unfold showNumbered
    cases hinteger : readInteger argument with
    | ok i =>
        obtain ⟨n, hwrites, hn⟩ := Decimal.readInteger_eq_ok_iff.mp hinteger
        exact absurd hn (Nat.not_le.mpr (h i n hwrites))
    | error e => rfl

end Printing

/-! ## 2. Commands -/

section Commands

variable {a : Setting} {s : Shell} {j : Journal} {line word argument : String}

theorem search_of_error {query : String} {e : ClientFault}
    (h : (s.client.rank a.outside a.files (some query) s.source none j).1 = .error e) :
    (s.search a query j).1 = (⟨"", .error e⟩, s) := by
  cases hrank : s.client.rank a.outside a.files (some query) s.source none j with
  | mk result j' =>
      rw [hrank] at h
      cases h
      have hsearch : s.client.search a.outside a.files (some query) s.source none j = (.error e, j') := by
        unfold Client.search
        simp only [Session.bind_run, hrank]
        rfl
      unfold search
      simp only [Session.bind_run, hsearch]
      rfl

theorem search_of_ranking {query : String} {ranking : ScoreTable Float} {ix : Index}
    (h : (s.client.rank a.outside a.files (some query) s.source none j).1 = .ok ranking)
    (hix : s.client.indexOf a.files s.source = .ok ix) :
    (s.search a query j).1 =
      (printed (listing a s.client.hybrid.name ranking),
        { s with last := ix.getAll ((SearchResult.ofRanking s.client.hybrid.name ranking).map (·.id)) }) := by
  rw [← console_eq]
  cases hrank : s.client.rank a.outside a.files (some query) s.source none j with
  | mk result j' =>
      rw [hrank] at h
      cases h
      have hsearch : s.client.search a.outside a.files (some query) s.source none j =
          (.ok (SearchResult.ofRanking s.client.hybrid.name ranking), j') := by
        unfold Client.search
        simp only [Session.bind_run, hrank]
        rfl
      unfold search
      simp only [Session.bind_run, hsearch, hix]
      rfl

theorem not_blank (hsplits : Splits line word argument) (hword : lower word ≠ "") : ¬ (trim line).isEmpty = true :=
  fun h => hword (word_of_blank h hsplits)

theorem handle_search (hsplits : Splits line word argument) (hword : lower word = "search") (harg : argument ≠ "") :
    s.handle a line = s.search a argument := by
  have hne : ¬ argument.isEmpty = true := fun h => harg (String.isEmpty_iff.mp h)
  unfold handle
  rw [if_neg (not_blank hsplits (by rw [hword]; decide)), splitLine_of_splits hsplits, hword]
  exact if_neg hne

theorem handle_show (hsplits : Splits line word argument) (hword : lower word = "show") :
    s.handle a line = pure (s.showNumbered argument, s) := by
  unfold handle
  rw [if_neg (not_blank hsplits (by rw [hword]; decide)), splitLine_of_splits hsplits, hword]
  rfl

theorem handle_quit (hsplits : Splits line word argument) (hword : lower word = "quit" ∨ lower word = "exit") :
    s.handle a line = pure (⟨"", .ok false⟩, s) := by
  have hne : lower word ≠ "" := by
    rcases hword with hword | hword <;> rw [hword] <;> decide
  unfold handle
  rw [if_neg (not_blank hsplits hne), splitLine_of_splits hsplits]
  rcases hword with hword | hword
  · rw [hword]
    rfl
  · rw [hword]
    rfl

theorem goesOn_ask (question : String) : (s.ask a question j).1.goesOn ≠ .ok false := by
  cases h : s.client.ask a.outside a.files (some question) s.source none j with
  | mk result j' =>
      unfold ask
      simp only [Session.bind_run, h]
      split
      · exact fun h => nomatch h
      · exact fun h => nomatch h
      · exact fun h => nomatch h

theorem goesOn_list : (s.list a).goesOn ≠ .ok false := by
  unfold list
  split
  · exact fun h => nomatch h
  · exact fun h => nomatch h

/-- Any other line leaves the session as it is and does not end it. -/
theorem handle_other (hsplits : Splits line word argument) (hquit : ¬ (lower word = "quit" ∨ lower word = "exit"))
    (hsearch : ¬ (lower word = "search" ∧ argument ≠ "")) :
    (s.handle a line j).1.2 = s ∧ (s.handle a line j).1.1.goesOn ≠ .ok false := by
  generalize hr : s.handle a line = session
  unfold handle at hr
  by_cases hblank : (trim line).isEmpty = true
  · rw [if_pos hblank] at hr
    subst hr
    exact ⟨rfl, fun h => nomatch h⟩
  rw [if_neg hblank, splitLine_of_splits hsplits] at hr
  dsimp only at hr
  split at hr
  · next h => exact absurd (Or.inl h) hquit
  · next h => exact absurd (Or.inr h) hquit
  · next h =>
      split at hr
      · subst hr
        exact ⟨rfl, fun h => nomatch h⟩
      · next hne => exact absurd ⟨h, fun e => hne (String.isEmpty_iff.mpr e)⟩ hsearch
  · split at hr
    · subst hr
      exact ⟨rfl, fun h => nomatch h⟩
    · subst hr
      exact ⟨rfl, goesOn_ask argument⟩
  · subst hr
    exact ⟨rfl, fun h => nomatch h⟩
  · subst hr
    exact ⟨rfl, goesOn_list⟩
  · subst hr
    exact ⟨rfl, fun h => nomatch h⟩

end Commands

end Shell

/-! ## 3. Searches over an index -/

section Ranking

/-- A ranking comes from an index. -/
theorem Client.exists_index_of_rank {c : Client} {o : Outside} {t : FileTree} {query : Option String} {path : Path}
    {limit : Option Int} {j : Journal} {ranking : ScoreTable Float} (h : (c.rank o t query path limit j).1 = .ok ranking) :
    ∃ ix, c.indexOf t path = .ok ix ∧ ∀ e ∈ ranking, e.fragment ∈ ix.fragments := by
  unfold Client.rank at h
  cases hix : c.indexOf t path with
  | error e =>
      rw [hix] at h
      cases h
  | ok ix =>
  rw [hix] at h
  refine ⟨ix, rfl, ?_⟩
  cases hlimit : limit.or c.config.maxResults with
  | none =>
      rw [hlimit] at h
      cases h
  | some n =>
  rw [hlimit] at h
  cases query with
  | none => cases h
  | some q =>
  have hrank : (c.hybrid.rank (.of o.library) o ix q n j).1 = .ok ranking := by
    cases hrun : c.hybrid.rank (.of o.library) o ix q n j with
    | mk result j' =>
        simp only [Session.bind_run, hrun] at h
        cases result with
        | error e => cases h
        | ok table => exact congrArg Except.ok (Except.ok.inj h)
  have hbest := congrArg Prod.fst (Strategy.rank_eq o (.hybrid c.hybrid) ix q n j)
  rcases Strategy.table_records o (.hybrid c.hybrid) ix q n j with ⟨e, he, -⟩ | ⟨table, htable, hrecords⟩
  · rw [he] at hbest
    cases hrank.symm.trans hbest
  · rw [htable] at hbest
    cases hrank.symm.trans hbest
    exact (hrecords.best n).known

end Ranking

namespace Shell

/-! ## 4. Runs -/

/-- A line with what it meets: the setting, and the journal of what has been requested before. -/
structure Input where
  setting : Setting
  journal : Journal
  line : String

namespace Input

/-- What a line leads to. -/
def turn (n : Input) (s : Shell) : Turn := (s.handle n.setting n.line n.journal).1.1

/-- The session that is left. -/
def after (n : Input) (s : Shell) : Shell := (s.handle n.setting n.line n.journal).1.2

/-- The line asks for a search, and the search completes with a ranking. -/
def Finds (n : Input) (s : Shell) (ranking : ScoreTable Float) : Prop :=
  ∃ word query, Splits n.line word query ∧ lower word = "search" ∧ query ≠ "" ∧
    (s.client.rank n.setting.outside n.setting.files (some query) s.source none n.journal).1 = .ok ranking

/-- If there is an index, its fragments have pairwise distinct ids. -/
def HasDistinctIds (n : Input) (s : Shell) : Prop :=
  ∀ ix, s.client.indexOf n.setting.files s.source = .ok ix → ix.HasDistinctIds

end Input

/-- The session after some lines. -/
def converse (ns : List Input) (s : Shell) : Shell := ns.foldl (fun s n => n.after s) s

/-- What a line does to a session. -/
structure Handled (n : Input) (s : Shell) : Prop where
  /-- The session ends with the words `quit` and `exit` only. -/
  ends : (n.turn s).goesOn = .ok false ↔
    ∃ word argument, Splits n.line word argument ∧ (lower word = "quit" ∨ lower word = "exit")
  /-- A search that completes lists a ranking and keeps its fragments. -/
  finds : ∀ ranking, n.Finds s ranking →
    n.turn s = printed (listing n.setting s.client.hybrid.name ranking) ∧
      n.after s = { s with last := Hybrid.fragmentsOf ranking }
  /-- A search that does not complete breaks off. -/
  fails : ∀ word query, Splits n.line word query → lower word = "search" → query ≠ "" → (∀ ranking, ¬ n.Finds s ranking) →
    ∃ e, n.turn s = ⟨"", .error e⟩
  /-- Nothing but a search that completes changes the session. -/
  keeps : (∀ ranking, ¬ n.Finds s ranking) → n.after s = s
  /-- What is shown is what the last search found. -/
  shows : ∀ word argument, Splits n.line word argument → lower word = "show" → Answers s.last argument (n.turn s)

section Runs

variable {n : Input} {s : Shell}

/-- A line that does not end the session and asks for no search leaves it as it is. -/
theorem handled_other {word argument : String} (hsplits : Splits n.line word argument)
    (hsearch : ¬ (lower word = "search" ∧ argument ≠ "")) : Handled n s := by
  have hnone : ∀ ranking, ¬ n.Finds s ranking := by
    rintro ranking ⟨word', query, hsplits', hword', hquery, -⟩
    obtain ⟨hlower, rfl⟩ := lower_of_splits hsplits hsplits'
    exact hsearch ⟨hlower ▸ hword', hquery⟩
  have hshows : ∀ word argument, Splits n.line word argument → lower word = "show" →
      Answers s.last argument (n.turn s) := by
    intro word argument hsplits hword
    have hturn : n.turn s = s.showNumbered argument := by
      unfold Input.turn
      rw [handle_show hsplits hword]
      rfl
    rw [hturn]
    exact answers_showNumbered s argument
  have hquits : ∀ {word' argument'}, Splits n.line word' argument' → (lower word' = "quit" ∨ lower word' = "exit") →
      n.turn s = ⟨"", .ok false⟩ ∧ n.after s = s := by
    intro word' argument' hsplits' hquit
    unfold Input.turn Input.after
    rw [handle_quit hsplits' hquit]
    exact ⟨rfl, rfl⟩
  have hfails : ∀ word query, Splits n.line word query → lower word = "search" → query ≠ "" →
      (∀ ranking, ¬ n.Finds s ranking) → ∃ e, n.turn s = ⟨"", .error e⟩ := by
    intro word' query hsplits' hword' hquery
    obtain ⟨hlower, rfl⟩ := lower_of_splits hsplits hsplits'
    exact absurd ⟨hlower ▸ hword', hquery⟩ hsearch
  by_cases hquit : lower word = "quit" ∨ lower word = "exit"
  · obtain ⟨hturn, hafter⟩ := hquits hsplits hquit
    exact ⟨⟨fun _ => ⟨word, argument, hsplits, hquit⟩, fun _ => by rw [hturn]⟩, fun ranking h => absurd h (hnone ranking),
      hfails, fun _ => hafter, hshows⟩
  · have hkept : n.after s = s ∧ (n.turn s).goesOn ≠ .ok false := by
      unfold Input.after Input.turn
      exact handle_other hsplits hquit hsearch
    obtain ⟨hafter, hgoes⟩ := hkept
    refine ⟨⟨fun h => absurd h hgoes, ?_⟩, fun ranking h => absurd h (hnone ranking), hfails, fun _ => hafter, hshows⟩
    rintro ⟨word', argument', hsplits', hquit'⟩
    rw [(hquits hsplits' hquit').1]

/-- A line that asks for a search lists what is found, or breaks off. -/
theorem handled_search (hids : n.HasDistinctIds s) {word query : String} (hsplits : Splits n.line word query)
    (hword : lower word = "search") (hquery : query ≠ "") : Handled n s := by
  have hhandle : s.handle n.setting n.line = s.search n.setting query := handle_search hsplits hword hquery
  have hends : ∀ {b : Except ClientFault Bool}, b ≠ .ok false →
      (b = .ok false ↔ ∃ word argument, Splits n.line word argument ∧ (lower word = "quit" ∨ lower word = "exit")) := by
    refine fun hb => ⟨fun h => absurd h hb, ?_⟩
    rintro ⟨word', argument', hsplits', hquit⟩
    rw [(lower_of_splits hsplits hsplits').1, hword] at hquit
    exact absurd hquit (by decide)
  have hshows : ∀ word argument, Splits n.line word argument → lower word = "show" →
      Answers s.last argument (n.turn s) := by
    intro word' argument' hsplits' hword'
    rw [(lower_of_splits hsplits hsplits').1, hword] at hword'
    exact absurd hword' (by decide)
  cases hrank : (s.client.rank n.setting.outside n.setting.files (some query) s.source none n.journal).1 with
  | error e =>
      have hrun : (s.handle n.setting n.line n.journal).1 = (⟨"", .error e⟩, s) := by
        rw [hhandle]
        exact search_of_error hrank
      have hturn : n.turn s = ⟨"", .error e⟩ := congrArg Prod.fst hrun
      refine ⟨?_, ?_, fun _ _ _ _ _ _ => ⟨e, hturn⟩, fun _ => congrArg Prod.snd hrun, hshows⟩
      · rw [hturn]
        exact hends fun h => nomatch h
      · rintro ranking ⟨word', query', hsplits', -, -, hfound⟩
        obtain ⟨-, rfl⟩ := lower_of_splits hsplits hsplits'
        cases hfound.symm.trans hrank
  | ok ranking =>
      obtain ⟨ix, hix, hknown⟩ := Client.exists_index_of_rank hrank
      have hlast : ix.getAll ((SearchResult.ofRanking s.client.hybrid.name ranking).map (·.id)) =
          Hybrid.fragmentsOf ranking := by
        have hresults : (SearchResult.ofRanking s.client.hybrid.name ranking).map (·.id) =
            (Hybrid.fragmentsOf ranking).map (·.id) := by
          unfold SearchResult.ofRanking Hybrid.fragmentsOf
          rw [List.map_map, List.map_map]
          exact (List.map_map (f := Prod.fst) (g := fun e : Scored Float => e.fragment.id)).symm.trans
            (congrArg _ (List.zipIdx_map_fst 0 ranking))
        rw [hresults]
        refine (hids ix hix).getAll fun f hf => ?_
        obtain ⟨e, he, rfl⟩ := List.mem_map.mp hf
        exact hknown e he
      have hrun : (s.handle n.setting n.line n.journal).1 =
          (printed (listing n.setting s.client.hybrid.name ranking), { s with last := Hybrid.fragmentsOf ranking }) := by
        rw [hhandle, search_of_ranking hrank hix, hlast]
      have hturn : n.turn s = printed (listing n.setting s.client.hybrid.name ranking) := congrArg Prod.fst hrun
      have hfinds : n.Finds s ranking := ⟨word, query, hsplits, hword, hquery, hrank⟩
      refine ⟨?_, ?_, fun _ _ _ _ _ h => absurd hfinds (h ranking), fun h => absurd hfinds (h ranking), hshows⟩
      · rw [hturn]
        exact hends fun h => nomatch h
      · rintro ranking' ⟨word', query', hsplits', -, -, hfound⟩
        obtain ⟨-, rfl⟩ := lower_of_splits hsplits hsplits'
        cases hfound.symm.trans hrank
        exact ⟨hturn, congrArg Prod.snd hrun⟩

/-- **What a line does.** -/
theorem handled (hids : n.HasDistinctIds s) : Handled n s := by
  obtain ⟨word, argument, hsplits⟩ := exists_splits n.line
  by_cases hsearch : lower word = "search" ∧ argument ≠ ""
  · exact handled_search hids hsplits hsearch.1 hsearch.2
  · exact handled_other hsplits hsearch

/-- Lines none of which completes a search leave the session as it is. -/
theorem converse_of_not_finds {ns : List Input} (hids : ∀ m ∈ ns, m.HasDistinctIds s)
    (h : ∀ m ∈ ns, ∀ ranking, ¬ m.Finds s ranking) : converse ns s = s := by
  induction ns with
  | nil => rfl
  | cons m ns ih =>
      have hm : m.after s = s := (handled (hids m List.mem_cons_self)).keeps (h m List.mem_cons_self)
      unfold converse
      rw [List.foldl_cons, hm]
      exact ih (fun m' hm' => hids m' (List.mem_cons_of_mem m hm')) fun m' hm' => h m' (List.mem_cons_of_mem m hm')

/-- Nothing but what the last search found ever changes. -/
theorem exists_converse_eq {ns : List Input} (hids : ∀ m ∈ ns, m.HasDistinctIds s) :
    ∃ fs, converse ns s = { s with last := fs } := by
  induction ns using List.reverseRecOn with
  | nil => exact ⟨s.last, rfl⟩
  | append_singleton ns m ih =>
      obtain ⟨fs, hfs⟩ := ih fun m' hm' => hids m' (List.mem_append_left _ hm')
      have hm : m.HasDistinctIds { s with last := fs } :=
        hids m (List.mem_append_right _ List.mem_cons_self)
      have hstep : converse (ns ++ [m]) s = m.after { s with last := fs } := by
        unfold converse at hfs ⊢
        rw [List.foldl_append, hfs]
        rfl
      rw [hstep]
      by_cases h : ∃ ranking, m.Finds { s with last := fs } ranking
      · obtain ⟨ranking, hranking⟩ := h
        exact ⟨_, ((handled hm).finds ranking hranking).2⟩
      · exact ⟨fs, (handled hm).keeps fun ranking hranking => h ⟨ranking, hranking⟩⟩

/-- **What the last search found** is what the session refers to. -/
theorem converse_of_finds {earlier later : List Input} {m : Input} {ranking : ScoreTable Float}
    (hids : ∀ m' ∈ earlier ++ m :: later, m'.HasDistinctIds s) (hm : m.Finds s ranking)
    (hlater : ∀ m' ∈ later, ∀ r, ¬ m'.Finds s r) :
    m.turn (converse earlier s) = printed (listing m.setting s.client.hybrid.name ranking) ∧
      converse (earlier ++ m :: later) s = { s with last := Hybrid.fragmentsOf ranking } := by
  obtain ⟨fs, hfs⟩ := exists_converse_eq fun m' hm' => hids m' (List.mem_append_left _ hm')
  have hdistinct : m.HasDistinctIds { s with last := fs } := hids m (List.mem_append_right _ List.mem_cons_self)
  obtain ⟨hturn, hafter⟩ := (handled hdistinct).finds ranking hm
  refine ⟨hfs ▸ hturn, ?_⟩
  have hsplit : converse (earlier ++ m :: later) s = converse later (m.after (converse earlier s)) := by
    unfold converse
    rw [List.foldl_append, List.foldl_cons]
  rw [hsplit, hfs, hafter]
  exact converse_of_not_finds (fun m' hm' => hids m' (List.mem_append_right _ (List.mem_cons_of_mem m hm'))) hlater

/-- **`show` refers to the last listing.** A session begins with nothing found. After any lines over an index with
pairwise distinct ids, whatever they met, the next line does what `Handled` says; and if it asks to show a number, it is
answered by what the last search that completed found, in the order in which its fragments were listed, or by nothing,
if no search has completed. -/
theorem handle_exact (s : Shell) (hnew : s.last = []) (before : List Input) (n : Input)
    (hids : ∀ m ∈ n :: before, m.HasDistinctIds s) :
    Handled n (converse before s) ∧
    (∀ earlier m later ranking, before = earlier ++ m :: later → m.Finds s ranking →
      (∀ m' ∈ later, ∀ r, ¬ m'.Finds s r) →
      m.turn (converse earlier s) = printed (listing m.setting s.client.hybrid.name ranking) ∧
      ∀ word argument, Splits n.line word argument → lower word = "show" →
        Answers (Hybrid.fragmentsOf ranking) argument (n.turn (converse before s))) ∧
    ((∀ m ∈ before, ∀ r, ¬ m.Finds s r) → ∀ word argument, Splits n.line word argument → lower word = "show" →
      Answers [] argument (n.turn (converse before s))) := by
  have hbefore : ∀ m ∈ before, m.HasDistinctIds s := fun m hm => hids m (List.mem_cons_of_mem n hm)
  have hhandled : Handled n (converse before s) := by
    obtain ⟨fs, hfs⟩ := exists_converse_eq hbefore
    rw [hfs]
    exact handled (hids n List.mem_cons_self)
  refine ⟨hhandled, ?_, fun hnone word argument hsplits hword => ?_⟩
  · rintro earlier m later ranking rfl hm hlater
    obtain ⟨hturn, hlast⟩ := converse_of_finds hbefore hm hlater
    refine ⟨hturn, fun word argument hsplits hword => ?_⟩
    have hanswers := hhandled.shows word argument hsplits hword
    rwa [congrArg Shell.last hlast] at hanswers
  · have hanswers := hhandled.shows word argument hsplits hword
    rwa [congrArg Shell.last (converse_of_not_finds hbefore hnone), hnew] at hanswers

end Runs

/-! ## 5. A session over one fragment -/

section Box

/-- The one fragment of an index. -/
def boxSize : Fragment := Index.member "m.Box.size" "size" []

/-- A session over the index of one fragment. -/
def boxSession : Shell where
  client := {
    config := {}
    embedder := .disabled
    answerer := ⟨{}, none⟩
    hybrid := ⟨.disabled, false, [("keyword", 0.7), ("dependency", 0.3)]⟩
    indexes := [(⟨"/", ["src"]⟩, .ofFragments false [boxSize])] }
  source := ⟨"/", ["src"]⟩

/-- A line of this session. -/
def boxLine (line : String) : Input := ⟨⟨⟨.directory [], []⟩, silence, 80, "0.1"⟩, {}, line⟩

theorem indexOf_boxSession (line : String) :
    boxSession.client.indexOf (boxLine line).setting.files boxSession.source = .ok (.ofFragments false [boxSize]) := by
  have hresolve : (boxLine line).setting.files.resolve boxSession.source = .ok ⟨"/", ["src"]⟩ :=
    FileTree.resolve_name rfl (by decide) (by decide) fun _ h => nomatch h
  unfold Client.indexOf Client.rootOf
  rw [hresolve]
  rfl

theorem hasDistinctIds_boxLine (line : String) : (boxLine line).HasDistinctIds boxSession := by
  intro ix hix
  cases (indexOf_boxSession line).symm.trans hix
  exact ⟨false, [boxSize], [], rfl, by decide⟩

/-- A search finds the fragment. -/
theorem finds_boxLine : ∃ ranking, (boxLine "search size").Finds boxSession ranking ∧
    Hybrid.fragmentsOf ranking = [boxSize] := by
  let n := boxLine "search size"
  have hids : (boxSession.client.rank n.setting.outside n.setting.files (some "size") boxSession.source none
      n.journal).1.toOption.map (List.map (·.fragment.id)) = some ["m.Box.size"] := by
    unfold Client.rank
    rw [indexOf_boxSession "search size"]
    decide +kernel
  cases hrank : (boxSession.client.rank n.setting.outside n.setting.files (some "size") boxSession.source none n.journal).1 with
  | error e =>
      rw [hrank] at hids
      cases hids
  | ok ranking =>
      rw [hrank] at hids
      obtain ⟨e, rfl⟩ : ∃ e, ranking = [e] := List.length_eq_one_iff.mp (by
        have hlength := congrArg List.length (Option.some.inj hids)
        rwa [List.length_map] at hlength)
      obtain ⟨ix, hix, hknown⟩ := Client.exists_index_of_rank hrank
      cases (indexOf_boxSession "search size").symm.trans hix
      have he : e.fragment = boxSize := by
        have hmem := hknown e List.mem_cons_self
        rw [Index.fragments_ofFragments] at hmem
        exact List.mem_singleton.mp hmem
      refine ⟨[e], ⟨"search", "size", splits_words rfl (by decide) rfl, by decide, by decide, hrank⟩, ?_⟩
      rw [Hybrid.fragmentsOf, List.map_singleton, he]

/-- One fragment is listed by a search. Whatever comes afterwards, it has the number 0, and there is no other one. -/
theorem handle_exact_boxLine :
    let s := converse [boxLine "search size", boxLine "list"] boxSession
    (boxLine "show 0").turn s = printed (Report.detail boxSize) ∧
    (boxLine " SHOW  -1").turn s = printed "Invalid result number. Choose 0-0." ∧
    (boxLine "show size").turn s = printed "Invalid number. Use 'show <n>'." ∧
    (boxLine "show 0").turn boxSession = printed "No search results. Run 'search <query>' first." := by
  obtain ⟨ranking, hfinds, hfragments⟩ := finds_boxLine
  have hlist : ∀ m ∈ [boxLine "list"], ∀ r, ¬ m.Finds boxSession r := by
    rintro m hm r ⟨word, query, hsplits, hword, -, -⟩
    cases List.mem_singleton.mp hm
    have hlower : lower word = "list" := (congrArg Prod.fst (splitLine_of_splits hsplits)).symm
    exact absurd (hlower.symm.trans hword) (by decide)
  have hids : ∀ lines : List String, ∀ m ∈ lines.map boxLine, m.HasDistinctIds boxSession := by
    intro lines m hm
    obtain ⟨line, -, rfl⟩ := List.mem_map.mp hm
    exact hasDistinctIds_boxLine line
  have hanswers : ∀ line word argument, Splits line word argument → lower word = "show" → Answers [boxSize] argument
      ((boxLine line).turn (converse [boxLine "search size", boxLine "list"] boxSession)) := by
    intro line word argument hsplits hword
    have hexact := handle_exact boxSession rfl [boxLine "search size", boxLine "list"] (boxLine line)
      (hids [line, "search size", "list"])
    rw [← hfragments]
    exact (hexact.2.1 [] _ _ ranking rfl hfinds hlist).2 word argument hsplits hword
  have hfresh : Answers [] "0" ((boxLine "show 0").turn boxSession) :=
    (handle_exact boxSession rfl [] (boxLine "show 0") (hids ["show 0"])).2.2 (fun m hm => absurd hm List.not_mem_nil)
      "show" "0" (splits_words rfl (by decide) rfl) (by decide)
  obtain ⟨n, hzero, hn⟩ := Decimal.readInt_eq_ok_iff.mp (show Decimal.readInt "0" = .ok 0 from rfl)
  obtain ⟨m, hminus, hm⟩ := Decimal.readInt_eq_ok_iff.mp (show Decimal.readInt "-1" = .ok (-1) from rfl)
  have hsize : ∀ i, Decimal.readInt "size" ≠ .ok i := fun i h =>
    nomatch (show Decimal.readInt "size" = .error _ from rfl).symm.trans h
  have hshow : ∀ argument, trim ("show " ++ argument) = "show " ++ argument → trim argument = argument →
      Answers [boxSize] argument ((boxLine ("show " ++ argument)).turn
        (converse [boxLine "search size", boxLine "list"] boxSession)) := fun argument hline hargument =>
    hanswers _ "show" argument (splits_words hline (by decide) hargument) (by decide)
  have hupper : Splits " SHOW  -1" "SHOW" "-1" :=
    @Splits.followed _ "SHOW" "-1" " -1".toList (trimmed_iff.mpr (by decide)) (by decide) (trimmed_iff.mpr (by decide))
  refine ⟨?_, ?_, ?_, hfresh.nothing 0 n hzero hn rfl⟩
  · exact (hshow "0" rfl rfl).detail 0 n boxSize hzero hn (by decide) rfl
  · exact (hanswers " SHOW  -1" "SHOW" "-1" hupper (by decide)).outside (-1) m hminus hm (by decide) (Or.inl (by decide))
  · exact (hshow "size" rfl rfl).invalid fun i n h => Decimal.lt_of_writes hsize h

/-- An integer of `n + 1` digits. -/
def nines (n : Nat) : String := String.ofList (List.replicate (n + 1) '9')

theorem digits_replicate (n : Nat) : Decimal.Digits (List.replicate (n + 1) '9') (List.replicate (n + 1) 9) := by
  induction n with
  | zero => exact .one rfl
  | succ n ih => exact .next rfl ih

theorem trimmed_append_nines {p : Char → Bool} (hp : p '9' = false) {s : List Char} (hs : ∀ c ∈ s.head?, p c = false)
    (n : Nat) : Trimmed p (s ++ (nines n).toList) (s ++ (nines n).toList) := by
  rw [nines, String.toList_ofList]
  refine ⟨⟨[], [], (List.append_nil _).symm, (fun c hc => nomatch hc), fun c hc => nomatch hc⟩, ?_, ?_⟩
  · intro d hd
    cases s with
    | nil =>
        cases hd
        exact hp
    | cons d' s => exact hs d hd
  · intro d hd
    rw [List.replicate_succ', ← List.append_assoc, List.getLast?_concat] at hd
    cases hd
    exact hp

theorem trimmed_nines {p : Char → Bool} (hp : p '9' = false) (n : Nat) : Trimmed p (nines n).toList (nines n).toList :=
  @trimmed_append_nines p hp [] (fun _ hc => nomatch hc) n

theorem splits_show_nines (n : Nat) : Splits ("show " ++ nines n) "show" (nines n) := by
  refine @Splits.followed _ "show" (nines n) (nines n).toList ?_ (by decide) (trimmed_nines rfl n)
  rw [String.toList_append]
  exact trimmed_append_nines rfl (fun c hc => Option.some.inj hc ▸ rfl) n

theorem writes_nines (n : Nat) : ∃ i, Decimal.Writes (nines n) i (n + 1) := by
  refine ⟨_, [], 1, (nines n).toList, List.replicate (n + 1) 9, trimmed_nines rfl n, .absent, ?_, rfl,
    List.length_replicate.symm⟩
  rw [nines, String.toList_ofList]
  exact digits_replicate n

/-- What has too many digits is no number. -/
theorem turn_show_nines {n : Nat} (hn : Decimal.maxIntegerDigits ≤ n) :
    (boxLine ("show " ++ nines n)).turn boxSession = printed "Invalid number. Use 'show <n>'." := by
  obtain ⟨i, hi⟩ := writes_nines n
  have hread : ∀ i', Decimal.readInt (nines n) ≠ .ok i' := by
    intro i' h
    rw [Decimal.readInt_of_writes hi, if_pos (Nat.lt_succ_of_le hn)] at h
    cases h
  have hhandled : Handled (boxLine ("show " ++ nines n)) boxSession := handled (hasDistinctIds_boxLine _)
  have hanswers := hhandled.shows "show" (nines n) (splits_show_nines n) (by decide)
  exact hanswers.invalid fun i n h => Decimal.lt_of_writes hread h

/-- **A number with too many digits is taken for none.** Nothing has been found yet. The argument is an integer, but
this is not what the session says. -/
theorem not_refused_longNumber :
    let number := nines Decimal.maxIntegerDigits
    Splits ("show " ++ number) "show" number ∧ (∃ i n, Decimal.Writes number i n) ∧
      (boxLine ("show " ++ number)).turn boxSession = printed "Invalid number. Use 'show <n>'." ∧
      (boxLine ("show " ++ number)).turn boxSession ≠ printed "No search results. Run 'search <query>' first." := by
  intro number
  obtain ⟨i, hi⟩ := writes_nines Decimal.maxIntegerDigits
  have hturn := turn_show_nines (Nat.le_refl Decimal.maxIntegerDigits)
  refine ⟨splits_show_nines _, ⟨i, _, hi⟩, hturn, fun h => ?_⟩
  have houtput := congrArg Turn.output (hturn.symm.trans h)
  exact absurd houtput (by decide)

end Box

end Shell

end FragmentSearch
