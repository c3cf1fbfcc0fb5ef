import FragmentSearch.Proofs.Command.Endings
import FragmentSearch.Proofs.Command.Shell
import FragmentSearch.Proofs.Files.Exchange

/-!
# Rankings that fail

A ranking fails at a fragment without a name, and what becomes of it depends on who has asked for it.

* `Client.rank_fails_iff` -- when a ranking fails;
* `Command.followed_of_wellTyped` -- a command whose source has well-typed records is followed to its end;
* `Command.searchReports` -- the command `search` reports it;
* `Command.askBreaksOff` -- the command `ask` is broken off by it;
* `Shell.lineBreaksOff` -- so is a session by a line that asks for a search or a question;
* `Shell.talk_breaks_iff`, `Command.sessionBreaksOff` -- a session that is broken off reads no further line.
-/

namespace FragmentSearch

open FragmentSearch.Text

/-! ## 1. When a ranking fails -/

/-- Why the fragments of an index cannot be ranked for a query: there is no limit, there is no query, or a fragment has
no name. -/
inductive Unrankable (ix : Index) (limit : Option Int) : Option String → RankingFault → Prop where
  | noLimit (query : Option String) (hlimit : limit = none) : Unrankable ix limit query .noLimit
  | noQuery (n : Int) (hlimit : limit = some n) : Unrankable ix limit none .noQuery
  | unnamed (n : Int) (query : String) (f : Fragment) (hlimit : limit = some n) (hf : f ∈ ix.fragments)
      (hname : f.name = none) : Unrankable ix limit (some query) .unnamed

theorem Keyword.foldlM_enter_fails_iff (y : Yardstick Float) (terms : List String) {e : RankingFault}
    (fs : List Fragment) :
    ∀ t : ScoreTable Float, fs.foldlM (enter y terms) t = .error e ↔ e = .unnamed ∧ ∃ f ∈ fs, f.name = none := by
  induction fs with
  | nil =>
      intro t
      exact ⟨(fun h => nomatch h), fun ⟨_, f, hf, _⟩ => absurd hf List.not_mem_nil⟩
  | cons f fs ih =>
      intro t
      rw [List.foldlM_cons]
      cases hname : f.name with
      | none =>
          have hfails : enter y terms t f = .error .unnamed := by
            unfold enter scoreTerms
            rw [hname]
          rw [hfails]
          exact ⟨fun h => ⟨(Except.error.inj h).symm, f, List.mem_cons_self, hname⟩, fun ⟨he, _⟩ => he ▸ rfl⟩
      | some name =>
          obtain ⟨t', ht'⟩ : ∃ t', enter y terms t f = .ok t' := by
            unfold enter scoreTerms
            rw [hname]
            exact ⟨_, rfl⟩
          rw [ht']
          refine (ih t').trans (and_congr_right' ?_)
          rw [List.exists_mem_cons_iff, hname]
          exact ⟨Or.inr, fun h => h.resolve_left fun h => nomatch h⟩

theorem Hybrid.rank_fails_iff {o : Outside} {h : Hybrid Float} {ix : Index} {query : String} {limit : Int} {j : Journal}
    {e : RankingFault} :
    (h.rank (.of o.library) o ix query limit j).1 = .error e ↔ e = .unnamed ∧ ∃ f ∈ ix.fragments, f.name = none := by
  have hrank : (h.rank (.of o.library) o ix query limit j).1 =
      (h.table (.of o.library) o ix query limit j).1.map (ScoreTable.best limit) := rfl
  have htable := Keyword.foldlM_enter_fails_iff (.of o.library) (queryTerms query) (e := e) ix.fragments []
  rw [hrank, map_eq_error_iff, table_run, ← htable]
  unfold Keyword.rank Keyword.table
  cases ix.fragments.foldlM (Keyword.enter (.of o.library) (queryTerms query)) [] with
  | error e' => exact Iff.rfl
  | ok t => exact ⟨(fun h => nomatch h), fun h => nomatch h⟩

namespace Client

section Rankings

variable {o : Outside} {t : FileTree} {query : Option String} {path : Path} {limit : Option Int} {c : Client}
  {j : Journal} {q : Option String} {e : RankingFault}

theorem indexOf_ne_retrieval : c.indexOf t path ≠ .error (.retrieval q e) := by
  intro h
  rcases indexOf_error h with ⟨_, h⟩ | ⟨_, h⟩ <;> cases h

/-- With a limit and a query it is the hybrid ranking that fails. -/
theorem rank_query_fails_iff {ix : Index} {n : Int} {s : String} (hix : c.indexOf t path = .ok ix)
    (hlimit : limit.or c.config.maxResults = some n) :
    (c.rank o t (some s) path limit j).1 = .error (.retrieval q e) ↔
      q = some s ∧ (c.hybrid.rank (.of o.library) o ix s n j).1 = .error e := by
  unfold rank
  rw [hix]
  dsimp only
  rw [hlimit]
  dsimp only
  rw [Session.bind_run]
  cases (c.hybrid.rank (.of o.library) o ix s n j).1 with
  | ok ranking => exact ⟨(fun h => nomatch h), fun h => nomatch h.2⟩
  | error e' =>
      constructor
      · intro h
        cases h
        exact ⟨rfl, rfl⟩
      · rintro ⟨rfl, ⟨⟩⟩
        rfl

/-- **When a ranking fails**: there is an index, and it cannot be ranked. -/
theorem rank_fails_iff :
    (c.rank o t query path limit j).1 = .error (.retrieval q e) ↔
      q = query ∧ ∃ ix, c.indexOf t path = .ok ix ∧ Unrankable ix (limit.or c.config.maxResults) query e := by
  cases hix : c.indexOf t path with
  | error fault =>
      refine ⟨fun h => ?_, fun ⟨_, _, h, _⟩ => nomatch h⟩
      unfold rank at h
      rw [hix] at h
      exact absurd (hix.trans (congrArg Except.error (Except.error.inj h))) indexOf_ne_retrieval
  | ok ix =>
      have hindex : (∃ ix', Except.ok ix = (.ok ix' : Except ClientFault Index) ∧
          Unrankable ix' (limit.or c.config.maxResults) query e) ↔
            Unrankable ix (limit.or c.config.maxResults) query e := by
        simp only [Except.ok.injEq, exists_eq_left']
      rw [hindex]
      cases hlimit : limit.or c.config.maxResults with
      | none =>
          unfold rank
          rw [hix]
          dsimp only
          rw [hlimit]
          constructor
          · intro h
            cases h
            exact ⟨rfl, .noLimit query rfl⟩
          · rintro ⟨rfl, hunrankable⟩
            cases hunrankable with
            | noLimit => rfl
            | noQuery n h => cases h
            | unnamed n s f h => cases h
      | some n =>
      cases query with
      | none =>
          unfold rank
          rw [hix]
          dsimp only
          rw [hlimit]
          constructor
          · intro h
            cases h
            exact ⟨rfl, .noQuery n rfl⟩
          · rintro ⟨rfl, hunrankable⟩
            cases hunrankable with
            | noLimit _ h => cases h
            | noQuery => rfl
      | some s =>
          rw [rank_query_fails_iff hix hlimit, Hybrid.rank_fails_iff]
          constructor
          · rintro ⟨rfl, rfl, f, hf, hname⟩
            exact ⟨rfl, .unnamed n s f rfl hf hname⟩
          · rintro ⟨rfl, hunrankable⟩
            cases hunrankable with
            | noLimit _ h => cases h
            | unnamed n s f _ hf hname => exact ⟨rfl, rfl, f, hf, hname⟩

/-- Nothing is loaded for a query. -/
theorem rank_ne_load {f : LoadFault} : (c.rank o t query path limit j).1 ≠ .error (.load f) := by
  intro h
  rcases rank_error h with h | ⟨_, _, h⟩
  · rcases indexOf_error h with ⟨_, h⟩ | ⟨_, h⟩ <;> cases h
  · cases h

theorem search_ne_load {f : LoadFault} : (c.search o t query path limit j).1 ≠ .error (.load f) :=
  fun h => rank_ne_load (search_error_iff.mp h)

theorem ask_ne_load {f : LoadFault} : (c.ask o t query path limit j).1 ≠ .error (.load f) :=
  fun h => rank_ne_load ((ask_error_iff fun _ => ClientFault.noConfusion).mp h)

end Rankings

end Client

/-! ## 2. Commands -/

namespace Command

/-- A command has a client from its environment, which has then indexed the source of the command. -/
structure Ready (a : Setting) (env : Environment) (i : Invocation) (source : Path) (j : Journal) (c₀ c : Client)
    (j' : Journal) : Prop where
  client : buildClient env i.provider i.command.embeddings = .ok c₀
  index : ∃ report, buildIndex a source c₀ j = (.ok (report, c), j')

/-- A command is followed to its end: it does not stop at a file whose records are not well-typed, of which nothing more
is said here. -/
def Followed (a : Setting) (env : Environment) (input : String) (i : Invocation) (j : Journal) : Prop :=
  ∀ file, (i.run a env input j).1.fault ≠ some (.client (.load (.untyped file)))

/-- What the command `search` makes of a ranking that fails: it reports it and ends with code 1. -/
structure SearchReports (a : Setting) (env : Environment) (input : String) (i : Invocation) (source : Path)
    (query : String) (limit : Option Int) (j : Journal) : Prop where
  reports : ∀ c₀ c j' q e, Ready a env i source j c₀ c j' →
    (c.search a.outside a.files (some query) source limit j').1 = .error (.retrieval q e) →
    (i.run a env input j).1 =
      { code := 1, complaints := "Error: " ++ (ClientFault.retrieval q e).message ++ "\n", files := a.files }
  completes : ∀ q e, (i.run a env input j).1.fault ≠ some (.client (.retrieval q e))
  followed : Followed a env input i j

/-- What the command `ask` makes of a ranking that fails: it is broken off by it, without any report. -/
structure AskBreaksOff (a : Setting) (env : Environment) (input : String) (i : Invocation) (source : Path)
    (question : String) (limit : Option Int) (j : Journal) : Prop where
  breaksOff : ∀ q e, (i.run a env input j).1.fault = some (.client (.retrieval q e)) ↔
    ∃ c₀ c j', Ready a env i source j c₀ c j' ∧ c₀.config.validate = .ok () ∧
      (c.ask a.outside a.files (some question) source limit j').1 = .error (.retrieval q e)
  silent : ∀ q e, (i.run a env input j).1.fault = some (.client (.retrieval q e)) →
    (i.run a env input j).1 = { code := 1, files := a.files, fault := some (.client (.retrieval q e)) }
  followed : Followed a env input i j

section Commands

variable {a : Setting} {env : Environment} {input : String} {i : Invocation} {source : Path} {limit : Option Int}
  {embeddings : Option Bool} {j j' : Journal} {c₀ c : Client} {q : Option String} {e : RankingFault}

/-- An index is not built by ranking. -/
theorem buildIndex_ne_retrieval : (buildIndex a source c₀ j).1 ≠ .error (.broken (.client (.retrieval q e))) :=
  fun h => nomatch (buildIndex_broken h).1

/-- **Where the records of the source are well-typed, the command is followed to its end**, if it loads nothing but the
source. -/
theorem followed_of_wellTyped (htyped : a.files.WellTyped source) (hi : i.command ≠ .serve)
    (hload : ∀ c₀ f, (endingOf a (i.command.run a input c₀ j).1).fault = some (.client (.load f)) →
      (buildIndex a source c₀ j).1 = .error (.broken (.client (.load f)))) : Followed a env input i j := by
  intro file hfault
  obtain ⟨c₀, -, hbroken⟩ := (fault_run_iff hi).mp hfault
  obtain ⟨resolved, hresolve, huntyped⟩ := buildIndex_load (hload c₀ _ hbroken)
  obtain ⟨-, rs, hrecords, hnot⟩ := FileTree.load_untyped_iff.mp huntyped
  exact hnot (htyped resolved rs hresolve hrecords)

/-- **The command `search` reports a ranking that fails.** -/
theorem searchReports {query : String} {format : Format} (htyped : a.files.WellTyped source)
    (hi : i.command = .search source query limit format embeddings) :
    SearchReports a env input i source query limit j := by
  have hserve : i.command ≠ .serve := fun h => nomatch hi.symm.trans h
  have hrun (c₀ : Client) : i.command.run a input c₀ = runSearch a source query limit format c₀ :=
    congrArg (Command.run a input c₀) hi
  refine ⟨fun c₀ c j' q e hready hfails => ?_, fun q e hfault => ?_, ?_⟩
  · obtain ⟨report, hindex⟩ := hready.index
    rw [run_of_client hserve hready.client, hrun, runSearch_eq hindex, hfails]
    rfl
  · obtain ⟨c₀, -, hbroken⟩ := (fault_run_iff hserve).mp hfault
    rw [hrun, fault_runSearch_iff] at hbroken
    rcases hbroken with hindex | ⟨_, _, _, _, _, hne⟩
    · exact buildIndex_ne_retrieval hindex
    · exact hne q e rfl
  · refine followed_of_wellTyped htyped hserve fun c₀ f hbroken => ?_
    rw [hrun, fault_runSearch_iff] at hbroken
    exact hbroken.resolve_right fun ⟨_, _, _, _, h, _⟩ => Client.search_ne_load h

/-- **The command `ask` is broken off by a ranking that fails.** -/
theorem askBreaksOff {question : String} (htyped : a.files.WellTyped source)
    (hi : i.command = .ask source question limit embeddings) :
    AskBreaksOff a env input i source question limit j := by
  have hserve : i.command ≠ .serve := fun h => nomatch hi.symm.trans h
  have hrun (c₀ : Client) : i.command.run a input c₀ = runAsk a source question limit c₀ :=
    congrArg (Command.run a input c₀) hi
  have hbroken : ∀ q e, (i.run a env input j).1.fault = some (.client (.retrieval q e)) ↔
      ∃ c₀ c j', Ready a env i source j c₀ c j' ∧ c₀.config.validate = .ok () ∧
        (c.ask a.outside a.files (some question) source limit j').1 = .error (.retrieval q e) := by
    intro q e
    rw [fault_run_iff hserve]
    constructor
    · rintro ⟨c₀, hclient, hfault⟩
      rw [hrun, fault_runAsk_iff] at hfault
      obtain ⟨hvalid, hindex | ⟨report, c, j', hindex, hask, -⟩⟩ := hfault
      · exact absurd hindex buildIndex_ne_retrieval
      · exact ⟨c₀, c, j', ⟨hclient, report, hindex⟩, hvalid, hask⟩
    · rintro ⟨c₀, c, j', ⟨hclient, report, hindex⟩, hvalid, hask⟩
      refine ⟨c₀, hclient, ?_⟩
      rw [hrun]
      exact fault_runAsk_iff.mpr ⟨hvalid, Or.inr ⟨report, c, j', hindex, hask, fun _ => ClientFault.noConfusion⟩⟩
  refine ⟨hbroken, fun q e hfault => ?_, ?_⟩
  · obtain ⟨c₀, c, j', ⟨hclient, report, hindex⟩, hvalid, hask⟩ := (hbroken q e).mp hfault
    rw [run_of_client hserve hclient, hrun, runAsk_eq hvalid hindex, hask]
    rfl
  · refine followed_of_wellTyped htyped hserve fun c₀ f hfault => ?_
    rw [hrun, fault_runAsk_iff] at hfault
    exact hfault.2.resolve_right fun ⟨_, _, _, _, h, _⟩ => Client.ask_ne_load h

end Commands

end Command

/-! ## 3. Lines of a session -/

namespace Shell

/-- A line asks for a search or a question whose ranking fails; the text is what the line has printed until then. -/
inductive Input.Fails (n : Input) (s : Shell) (q : Option String) (e : RankingFault) : String → Prop where
  | search {word query : String} (hsplits : Splits n.line word query) (hword : lower word = "search")
      (hquery : query ≠ "")
      (hfails : (s.client.search n.setting.outside n.setting.files (some query) s.source none n.journal).1 =
        .error (.retrieval q e)) : n.Fails s q e ""
  | ask {word question : String} (hsplits : Splits n.line word question) (hword : lower word = "ask")
      (hquestion : question ≠ "")
      (hfails : (s.client.ask n.setting.outside n.setting.files (some question) s.source none n.journal).1 =
        .error (.retrieval q e)) : n.Fails s q e ("\nThinking... (query: " ++ question ++ ")\n")

/-- What a line makes of a ranking that fails: it does not go on, and nothing is said of the failure. -/
structure LineBreaksOff (n : Input) (s : Shell) : Prop where
  breaksOff : ∀ said q e, n.turn s = ⟨said, .error (.retrieval q e)⟩ ↔ n.Fails s q e said
  keeps : ∀ said q e, n.Fails s q e said → n.after s = s

section Lines

variable {a : Setting} {s : Shell} {j : Journal} {line word argument : String} {q : Option String} {e : RankingFault}

theorem handle_ask (hsplits : Splits line word argument) (hword : lower word = "ask") (harg : argument ≠ "") :
    (s.handle a line j).1 = ((s.ask a argument j).1, s) := by
  have hne : ¬ argument.isEmpty = true := fun h => harg (String.isEmpty_iff.mp h)
  have hask : s.handle a line = do return (← s.ask a argument, s) := by
    unfold handle
    rw [if_neg (not_blank hsplits (by rw [hword]; decide)), splitLine_of_splits hsplits, hword]
    exact if_neg hne
  rw [hask]
  rfl

theorem turn_eq_iff {α : Type} {said said' : String} {fault fault' : ClientFault} :
    (⟨said', .error fault'⟩ : Turn) = ⟨said, .error fault⟩ ↔
      said = said' ∧ (Except.error fault' : Except ClientFault α) = .error fault := by
  constructor
  · rintro ⟨⟩
    exact ⟨rfl, rfl⟩
  · rintro ⟨rfl, ⟨⟩⟩
    rfl

/-- A question that fails, unless the provider refuses it, says no more than that it is considered. -/
theorem ask_eq_iff {question said : String} {fault : ClientFault} (hfault : ∀ m, fault ≠ .answer (.refused m)) :
    (s.ask a question j).1 = ⟨said, .error fault⟩ ↔
      said = "\nThinking... (query: " ++ question ++ ")\n" ∧
        (s.client.ask a.outside a.files (some question) s.source none j).1 = .error fault := by
  unfold ask
  cases hask : s.client.ask a.outside a.files (some question) s.source none j with
  | mk result j' =>
      simp only [Session.bind_run, hask]
      cases result with
      | ok answer => exact ⟨(fun h => nomatch h), fun h => nomatch h.2⟩
      | error fault' =>
          cases fault' with
          | answer e =>
              cases e with
              | refused m =>
                  exact ⟨(fun h => nomatch h), fun h => absurd (Except.error.inj h.2).symm (hfault m)⟩
              | failed | notInstalled | unknownProvider | unreadable | cannotPause => exact turn_eq_iff
          | circle | build | load | notBuilt | retrieval => exact turn_eq_iff

/-- A line is answered with a listing, or the search that it asks for fails. -/
theorem search_eq_iff {query said : String} {fault : ClientFault} :
    (s.search a query j).1.1 = ⟨said, .error fault⟩ ↔
      said = "" ∧ (s.client.search a.outside a.files (some query) s.source none j).1 = .error fault := by
  rw [Client.search_error_iff]
  cases hrank : (s.client.rank a.outside a.files (some query) s.source none j).1 with
  | error fault' =>
      rw [search_of_error hrank]
      exact turn_eq_iff
  | ok ranking =>
      obtain ⟨ix, hix, -⟩ := Client.exists_index_of_rank hrank
      rw [search_of_ranking hrank hix]
      exact ⟨(fun h => nomatch h), fun h => nomatch h.2⟩

/-- Any other line can fail only for want of an index. -/
theorem goesOn_of_other {fault : ClientFault} (hsplits : Splits line word argument)
    (hsearch : ¬ (lower word = "search" ∧ argument ≠ "")) (hask : ¬ (lower word = "ask" ∧ argument ≠ ""))
    (hindex : s.client.indexOf a.files s.source ≠ .error fault) : (s.handle a line j).1.1.goesOn ≠ .error fault := by
  generalize hr : s.handle a line = session
  unfold handle at hr
  by_cases hblank : (trim line).isEmpty = true
  · rw [if_pos hblank] at hr
    subst hr
    exact fun h => nomatch h
  rw [if_neg hblank, splitLine_of_splits hsplits] at hr
  dsimp only at hr
  split at hr
  · subst hr
    exact fun h => nomatch h
  · subst hr
    exact fun h => nomatch h
  · next h =>
      split at hr
      · subst hr
        exact fun h => nomatch h
      · next hne => exact absurd ⟨h, fun e => hne (String.isEmpty_iff.mpr e)⟩ hsearch
  · next h =>
      split at hr
      · subst hr
        exact fun h => nomatch h
      · next hne => exact absurd ⟨h, fun e => hne (String.isEmpty_iff.mpr e)⟩ hask
  · subst hr
    exact fun h => nomatch h
  · subst hr
    unfold Shell.list
    split
    · exact fun h => nomatch h
    · next hix => exact fun h => hindex (hix.trans (congrArg Except.error (Except.error.inj h)))
  · subst hr
    exact fun h => nomatch h

/-- **A line is broken off by a ranking that fails.** -/
theorem lineBreaksOff (n : Input) (s : Shell) : LineBreaksOff n s := by
  obtain ⟨word, argument, hsplits⟩ := exists_splits n.line
  refine ⟨fun said q e => ⟨fun h => ?_, ?_⟩, ?_⟩
  · by_cases hsearch : lower word = "search" ∧ argument ≠ ""
    · unfold Input.turn at h
      rw [handle_search hsplits hsearch.1 hsearch.2] at h
      obtain ⟨rfl, hfails⟩ := search_eq_iff.mp h
      exact .search hsplits hsearch.1 hsearch.2 hfails
    by_cases hask : lower word = "ask" ∧ argument ≠ ""
    · unfold Input.turn at h
      rw [handle_ask hsplits hask.1 hask.2] at h
      obtain ⟨rfl, hfails⟩ := (ask_eq_iff fun _ => ClientFault.noConfusion).mp h
      exact .ask hsplits hask.1 hask.2 hfails
    · have hgoes := goesOn_of_other (a := n.setting) (s := s) (j := n.journal) hsplits hsearch hask
        (Client.indexOf_ne_retrieval (q := q) (e := e))
      unfold Input.turn at h
      rw [h] at hgoes
      exact absurd rfl hgoes
  · rintro (⟨hsplits', hword, hquery, hfails⟩ | ⟨hsplits', hword, hquestion, hfails⟩)
    · unfold Input.turn
      rw [handle_search hsplits' hword hquery]
      exact search_eq_iff.mpr ⟨rfl, hfails⟩
    · unfold Input.turn
      rw [handle_ask hsplits' hword hquestion]
      exact (ask_eq_iff fun _ => ClientFault.noConfusion).mpr ⟨rfl, hfails⟩
  · rintro said q e (⟨hsplits', hword, hquery, hfails⟩ | ⟨hsplits', hword, hquestion, hfails⟩)
    · unfold Input.after
      rw [handle_search hsplits' hword hquery, search_of_error (Client.search_error_iff.mp hfails)]
    · unfold Input.after
      rw [handle_ask hsplits' hword hquestion]

/-- No line loads anything. -/
theorem goesOn_ne_load {f : LoadFault} : (s.handle a line j).1.1.goesOn ≠ .error (.load f) := by
  obtain ⟨word, argument, hsplits⟩ := exists_splits line
  have hturn : ∀ t : Turn, t.goesOn = .error (.load f) → t = ⟨t.output, .error (.load f)⟩ := fun t h => h ▸ rfl
  by_cases hsearch : lower word = "search" ∧ argument ≠ ""
  · rw [handle_search hsplits hsearch.1 hsearch.2]
    exact fun h => Client.search_ne_load (search_eq_iff.mp (hturn _ h)).2
  by_cases hask : lower word = "ask" ∧ argument ≠ ""
  · rw [handle_ask hsplits hask.1 hask.2]
    exact fun h => Client.ask_ne_load ((ask_eq_iff fun _ => ClientFault.noConfusion).mp (hturn _ h)).2
  · refine goesOn_of_other hsplits hsearch hask fun h => ?_
    rcases Client.indexOf_error h with ⟨_, h⟩ | ⟨_, h⟩ <;> cases h

end Lines

/-! ## 4. Sessions -/

/-- After each of these lines the session goes on; the text is what is printed for them. -/
inductive GoesOn (a : Setting) : List String → Shell → Journal → String → Shell → Journal → Prop where
  | start (s : Shell) (j : Journal) : GoesOn a [] s j "" s j
  | next {line said later : String} {rest : List String} {s s' s'' : Shell} {j j' j'' : Journal}
      (hline : s.handle a line j = ((⟨said, .ok true⟩, s'), j')) (hrest : GoesOn a rest s' j' later s'' j'') :
      GoesOn a (line :: rest) s j (prompt ++ line ++ "\n" ++ said ++ later) s'' j''

/-- A session comes to a line whose ranking fails. The text is all that is printed; the lines after this one play no
part. -/
inductive Breaks (a : Setting) (lines : List String) (s : Shell) (j : Journal) (q : Option String) (e : RankingFault) :
    String → Prop where
  | at {before after : List String} {line spoken said : String} {s' : Shell} {j' : Journal}
      (hlines : lines = before ++ line :: after) (hbefore : GoesOn a before s j spoken s' j')
      (hline : Input.Fails ⟨a, j', line⟩ s' q e said) :
      Breaks a lines s j q e (spoken ++ (prompt ++ line ++ "\n" ++ said))

section Sessions

variable {a : Setting} {q : Option String} {e : RankingFault}

theorem Breaks.next {line said text : String} {rest : List String} {s s' : Shell} {j j' : Journal}
    (hline : s.handle a line j = ((⟨said, .ok true⟩, s'), j')) (h : Breaks a rest s' j' q e text) :
    Breaks a (line :: rest) s j q e (prompt ++ line ++ "\n" ++ said ++ text) := by
  obtain ⟨hlines, hbefore, hfails⟩ := h
  rw [← String.append_assoc]
  exact .at (congrArg (line :: ·) hlines) (.next hline hbefore) hfails

/-- A session that is broken off at its first line, or later on. -/
theorem Breaks.cases_line {line text : String} {rest : List String} {s : Shell} {j : Journal}
    (h : Breaks a (line :: rest) s j q e text) :
    (∃ said, Input.Fails ⟨a, j, line⟩ s q e said ∧ text = prompt ++ line ++ "\n" ++ said) ∨
      ∃ said s' j' later, s.handle a line j = ((⟨said, .ok true⟩, s'), j') ∧ Breaks a rest s' j' q e later ∧
        text = prompt ++ line ++ "\n" ++ said ++ later := by
  obtain ⟨hlines, hbefore, hfails⟩ := h
  cases hbefore with
  | start =>
      cases hlines
      exact Or.inl ⟨_, hfails, String.empty_append⟩
  | next hline hrest =>
      cases hlines
      exact Or.inr ⟨_, _, _, _, hline, .at rfl hrest hfails, String.append_assoc⟩

/-- **A session is broken off at the first line whose ranking fails**, and has then read no further line. -/
theorem talk_breaks_iff (lines : List String) :
    ∀ (s : Shell) (j : Journal) (text : String),
      (talk a lines s j).1 = (text, some (.retrieval q e)) ↔ Breaks a lines s j q e text := by
  induction lines with
  | nil =>
      refine fun s j text => ⟨(fun h => nomatch h), fun h => ?_⟩
      obtain ⟨hlines, -, -⟩ := h
      exact absurd hlines (List.append_ne_nil_of_right_ne_nil _ (List.cons_ne_nil _ _)).symm
  | cons line rest ih =>
      intro s j text
      have hline := (lineBreaksOff ⟨a, j, line⟩ s).breaksOff
      unfold talk
      cases hturn : s.handle a line j with
      | mk p j' =>
      obtain ⟨⟨said, goesOn⟩, s'⟩ := p
      unfold Input.turn at hline
      simp only [hturn] at hline
      simp only [Session.bind_run, hturn]
      cases goesOn with
      | error fault =>
          constructor
          · intro h
            cases h
            have hbreaks : Breaks a (line :: rest) s j q e ("" ++ (prompt ++ line ++ "\n" ++ said)) :=
              .at rfl (.start s j) ((hline said q e).mp rfl)
            rwa [String.empty_append] at hbreaks
          · intro h
            rcases h.cases_line with ⟨said', hfails, rfl⟩ | ⟨_, _, _, _, hgoes, -⟩
            · cases (hline said' q e).mpr hfails
              rfl
            · cases hturn.symm.trans hgoes
      | ok b =>
      cases b with
      | false =>
          refine ⟨(fun h => nomatch h), fun h => ?_⟩
          rcases h.cases_line with ⟨said', hfails, rfl⟩ | ⟨_, _, _, _, hgoes, -⟩
          · cases (hline said' q e).mpr hfails
          · cases hturn.symm.trans hgoes
      | true =>
          cases hrest : talk a rest s' j' with
          | mk p j'' =>
          obtain ⟨later, fault⟩ := p
          have hrun := ih s' j'
          rw [hrest] at hrun
          simp only [Session.bind_run, hrest]
          constructor
          · intro h
            cases h
            exact .next hturn ((hrun later).mp rfl)
          · intro h
            rcases h.cases_line with ⟨said', hfails, rfl⟩ | ⟨_, _, _, later', hgoes, hbreaks, rfl⟩
            · cases (hline said' q e).mpr hfails
            · cases hturn.symm.trans hgoes
              cases (hrun later').mpr hbreaks
              rfl

/-- A session loads nothing. -/
theorem talk_ne_load {f : LoadFault} (lines : List String) :
    ∀ (s : Shell) (j : Journal), (talk a lines s j).1.2 ≠ some (.load f) := by
  induction lines with
  | nil => exact fun s j h => nomatch h
  | cons line rest ih =>
      intro s j
      have hline : (s.handle a line j).1.1.goesOn ≠ .error (.load f) := goesOn_ne_load
      unfold talk
      cases hturn : s.handle a line j with
      | mk p j' =>
      obtain ⟨⟨said, goesOn⟩, s'⟩ := p
      rw [hturn] at hline
      simp only [Session.bind_run, hturn]
      cases goesOn with
      | error fault => exact fun h => hline (congrArg Except.error (Option.some.inj h))
      | ok b =>
      cases b with
      | false => exact fun h => nomatch h
      | true => exact ih s' j'

end Sessions

end Shell

namespace Command

/-- A command has a client from its environment, and a session over its source begins; the text is what is printed
before that. -/
structure Opens (a : Setting) (env : Environment) (i : Invocation) (source : Path) (j : Journal) (opening : String)
    (s : Shell) (j' : Journal) : Prop where
  opens : ∃ c₀, buildClient env i.provider i.command.embeddings = .ok c₀ ∧
    openShell a source c₀ j = (.ok (opening, s), j')

/-- What the command `shell` makes of a ranking that fails: it is broken off by it, with what the session has
printed. -/
structure SessionBreaksOff (a : Setting) (env : Environment) (input : String) (i : Invocation) (source : Path)
    (j : Journal) : Prop where
  breaksOff : ∀ q e, (i.run a env input j).1.fault = some (.client (.retrieval q e)) ↔
    ∃ opening s j' text, Opens a env i source j opening s j' ∧ Shell.Breaks a (Shell.inputLines input) s j' q e text
  ends : ∀ opening s j' q e text, Opens a env i source j opening s j' →
    Shell.Breaks a (Shell.inputLines input) s j' q e text →
    (i.run a env input j).1 =
      { code := 1, output := opening ++ text, files := a.files, fault := some (.client (.retrieval q e)) }
  followed : Followed a env input i j

section Sessions

variable {a : Setting} {env : Environment} {input : String} {i : Invocation} {source : Path} {embeddings : Option Bool}
  {j : Journal}

/-- **The command `shell` is broken off by a ranking that fails.** -/
theorem sessionBreaksOff (htyped : a.files.WellTyped source) (hi : i.command = .shell source embeddings) :
    SessionBreaksOff a env input i source j := by
  have hserve : i.command ≠ .serve := fun h => nomatch hi.symm.trans h
  have hrun (c₀ : Client) : i.command.run a input c₀ = runShell a source input c₀ :=
    congrArg (Command.run a input c₀) hi
  have hends : ∀ opening s j' q e text, Opens a env i source j opening s j' →
      Shell.Breaks a (Shell.inputLines input) s j' q e text →
      (i.run a env input j).1 =
        { code := 1, output := opening ++ text, files := a.files, fault := some (.client (.retrieval q e)) } := by
    rintro opening s j' q e text ⟨c₀, hclient, hopen⟩ hbreaks
    have htalk := (Shell.talk_breaks_iff _ s j' text).mpr hbreaks
    rw [run_of_client hserve hclient, hrun, runShell_eq hopen, htalk]
    rfl
  refine ⟨fun q e => ⟨fun hfault => ?_, ?_⟩, hends, ?_⟩
  · obtain ⟨c₀, hclient, hbroken⟩ := (fault_run_iff hserve).mp hfault
    rw [hrun, fault_runShell_iff] at hbroken
    obtain hindex | ⟨report, c, j', hindex, htalk⟩ := hbroken
    · exact absurd hindex buildIndex_ne_retrieval
    · obtain ⟨opening, hopen⟩ := openShell_of_index hindex
      exact ⟨opening, _, j', _, ⟨c₀, hclient, hopen⟩, (Shell.talk_breaks_iff _ _ j' _).mp (Prod.ext rfl htalk)⟩
  · rintro ⟨opening, s, j', text, hopens, hbreaks⟩
    rw [hends opening s j' q e text hopens hbreaks]
  · refine followed_of_wellTyped htyped hserve fun c₀ f hbroken => ?_
    rw [hrun, fault_runShell_iff] at hbroken
    exact hbroken.resolve_right fun ⟨_, _, j', _, h⟩ => Shell.talk_ne_load _ _ j' h

end Sessions

/-! ## 5. Who reports a ranking that fails -/

/-- **Only the command `search` reports a ranking that fails.** A search or a question fails with its ranking, and a
ranking fails exactly if there is an index that cannot be ranked. The command `search` reports this and ends with code 1.
The command `ask`, a line of a session that asks for a search or a question, and with it the command `shell`, are broken
off, just when this happens to them and without a word about it. Of a source that is a file the records are well-typed;
a command is then followed to its end. -/
theorem failing_ranking_exact (a : Setting) (env : Environment) (input : String) (i : Invocation) (j : Journal) :
    (∀ (c : Client) (o : Outside) (t : FileTree) query path limit q e,
      ((c.search o t query path limit j).1 = .error (.retrieval q e) ↔
        q = query ∧ ∃ ix, c.indexOf t path = .ok ix ∧ Unrankable ix (limit.or c.config.maxResults) query e) ∧
      ((c.ask o t query path limit j).1 = .error (.retrieval q e) ↔
        q = query ∧ ∃ ix, c.indexOf t path = .ok ix ∧
          Unrankable ix ((limit.or c.config.contextResults).or c.config.maxResults) query e)) ∧
    (∀ source query limit format embeddings, i.command = .search source query limit format embeddings →
      a.files.WellTyped source → SearchReports a env input i source query limit j) ∧
    (∀ source question limit embeddings, i.command = .ask source question limit embeddings →
      a.files.WellTyped source → AskBreaksOff a env input i source question limit j) ∧
    (∀ source embeddings, i.command = .shell source embeddings → a.files.WellTyped source →
      SessionBreaksOff a env input i source j) ∧
    (∀ s line, Shell.LineBreaksOff ⟨a, j, line⟩ s) := by
  refine ⟨fun c o t query path limit q e => ⟨?_, ?_⟩, fun _ _ _ _ _ hi htyped => searchReports htyped hi,
    fun _ _ _ _ hi htyped => askBreaksOff htyped hi, fun _ _ hi htyped => sessionBreaksOff htyped hi,
    fun s line => Shell.lineBreaksOff ⟨a, j, line⟩ s⟩
  · exact Client.search_error_iff.trans Client.rank_fails_iff
  · exact (Client.ask_error_iff fun _ => ClientFault.noConfusion).trans Client.rank_fails_iff

section Unnamed

/-- A fragment without a name. -/
def unnamed : Fragment := { Index.member "m.Box.size" "size" [] with name := none }

/-- A file with a fragment that has no name. -/
def unnamedFile : Path := ⟨"", ["dump.json"]⟩

/-- Nothing but this file. -/
def unnamedSetting : Setting where
  files := ⟨.directory [("dump.json", .file (Dump.text false [unnamed]).toUTF8)], []⟩
  outside := silence
  elapsed := "0.1"

/-- A key for answers. -/
def keyed : Environment := [("GEMINI_API_KEY", "key")]

theorem find_unnamedFile {p : Path} (hp : p.parts = ["dump.json"]) :
    unnamedSetting.files.find p = .ok ⟨["dump.json"], some (.file (Dump.text false [unnamed]).toUTF8)⟩ := by
  have hplace : (if p.isAbsolute then [] else unnamedSetting.files.here.reverse) = [] := ite_self _
  unfold FileTree.find
  rw [hplace, hp]
  exact Node.follow_of_leads (.enter rfl (by decide) (by decide) rfl (fun _ => Node.noConfusion) (.done _ _))

theorem resolve_unnamedFile {p : Path} (hp : p.parts = ["dump.json"]) :
    unnamedSetting.files.resolve p = .ok ⟨"/", ["dump.json"]⟩ := by
  have hlink : ∀ target, Node.child? "dump.json" [("dump.json", .file (Dump.text false [unnamed]).toUTF8)] ≠
      some (.link target) := by
    intro target h
    unfold Node.child? at h
    split at h <;> cases h
  exact FileTree.resolve_name hp (by decide) (by decide) hlink

theorem rootOf_unnamedFile {p : Path} (hp : p.parts = ["dump.json"]) :
    Client.rootOf unnamedSetting.files p = .ok ⟨"/", ["dump.json"]⟩ := by
  unfold Client.rootOf
  rw [resolve_unnamedFile hp]

theorem load_unnamedFile : unnamedSetting.files.load ⟨"/", ["dump.json"]⟩ = .ok [unnamed] := by
  have hbytes : unnamedSetting.files.bytes ⟨"/", ["dump.json"]⟩ = .ok (Dump.text false [unnamed]).toUTF8 := by
    unfold FileTree.bytes FileTree.node
    rw [find_unnamedFile rfl]
  exact FileTree.load_text hbytes (by decide +kernel) fun h => absurd h Bool.false_ne_true

theorem wellTyped_unnamedFile : unnamedSetting.files.WellTyped unnamedFile := by
  intro file rs hresolve hrecords
  cases (resolve_unnamedFile rfl).symm.trans hresolve
  by_contra hnot
  cases load_unnamedFile.symm.trans (FileTree.load_untyped_iff.mpr ⟨rfl, rs, hrecords, hnot⟩)

/-- The client that a command has, with the settings that count here. -/
theorem exists_client :
    ∃ c₀ : Client, buildClient keyed none none = .ok c₀ ∧ c₀.config.validate = .ok () ∧
      c₀.config.maxResults = some 10 ∧ c₀.config.contextResults = some 5 ∧ c₀.config.usesEmbeddings = false := by
  have hsettings : (buildClient keyed none none).toOption.map (fun c => (c.config.validate.toOption.isSome,
      c.config.maxResults, c.config.contextResults, c.config.usesEmbeddings)) =
        some (true, some 10, some 5, false) := by
    decide +kernel
  cases hclient : buildClient keyed none none with
  | error s =>
      rw [hclient] at hsettings
      cases hsettings
  | ok c₀ =>
      rw [hclient] at hsettings
      simp only [Except.toOption, Option.map_some, Option.some.injEq, Prod.mk.injEq] at hsettings
      obtain ⟨hvalid, hmax, hcontext, huses⟩ := hsettings
      refine ⟨c₀, rfl, ?_, hmax, hcontext, huses⟩
      cases hv : c₀.config.validate with
      | ok u => rfl
      | error e =>
          rw [hv] at hvalid
          cases hvalid

theorem buildIndex_unnamedFile {c₀ : Client} (huses : c₀.config.usesEmbeddings = false) :
    ∃ report, buildIndex unnamedSetting unnamedFile c₀ {} =
      (.ok (report, c₀.register ⟨"/", ["dump.json"]⟩ (.ofFragments c₀.config.resolvesNames [unnamed]) report), {}) := by
  have hfile : unnamedSetting.files.isFile unnamedFile = true := by
    unfold FileTree.isFile FileTree.node
    rw [find_unnamedFile rfl]
  have hsuffix : ¬ (unnamedSetting.files.isFile unnamedFile && Text.lower unnamedFile.suffix ≠ ".json") = true := by
    rw [hfile]
    decide
  have hload : ∃ report, c₀.load unnamedSetting.outside unnamedSetting.files unnamedFile (some unnamedFile) {} =
      ((.ok report, c₀.register ⟨"/", ["dump.json"]⟩ (.ofFragments c₀.config.resolvesNames [unnamed]) report), {}) := by
    unfold Client.load Client.rootForFile
    rw [rootOf_unnamedFile rfl]
    unfold Client.indexFile Index.withVectors
    dsimp only
    rw [rootOf_unnamedFile rfl]
    dsimp only
    rw [load_unnamedFile]
    dsimp only
    rw [huses]
    exact ⟨_, rfl⟩
  obtain ⟨report, hload⟩ := hload
  refine ⟨report, ?_⟩
  unfold buildIndex
  rw [if_neg hsuffix, hfile]
  simp only [if_true, Session.bind_run, hload]
  rfl

/-- This index cannot be ranked. -/
theorem rank_unnamedFile {c₀ : Client} {resolves : Bool} {report : IndexReport} {limit : Option Int} {n : Int}
    (query : String) (hlimit : limit.or c₀.config.maxResults = some n) :
    ((c₀.register ⟨"/", ["dump.json"]⟩ (.ofFragments resolves [unnamed]) report).rank unnamedSetting.outside
      unnamedSetting.files (some query) unnamedFile limit {}).1 = .error (.retrieval (some query) .unnamed) := by
  refine Client.rank_fails_iff.mpr ⟨rfl, .ofFragments resolves [unnamed], ?_, ?_⟩
  · unfold Client.indexOf
    rw [rootOf_unnamedFile rfl]
    unfold Client.register
    dsimp only
    rw [Table.get?_put, if_pos rfl]
  · refine .unnamed n query unnamed hlimit ?_ rfl
    rw [Index.fragments_ofFragments]
    exact List.mem_singleton.mpr rfl

/-- What a command does with this file. -/
def unnamedRun (c : Command) : Ending := (Invocation.run unnamedSetting keyed "search size\nquit\n" ⟨none, c⟩ {}).1

/-- A command that names no vendor and says nothing of vectors is ready, and can neither search nor ask. -/
theorem exists_ready :
    ∃ c₀ c : Client, c₀.config.validate = .ok () ∧
      (∀ command : Command, command.embeddings = none →
        Ready unnamedSetting keyed ⟨none, command⟩ unnamedFile {} c₀ c {}) ∧
      (c.search unnamedSetting.outside unnamedSetting.files (some "size") unnamedFile none {}).1 =
        .error (.retrieval (some "size") .unnamed) ∧
      (c.ask unnamedSetting.outside unnamedSetting.files (some "size") unnamedFile none {}).1 =
        .error (.retrieval (some "size") .unnamed) := by
  obtain ⟨c₀, hclient, hvalid, hmax, hcontext, huses⟩ := exists_client
  obtain ⟨report, hindex⟩ := buildIndex_unnamedFile huses
  refine ⟨c₀, _, hvalid, fun command hnone => ⟨?_, report, hindex⟩, ?_, ?_⟩
  · rw [hnone]
    exact hclient
  · exact Client.search_error_iff.mpr (rank_unnamedFile "size" hmax)
  · refine (Client.ask_error_iff fun _ => ClientFault.noConfusion).mpr (rank_unnamedFile "size" (n := 5) ?_)
    show (Option.or none c₀.config.contextResults).or _ = _
    rw [hcontext]
    rfl

theorem fails_search_size {c : Client}
    (h : (c.search unnamedSetting.outside unnamedSetting.files (some "size") unnamedFile none {}).1 =
      .error (.retrieval (some "size") .unnamed)) :
    Shell.Input.Fails ⟨unnamedSetting, {}, "search size"⟩ { client := c, source := unnamedFile }
      (some "size") .unnamed "" := by
  have hsplits : Shell.Splits "search size" "search" "size" := Shell.splits_words rfl (by decide) rfl
  exact .search hsplits (by decide) (by decide) h

/-- The command `search` reports the ranking of this file. The command `ask` and a session are broken off by it, and do
not say why. -/
theorem failing_ranking_exact_unnamed :
    let fault := ClientFault.retrieval (some "size") .unnamed
    unnamedRun (.search unnamedFile "size" none .console none) =
      { code := 1, complaints := "Error: " ++ fault.message ++ "\n", files := unnamedSetting.files } ∧
    unnamedRun (.ask unnamedFile "size" none none) =
      { code := 1, files := unnamedSetting.files, fault := some (.client fault) } ∧
    ∃ opening, unnamedRun (.shell unnamedFile none) =
      { code := 1, output := opening ++ "> search size\n", files := unnamedSetting.files, fault := some (.client fault) } := by
  intro fault
  have hexact := fun command : Command =>
    (failing_ranking_exact unnamedSetting keyed "search size\nquit\n" ⟨none, command⟩ {}).2
  obtain ⟨c₀, c, hvalid, hready, hsearch, hask⟩ := exists_ready
  refine ⟨?_, ?_, ?_⟩
  · have hreports := (hexact (.search unnamedFile "size" none .console none)).1 _ _ _ _ _ rfl wellTyped_unnamedFile
    exact hreports.reports c₀ c {} (some "size") .unnamed (hready _ rfl) hsearch
  · have hbreaks := (hexact (.ask unnamedFile "size" none none)).2.1 _ _ _ _ rfl wellTyped_unnamedFile
    exact hbreaks.silent _ _ ((hbreaks.breaksOff _ _).mpr ⟨c₀, c, {}, hready _ rfl, hvalid, hask⟩)
  · have hbreaks := (hexact (.shell unnamedFile none)).2.2.1 _ _ rfl wellTyped_unnamedFile
    obtain ⟨hclient, report, hindex⟩ := hready (.shell unnamedFile none) rfl
    obtain ⟨opening, hopen⟩ := openShell_of_index hindex
    have hopens : Opens unnamedSetting keyed ⟨none, .shell unnamedFile none⟩ unnamedFile {} opening
        { client := c, source := unnamedFile } {} := ⟨c₀, hclient, hopen⟩
    have hlines : Shell.inputLines "search size\nquit\n" = "search size" :: ["quit"] := by decide
    have hsession := Shell.Breaks.at hlines (.start _ _) (fails_search_size hsearch)
    have htext : "" ++ (Shell.prompt ++ "search size" ++ "\n" ++ "") = "> search size\n" := by decide
    rw [htext] at hsession
    exact ⟨opening, hbreaks.ends opening _ {} (some "size") .unnamed "> search size\n" hopens hsession⟩

/-- **A ranking that fails is not reported by every command.** The client of this file can neither search nor ask. Of the
command `ask` this is no report, and no line of a session that asks for the one or the other goes on. -/
theorem not_reported_unnamed :
    let fault := ClientFault.retrieval (some "size") .unnamed
    ∃ c₀ c : Client, Ready unnamedSetting keyed ⟨none, .ask unnamedFile "size" none none⟩ unnamedFile {} c₀ c {} ∧
      (c.search unnamedSetting.outside unnamedSetting.files (some "size") unnamedFile none {}).1 = .error fault ∧
      (c.ask unnamedSetting.outside unnamedSetting.files (some "size") unnamedFile none {}).1 = .error fault ∧
      (unnamedRun (.ask unnamedFile "size" none none)).fault = some (.client fault) ∧
      (unnamedRun (.ask unnamedFile "size" none none)).complaints ≠ "Error: " ++ fault.message ++ "\n" ∧
      ∀ line ∈ ["search size", "ask size"], ∃ said,
        (Shell.Input.turn ⟨unnamedSetting, {}, line⟩ { client := c, source := unnamedFile }) = ⟨said, .error fault⟩ := by
  intro fault
  obtain ⟨c₀, c, hvalid, hready, hsearch, hask⟩ := exists_ready
  have hbreaks : AskBreaksOff unnamedSetting keyed "search size\nquit\n" ⟨none, .ask unnamedFile "size" none none⟩
      unnamedFile "size" none {} := askBreaksOff wellTyped_unnamedFile rfl
  have hfault := (hbreaks.breaksOff (some "size") .unnamed).mpr ⟨c₀, c, {}, hready _ rfl, hvalid, hask⟩
  refine ⟨c₀, c, hready _ rfl, hsearch, hask, hfault, ?_, ?_⟩
  · have hsilent := congrArg Ending.complaints (hbreaks.silent _ _ hfault)
    unfold unnamedRun
    rw [hsilent]
    decide
  · have hline := fun line =>
      (Shell.lineBreaksOff ⟨unnamedSetting, {}, line⟩ { client := c, source := unnamedFile }).breaksOff
    intro line hmem
    rcases List.mem_pair.mp hmem with rfl | rfl
    · exact ⟨_, (hline "search size" _ _ _).mpr (fails_search_size hsearch)⟩
    · have hsplits : Shell.Splits "ask size" "ask" "size" := Shell.splits_words rfl (by decide) rfl
      exact ⟨_, (hline "ask size" _ _ _).mpr (.ask hsplits (by decide) (by decide) hask)⟩

end Unnamed

end Command

end FragmentSearch
