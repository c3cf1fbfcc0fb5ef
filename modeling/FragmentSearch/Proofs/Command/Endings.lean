import FragmentSearch.Command.Run
import FragmentSearch.Proofs.Client.Faults

/-!
# How commands end

A command has a client from its environment, which indexes the source of the command, and then asks the client for
something. A fault of the client that breaks it off has come up at one of these stages.

* `buildIndex_broken`, `buildIndex_load` -- the faults that come up while the source is indexed;
* `fault_run_iff` -- a fault comes up while the command runs with its client, and not before;
* `runSearch_eq`, `runAsk_eq`, `runShell_eq` -- what a command makes of its index.
-/

namespace FragmentSearch.Command

variable {a : Setting} {env : Environment} {input : String} {i : Invocation} {source : Path} {limit : Option Int}
  {embeddings : Option Bool} {j j' : Journal} {c₀ c : Client} {fault : ClientFault}

/-! ## 1. Stages -/

section Stages

theorem buildClient_ne {provider : Option String} : buildClient env provider embeddings ≠ .error (.broken (.client fault)) := by
  unfold buildClient
  split
  · exact fun h => nomatch h
  · split
    · exact fun h => nomatch h
    · split <;> exact fun h => nomatch h

theorem stopFor_eq_broken {fault' : ClientFault} (h : stopFor fault' = .broken (.client fault)) :
    fault' = fault ∧ fault.isForeseen = false := by
  unfold stopFor at h
  split at h
  · cases h
  · next hforeseen =>
      cases h
      exact ⟨rfl, Bool.eq_false_iff.mpr hforeseen⟩

/-- A source is loaded or indexed, and only faults that are not foreseen break that off. -/
theorem buildIndex_broken (h : (buildIndex a source c₀ j).1 = .error (.broken (.client fault))) :
    fault.isForeseen = false ∧ ((c₀.load a.outside a.files source (some source) j).1.1 = .error fault ∨
      (c₀.index a.outside a.files source j).1.1 = .error fault) := by
  unfold buildIndex at h
  split at h
  · cases h
  · split at h
    · generalize hrun : c₀.load a.outside a.files source (some source) j = r at h ⊢
      obtain ⟨⟨result, c⟩, j'⟩ := r
      simp only [Session.bind_run, hrun] at h
      cases result with
      | ok report => cases h
      | error fault' =>
          obtain ⟨rfl, hforeseen⟩ := stopFor_eq_broken (Except.error.inj h)
          exact ⟨hforeseen, Or.inl rfl⟩
    · generalize hrun : c₀.index a.outside a.files source j = r at h ⊢
      obtain ⟨⟨result, c⟩, j'⟩ := r
      simp only [Session.bind_run, hrun] at h
      cases result with
      | ok report => cases h
      | error fault' =>
          obtain ⟨rfl, hforeseen⟩ := stopFor_eq_broken (Except.error.inj h)
          exact ⟨hforeseen, Or.inr rfl⟩

/-- A fault of loading comes from the file to which the source leads. -/
theorem buildIndex_load {e : LoadFault} (h : (buildIndex a source c₀ j).1 = .error (.broken (.client (.load e)))) :
    ∃ file, a.files.resolve source = .ok file ∧ a.files.load file = .error e := by
  rcases (buildIndex_broken h).2 with hload | hindex
  · rcases Client.load_error hload with ⟨_, h⟩ | ⟨_, h⟩ | ⟨file, _, hresolve, hfile, h⟩
    · cases h
    · cases h
    · cases h
      exact ⟨file, hresolve, hfile⟩
  · rcases Client.index_error hindex with ⟨_, h⟩ | ⟨_, h⟩ <;> cases h

/-- How a command ends with what has become of it. -/
def endingOf (a : Setting) : Except Stop Ending → Ending
  | .ok ending => ending
  | .error s => s.ending a

theorem fault_ending (s : Stop) : (s.ending a).fault = some (.client fault) ↔ s = .broken (.client fault) := by
  cases s with
  | reported message => exact ⟨(fun h => nomatch h), fun h => nomatch h⟩
  | broken fault => exact ⟨fun h => congrArg _ (Option.some.inj h), fun h => congrArg _ (Stop.broken.inj h)⟩

/-- The ending of a command that is not refused at once. -/
theorem run_eq (hi : i.command ≠ .serve) :
    (i.run a env input j).1 = endingOf a
      (buildClient env i.provider i.command.embeddings >>= fun c₀ => (i.command.run a input c₀ j).1) := by
  unfold Invocation.run
  obtain ⟨provider, command⟩ := i
  cases command with
  | serve => exact absurd rfl hi
  | stats | search | ask | dump | shell =>
      dsimp only
      generalize buildClient env provider _ = client
      cases client with
      | error s => rfl
      | ok c₀ =>
          show ((run a input c₀ _ >>= _) j).1 = endingOf a (run a input c₀ _ j).1
          rw [Session.bind_run]
          generalize (run a input c₀ _ j).1 = result
          cases result <;> rfl

theorem run_of_client (hi : i.command ≠ .serve)
    (hclient : buildClient env i.provider i.command.embeddings = .ok c₀) :
    (i.run a env input j).1 = endingOf a (i.command.run a input c₀ j).1 := by
  rw [run_eq hi, hclient]
  rfl

/-- A fault of a client breaks a command off only while it runs with its client. -/
theorem fault_run_iff (hi : i.command ≠ .serve) :
    (i.run a env input j).1.fault = some (.client fault) ↔
      ∃ c₀, buildClient env i.provider i.command.embeddings = .ok c₀ ∧
        (endingOf a (i.command.run a input c₀ j).1).fault = some (.client fault) := by
  constructor
  · intro hfault
    cases hclient : buildClient env i.provider i.command.embeddings with
    | error s =>
        rw [run_eq hi, hclient] at hfault
        have hs : s = .broken (.client fault) := (fault_ending s).mp hfault
        exact absurd (hs ▸ hclient) buildClient_ne
    | ok c₀ =>
        rw [run_of_client hi hclient] at hfault
        exact ⟨c₀, rfl, hfault⟩
  · rintro ⟨c₀, hclient, hfault⟩
    rwa [run_of_client hi hclient]

end Stages

/-! ## 2. Commands with an index -/

section Commands

theorem runSearch_eq {query : String} {format : Format} {report : IndexReport}
    (hindex : buildIndex a source c₀ j = (.ok (report, c), j')) :
    (runSearch a source query limit format c₀ j).1 =
      match (c.search a.outside a.files (some query) source limit j').1 with
      | .error (.retrieval q e) => .error (.reported (ClientFault.retrieval q e).message)
      | .error fault => .error (.broken (.client fault))
      | .ok results =>
        match resultsText a format c.hybrid.name results with
        | .ok s => .ok (.printing a (s ++ "\n"))
        | .error e => .error (.broken (.score e)) := by
  unfold runSearch
  simp only [Session.bind_run, hindex]
  cases hsearch : c.search a.outside a.files (some query) source limit j' with
  | mk result j'' =>
      cases result with
      | error fault => cases fault <;> rfl
      | ok results =>
          dsimp only
          cases resultsText a format c.hybrid.name results <;> rfl

theorem runSearch_of_stop {query : String} {format : Format} {s : Stop}
    (hindex : buildIndex a source c₀ j = (.error s, j')) :
    (runSearch a source query limit format c₀ j).1 = .error s := by
  unfold runSearch
  simp only [Session.bind_run, hindex]
  rfl

theorem runAsk_eq {question : String} {report : IndexReport} (hvalid : c₀.config.validate = .ok ())
    (hindex : buildIndex a source c₀ j = (.ok (report, c), j')) :
    (runAsk a source question limit c₀ j).1 =
      match (c.ask a.outside a.files (some question) source limit j').1 with
      | .ok (answer, _) => .ok (.printing a (answer ++ "\n"))
      | .error (.answer (.refused m)) => .error (.reported m)
      | .error fault => .error (.broken (.client fault)) := by
  unfold runAsk
  simp only [hvalid, Session.bind_run, hindex]
  cases hask : c.ask a.outside a.files (some question) source limit j' with
  | mk reply j'' =>
      cases reply with
      | ok answer => rfl
      | error fault =>
          cases fault with
          | answer e => cases e <;> rfl
          | _ => rfl

theorem runAsk_of_invalid {question : String} {e : ConfigError} (hvalid : c₀.config.validate = .error e) :
    (runAsk a source question limit c₀ j).1 = .error (.reported e.message) := by
  unfold runAsk
  rw [hvalid]
  rfl

theorem runAsk_of_stop {question : String} {s : Stop} (hvalid : c₀.config.validate = .ok ())
    (hindex : buildIndex a source c₀ j = (.error s, j')) :
    (runAsk a source question limit c₀ j).1 = .error s := by
  unfold runAsk
  simp only [hvalid, Session.bind_run, hindex]
  rfl

/-- A session begins with the index of its source. -/
theorem openShell_of_index {report : IndexReport} (hindex : buildIndex a source c₀ j = (.ok (report, c), j')) :
    ∃ opening, openShell a source c₀ j = (.ok (opening, { client := c, source := source }), j') := by
  unfold openShell
  simp only [Session.bind_run, hindex]
  exact ⟨_, rfl⟩

theorem openShell_of_stop {s : Stop} (hindex : buildIndex a source c₀ j = (.error s, j')) :
    openShell a source c₀ j = (.error s, j') := by
  unfold openShell
  simp only [Session.bind_run, hindex]
  rfl

theorem runShell_eq {opening : String} {s : Shell}
    (hopen : openShell a source c₀ j = (.ok (opening, s), j')) :
    (runShell a source input c₀ j).1 =
      .ok { (Ending.printing a (opening ++ (Shell.talk a (Shell.inputLines input) s j').1.1)) with
        code := if (Shell.talk a (Shell.inputLines input) s j').1.2.isSome then 1 else 0,
        fault := (Shell.talk a (Shell.inputLines input) s j').1.2.map .client } := by
  unfold runShell
  simp only [Session.bind_run, hopen]
  rfl

theorem runShell_of_stop {s : Stop} (hopen : openShell a source c₀ j = (.error s, j')) :
    (runShell a source input c₀ j).1 = .error s := by
  unfold runShell
  simp only [Session.bind_run, hopen]
  rfl

end Commands

/-! ## 3. What breaks a command off -/

section Faults

/-- A command that goes on with its index is broken off while the source is indexed, or by what it does then. -/
theorem fault_iff_of_stages {result : Except Stop Ending} {P : IndexReport → Client → Journal → Prop}
    (hstop : ∀ s j', buildIndex a source c₀ j = (.error s, j') → result = .error s)
    (hindex : ∀ report c j', buildIndex a source c₀ j = (.ok (report, c), j') →
      ((endingOf a result).fault = some (.client fault) ↔ P report c j')) :
    (endingOf a result).fault = some (.client fault) ↔
      (buildIndex a source c₀ j).1 = .error (.broken (.client fault)) ∨
        ∃ report c j', buildIndex a source c₀ j = (.ok (report, c), j') ∧ P report c j' := by
  cases hbuild : buildIndex a source c₀ j with
  | mk built j' =>
      cases built with
      | error s =>
          rw [hstop s j' hbuild]
          refine (fault_ending s).trans ⟨fun h => Or.inl (congrArg Except.error h), ?_⟩
          rintro (h | ⟨_, _, _, h, -⟩)
          · exact Except.error.inj h
          · cases h
      | ok p =>
          refine (hindex p.1 p.2 j' hbuild).trans ⟨fun h => Or.inr ⟨p.1, p.2, j', rfl, h⟩, ?_⟩
          rintro (h | ⟨_, _, _, h, hP⟩)
          · cases h
          · cases h
            exact hP

theorem fault_broken_iff {α : Type} (P : ClientFault → Prop) {fault' : ClientFault} (hP : P fault') :
    ((Stop.broken (.client fault')).ending a).fault = some (.client fault) ↔
      (Except.error fault' : Except ClientFault α) = .error fault ∧ P fault := by
  constructor
  · rintro ⟨⟩
    exact ⟨rfl, hP⟩
  · rintro ⟨⟨⟩, -⟩
    rfl

/-- A search that fails breaks the command off, unless it is the ranking that fails. -/
theorem fault_runSearch_iff {query : String} {format : Format} :
    (endingOf a (runSearch a source query limit format c₀ j).1).fault = some (.client fault) ↔
      (buildIndex a source c₀ j).1 = .error (.broken (.client fault)) ∨
        ∃ report c j', buildIndex a source c₀ j = (.ok (report, c), j') ∧
          (c.search a.outside a.files (some query) source limit j').1 = .error fault ∧ ∀ q e, fault ≠ .retrieval q e := by
  refine fault_iff_of_stages (fun s j' h => runSearch_of_stop h) fun report c j' hindex => ?_
  rw [runSearch_eq hindex]
  cases (c.search a.outside a.files (some query) source limit j').1 with
  | error fault' =>
      cases fault' with
      | retrieval q e =>
          refine ⟨(fun h => nomatch h), fun ⟨h, hne⟩ => ?_⟩
          exact absurd (Except.error.inj h).symm (hne q e)
      | circle | build | load | notBuilt | answer =>
          exact fault_broken_iff (∀ q e, · ≠ .retrieval q e) fun _ _ => ClientFault.noConfusion
  | ok results =>
      dsimp only
      cases resultsText a format c.hybrid.name results <;> exact ⟨(fun h => nomatch h), fun h => nomatch h.1⟩

/-- A question that fails breaks the command off, unless the provider refuses it. -/
theorem fault_runAsk_iff {question : String} :
    (endingOf a (runAsk a source question limit c₀ j).1).fault = some (.client fault) ↔
      c₀.config.validate = .ok () ∧ ((buildIndex a source c₀ j).1 = .error (.broken (.client fault)) ∨
        ∃ report c j', buildIndex a source c₀ j = (.ok (report, c), j') ∧
          (c.ask a.outside a.files (some question) source limit j').1 = .error fault ∧ ∀ m, fault ≠ .answer (.refused m)) := by
  cases hvalid : c₀.config.validate with
  | error e =>
      rw [runAsk_of_invalid hvalid]
      exact ⟨(fun h => nomatch h), fun h => nomatch h.1⟩
  | ok u =>
  rw [and_iff_right rfl]
  refine fault_iff_of_stages (fun s j' h => runAsk_of_stop hvalid h) fun report c j' hindex => ?_
  rw [runAsk_eq hvalid hindex]
  cases (c.ask a.outside a.files (some question) source limit j').1 with
  | ok answer => exact ⟨(fun h => nomatch h), fun h => nomatch h.1⟩
  | error fault' =>
      cases fault' with
      | answer e =>
          cases e with
          | refused m =>
              refine ⟨(fun h => nomatch h), fun ⟨h, hne⟩ => ?_⟩
              exact absurd (Except.error.inj h).symm (hne m)
          | failed | notInstalled | unknownProvider | unreadable | cannotPause =>
              exact fault_broken_iff (∀ m, · ≠ .answer (.refused m)) fun _ => nofun
      | circle | build | load | notBuilt | retrieval =>
          exact fault_broken_iff (∀ m, · ≠ .answer (.refused m)) fun _ => ClientFault.noConfusion

/-- A session that is broken off breaks the command off. -/
theorem fault_runShell_iff :
    (endingOf a (runShell a source input c₀ j).1).fault = some (.client fault) ↔
      (buildIndex a source c₀ j).1 = .error (.broken (.client fault)) ∨
        ∃ report c j', buildIndex a source c₀ j = (.ok (report, c), j') ∧
          (Shell.talk a (Shell.inputLines input) { client := c, source := source } j').1.2 = some fault := by
  refine fault_iff_of_stages (fun s j' h => runShell_of_stop (openShell_of_stop h)) fun report c j' hindex => ?_
  obtain ⟨opening, hopen⟩ := openShell_of_index hindex
  rw [runShell_eq hopen]
  refine Option.map_eq_some_iff.trans ⟨?_, fun h => ⟨fault, h, rfl⟩⟩
  rintro ⟨fault', htalk, h⟩
  cases h
  exact htalk

end Faults

end FragmentSearch.Command
