import FragmentSearch.Client.Query
import FragmentSearch.Proofs.Order.Traversal

/-!
# The faults that requests meet

Each request of a client can fail in a few ways only, and each of them is traced to what has failed.

* `Client.index_error`, `Client.load_error` -- links in a circle and the building of an index, and for a file its loading;
* `Client.indexOf_error` -- links in a circle, and an index that is not there;
* `Client.rank_error`, `Client.search_error_iff`, `Client.ask_error_iff` -- the index, its ranking, and the answer.
-/

namespace FragmentSearch.Client

variable {o : Outside} {t : FileTree} {query : Option String} {path : Path} {limit : Option Int} {c : Client}
  {j : Journal} {fault : ClientFault}

/-! ## 1. Queries -/

theorem rootOf_error (h : rootOf t path = .error fault) : ∃ e, fault = .circle e := by
  unfold rootOf at h
  split at h <;> cases h
  exact ⟨_, rfl⟩

theorem indexOf_error (h : c.indexOf t path = .error fault) : (∃ e, fault = .circle e) ∨ ∃ root, fault = .notBuilt root := by
  unfold indexOf at h
  split at h
  · next hroot =>
      cases h
      exact Or.inl (rootOf_error hroot)
  · split at h <;> cases h
    exact Or.inr ⟨_, rfl⟩

theorem rank_error (h : (c.rank o t query path limit j).1 = .error fault) :
    c.indexOf t path = .error fault ∨ ∃ q e, fault = .retrieval q e := by
  unfold rank at h
  cases hix : c.indexOf t path with
  | error fault' =>
      rw [hix] at h
      exact Or.inl (congrArg Except.error (Except.error.inj h))
  | ok ix =>
      rw [hix] at h
      refine Or.inr ?_
      cases hlimit : limit.or c.config.maxResults with
      | none =>
          rw [hlimit] at h
          cases h
          exact ⟨_, _, rfl⟩
      | some n =>
          rw [hlimit] at h
          cases query with
          | none =>
              cases h
              exact ⟨_, _, rfl⟩
          | some q =>
              dsimp only at h
              generalize hrun : c.hybrid.rank (.of o.library) o ix q n j = r at h
              obtain ⟨result, j'⟩ := r
              simp only [Session.bind_run, hrun] at h
              cases result <;> cases h
              exact ⟨_, _, rfl⟩

/-- A search fails as its ranking does. -/
theorem search_error_iff :
    (c.search o t query path limit j).1 = .error fault ↔ (c.rank o t query path limit j).1 = .error fault :=
  map_eq_error_iff (f := SearchResult.ofRanking c.hybrid.name)

/-- A question fails as the ranking of its context does, unless it is the answer that fails. -/
theorem ask_error_iff (hfault : ∀ e, fault ≠ .answer e) :
    (c.ask o t query path limit j).1 = .error fault ↔
      (c.rank o t query path (limit.or c.config.contextResults) j).1 = .error fault := by
  have hretrieve : (c.retrieve o t query path (limit.or c.config.contextResults) j).1 = .error fault ↔
      (c.rank o t query path (limit.or c.config.contextResults) j).1 = .error fault :=
    map_eq_error_iff (f := Hybrid.fragmentsOf)
  rw [← hretrieve]
  unfold ask
  cases hrun : c.retrieve o t query path (limit.or c.config.contextResults) j with
  | mk result j' =>
      simp only [Session.bind_run, hrun]
      cases result with
      | error fault' =>
          constructor
          · exact fun h => congrArg Except.error (Except.error.inj h)
          · exact fun h => congrArg Except.error (Except.error.inj h)
      | ok context =>
          cases hanswer : c.answerer.answer o (query.getD "") context j' with
          | mk reply j'' =>
              simp only [Session.bind_run, hanswer]
              cases reply with
              | ok s => exact ⟨(fun h => nomatch h), fun h => nomatch h⟩
              | error e => exact ⟨fun h => absurd (Except.error.inj h).symm (hfault e), fun h => nomatch h⟩

/-! ## 2. Building an index -/

/-- The source files of a directory are not loaded. -/
theorem index_error (h : (c.index o t path j).1.1 = .error fault) : (∃ e, fault = .circle e) ∨ ∃ e, fault = .build e := by
  unfold index at h
  cases hroot : rootOf t path with
  | error fault' =>
      rw [hroot] at h
      cases h
      exact Or.inl (rootOf_error hroot)
  | ok root =>
      rw [hroot] at h
      dsimp only at h
      generalize hrun : Pipeline.run o t { root := root, config := c.config, embedder := c.embedder } j = r at h
      obtain ⟨⟨result, stats⟩, j'⟩ := r
      simp only [Session.bind_run, hrun] at h
      cases result <;> cases h
      exact Or.inr ⟨_, rfl⟩

theorem load_error {root : Option Path} (h : (c.load o t path root j).1.1 = .error fault) :
    (∃ e, fault = .circle e) ∨ (∃ e, fault = .build e) ∨
      ∃ file e, t.resolve path = .ok file ∧ t.load file = .error e ∧ fault = .load e := by
  unfold load at h
  cases hfile : rootOf t path with
  | error fault' =>
      rw [hfile] at h
      cases h
      exact Or.inl (rootOf_error hfile)
  | ok file =>
  cases hroot : rootForFile t file root with
  | error fault' =>
      rw [hfile] at h
      dsimp only at h
      rw [hroot] at h
      cases h
      cases root with
      | none => cases hroot
      | some root => exact Or.inl (rootOf_error hroot)
  | ok root' =>
      rw [hfile] at h
      dsimp only at h
      rw [hroot] at h
      have hresolve : t.resolve path = .ok file := by
        unfold rootOf at hfile
        split at hfile <;> cases hfile
        assumption
      unfold indexFile at h
      cases hload : t.load file with
      | error e =>
          rw [hload] at h
          cases h
          exact Or.inr (Or.inr ⟨file, e, hresolve, hload, rfl⟩)
      | ok fs =>
          rw [hload] at h
          dsimp only at h
          generalize hrun : (Index.ofFragments c.config.resolvesNames fs).withVectors o c.config c.embedder j = r at h
          obtain ⟨result, j'⟩ := r
          simp only [Session.bind_run, hrun] at h
          cases result <;> cases h
          exact Or.inr (Or.inl ⟨_, rfl⟩)

end FragmentSearch.Client
