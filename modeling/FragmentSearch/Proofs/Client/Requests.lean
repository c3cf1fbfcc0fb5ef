import FragmentSearch.Client.Query
import FragmentSearch.Proofs.Client.Faults
import FragmentSearch.Proofs.Table.Entries

/-!
# One request to a client

What a request builds -- the root, the index and the report on it -- is decided by the settings, the files and the
outside alone (`Operation.built`), never by what the client holds. If something is built, the client registers and
reports it, and otherwise the request fails and the client stays as it is (`step_cases`). A query builds nothing. It
sees no more of the registries than the entries of its own root (`reply_congr`), and says that there is no index just
when there is none (`reply_of_not_found`, `reply_ne_notBuilt`).
-/

namespace FragmentSearch

/-- The report counts what is in the index. -/
structure IndexReport.Describes (r : IndexReport) (ix : Index) : Prop where
  total : r.total = ix.size
  ofKind : r.ofKind = ix.kindCounts
  embedded : r.embedded = ix.embeddedCount

theorem IndexReport.describes_ofRun (tally : Tally) (usesEmbeddings : Bool) (root : String) (run : Index.EmbeddingRun) :
    (IndexReport.ofRun tally usesEmbeddings root run).Describes run.index := ⟨rfl, rfl, rfl⟩

/-- The report of the pipeline describes its index. -/
theorem Pipeline.describes_run {o : Outside} {t : FileTree} {p : Pipeline} {j : Journal} {ix : Index} {report : IndexReport}
    (h : (Pipeline.run o t p j).1.1 = .ok (ix, report)) : report.Describes ix := by
  unfold Pipeline.run at h
  by_cases hw : p.config.maxWorkers ≤ 0
  · rw [if_pos hw] at h
    cases h
  · rw [if_neg hw] at h
    cases hr : (p.index (t.scan p.config p.root) ((t.scan p.config p.root).map (t.outcome p.root))).withVectors o p.config
        p.embedder j with
    | mk result j' =>
        simp only [Session.bind_run, hr] at h
        cases result with
        | error e => cases h
        | ok run =>
            cases h
            exact IndexReport.describes_ofRun _ _ _ _

namespace Client

/-! ## 1. What an operation builds -/

/-- The root that a request is about. -/
def Request.root (t : FileTree) : Request → Except ClientFault Path
  | .load file path =>
    match rootOf t file with
    | .error e => .error e
    | .ok file => rootForFile t file path
  | .index p | .search _ p _ | .retrieve _ p _ | .ask _ p _ | .statistics p | .size p => rootOf t p

/-- The index that a client has for a request, or why there is none. -/
def Request.found (t : FileTree) (c : Client) (r : Request) : Except ClientFault Index :=
  match r.root t with
  | .error e => .error e
  | .ok root =>
    match Table.get? root c.indexes with
    | some ix => .ok ix
    | none => .error (.notBuilt root)

/-- Does the request want an index to be built? -/
def Request.builds : Request → Bool
  | .index _ | .load _ _ => true
  | _ => false

/-- An index with its root and the report on it. -/
structure Entry where
  root : Path
  index : Index
  report : IndexReport

/-- A request with what it meets: the outside, the files, and the journal of what has been requested before. -/
structure Operation where
  outside : Outside
  files : FileTree
  journal : Journal
  request : Request

namespace Operation

/-- The reply of a client. -/
def reply (op : Operation) (c : Client) : Except ClientFault Reply :=
  (c.handle op.outside op.files op.request op.journal).1.1

/-- The client that is left. -/
def after (op : Operation) (c : Client) : Client := (c.handle op.outside op.files op.request op.journal).1.2

/-- What is built, if all goes well. -/
def built (op : Operation) (c : Client) : Option Entry :=
  match op.request with
  | .index directory => do
    let root ← (rootOf op.files directory).toOption
    let p : Pipeline := { root := root, config := c.config, embedder := c.embedder }
    let (ix, report) ← (p.run op.outside op.files op.journal).1.1.toOption
    return ⟨root, ix, report⟩
  | .load file path => do
    let file ← (rootOf op.files file).toOption
    let root ← (rootForFile op.files file path).toOption
    let fs ← (op.files.load file).toOption
    let ix := Index.ofFragments c.config.resolvesNames fs
    let run ← (ix.withVectors op.outside c.config c.embedder op.journal).1.toOption
    return ⟨root, run.index, .ofRun {} c.config.usesEmbeddings root.text run⟩
  | _ => none

end Operation

/-! ## 2. One operation -/

section Step

variable {op : Operation} {c : Client}

theorem built_of_query (h : op.request.builds = false) : op.built c = none := by
  obtain ⟨o, t, j, r⟩ := op
  cases r with
  | index | load => cases h
  | search | retrieve | ask | statistics | size => rfl

/-- A query leaves the client as it is. -/
theorem after_of_query (h : op.request.builds = false) : op.after c = c := by
  obtain ⟨o, t, j, r⟩ := op
  cases r with
  | index | load => cases h
  | search | retrieve | ask | statistics | size => rfl

/-- What is built is registered and reported. -/
structure Registers (op : Operation) (c : Client) (e : Entry) : Prop where
  built : op.built c = some e
  root : op.request.root op.files = .ok e.root
  described : e.report.Describes e.index
  reply : op.reply c = .ok (.report e.report)
  after : op.after c = c.register e.root e.index e.report

/-- Nothing is built, and the client stays as it is. -/
structure Fails (op : Operation) (c : Client) : Prop where
  built : op.built c = none
  reply : ∃ fault, op.reply c = .error fault
  after : op.after c = c

theorem index_cases (o : Outside) (t : FileTree) (j : Journal) (directory : Path) (c : Client) :
    (∃ e, Registers ⟨o, t, j, .index directory⟩ c e) ∨ Fails ⟨o, t, j, .index directory⟩ c := by
  have hreply : Operation.reply ⟨o, t, j, .index directory⟩ c = (c.index o t directory j).1.1.map .report := rfl
  have hafter : Operation.after ⟨o, t, j, .index directory⟩ c = (c.index o t directory j).1.2 := rfl
  unfold index at hreply hafter
  cases hroot : rootOf t directory with
  | error e =>
      rw [hroot] at hreply hafter
      exact Or.inr ⟨by simp [Operation.built, hroot, Except.toOption], ⟨_, hreply⟩, hafter⟩
  | ok root =>
      rw [hroot] at hreply hafter
      cases hrun : Pipeline.run o t { root := root, config := c.config, embedder := c.embedder } j with
      | mk result j' =>
          obtain ⟨result, _⟩ := result
          simp only [Session.bind_run, hrun] at hreply hafter
          cases result with
          | error e => exact Or.inr ⟨by simp [Operation.built, hroot, hrun, Except.toOption], ⟨_, hreply⟩, hafter⟩
          | ok p =>
              have hdescribed : p.2.Describes p.1 := Pipeline.describes_run (congrArg (·.1.1) hrun)
              exact Or.inl ⟨⟨root, p.1, p.2⟩, by simp [Operation.built, hroot, hrun, Except.toOption], hroot, hdescribed,
                hreply, hafter⟩

theorem load_cases (o : Outside) (t : FileTree) (j : Journal) (file : Path) (path : Option Path) (c : Client) :
    (∃ e, Registers ⟨o, t, j, .load file path⟩ c e) ∨ Fails ⟨o, t, j, .load file path⟩ c := by
  have hreply : Operation.reply ⟨o, t, j, .load file path⟩ c = (c.load o t file path j).1.1.map .report := rfl
  have hafter : Operation.after ⟨o, t, j, .load file path⟩ c = (c.load o t file path j).1.2 := rfl
  unfold load at hreply hafter
  cases hfile : rootOf t file with
  | error e =>
      rw [hfile] at hreply hafter
      exact Or.inr ⟨by simp [Operation.built, hfile, Except.toOption], ⟨_, hreply⟩, hafter⟩
  | ok file' =>
      rw [hfile] at hreply hafter
      cases hroot : rootForFile t file' path with
      | error e =>
          simp only [hroot] at hreply hafter
          exact Or.inr ⟨by simp [Operation.built, hfile, hroot, Except.toOption], ⟨_, hreply⟩, hafter⟩
      | ok root =>
          simp only [hroot, indexFile] at hreply hafter
          have hrequest : Request.root t (.load file path) = .ok root := by
            rw [Request.root, hfile]
            exact hroot
          cases hload : t.load file' with
          | error e =>
              rw [hload] at hreply hafter
              exact Or.inr ⟨by simp [Operation.built, hfile, hroot, hload, Except.toOption], ⟨_, hreply⟩, hafter⟩
          | ok fs =>
              rw [hload] at hreply hafter
              cases hrun : (Index.ofFragments c.config.resolvesNames fs).withVectors o c.config c.embedder j with
              | mk result j' =>
                  simp only [Session.bind_run, hrun] at hreply hafter
                  cases result with
                  | error e =>
                      exact Or.inr ⟨by simp [Operation.built, hfile, hroot, hload, hrun, Except.toOption], ⟨_, hreply⟩, hafter⟩
                  | ok run =>
                      exact Or.inl ⟨⟨root, run.index, .ofRun {} c.config.usesEmbeddings root.text run⟩,
                        by simp [Operation.built, hfile, hroot, hload, hrun, Except.toOption], hrequest,
                        IndexReport.describes_ofRun _ _ _ _, hreply, hafter⟩

/-- **One step**: what is built is registered and reported, or the request fails and the client stays as it is. -/
theorem step_cases (h : op.request.builds = true) (c : Client) : (∃ e, Registers op c e) ∨ Fails op c := by
  obtain ⟨o, t, j, r⟩ := op
  cases r with
  | index directory => exact index_cases o t j directory c
  | load file path => exact load_cases o t j file path c
  | search | retrieve | ask | statistics | size => cases h

end Step

/-! ## 3. What a query sees -/

section Congruence

variable (c : Client) {ixs ixs' : Table Path Index} (reports reports' : Table Path IndexReport) {t : FileTree}
  {path root : Path}

theorem indexOf_congr (hroot : rootOf t path = .ok root) (hix : Table.get? root ixs = Table.get? root ixs') :
    indexOf t path { c with indexes := ixs, reports := reports } =
      indexOf t path { c with indexes := ixs', reports := reports' } := by
  unfold indexOf
  rw [hroot]
  dsimp only
  rw [hix]

theorem rank_congr (hroot : rootOf t path = .ok root) (hix : Table.get? root ixs = Table.get? root ixs') (o : Outside)
    (query : Option String) (limit : Option Int) :
    rank o t query path limit { c with indexes := ixs, reports := reports } =
      rank o t query path limit { c with indexes := ixs', reports := reports' } := by
  unfold rank
  rw [indexOf_congr c reports reports' hroot hix]

theorem retrieve_congr (hroot : rootOf t path = .ok root) (hix : Table.get? root ixs = Table.get? root ixs') (o : Outside)
    (query : Option String) (limit : Option Int) :
    retrieve o t query path limit { c with indexes := ixs, reports := reports } =
      retrieve o t query path limit { c with indexes := ixs', reports := reports' } := by
  unfold retrieve
  rw [rank_congr c reports reports' hroot hix]

theorem statistics_congr (hroot : rootOf t path = .ok root) (hix : Table.get? root ixs = Table.get? root ixs')
    (hreport : Table.get? root reports = Table.get? root reports') :
    statistics t path { c with indexes := ixs, reports := reports } =
      statistics t path { c with indexes := ixs', reports := reports' } := by
  unfold statistics
  rw [hroot]
  dsimp only
  rw [hix, hreport]

/-- **A query sees no more of the registries than the entries of its own root.** -/
theorem reply_congr {op : Operation} (hquery : op.request.builds = false) (hroot : op.request.root op.files = .ok root)
    (hix : Table.get? root ixs = Table.get? root ixs') (hreport : Table.get? root reports = Table.get? root reports') :
    op.reply { c with indexes := ixs, reports := reports } = op.reply { c with indexes := ixs', reports := reports' } := by
  obtain ⟨o, t, j, r⟩ := op
  cases r with
  | index | load => cases hquery
  | search query path limit =>
      have h := rank_congr c reports reports' hroot hix o query limit
      exact congrArg (fun s : Session _ => ((s j).1.map (SearchResult.ofRanking c.hybrid.name)).map Reply.results) h
  | retrieve query path limit =>
      have h := retrieve_congr c reports reports' hroot hix o query limit
      exact congrArg (fun s : Session _ => (s j).1.map Reply.fragments) h
  | ask question path limit =>
      have h : ask o t question path limit { c with indexes := ixs, reports := reports } =
          ask o t question path limit { c with indexes := ixs', reports := reports' } := by
        unfold ask
        rw [retrieve_congr c reports reports' hroot hix]
      exact congrArg (fun s : Session _ => (s j).1.map fun a => Reply.answer a.1 a.2) h
  | statistics path => exact congrArg (Except.map Reply.statistics) (statistics_congr c reports reports' hroot hix hreport)
  | size path => exact congrArg (Except.map fun ix => Reply.size ix.size) (indexOf_congr c reports reports' hroot hix)

end Congruence

section Queries

variable {c : Client} {t : FileTree} {path root : Path}

/-- The root of a query is not found only where links go round in a circle. -/
theorem circle_of_root {r : Request} {fault : ClientFault} (hquery : r.builds = false) (h : r.root t = .error fault) :
    ∃ e, fault = .circle e := by
  have hpath : ∀ p : Path, rootOf t p = .error fault → ∃ e, fault = .circle e := by
    intro p hp
    unfold rootOf at hp
    split at hp <;> cases hp
    exact ⟨_, rfl⟩
  cases r with
  | index | load => cases hquery
  | search _ p | retrieve _ p | ask _ p | statistics p | size p => exact hpath p h

section NotFound

variable {fault : ClientFault} (h : indexOf t path c = .error fault)
include h

theorem rank_of_not_found (o : Outside) (query : Option String) (limit : Option Int) :
    rank o t query path limit c = pure (.error fault) := by
  unfold rank
  rw [h]

theorem retrieve_of_not_found (o : Outside) (query : Option String) (limit : Option Int) :
    retrieve o t query path limit c = pure (.error fault) := by
  unfold retrieve
  rw [rank_of_not_found h]
  rfl

theorem ask_of_not_found (o : Outside) (question : Option String) (limit : Option Int) :
    ask o t question path limit c = pure (.error fault) := by
  unfold ask
  rw [retrieve_of_not_found h]
  rfl

theorem statistics_of_not_found : statistics t path c = .error fault := by
  unfold indexOf at h
  unfold statistics
  cases hroot : rootOf t path with
  | error e =>
      simp only [hroot] at h ⊢
      exact congrArg _ (Except.error.inj h)
  | ok root =>
      simp only [hroot] at h ⊢
      cases hix : Table.get? root c.indexes with
      | none =>
          simp only [hix] at h ⊢
          exact congrArg _ (Except.error.inj h)
      | some ix =>
          simp only [hix] at h
          cases h

end NotFound

/-- **Where no index is found, every query gives the reason.** -/
theorem reply_of_not_found {op : Operation} {fault : ClientFault} (hquery : op.request.builds = false)
    (h : op.request.found op.files c = .error fault) : op.reply c = .error fault := by
  obtain ⟨o, t, j, r⟩ := op
  cases r with
  | index | load => cases hquery
  | search query path limit =>
      show (((rank o t query path limit c j).1.map (SearchResult.ofRanking c.hybrid.name)).map Reply.results) = _
      rw [rank_of_not_found h]
      rfl
  | retrieve query path limit =>
      show ((retrieve o t query path limit c j).1.map Reply.fragments) = _
      rw [retrieve_of_not_found h]
      rfl
  | ask question path limit =>
      show ((ask o t question path limit c j).1.map fun a => Reply.answer a.1 a.2) = _
      rw [ask_of_not_found h]
      rfl
  | statistics path =>
      show (statistics t path c).map Reply.statistics = _
      rw [statistics_of_not_found h]
      rfl
  | size path =>
      have hix : indexOf t path c = .error fault := h
      show ((indexOf t path c).map fun ix => Reply.size ix.size) = _
      rw [hix]
      rfl

/-- A ranking in an index that is there may fail, but not for want of an index. -/
theorem rank_ne_notBuilt {ix : Index} (hix : indexOf t path c = .ok ix) (o : Outside) (query : Option String)
    (limit : Option Int) (j : Journal) (r : Path) : (rank o t query path limit c j).1 ≠ .error (.notBuilt r) := by
  intro h
  rcases rank_error h with hnone | ⟨_, _, h⟩
  · cases hix.symm.trans hnone
  · cases h

theorem ask_ne_notBuilt {ix : Index} (hix : indexOf t path c = .ok ix) (o : Outside) (question : Option String)
    (limit : Option Int) (j : Journal) (r : Path) : (ask o t question path limit c j).1 ≠ .error (.notBuilt r) :=
  fun h => rank_ne_notBuilt hix o question _ j r ((ask_error_iff (fun _ => ClientFault.noConfusion)).mp h)

/-- **Where an index and the report on it are found, no query says that there is none.** -/
theorem reply_ne_notBuilt {op : Operation} (hquery : op.request.builds = false) {ix : Index} {report : IndexReport}
    (hroot : op.request.root op.files = .ok root) (hix : Table.get? root c.indexes = some ix)
    (hreport : Table.get? root c.reports = some report) (r : Path) : op.reply c ≠ .error (.notBuilt r) := by
  obtain ⟨o, t, j, request⟩ := op
  have hindexOf : ∀ path : Path, rootOf t path = .ok root → indexOf t path c = .ok ix := by
    intro path hpath
    unfold indexOf
    rw [hpath]
    dsimp only
    rw [hix]
  cases request with
  | index | load => cases hquery
  | search query path limit =>
      exact mt map_eq_error_iff.mp (mt map_eq_error_iff.mp (rank_ne_notBuilt (hindexOf path hroot) o query limit j r))
  | retrieve query path limit =>
      exact mt map_eq_error_iff.mp (mt map_eq_error_iff.mp (rank_ne_notBuilt (hindexOf path hroot) o query limit j r))
  | ask question path limit => exact mt map_eq_error_iff.mp (ask_ne_notBuilt (hindexOf path hroot) o question limit j r)
  | statistics path =>
      have hpath : rootOf t path = .ok root := hroot
      refine mt map_eq_error_iff.mp ?_
      unfold statistics
      simp only [hpath, hix, hreport]
      intro h
      cases h
  | size path =>
      refine mt map_eq_error_iff.mp ?_
      rw [hindexOf path hroot]
      intro h
      cases h

end Queries

end Client

end FragmentSearch
