import FragmentSearch.Proofs.Files.Tree
import FragmentSearch.Proofs.Index.Interruption
import FragmentSearch.Proofs.Indexing.Workers

/-!
# Several runs of one pipeline

A pipeline finds its files anew in every run, builds a new index and asks for its vectors again. Only what it counts
goes on over its runs: the files that were found are counted afresh, those that were parsed and those that failed are
added to the earlier ones.

* `Index.built` -- what is built from some fragments, given the replies; it depends on nothing else of the outside
  (`Index.withVectors_eq`);
* `run_eq` -- one run: its result and the counts after it;
* `afterRuns_eq` -- the pipeline after several runs is as it was but for the counts;
* `reruns_exact` -- so with the same replies every run has the index and the report of the first one, except that the
  report has the counts of all runs together;
* `reruns_unbalanced` -- one file, which the second report says was parsed twice.
-/

namespace FragmentSearch

/-! ## 1. Vectors -/

namespace Index

section Built

variable {resolves : Bool} {fs : List Fragment} {exchange : List (List Fragment × Except ServiceFailure Json)}

/-- What the settings make of some fragments, given the batches that are sent with the replies to them. -/
def built (c : Config) (fs : List Fragment) (exchange : List (List Fragment × Except ServiceFailure Json)) :
    Except BuildFault EmbeddingRun :=
  if c.usesEmbeddings then
    if c.batchSize ≤ 0 then .error .batchSize
    else
      match (after c.resolvesNames fs exchange).broken with
      | some e => .error (.vectors e)
      | none => .ok (after c.resolvesNames fs exchange)
  else .ok { index := ofFragments c.resolvesNames fs }

/-- A phase takes the replies to what it sends. -/
theorem embed_eq_sent (o : Outside) (e : Embedder) (size : Nat) (j : Journal) :
    ((ofFragments resolves fs).embed o e size j).1 = after resolves fs (sent o e size fs j).1 := by
  unfold embed sent pending
  rw [fragments_ofFragments]
  split
  · exact congrArg Prod.fst (embedBatches_eq_foldl _ _ j rfl)
  · rfl

/-- **Of the outside only the replies count.** -/
theorem withVectors_eq (o : Outside) (c : Config) (e : Embedder) (fs : List Fragment) (j : Journal) :
    ((ofFragments c.resolvesNames fs).withVectors o c e j).1 = built c fs (sent o e c.batchSize.toNat fs j).1 := by
  unfold withVectors built
  by_cases huses : c.usesEmbeddings = true
  · by_cases hsize : c.batchSize ≤ 0
    · simp [huses, hsize]
      rfl
    · rw [if_pos huses, if_neg hsize, if_pos huses, if_neg hsize, ← embed_eq_sent o e c.batchSize.toNat j]
      cases hrun : (ofFragments c.resolvesNames fs).embed o e c.batchSize.toNat j with
      | mk run j' =>
          simp only [Session.bind_run, hrun]
          cases run.broken <;> rfl
  · rw [if_neg huses, if_neg huses]
    rfl

theorem isSome_foldl_fault (exchange : List (List Fragment × Except ServiceFailure Json)) (start : Option VectorError) :
    (exchange.foldl (fun broken p => (fault p.1.length p.2).or broken) start).isSome = true ↔
      start.isSome = true ∨ ∃ p ∈ exchange, Breaks p := by
  induction exchange generalizing start with
  | nil => simp
  | cons p exchange ih =>
      rw [List.foldl_cons, ih, Option.isSome_or, isSome_fault, Bool.or_eq_true, ← breaks_iff]
      simp only [List.mem_cons, exists_eq_or_imp]
      tauto

/-- A phase goes on to its end unless a reply ends it. -/
theorem broken_after_iff : (after resolves fs exchange).broken = none ↔ ∀ p ∈ exchange, ¬ Breaks p := by
  have hsome := isSome_foldl_fault exchange none
  rw [after, foldl_take_eq, ← Option.not_isSome_iff_eq_none, hsome]
  simp

/-- When something is built. -/
theorem exists_built_iff {c : Config} : (∃ run, built c fs exchange = .ok run) ↔
    (c.usesEmbeddings = true → 0 < c.batchSize ∧ ∀ p ∈ exchange, ¬ Breaks p) := by
  unfold built
  by_cases huses : c.usesEmbeddings = true
  · by_cases hsize : c.batchSize ≤ 0
    · have hnot : ¬ 0 < c.batchSize := by omega
      simp [huses, hsize, hnot]
    · have hpos : 0 < c.batchSize := by omega
      have hbroken : (after c.resolvesNames fs exchange).broken = none ↔ ∀ p ∈ exchange, ¬ Breaks p := broken_after_iff
      rw [if_pos huses, if_neg hsize, ← hbroken]
      cases (after c.resolvesNames fs exchange).broken <;> simp [huses, hpos]
  · simp [huses]

end Built

end Index

/-! ## 2. One run -/

namespace Pipeline

section OneRun

/-- The files that a run finds. -/
def files (t : FileTree) (p : Pipeline) : List Path := t.scan p.config p.root

/-- How many of them are parsed. -/
def parsedFiles (t : FileTree) (p : Pipeline) : Nat := (p.files t).countP fun f => (t.fragmentsOf p.root f).isOk

/-- How many of them fail. -/
def failedFiles (t : FileTree) (p : Pipeline) : Nat := (p.files t).countP fun f => !(t.fragmentsOf p.root f).isOk

/-- The fragments of those that are parsed, in the order of the files. -/
def fragments (t : FileTree) (p : Pipeline) : List Fragment :=
  (p.files t).flatMap fun f => (t.fragmentsOf p.root f).toOption.getD []

/-- The batches of texts that a run sends, with the replies to them. -/
def replies (o : Outside) (t : FileTree) (p : Pipeline) (j : Journal) :
    List (List Fragment × Except ServiceFailure Json) :=
  (Index.sent o p.embedder p.config.batchSize.toNat (p.fragments t) j).1

/-- The pipeline with other counts. -/
def counting (p : Pipeline) (n : Tally) : Pipeline := { p with tally := n }

/-- The counts after a run. -/
def counted (t : FileTree) (p : Pipeline) (n : Tally) : Tally :=
  ⟨(p.files t).length, n.parsed + p.parsedFiles t, n.failed + p.failedFiles t⟩

variable {o : Outside} {t : FileTree} {p : Pipeline} {j : Journal}

theorem parsedFiles_add_failedFiles (t : FileTree) (p : Pipeline) :
    p.parsedFiles t + p.failedFiles t = (p.files t).length := by
  have hsplit := List.length_eq_countP_add_countP (l := p.files t) fun f => (t.fragmentsOf p.root f).isOk
  unfold parsedFiles failedFiles
  simpa only [Bool.not_eq_true, Bool.decide_eq_false] using hsplit.symm

/-- **One run**: the index and the report are those of the fragments that were found, given the replies, and the files
are added to the counts. -/
theorem run_eq (hworkers : 1 ≤ p.config.maxWorkers) (o : Outside) (t : FileTree) (n : Tally) (j : Journal) :
    ((p.counting n).run o t j).1 =
      ((Index.built p.config (p.fragments t) (p.replies o t j)).map fun run =>
        (run.index, .ofRun (p.counted t n) p.config.usesEmbeddings p.root.text run), p.counting (p.counted t n)) := by
  have hmerge : merge (p.files t) (outcomesOf (t.fragmentsOf p.root) (p.files t)) = p.fragments t := by
    rw [merge_of_perm (List.Perm.refl _), outcomesOf, List.flatMap_map]
    rfl
  have hcounts : ((p.counting n).scanned (p.files t)).parsed (outcomesOf (t.fragmentsOf p.root) (p.files t)) =
      p.counting (p.counted t n) := by
    unfold parsed outcomesOf
    rw [foldl_count, List.countP_map, List.countP_map]
    rfl
  have hbuilt : (((p.counting n).index (p.files t) (outcomesOf (t.fragmentsOf p.root) (p.files t))).withVectors o
      (p.counting n).config (p.counting n).embedder j).1 = Index.built p.config (p.fragments t) (p.replies o t j) := by
    rw [index, hmerge]
    exact Index.withVectors_eq o p.config p.embedder (p.fragments t) j
  obtain ⟨hafter, hresult⟩ :=
    finish_cases o (p.counting n) (p.files t) (outcomesOf (t.fragmentsOf p.root) (p.files t)) j
  rw [hcounts] at hafter
  rw [hbuilt, hcounts] at hresult
  have hrun : (p.counting n).run o t =
      (p.counting n).finish o (p.files t) (outcomesOf (t.fragmentsOf p.root) (p.files t)) :=
    run_eq_finish (p := p.counting n) hworkers t
  rw [hrun]
  refine Prod.ext ?_ hafter
  cases hb : Index.built p.config (p.fragments t) (p.replies o t j) with
  | error e =>
      rw [hb] at hresult
      exact hresult
  | ok run =>
      rw [hb] at hresult
      exact hresult

theorem run_of_no_workers (hworkers : ¬ 1 ≤ p.config.maxWorkers) (o : Outside) (t : FileTree) (n : Tally) (j : Journal) :
    (p.counting n).run o t j = ((.error .workers, p.counting { n with scanned := (p.files t).length }), j) := by
  have hnone : (p.counting n).config.maxWorkers ≤ 0 := by
    show p.config.maxWorkers ≤ 0
    omega
  unfold run
  rw [if_pos hnone]
  rfl

/-- The files may be delivered in any order. -/
theorem run_of_arrivals {arrivals : List Outcome} (hworkers : 1 ≤ p.config.maxWorkers) (n : Tally)
    (h : arrivals.Perm (outcomesOf (t.fragmentsOf p.root) (p.files t))) :
    (p.counting n).run o t = (p.counting n).finish o (p.files t) arrivals :=
  (parses_of_perm (p := p.counting n) hworkers h).run t rfl fun _ _ => rfl

/-- When a run has a report. -/
theorem exists_report_iff : (∃ ix r, (p.run o t j).1.1 = .ok (ix, r)) ↔ 1 ≤ p.config.maxWorkers ∧
    (p.config.usesEmbeddings = true → 0 < p.config.batchSize ∧ ∀ q ∈ p.replies o t j, ¬ Index.Breaks q) := by
  by_cases hworkers : 1 ≤ p.config.maxWorkers
  · have hrun : (p.run o t j).1 = _ := run_eq hworkers o t p.tally j
    have hbuilt : (∃ run, Index.built p.config (p.fragments t) (p.replies o t j) = .ok run) ↔ _ := Index.exists_built_iff
    rw [hrun, ← hbuilt]
    cases Index.built p.config (p.fragments t) (p.replies o t j) <;> simp [Except.map, hworkers]
  · have hrun : p.run o t j = _ := run_of_no_workers hworkers o t p.tally j
    simp [hrun, hworkers]

/-- A report has the counts after its run. -/
theorem tally_of_report {ix : Index} {r : IndexReport} (hr : (p.run o t j).1.1 = .ok (ix, r)) :
    r.tally = p.counted t p.tally := by
  have hworkers : 1 ≤ p.config.maxWorkers := (exists_report_iff.mp ⟨ix, r, hr⟩).1
  have hrun : (p.run o t j).1 = _ := run_eq hworkers o t p.tally j
  rw [hrun] at hr
  cases hb : Index.built p.config (p.fragments t) (p.replies o t j) with
  | error e =>
      rw [hb] at hr
      cases hr
  | ok run =>
      rw [hb] at hr
      cases hr
      rfl

/-- The first report has the counts of the files. -/
theorem tally_of_first_report (hfresh : p.tally = {}) {ix : Index} {r : IndexReport}
    (hr : (p.run o t j).1.1 = .ok (ix, r)) : r.tally = ⟨(p.files t).length, p.parsedFiles t, p.failedFiles t⟩ := by
  rw [tally_of_report hr, counted, hfresh, Nat.zero_add, Nat.zero_add]

end OneRun

/-! ## 3. Several runs -/

section Runs

variable {o : Outside} {t : FileTree} {p : Pipeline} {j : Journal}

/-- The pipeline after some runs, one after the other. -/
def afterRuns (o : Outside) (t : FileTree) (p : Pipeline) : Nat → Session Pipeline
  | 0 => pure p
  | k + 1 => do
    let q ← p.afterRuns o t k
    return (← q.run o t).2

/-- The next run after `k` others. -/
def runAfter (o : Outside) (t : FileTree) (p : Pipeline) (k : Nat) :
    Session (Except BuildFault (Index × IndexReport) × Pipeline) := do
  (← p.afterRuns o t k).run o t

theorem afterRuns_succ (k : Nat) :
    p.afterRuns o t (k + 1) j = ((p.runAfter o t k j).1.2, (p.runAfter o t k j).2) := rfl

theorem runAfter_eq (k : Nat) : p.runAfter o t k j = (p.afterRuns o t k j).1.run o t (p.afterRuns o t k j).2 := rfl

/-- **Only the counts go on**: every run adds to them the files that are parsed and those that fail. -/
theorem afterRuns_eq (hworkers : 1 ≤ p.config.maxWorkers) (o : Outside) (t : FileTree) (j : Journal) (k : Nat) :
    ∃ scanned, (p.afterRuns o t k j).1 =
      p.counting ⟨scanned, p.tally.parsed + k * p.parsedFiles t, p.tally.failed + k * p.failedFiles t⟩ := by
  induction k with
  | zero =>
      refine ⟨p.tally.scanned, ?_⟩
      rw [Nat.zero_mul, Nat.zero_mul]
      rfl
  | succ k ih =>
      obtain ⟨scanned, hk⟩ := ih
      refine ⟨(p.files t).length, ?_⟩
      rw [afterRuns_succ, runAfter_eq, hk]
      show ((p.counting _).run o t _).1.2 = _
      rw [run_eq hworkers, Nat.succ_mul, Nat.succ_mul, ← Nat.add_assoc, ← Nat.add_assoc]
      rfl

/-- Without workers no file is counted. -/
theorem exists_afterRuns (hworkers : ¬ 1 ≤ p.config.maxWorkers) (o : Outside) (t : FileTree) (j : Journal) (k : Nat) :
    ∃ n, (p.afterRuns o t k j).1 = p.counting n := by
  induction k with
  | zero => exact ⟨p.tally, rfl⟩
  | succ k ih =>
      obtain ⟨n, hk⟩ := ih
      refine ⟨{ n with scanned := (p.files t).length }, ?_⟩
      rw [afterRuns_succ, runAfter_eq, hk, run_of_no_workers hworkers]

/-- **The result of a run is that of the first one, with the counts of all of them**, if the replies are the same. -/
theorem runAfter_result (hworkers : 1 ≤ p.config.maxWorkers) (hfresh : p.tally = {}) (k : Nat)
    (hreplies : p.config.usesEmbeddings = true → p.replies o t (p.afterRuns o t k j).2 = p.replies o t j) :
    (p.runAfter o t k j).1.1 = (p.run o t j).1.1.map fun built => (built.1, { built.2 with
      tally := ⟨(p.files t).length, (k + 1) * p.parsedFiles t, (k + 1) * p.failedFiles t⟩ }) := by
  obtain ⟨scanned, hk⟩ := afterRuns_eq hworkers o t j k
  have hbuilt : Index.built p.config (p.fragments t) (p.replies o t (p.afterRuns o t k j).2) =
      Index.built p.config (p.fragments t) (p.replies o t j) := by
    by_cases huses : p.config.usesEmbeddings = true
    · rw [hreplies huses]
    · rw [Index.built, Index.built, if_neg huses, if_neg huses]
  have hcounts : p.counted t ⟨scanned, p.tally.parsed + k * p.parsedFiles t, p.tally.failed + k * p.failedFiles t⟩ =
      ⟨(p.files t).length, (k + 1) * p.parsedFiles t, (k + 1) * p.failedFiles t⟩ := by
    rw [counted, hfresh, Nat.zero_add, Nat.zero_add, Nat.succ_mul, Nat.succ_mul]
  have hfirst : (p.run o t j).1 = _ := run_eq hworkers o t p.tally j
  rw [runAfter_eq, hk, run_eq hworkers, hbuilt, hcounts, hfirst]
  cases Index.built p.config (p.fragments t) (p.replies o t j) <;> rfl

/-- A run fails as the first one does, if the replies are the same. -/
theorem runAfter_error {e : BuildFault} (hfresh : p.tally = {}) (k : Nat)
    (hreplies : p.config.usesEmbeddings = true → p.replies o t (p.afterRuns o t k j).2 = p.replies o t j)
    (he : (p.run o t j).1.1 = .error e) : (p.runAfter o t k j).1.1 = .error e := by
  by_cases hworkers : 1 ≤ p.config.maxWorkers
  · rw [runAfter_result hworkers hfresh k hreplies, he]
    rfl
  · obtain ⟨n, hk⟩ := exists_afterRuns hworkers o t j k
    have hrun : p.run o t j = _ := run_of_no_workers hworkers o t p.tally j
    rw [runAfter_eq, hk, run_of_no_workers hworkers, ← he, hrun]

/-- The counts of several runs balance only in the first one or where there are no files. -/
theorem counts_balance_iff (t : FileTree) (p : Pipeline) (k : Nat) :
    (k + 1) * p.parsedFiles t + (k + 1) * p.failedFiles t = (p.files t).length ↔ k = 0 ∨ p.files t = [] := by
  have hsplit := parsedFiles_add_failedFiles t p
  rw [← Nat.mul_add, hsplit, Nat.succ_mul, ← List.length_eq_zero_iff, ← Nat.mul_eq_zero]
  omega

/-- The counts of several runs are those of the files only then. -/
theorem counts_same_iff (t : FileTree) (p : Pipeline) (k : Nat) :
    (k + 1) * p.parsedFiles t = p.parsedFiles t ∧ (k + 1) * p.failedFiles t = p.failedFiles t ↔
      k = 0 ∨ p.files t = [] := by
  have hsplit := parsedFiles_add_failedFiles t p
  rw [← counts_balance_iff t p k, ← hsplit]
  constructor
  · intro h
    rw [h.1, h.2]
  · intro h
    have hparsed : p.parsedFiles t ≤ (k + 1) * p.parsedFiles t := Nat.le_mul_of_pos_left _ k.succ_pos
    have hfailed : p.failedFiles t ≤ (k + 1) * p.failedFiles t := Nat.le_mul_of_pos_left _ k.succ_pos
    omega

/-- A report with the counts of several runs is the first one only then. -/
theorem same_report_iff {r : IndexReport} (htally : r.tally = ⟨(p.files t).length, p.parsedFiles t, p.failedFiles t⟩)
    (k : Nat) : { r with tally := ⟨(p.files t).length, (k + 1) * p.parsedFiles t, (k + 1) * p.failedFiles t⟩ } = r ↔
      k = 0 ∨ p.files t = [] := by
  rw [← counts_same_iff t p k]
  constructor
  · intro h
    have hcounts := congrArg IndexReport.tally h
    rw [htally, Tally.mk.injEq] at hcounts
    exact hcounts.2
  · intro h
    rw [h.1, h.2, ← htally]

/-- **Several runs of one pipeline.** A first run has a report just if there are workers and, where vectors are wanted, a
batch has a size and no reply ends the phase. With the same replies every later run fails as the first one does, or has
the same index and a report that differs in nothing but the counts: these are those of all runs so far, so that the
report is the same, and its counts are those of the files, only in the first run or where there are no files. In no run
the order counts in which the workers deliver. -/
theorem reruns_exact (o : Outside) (t : FileTree) (root : Path) (config : Config) (embedder : Embedder) (j : Journal) :
    let p : Pipeline := { root := root, config := config, embedder := embedder }
    p.parsedFiles t + p.failedFiles t = (p.files t).length ∧
    ((∃ ix r, (p.run o t j).1.1 = .ok (ix, r)) ↔ 1 ≤ config.maxWorkers ∧
      (config.usesEmbeddings = true → 0 < config.batchSize ∧ ∀ q ∈ p.replies o t j, ¬ Index.Breaks q)) ∧
    (∀ ix r, (p.run o t j).1.1 = .ok (ix, r) → r.tally = ⟨(p.files t).length, p.parsedFiles t, p.failedFiles t⟩) ∧
    (∀ k, (config.usesEmbeddings = true → p.replies o t (p.afterRuns o t k j).2 = p.replies o t j) →
      (∀ e, (p.run o t j).1.1 = .error e → (p.runAfter o t k j).1.1 = .error e) ∧
      ∀ ix r, (p.run o t j).1.1 = .ok (ix, r) → ∃ r', (p.runAfter o t k j).1.1 = .ok (ix, r') ∧
        r' = { r with tally := ⟨(p.files t).length, (k + 1) * p.parsedFiles t, (k + 1) * p.failedFiles t⟩ } ∧
        (r' = r ↔ k = 0 ∨ p.files t = []) ∧
        (r'.tally.parsed + r'.tally.failed = r'.tally.scanned ↔ k = 0 ∨ p.files t = [])) ∧
    ∀ k arrivals, 1 ≤ config.maxWorkers → arrivals.Perm (outcomesOf (t.fragmentsOf root) (p.files t)) →
      p.runAfter o t k j = (p.afterRuns o t k j).1.finish o (p.files t) arrivals (p.afterRuns o t k j).2 := by
  intro p
  refine ⟨parsedFiles_add_failedFiles t p, exists_report_iff, fun ix r hr => tally_of_first_report rfl hr,
    fun k hreplies => ⟨fun e he => runAfter_error rfl k hreplies he, fun ix r hr => ?_⟩, fun k arrivals hworkers h => ?_⟩
  · have hworkers : 1 ≤ p.config.maxWorkers := (exists_report_iff.mp ⟨ix, r, hr⟩).1
    have hagain : (p.runAfter o t k j).1.1 = _ := runAfter_result hworkers rfl k hreplies
    rw [hr] at hagain
    exact ⟨_, hagain, rfl, same_report_iff (tally_of_first_report rfl hr) k, counts_balance_iff t p k⟩
  · obtain ⟨_, hk⟩ := afterRuns_eq (p := p) hworkers o t j k
    rw [runAfter_eq, hk]
    exact congrFun (run_of_arrivals (p := p) hworkers _ h) _

/-- Nothing but one file with a function. -/
def oneFile : FileTree := ⟨.directory [("m.py", .file "def f(): pass\n".toUTF8)], []⟩

theorem node_oneFile : oneFile.node ⟨"", ["m.py"]⟩ = .ok (.file "def f(): pass\n".toUTF8) := by
  have hfind : oneFile.find ⟨"", ["m.py"]⟩ = .ok ⟨["m.py"], some (.file "def f(): pass\n".toUTF8)⟩ :=
    Node.follow_of_leads (.enter rfl (by decide) (by decide) rfl (fun _ => Node.noConfusion) (.done _ _))
  unfold FileTree.node
  rw [hfind]

theorem scan_oneFile (uses : Bool) : oneFile.scan { usesEmbeddings := uses } ⟨"", []⟩ = [⟨"", ["m.py"]⟩] := by
  have hfind : oneFile.find ⟨"", []⟩ = .ok ⟨[], some oneFile.root⟩ := Node.follow_of_leads (.done _ _)
  have hleaves : oneFile.leaves ({ usesEmbeddings := uses } : Config).excludedDirs ⟨"", []⟩ = [["m.py"]] := by
    unfold FileTree.leaves FileTree.node
    rw [hfind]
    rfl
  have hnamed : ({ usesEmbeddings := uses } : Config).extensions.contains (Path.extension "m.py") = true := by
    have hextension : Path.extension "m.py" = ".py" := by decide +kernel
    rw [hextension]
    rfl
  have hfile : oneFile.isFileUpTo ({ usesEmbeddings := uses } : Config).maxFileBytes ⟨"", ["m.py"]⟩ = true := by
    unfold FileTree.isFileUpTo
    rw [node_oneFile]
    exact decide_eq_true (by decide +kernel : (14 : Int) ≤ 5 * 1024 * 1024)
  unfold FileTree.scan
  rw [hleaves]
  have hone : [["m.py"]].filter (fun parts => ({ usesEmbeddings := uses } : Config).extensions.contains
      (Path.extension (parts.getLast?.getD ""))) = [["m.py"]] := List.filter_cons_of_pos hnamed
  dsimp only
  rw [hone]
  have hkept : [(⟨"", ["m.py"]⟩ : Path)].filter (oneFile.isFileUpTo ({ usesEmbeddings := uses } : Config).maxFileBytes) =
      [⟨"", ["m.py"]⟩] := List.filter_cons_of_pos hfile
  show Path.inOrder (List.filter _ [⟨"", ["m.py"]⟩]) = _
  rw [hkept]
  exact List.mergeSort_singleton _

theorem package_oneFile : oneFile.package ⟨"", ["m.py"]⟩ ⟨"", []⟩ = .ok "m" := by
  have hlink : ∀ target, Node.child? "m.py" [("m.py", .file "def f(): pass\n".toUTF8)] ≠ some (.link target) := by
    intro target h
    unfold Node.child? at h
    split at h <;> cases h
  have hfile : oneFile.resolve ⟨"", ["m.py"]⟩ = .ok ⟨"/", ["m.py"]⟩ :=
    FileTree.resolve_name rfl (by decide) (by decide) hlink
  have hroot : oneFile.resolve ⟨"", []⟩ = .ok ⟨"/", []⟩ := by
    have hfind : oneFile.find (Path.absolute (([] : List String).reverse.foldl FileTree.step []).reverse) =
        .ok ⟨[], some oneFile.root⟩ := Node.follow_of_leads (.done _ _)
    unfold FileTree.resolve
    rw [FileTree.unlink]
    dsimp only
    rw [show (if (⟨"", []⟩ : Path).isAbsolute then [] else oneFile.here.reverse) = ([] : List String) from rfl, hfind]
    rfl
  have hname : ".".intercalate (FileTree.packageParts ["m.py"]) = "m" := by decide +kernel
  unfold FileTree.package
  rw [hfile, hroot]
  show (let name := ".".intercalate (FileTree.packageParts ["m.py"]); Except.ok (if name.isEmpty then _ else name)) = _
  rw [hname]
  rfl

/-- The file gives the function, which has no vector. -/
theorem fragmentsOf_oneFile : ∃ f, oneFile.fragmentsOf ⟨"", []⟩ ⟨"", ["m.py"]⟩ = .ok [f] ∧ f.isEmbedded = false := by
  have htext : oneFile.readText ⟨"", ["m.py"]⟩ = .ok "def f(): pass\n" := by
    have hdecode : FileTree.decode? "def f(): pass\n".toUTF8 = some "def f(): pass\n" := by decide +kernel
    unfold FileTree.readText FileTree.bytes
    rw [node_oneFile]
    dsimp only
    rw [hdecode]
  have hread : (oneFile.fragmentsOf ⟨"", []⟩ ⟨"", ["m.py"]⟩).toOption.map (·.map (·.isEmbedded)) = some [false] := by
    unfold FileTree.fragmentsOf
    rw [htext]
    dsimp only
    rw [package_oneFile]
    decide +kernel
  cases hfs : oneFile.fragmentsOf ⟨"", []⟩ ⟨"", ["m.py"]⟩ with
  | error e =>
      rw [hfs] at hread
      cases hread
  | ok fs =>
      rw [hfs] at hread
      obtain ⟨f, rfl, hf⟩ := List.map_eq_singleton_iff.mp (Option.some.inj hread)
      exact ⟨f, rfl, hf⟩

/-- The first run over one file reports one file that was found and one that was parsed; the second one reports two that
were parsed. With an embedder that replies with a number, which has no length, already the first run has no report. -/
theorem reruns_unbalanced :
    let o : Outside := .scripted none fun _ => .text ""
    let p : Pipeline := { root := ⟨"", []⟩, config := { usesEmbeddings := false }, embedder := .disabled }
    let first := p.run o oneFile {}
    let second := first.1.2.run o oneFile first.2
    let e : Embedder := .custom "mine" true fun _ _ => .ok (.int 5)
    let p' : Pipeline := { root := ⟨"", []⟩, config := { usesEmbeddings := true }, embedder := e }
    (∃ ix r r', first.1.1 = .ok (ix, r) ∧ second.1.1 = .ok (ix, r') ∧ r.tally = ⟨1, 1, 0⟩ ∧ r'.tally = ⟨1, 2, 0⟩ ∧
      r' ≠ r ∧ r'.tally.parsed + r'.tally.failed ≠ r'.tally.scanned) ∧
    (p'.run o oneFile {}).1.1 = .error (.vectors (.unmeasurable (.noLength "int"))) := by
  intro o p first second e p'
  obtain ⟨f, hf, hbare⟩ := fragmentsOf_oneFile
  have hfiles : p.files oneFile = [⟨"", ["m.py"]⟩] := scan_oneFile false
  have hparsed : p.parsedFiles oneFile = 1 := by
    rw [parsedFiles, hfiles, List.countP_singleton]
    show (if (oneFile.fragmentsOf ⟨"", []⟩ ⟨"", ["m.py"]⟩).isOk then 1 else 0) = 1
    rw [hf]
    rfl
  have hfailed : p.failedFiles oneFile = 0 := by
    have hsplit := parsedFiles_add_failedFiles oneFile p
    rw [hfiles, List.length_singleton] at hsplit
    omega
  constructor
  · obtain ⟨ix, r, hr⟩ : ∃ ix r, first.1.1 = .ok (ix, r) := exists_report_iff.mpr ⟨by decide, nofun⟩
    have htally : r.tally = ⟨1, 1, 0⟩ := by
      rw [tally_of_first_report rfl hr, hfiles, hparsed, hfailed]
      rfl
    have hsecond : second.1.1 = _ := runAfter_result (o := o) (j := {}) (p := p) (t := oneFile) (by decide) rfl 1 nofun
    rw [show (p.run o oneFile {}).1.1 = _ from hr, hfiles, hparsed, hfailed] at hsecond
    refine ⟨ix, r, _, hr, hsecond, htally, rfl, fun h => ?_, ?_⟩
    · have hcounts : (⟨1, 2, 0⟩ : Tally) = ⟨1, 1, 0⟩ := (congrArg IndexReport.tally h).trans htally
      exact absurd hcounts (by decide)
    · show 2 + 0 ≠ 1
      decide
  · have hfragments : p'.fragments oneFile = [f] := by
      rw [fragments, files, scan_oneFile true]
      show (oneFile.fragmentsOf ⟨"", []⟩ ⟨"", ["m.py"]⟩).toOption.getD [] ++ [] = _
      rw [hf]
      rfl
    have hreplies : p'.replies o oneFile {} = [([f], .ok (.int 5))] := by
      have hpending : [f].filter (!·.isEmbedded) = [f] := List.filter_cons_of_pos (by rw [hbare]; rfl)
      have hbatches : Index.batches 99 [f] = [[f]] := by simp [Index.batches]
      rw [replies, hfragments, Index.sent, hpending]
      show (Index.exchanges o e (Index.batches 99 [f]) {}).1 = _
      rw [hbatches]
      rfl
    have hrun : (p'.run o oneFile {}).1 = _ := run_eq (p := p') (by decide) o oneFile {} {}
    rw [hrun, hreplies]
    rfl

end Runs

end Pipeline

end FragmentSearch
