import FragmentSearch.Indexing.Pipeline
import FragmentSearch.Proofs.Index.SharedIds
import Mathlib.Logic.Relation

/-!
# Files parsed by several workers

Files wait for a free worker, are parsed in any order, and what they gave is collected in any order again.

* `Pool.Step` -- what can happen next: a worker takes the first file that waits, a file is parsed, a result arrives;
* `Pool.perm_of_reaches` -- no step loses or doubles a file, so the results that have arrived in the end are those of
  the files, in some order; and every order occurs (`Pool.reaches_order`);
* `Pool.exists_step`, `Pool.Step.load_eq` -- as long as there is something to do there is a next step, and it leaves one
  step fewer;
* `merge_of_perm`, `foldl_count_of_perm` -- the fragments and the counts do not depend on the order of arrival;
* `Pipeline.parsing_exact` -- so what a pipeline makes of its files is what it makes of them one by one.
-/

namespace FragmentSearch

/-! ## 1. Workers -/

/-- Files on their way through the workers. -/
structure Pool where
  /-- The files that wait, in their order. -/
  waiting : List Path
  /-- The files that are being parsed. -/
  busy : List Path
  /-- The files that are parsed, but whose results were not collected yet. -/
  done : List Path
  /-- The files whose results have arrived, in the order of arrival. -/
  arrived : List Path

namespace Pool

/-- No file has been taken yet. -/
def start (files : List Path) : Pool := ⟨files, [], [], []⟩

/-- All results have arrived. -/
def IsOver (s : Pool) : Prop := s.waiting = [] ∧ s.busy = [] ∧ s.done = []

/-- All files, wherever they are. -/
def members (s : Pool) : List Path := s.waiting ++ (s.busy ++ (s.done ++ s.arrived))

/-- The steps that are left. -/
def load (s : Pool) : Nat := 3 * s.waiting.length + 2 * s.busy.length + s.done.length

/-- What can happen next. -/
inductive Step (workers : Int) : Pool → Pool → Prop
  /-- A free worker takes the first file that waits. -/
  | take {f : Path} {waiting busy done arrived : List Path} (hfree : busy.length < workers) :
      Step workers ⟨f :: waiting, busy, done, arrived⟩ ⟨waiting, f :: busy, done, arrived⟩
  /-- A file is parsed, or fails. -/
  | finish {f : Path} {waiting l r done arrived : List Path} :
      Step workers ⟨waiting, l ++ f :: r, done, arrived⟩ ⟨waiting, l ++ r, f :: done, arrived⟩
  /-- A result arrives. -/
  | collect {f : Path} {waiting busy l r arrived : List Path} :
      Step workers ⟨waiting, busy, l ++ f :: r, arrived⟩ ⟨waiting, busy, l ++ r, arrived ++ [f]⟩

/-- What can be reached in some steps. -/
abbrev Reaches (workers : Int) : Pool → Pool → Prop := Relation.ReflTransGen (Step workers)

variable {workers : Int} {s s' : Pool} {files : List Path}

/-- A step loses no file and doubles none. -/
theorem Step.perm (h : Step workers s s') : s.members.Perm s'.members := by
  cases h with
  | take hfree => exact List.perm_middle.symm
  | @finish f waiting l r done arrived =>
      refine List.Perm.append_left waiting ?_
      rw [List.append_assoc, List.append_assoc]
      refine List.Perm.append_left l ?_
      exact List.perm_middle.symm
  | @collect f waiting busy l r arrived =>
      refine List.Perm.append_left waiting (List.Perm.append_left busy ?_)
      rw [List.append_assoc, List.append_assoc, ← List.append_assoc r]
      refine List.Perm.append_left l ?_
      exact (List.perm_append_singleton f (r ++ arrived)).symm

/-- **No run loses a file or doubles one.** -/
theorem perm_of_reaches (h : Reaches workers (start files) s) : s.members.Perm files := by
  induction h with
  | refl =>
      show (files ++ []).Perm files
      rw [List.append_nil]
  | tail _ hstep ih => exact hstep.perm.symm.trans ih

/-- In the end the results of all files have arrived, in some order. -/
theorem arrived_perm (h : Reaches workers (start files) s) (hover : s.IsOver) : s.arrived.Perm files := by
  obtain ⟨hwaiting, hbusy, hdone⟩ := hover
  have hmembers : s.members = s.arrived := by
    rw [members, hwaiting, hbusy, hdone]
    rfl
  exact hmembers ▸ perm_of_reaches h

/-- **As long as there is something to do, there is a next step.** -/
theorem exists_step (hworkers : 1 ≤ workers) (h : ¬ s.IsOver) : ∃ s', Step workers s s' := by
  obtain ⟨waiting, busy, done, arrived⟩ := s
  cases done with
  | cons f done => exact ⟨_, .collect (l := [])⟩
  | nil =>
      cases busy with
      | cons f busy => exact ⟨_, .finish (l := [])⟩
      | nil =>
          cases waiting with
          | cons f waiting =>
              have hfree : (([] : List Path).length : Int) < workers := by
                rw [List.length_nil]
                omega
              exact ⟨_, .take hfree⟩
          | nil => exact absurd ⟨rfl, rfl, rfl⟩ h

/-- Each step is one of those that were left. -/
theorem Step.load_eq (h : Step workers s s') : s.load = s'.load + 1 := by
  cases h <;> simp only [load, List.length_cons, List.length_append] <;> omega

/-- Each file is taken and parsed before the next one is. -/
theorem reaches_done (hworkers : 1 ≤ workers) (files done : List Path) :
    Reaches workers ⟨files, [], done, []⟩ ⟨[], [], files.reverse ++ done, []⟩ := by
  induction files generalizing done with
  | nil => exact .refl
  | cons f files ih =>
      have hfree : (([] : List Path).length : Int) < workers := by
        rw [List.length_nil]
        omega
      have htake : Step workers ⟨f :: files, [], done, []⟩ ⟨files, [f], done, []⟩ := .take hfree
      have hfinish : Step workers ⟨files, [f], done, []⟩ ⟨files, [], f :: done, []⟩ := .finish (l := [])
      rw [List.reverse_cons, List.append_assoc]
      exact .head htake (.head hfinish (ih (f :: done)))

/-- The results of parsed files can arrive in every order. -/
theorem reaches_collected {order : List Path} : ∀ {done : List Path} (arrived : List Path), done.Perm order →
    Reaches workers ⟨[], [], done, arrived⟩ ⟨[], [], [], arrived ++ order⟩ := by
  induction order with
  | nil =>
      intro done arrived h
      rw [h.eq_nil, List.append_nil]
  | cons f order ih =>
      intro done arrived h
      obtain ⟨left, right, rfl⟩ := List.append_of_mem (h.mem_iff.mpr List.mem_cons_self)
      have hrest : (left ++ right).Perm order := (List.perm_middle.symm.trans h).cons_inv
      have hstep : Step workers ⟨[], [], left ++ f :: right, arrived⟩ ⟨[], [], left ++ right, arrived ++ [f]⟩ := .collect
      have hmore := ih (arrived ++ [f]) hrest
      rw [List.append_assoc] at hmore
      exact .head hstep hmore

/-- **Every order of arrival occurs**, even with one worker: a result need not be collected at once. -/
theorem reaches_order (hworkers : 1 ≤ workers) {order : List Path} (h : order.Perm files) :
    Reaches workers (start files) ⟨[], [], [], order⟩ := by
  have hall : Reaches workers (start files) ⟨[], [], files.reverse ++ [], []⟩ := reaches_done hworkers files []
  rw [List.append_nil] at hall
  exact hall.trans (reaches_collected [] ((List.reverse_perm files).trans h.symm))

end Pool

/-! ## 2. What arrives -/

section Arrivals

/-- The fragments that a file gave; none if it failed. -/
def Outcome.fragments (o : Outcome) : List Fragment := o.result.toOption.getD []

/-- Has the file been parsed? -/
def Outcome.isParsed (o : Outcome) : Bool := o.result.isOk

/-- What became of some files, if a file gives `result`. -/
def outcomesOf (result : Path → Except FileReadFault (List Fragment)) (files : List Path) : List Outcome :=
  files.map fun f => ⟨f, result f⟩

variable {result : Path → Except FileReadFault (List Fragment)} {files : List Path} {arrivals : List Outcome}

/-- The fragments that arrive are entered under their files. -/
theorem foldl_enter (arrivals : List Outcome) :
    arrivals.foldl Outcome.enter [] =
      Table.ofList (arrivals.filterMap fun o => o.result.toOption.map fun fs => (o.file, fs)) := by
  unfold Table.ofList
  rw [List.foldl_filterMap]
  refine List.foldl_ext _ _ _ fun found o _ => ?_
  unfold Outcome.enter
  cases o.result <;> rfl

/-- Under a file that was parsed stand the fragments that it gave, and under no other. -/
theorem get?_foldl_enter (h : arrivals.Perm (outcomesOf result files)) {f : Path} (hf : f ∈ files) :
    Table.get? f (arrivals.foldl Outcome.enter []) = (result f).toOption := by
  have hmem : ∀ e : Path × List Fragment,
      e ∈ (arrivals.filterMap fun o => o.result.toOption.map fun fs => (o.file, fs)) ↔
        e.1 ∈ files ∧ (result e.1).toOption = some e.2 := by
    intro e
    rw [List.mem_filterMap]
    constructor
    · rintro ⟨o, ho, hentry⟩
      obtain ⟨f', hf', rfl⟩ := List.mem_map.mp (h.mem_iff.mp ho)
      obtain ⟨fs, hfs, rfl⟩ := Option.map_eq_some_iff.mp hentry
      exact ⟨hf', hfs⟩
    · rintro ⟨hfile, hresult⟩
      exact ⟨⟨e.1, result e.1⟩, h.mem_iff.mpr (List.mem_map_of_mem hfile), by rw [hresult]; rfl⟩
  rw [foldl_enter]
  cases hresult : (result f).toOption with
  | none =>
      refine Table.get?_eq_none.mpr fun hkey => ?_
      obtain ⟨e, he, rfl⟩ := List.mem_map.mp (Table.mem_keys_ofList.mp hkey)
      rw [((hmem e).mp he).2] at hresult
      cases hresult
  | some fs =>
      have hentry := (hmem (f, fs)).mpr ⟨hf, hresult⟩
      refine Table.get?_ofList_of_forall (List.mem_map_of_mem (f := Prod.fst) hentry) fun e he hfile => ?_
      have hvalue := ((hmem e).mp he).2
      rw [hfile, hresult] at hvalue
      exact (Option.some.inj hvalue).symm

/-- **The fragments do not depend on the order of arrival**: they stand in the order of the files, and those of a file
in their own order. -/
theorem merge_of_perm (h : arrivals.Perm (outcomesOf result files)) :
    merge files arrivals = (outcomesOf result files).flatMap Outcome.fragments := by
  unfold merge outcomesOf
  rw [List.flatMap_map]
  refine List.flatMap_congr fun f hf => ?_
  rw [get?_foldl_enter h hf]
  rfl

theorem foldl_count (arrivals : List Outcome) (n : Tally) :
    arrivals.foldl Tally.count n =
      ⟨n.scanned, n.parsed + arrivals.countP (·.isParsed), n.failed + arrivals.countP (!·.isParsed)⟩ := by
  induction arrivals generalizing n with
  | nil => rfl
  | cons o arrivals ih =>
      rw [List.foldl_cons, ih, List.countP_cons, List.countP_cons]
      unfold Tally.count Outcome.isParsed
      cases o.result with
      | ok fs => simp [Except.isOk, Except.toBool]; omega
      | error e => simp [Except.isOk, Except.toBool]; omega

/-- The counts do not depend on the order of arrival. -/
theorem foldl_count_of_perm (h : arrivals.Perm (outcomesOf result files)) (n : Tally) :
    arrivals.foldl Tally.count n = (outcomesOf result files).foldl Tally.count n := by
  rw [foldl_count, foldl_count, h.countP_eq, h.countP_eq]

end Arrivals

/-! ## 3. The pipeline -/

/-- The index that a finished phase of vectors leaves is that of the same fragments, vectors aside. -/
theorem Index.exists_ofFragments_withVectors {o : Outside} {c : Config} {e : Embedder} {resolves : Bool}
    {fs : List Fragment} {j : Journal} {run : Index.EmbeddingRun}
    (h : ((Index.ofFragments resolves fs).withVectors o c e j).1 = .ok run) :
    ∃ gs : List Fragment, gs.map Fragment.bare = fs.map Fragment.bare ∧ run.index = Index.ofFragments resolves gs := by
  unfold Index.withVectors at h
  by_cases huses : c.usesEmbeddings = true
  · rw [if_pos huses] at h
    by_cases hsize : c.batchSize ≤ 0
    · rw [if_pos hsize] at h
      cases h
    · rw [if_neg hsize] at h
      have hindex : ((Index.ofFragments resolves fs).embed o e c.batchSize.toNat j).1.index =
          ((Index.ofFragments resolves fs).attachAll _).1 := Index.index_embed o e c.batchSize.toNat j
      cases hrun : (Index.ofFragments resolves fs).embed o e c.batchSize.toNat j with
      | mk run' j' =>
          rw [hrun] at hindex
          simp only [Session.bind_run, hrun] at h
          cases hbroken : run'.broken with
          | some fault =>
              rw [hbroken] at h
              cases h
          | none =>
              rw [hbroken] at h
              cases h
              rw [hindex]
              exact Index.exists_ofFragments_attachAll _
  · rw [if_neg huses] at h
    cases h
    exact ⟨fs, rfl, rfl⟩

namespace Pipeline

/-- What a pipeline makes of its files once their results have arrived. -/
def finish (o : Outside) (p : Pipeline) (files : List Path) (arrivals : List Outcome) :
    Session (Except BuildFault (Index × IndexReport) × Pipeline) := do
  let after := (p.scanned files).parsed arrivals
  match ← (p.index files arrivals).withVectors o p.config p.embedder with
  | .error e => return (.error e, after)
  | .ok run => return (.ok (run.index, .ofRun after.tally p.config.usesEmbeddings p.root.text run), after)

variable {o : Outside} {p : Pipeline} {files : List Path} {arrivals : List Outcome}
  {result : Path → Except FileReadFault (List Fragment)} {j : Journal}

/-- A run parses one file after the other. -/
theorem run_eq_finish (hworkers : 1 ≤ p.config.maxWorkers) (t : FileTree) :
    p.run o t = p.finish o (t.scan p.config p.root) (outcomesOf (t.fragmentsOf p.root) (t.scan p.config p.root)) := by
  have hsome : ¬ p.config.maxWorkers ≤ 0 := by omega
  unfold run
  rw [if_neg hsome]
  rfl

/-- A pipeline has counted its files, and fails only if the vectors do. -/
theorem finish_cases (o : Outside) (p : Pipeline) (files : List Path) (arrivals : List Outcome) (j : Journal) :
    (p.finish o files arrivals j).1.2 = (p.scanned files).parsed arrivals ∧
      match ((p.index files arrivals).withVectors o p.config p.embedder j).1 with
      | .error e => (p.finish o files arrivals j).1.1 = .error e
      | .ok run => (p.finish o files arrivals j).1.1 = .ok (run.index,
          .ofRun ((p.scanned files).parsed arrivals).tally p.config.usesEmbeddings p.root.text run) := by
  unfold finish
  cases hrun : (p.index files arrivals).withVectors o p.config p.embedder j with
  | mk built j' =>
      simp only [Session.bind_run, hrun]
      cases built with
      | error e => exact ⟨rfl, rfl⟩
      | ok run => exact ⟨rfl, rfl⟩

/-- A pipeline that parses the same makes the same of its files. -/
theorem finish_congr {arrivals' : List Outcome} (hmerge : merge files arrivals = merge files arrivals')
    (hcount : (p.scanned files).parsed arrivals = (p.scanned files).parsed arrivals') :
    p.finish o files arrivals = p.finish o files arrivals' := by
  unfold finish index
  rw [hmerge, hcount]

/-- What a pipeline makes of `files` of which each gives its `result`, once the results have arrived as `arrivals`. -/
structure Parses (o : Outside) (p : Pipeline) (files : List Path) (result : Path → Except FileReadFault (List Fragment))
    (arrivals : List Outcome) : Prop where
  /-- The fragments of the files that were parsed, in the order of the files. -/
  fragments : merge files arrivals = files.flatMap fun f => (result f).toOption.getD []
  /-- A fresh pipeline has counted the files, those that were parsed and those that failed. -/
  counts : p.tally = {} → ((p.scanned files).parsed arrivals).tally =
    ⟨files.length, files.countP fun f => (result f).isOk, files.countP fun f => !(result f).isOk⟩
  balance : p.tally = {} → ((p.scanned files).parsed arrivals).tally.parsed +
    ((p.scanned files).parsed arrivals).tally.failed = ((p.scanned files).parsed arrivals).tally.scanned
  /-- The counts are kept, and reported if there is a result. -/
  counted : ∀ j, (p.finish o files arrivals j).1.2 = (p.scanned files).parsed arrivals
  report : ∀ j ix r, (p.finish o files arrivals j).1.1 = .ok (ix, r) →
    r.tally = ((p.scanned files).parsed arrivals).tally ∧
      r.total = (files.map fun f => ((result f).toOption.getD []).length).sum ∧ (r.ofKind.map (·.2)).sum = r.total
  /-- There is one if no vectors are wanted, or else if these can be had. -/
  bare : p.config.usesEmbeddings = false → ∀ j, ∃ ix r, (p.finish o files arrivals j).1.1 = .ok (ix, r)
  failure : ∀ j e, (p.finish o files arrivals j).1.1 = .error e →
    ((p.index files arrivals).withVectors o p.config p.embedder j).1 = .error e
  /-- A run that finds these files and parses them one by one makes the same of them. -/
  run : ∀ t : FileTree, t.scan p.config p.root = files → (∀ f ∈ files, t.fragmentsOf p.root f = result f) →
    p.run o t = p.finish o files arrivals

theorem tally_of_fresh (hfresh : p.tally = {}) : ((p.scanned files).parsed arrivals).tally =
    ⟨files.length, arrivals.countP (·.isParsed), arrivals.countP (!·.isParsed)⟩ := by
  show arrivals.foldl Tally.count { p.tally with scanned := files.length } = _
  rw [foldl_count, hfresh, Nat.zero_add, Nat.zero_add]

theorem report_of_finish (h : arrivals.Perm (outcomesOf result files)) {ix : Index} {r : IndexReport}
    (hr : (p.finish o files arrivals j).1.1 = .ok (ix, r)) :
    r.tally = ((p.scanned files).parsed arrivals).tally ∧
      r.total = (files.map fun f => ((result f).toOption.getD []).length).sum ∧
      (r.ofKind.map (·.2)).sum = r.total := by
  obtain ⟨_, hcases⟩ := finish_cases o p files arrivals j
  cases hrun : ((p.index files arrivals).withVectors o p.config p.embedder j).1 with
  | error e =>
      rw [hrun] at hcases
      rw [hr] at hcases
      cases hcases
  | ok run =>
      rw [hrun] at hcases
      rw [hr] at hcases
      obtain ⟨rfl, rfl⟩ := Prod.mk.inj (Except.ok.inj hcases)
      obtain ⟨gs, hbare, hindex⟩ := Index.exists_ofFragments_withVectors hrun
      have hlength : gs.length = (merge files arrivals).length := by
        have := congrArg List.length hbare
        rwa [List.length_map, List.length_map] at this
      refine ⟨rfl, ?_, ?_⟩
      · show run.index.fragments.length = _
        rw [hindex, Index.fragments_ofFragments, hlength, merge_of_perm h, List.length_flatMap, outcomesOf, List.map_map]
        rfl
      · show (run.index.kindCounts.map (·.2)).sum = run.index.fragments.length
        rw [hindex, Index.sum_kindCounts, Index.fragments_ofFragments]

theorem parses_of_perm (hworkers : 1 ≤ p.config.maxWorkers) (h : arrivals.Perm (outcomesOf result files)) :
    Parses o p files result arrivals where
  fragments := by
    rw [merge_of_perm h, outcomesOf, List.flatMap_map]
    rfl
  counts := by
    intro hfresh
    rw [tally_of_fresh hfresh, h.countP_eq, h.countP_eq, outcomesOf, List.countP_map, List.countP_map]
    rfl
  balance := by
    intro hfresh
    have hlength : arrivals.length = files.length := h.length_eq.trans (List.length_map _)
    have hsplit : arrivals.length = arrivals.countP (·.isParsed) + arrivals.countP (!·.isParsed) := by
      simpa only [Bool.not_eq_true, Bool.decide_eq_false] using List.length_eq_countP_add_countP Outcome.isParsed
    rw [tally_of_fresh hfresh, ← hlength]
    exact hsplit.symm
  counted := fun j => (finish_cases o p files arrivals j).1
  report := fun j ix r hr => report_of_finish h hr
  bare := by
    intro hbare j
    have hvectors : ((p.index files arrivals).withVectors o p.config p.embedder j).1 =
        .ok { index := p.index files arrivals } := by
      unfold Index.withVectors
      rw [hbare, if_neg Bool.false_ne_true]
      rfl
    have hcases := (finish_cases o p files arrivals j).2
    rw [hvectors] at hcases
    exact ⟨_, _, hcases⟩
  failure := by
    intro j e he
    have hcases := (finish_cases o p files arrivals j).2
    cases hrun : ((p.index files arrivals).withVectors o p.config p.embedder j).1 with
    | error e' =>
        rw [hrun, he] at hcases
        exact congrArg _ (Except.error.inj hcases).symm
    | ok run =>
        rw [hrun, he] at hcases
        cases hcases
  run := by
    rintro t rfl hresult
    have houtcomes : outcomesOf (t.fragmentsOf p.root) (t.scan p.config p.root) =
        outcomesOf result (t.scan p.config p.root) :=
      List.map_congr_left fun f hf => congrArg (Outcome.mk f) (hresult f hf)
    rw [run_eq_finish hworkers t, houtcomes]
    refine finish_congr ?_ ?_
    · rw [merge_of_perm h, merge_of_perm (List.Perm.refl _)]
    · exact congrArg (fun n => { p.scanned (t.scan p.config p.root) with tally := n }) (foldl_count_of_perm h _).symm

/-- **Parsing does not depend on the order in which the workers deliver.** With at least one worker the pool comes to
an end, every order of arrival occurs, and whatever it is, `Parses` says what the pipeline makes of the files. -/
theorem parsing_exact (o : Outside) (p : Pipeline) (hworkers : 1 ≤ p.config.maxWorkers) (files : List Path)
    (result : Path → Except FileReadFault (List Fragment)) :
    (∀ s, Pool.Reaches p.config.maxWorkers (Pool.start files) s → s.IsOver ∨ ∃ s', Pool.Step p.config.maxWorkers s s') ∧
    (∀ s s', Pool.Step p.config.maxWorkers s s' → s'.load < s.load) ∧
    (∀ order, (∃ s, Pool.Reaches p.config.maxWorkers (Pool.start files) s ∧ s.IsOver ∧ s.arrived = order) ↔
      order.Perm files) ∧
    ∀ s, Pool.Reaches p.config.maxWorkers (Pool.start files) s → s.IsOver →
      Parses o p files result (outcomesOf result s.arrived) := by
  refine ⟨fun s _ => ?_, fun s s' hstep => ?_, fun order => ⟨?_, fun h => ?_⟩, fun s hs hover => ?_⟩
  · by_cases hover : s.IsOver
    · exact Or.inl hover
    · exact Or.inr (Pool.exists_step hworkers hover)
  · rw [hstep.load_eq]
    exact Nat.lt_succ_self _
  · rintro ⟨s, hs, hover, rfl⟩
    exact Pool.arrived_perm hs hover
  · exact ⟨_, Pool.reaches_order hworkers h, ⟨rfl, rfl, rfl⟩, rfl⟩
  · exact parses_of_perm hworkers ((Pool.arrived_perm hs hover).map _)

/-- Of three files the second fails, and the results arrive from the last to the first. -/
theorem parsing_exact_last_first :
    let a : Path := ⟨"/", ["a.py"]⟩
    let b : Path := ⟨"/", ["b.py"]⟩
    let c : Path := ⟨"/", ["c.py"]⟩
    let f := Index.member "a.f" "f" []
    let g := Index.member "c.g" "g" []
    let h := Index.member "c.h" "h" []
    let result : Path → Except FileReadFault (List Fragment) := fun file =>
      if file = a then .ok [f] else if file = b then .error (.notText b) else .ok [g, h]
    let p : Pipeline := { root := ⟨"/", []⟩, config := {}, embedder := .disabled }
    1 ≤ p.config.maxWorkers ∧
      ∃ s, Pool.Reaches p.config.maxWorkers (Pool.start [a, b, c]) s ∧ s.IsOver ∧ s.arrived = [c, b, a] ∧
        merge [a, b, c] (outcomesOf result s.arrived) = [f, g, h] ∧
        ((p.scanned [a, b, c]).parsed (outcomesOf result s.arrived)).tally = ⟨3, 2, 1⟩ ∧
        ∃ ix r, (p.finish (.scripted none fun _ => .text "") [a, b, c] (outcomesOf result s.arrived) {}).1.1 = .ok (ix, r) ∧
          r.total = 3 ∧ (r.ofKind.map (·.2)).sum = 3 := by
  intro a b c f g h result p
  have hworkers : 1 ≤ p.config.maxWorkers := by decide
  obtain ⟨_, _, horders, hparses⟩ := parsing_exact (.scripted none fun _ => .text "") p hworkers [a, b, c] result
  obtain ⟨s, hs, hover, harrived⟩ := (horders [c, b, a]).mpr (by decide)
  have hall := hparses s hs hover
  obtain ⟨ix, r, hr⟩ := hall.bare rfl {}
  obtain ⟨_, htotal, hkinds⟩ := hall.report {} ix r hr
  have hthree : r.total = 3 := htotal.trans rfl
  exact ⟨hworkers, s, hs, hover, harrived, hall.fragments.trans rfl, (hall.counts rfl).trans rfl, ix, r, hr, hthree,
    hkinds.trans hthree⟩

end Pipeline

end FragmentSearch
