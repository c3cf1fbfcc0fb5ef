import FragmentSearch.Proofs.Client.Requests
import FragmentSearch.Proofs.Files.Exchange
import FragmentSearch.Proofs.Index.Views

/-!
# The registries of a client

A client keeps an index and a report for each root. A run of requests has a history of what was built, and after any
run the registries are the tables of this history (`run_eq`): of a root, the last that was built counts. From one step
follows what holds after a whole run (`registries_exact`).
-/

namespace FragmentSearch.Client

/-! ## 1. A run -/

section Run

/-- The client after some operations. -/
def run (ops : List Operation) (c : Client) : Client := ops.foldl (fun c op => op.after c) c

/-- What is built by some operations of a client. -/
def history (ops : List Operation) (c : Client) : List Entry := ops.filterMap (·.built c)

/-- The last entry of a root. -/
def latest (root : Path) (entries : List Entry) : Option Entry := (entries.filter (·.root = root)).getLast?

/-- The registries that some entries make, one after the other. -/
def registered (entries : List Entry) (c : Client) : Client :=
  { c with
    indexes := Table.ofList (entries.map fun e => (e.root, e.index))
    reports := Table.ofList (entries.map fun e => (e.root, e.report)) }

variable {c : Client} {entries : List Entry} {root : Path}

theorem registered_snoc (entries : List Entry) (e : Entry) (c : Client) :
    registered (entries ++ [e]) c = (registered entries c).register e.root e.index e.report := by
  unfold registered register
  simp only [List.map_append, List.map_cons, List.map_nil, Table.ofList_snoc]

theorem get?_indexes_registered :
    Table.get? root (registered entries c).indexes = (latest root entries).map (·.index) :=
  Table.get?_ofList_map Entry.root Entry.index root entries

theorem get?_reports_registered :
    Table.get? root (registered entries c).reports = (latest root entries).map (·.report) :=
  Table.get?_ofList_map Entry.root Entry.report root entries

/-- Of a path the last index is found that was built for its root. -/
theorem indexOf_registered (entries : List Entry) (c : Client) (t : FileTree) (path : Path) :
    indexOf t path (registered entries c) =
      match rootOf t path with
      | .error e => .error e
      | .ok root =>
        match latest root entries with
        | some e => .ok e.index
        | none => .error (.notBuilt root) := by
  unfold indexOf
  cases rootOf t path with
  | error e => rfl
  | ok root =>
      dsimp only
      rw [get?_indexes_registered]
      cases latest root entries <;> rfl

theorem keys_registered : Table.keys (registered entries c).indexes = Table.keys (registered entries c).reports := by
  induction entries using List.reverseRecOn with
  | nil => rfl
  | append_singleton entries e ih =>
      rw [registered_snoc]
      show Table.keys (Table.put _ _ _) = Table.keys (Table.put _ _ _)
      rw [Table.put, Table.put, Table.keys_adjust, Table.keys_adjust, ih]

/-- What is built does not depend on what the client holds. -/
theorem built_registered (op : Operation) (entries : List Entry) (c : Client) :
    op.built (registered entries c) = op.built c := rfl

/-- **After any run the registries are those of what was built.** -/
theorem run_eq (hindexes : c.indexes = []) (hreports : c.reports = []) (ops : List Operation) :
    run ops c = registered (history ops c) c := by
  induction ops using List.reverseRecOn with
  | nil =>
      unfold registered
      show c = { c with indexes := [], reports := [] }
      rw [← hindexes, ← hreports]
  | append_singleton ops op ih =>
      have hrun : run (ops ++ [op]) c = op.after (registered (history ops c) c) := by
        rw [← ih, run, List.foldl_append]
        rfl
      have hhistory : history (ops ++ [op]) c = history ops c ++ (op.built c).toList := by
        rw [history, List.filterMap_append, List.filterMap_cons, List.filterMap_nil]
        cases op.built c <;> rfl
      rw [hrun, hhistory]
      cases hbuilds : op.request.builds with
      | false => rw [after_of_query hbuilds, built_of_query hbuilds, Option.toList_none, List.append_nil]
      | true =>
          rcases step_cases hbuilds (registered (history ops c) c) with ⟨e, he⟩ | hfails
          · have hbuilt : op.built c = some e := he.built
            rw [he.after, hbuilt, Option.toList_some, registered_snoc]
          · have hbuilt : op.built c = none := hfails.built
            rw [hfails.after, hbuilt, Option.toList_none, List.append_nil]

theorem describes_of_mem_history {ops : List Operation} {e : Entry} (h : e ∈ history ops c) :
    e.report.Describes e.index := by
  obtain ⟨op, _, hbuilt⟩ := List.mem_filterMap.mp h
  cases hbuilds : op.request.builds with
  | false =>
      rw [built_of_query hbuilds] at hbuilt
      cases hbuilt
  | true =>
      rcases step_cases hbuilds c with ⟨e', he'⟩ | hfails
      · rw [he'.built] at hbuilt
        exact Option.some.inj hbuilt ▸ he'.described
      · rw [hfails.built] at hbuilt
        cases hbuilt

end Run

/-! ## 2. The registries -/

section Registries

/-- What a client holds and replies once some entries have been built. -/
structure Holds (c : Client) (entries : List Entry) (c' : Client) : Prop where
  /-- The settings stay. -/
  settings : c' = { c with indexes := c'.indexes, reports := c'.reports }
  /-- The roots that have an index are those that have a report, each once. -/
  roots : Table.keys c'.indexes = Table.keys c'.reports ∧ (Table.keys c'.indexes).Nodup
  /-- The report of a root describes its index. -/
  described : ∀ (root : Path) (ix : Index), Table.get? root c'.indexes = some ix →
    ∃ report, Table.get? root c'.reports = some report ∧ report.Describes ix
  /-- Of a path the last index is found that was built for its root. -/
  found : ∀ (t : FileTree) (path : Path), c'.indexOf t path =
    match rootOf t path with
    | .error e => .error e
    | .ok root =>
      match latest root entries with
      | some e => .ok e.index
      | none => .error (.notBuilt root)
  /-- Searches and questions rank the fragments of this index. -/
  ranked : ∀ (o : Outside) (t : FileTree) (path root : Path) (e : Entry) (q : String) (limit : Option Int) (n : Int),
    rootOf t path = .ok root → latest root entries = some e → limit.or c.config.maxResults = some n →
      c'.rank o t (some q) path limit =
        (fun result => result.mapError (.retrieval (some q))) <$> c.hybrid.rank (.of o.library) o e.index q n
  /-- What is known is known of this index, and reported with its report. -/
  known : ∀ (t : FileTree) (path root : Path) (e : Entry), rootOf t path = .ok root → latest root entries = some e →
    c'.statistics t path =
      .ok { report := e.report, packages := e.index.packages.length, edges := e.index.edgeCount, strategy := c.hybrid.name }
  /-- A query is replied to as by a client that has this index alone, and never with the want of one. -/
  seen : ∀ (op : Operation) (root : Path) (e : Entry), op.request.builds = false →
    op.request.root op.files = .ok root → latest root entries = some e →
      op.reply c' = op.reply (c.register root e.index e.report) ∧ ∀ r, op.reply c' ≠ .error (.notBuilt r)
  missing : ∀ (op : Operation) (root : Path), op.request.builds = false →
    op.request.root op.files = .ok root → latest root entries = none → op.reply c' = .error (.notBuilt root)
  /-- A path without a root is reported as such. -/
  circle : ∀ (op : Operation) (fault : ClientFault), op.request.builds = false →
    op.request.root op.files = .error fault → (∃ e, fault = .circle e) ∧ op.reply c' = .error fault

/-- What an operation changes. -/
structure Frame (op : Operation) (c : Client) : Prop where
  query : op.request.builds = false → op.after c = c
  failure : ∀ fault, op.reply c = .error fault → op.after c = c
  /-- A request for an index fails or changes the entries of its own root, and no others. -/
  success : ∀ r, op.request.builds = true → op.reply c = .ok r →
    ∃ e, op.built c = some e ∧ r = .report e.report ∧ op.request.root op.files = .ok e.root ∧
      Table.get? e.root (op.after c).indexes = some e.index ∧
      Table.get? e.root (op.after c).reports = some e.report ∧
      ∀ root, root ≠ e.root → Table.get? root (op.after c).indexes = Table.get? root c.indexes ∧
        Table.get? root (op.after c).reports = Table.get? root c.reports
  /-- It succeeds if something is built, -/
  built : ∀ e, op.built c = some e → op.reply c = .ok (.report e.report)
  /-- and fails if nothing is built. -/
  unbuilt : op.request.builds = true → op.built c = none → ∃ fault, op.reply c = .error fault

theorem frame (op : Operation) (c : Client) : Frame op c := by
  cases hbuilds : op.request.builds with
  | false =>
      refine ⟨fun _ => after_of_query hbuilds, fun _ _ => after_of_query hbuilds, fun _ h => ?_, fun _ h => ?_, fun h => ?_⟩
      · rw [hbuilds] at h
        cases h
      · rw [built_of_query hbuilds] at h
        cases h
      · rw [hbuilds] at h
        cases h
  | true =>
      rcases step_cases hbuilds c with ⟨e, he⟩ | hfails
      · refine ⟨fun h => ?_, fun fault h => ?_, fun r _ h => ?_, fun e' h => ?_, fun _ h => ?_⟩
        · rw [hbuilds] at h
          cases h
        · rw [he.reply] at h
          cases h
        · rw [he.reply] at h
          refine ⟨e, he.built, (Except.ok.inj h).symm, he.root, ?_, ?_, fun root hroot => ⟨?_, ?_⟩⟩ <;> rw [he.after]
          · exact (Table.get?_put _ _ _ _).trans (if_pos rfl)
          · exact (Table.get?_put _ _ _ _).trans (if_pos rfl)
          · exact (Table.get?_put _ _ _ _).trans (if_neg fun e => hroot e.symm)
          · exact (Table.get?_put _ _ _ _).trans (if_neg fun e => hroot e.symm)
        · rw [he.built] at h
          exact Option.some.inj h ▸ he.reply
        · rw [he.built] at h
          cases h
      · refine ⟨fun _ => hfails.after, fun _ _ => hfails.after, fun r _ h => ?_, fun e h => ?_, fun _ _ => hfails.reply⟩
        · obtain ⟨fault, hfault⟩ := hfails.reply
          rw [hfault] at h
          cases h
        · rw [hfails.built] at h
          cases h

theorem holds_registered {c : Client} (hindexes : c.indexes = []) (hreports : c.reports = []) {entries : List Entry}
    (hdescribed : ∀ e ∈ entries, e.report.Describes e.index) : Holds c entries (registered entries c) where
  settings := rfl
  roots := ⟨keys_registered, Table.nodup_ofList _⟩
  described := by
    intro root ix hix
    rw [get?_indexes_registered] at hix
    obtain ⟨e, he, rfl⟩ := Option.map_eq_some_iff.mp hix
    refine ⟨e.report, ?_, hdescribed e (List.mem_of_mem_filter (List.mem_of_getLast? he))⟩
    rw [get?_reports_registered, he]
    rfl
  found := indexOf_registered entries c
  ranked := by
    intro o t path root e q limit n hroot he hn
    have hix : indexOf t path (registered entries c) = .ok e.index := by
      rw [indexOf_registered, hroot]
      dsimp only
      rw [he]
    have hlimit : limit.or (registered entries c).config.maxResults = some n := hn
    unfold rank
    rw [hix]
    dsimp only
    rw [hlimit]
    funext j
    cases h : c.hybrid.rank (.of o.library) o e.index q n j with
    | mk result j' =>
        have h' : (registered entries c).hybrid.rank (.of o.library) o e.index q n j = (result, j') := h
        simp only [Session.bind_run, Functor.map, StateT.map, h, h']
        cases result <;> rfl
  known := by
    intro t path root e hroot he
    unfold statistics
    rw [hroot]
    dsimp only
    rw [get?_indexes_registered, get?_reports_registered, he]
    rfl
  seen := by
    intro op root e hquery hroot he
    have hix : Table.get? root (registered entries c).indexes = some e.index := by
      rw [get?_indexes_registered, he]
      rfl
    have hreport : Table.get? root (registered entries c).reports = some e.report := by
      rw [get?_reports_registered, he]
      rfl
    refine ⟨reply_congr c _ _ hquery hroot (hix.trans ?_) (hreport.trans ?_), reply_ne_notBuilt hquery hroot hix hreport⟩
    · rw [hindexes, Table.get?_put, if_pos rfl]
    · rw [hreports, Table.get?_put, if_pos rfl]
  missing := by
    intro op root hquery hroot hnone
    refine reply_of_not_found hquery ?_
    unfold Request.found
    rw [hroot]
    dsimp only
    rw [get?_indexes_registered, hnone]
    rfl
  circle := by
    intro op fault hquery hroot
    refine ⟨circle_of_root hquery hroot, reply_of_not_found hquery ?_⟩
    unfold Request.found
    rw [hroot]

theorem registries_of_create {config : Config} {embedder : Option Embedder} {model : Option Model} {c : Client}
    (h : create config embedder model = .ok c) : c.indexes = [] ∧ c.reports = [] := by
  unfold create at h
  cases embedder with
  | some e =>
      cases h
      exact ⟨rfl, rfl⟩
  | none =>
      cases he : Embedder.ofConfig config with
      | error e =>
          rw [he] at h
          cases h
      | ok e =>
          rw [he] at h
          cases h
          exact ⟨rfl, rfl⟩

/-- **The registries over whole runs.** After any operations, each with whatever outside, files and journal it meets,
a client holds what they built, the last index of a root counting, and its queries see no other; and a further
operation leaves the registries as they are, unless it builds an index, which changes the entries of its own root
only. -/
theorem registries_exact (config : Config) (embedder : Option Embedder) (model : Option Model) (c : Client)
    (hc : create config embedder model = .ok c) (ops : List Operation) :
    Holds c (history ops c) (run ops c) ∧
      ∀ op, Frame op (run ops c) ∧ op.built (run ops c) = op.built c := by
  obtain ⟨hindexes, hreports⟩ := registries_of_create hc
  rw [run_eq hindexes hreports]
  exact ⟨holds_registered hindexes hreports fun e he => describes_of_mem_history he, fun op =>
    ⟨frame op _, built_registered op _ c⟩⟩

/-- One dump is loaded twice, first for its own directory and then for another one. In between nothing is loaded, as
there is no such file. -/
theorem registries_exact_two_roots :
    let method := Index.member "m.a" "a" []
    let files : FileTree := ⟨.directory [("dump.json", .file (Dump.text false [method]).toUTF8)], []⟩
    let op (r : Request) : Operation := ⟨(.scripted none fun _ => .text ""), files, {}, r⟩
    let ops := [op (.load ⟨"", ["dump.json"]⟩ none), op (.load ⟨"/", ["missing.json"]⟩ none),
      op (.load ⟨"/", ["dump.json"]⟩ (some ⟨"", ["src"]⟩))]
    ∃ c, create {} none none = .ok c ∧
      (history ops c).map (·.root) = [⟨"/", []⟩, ⟨"/", ["src"]⟩] ∧
      (op (.size ⟨"/", ["src"]⟩)).reply (run ops c) = .ok (.size 1) ∧
      (op (.size ⟨"/", ["lib"]⟩)).reply (run ops c) = .error (.notBuilt ⟨"/", ["lib"]⟩) := by
  intro method files op ops
  have hresolve : ∀ (p : Path) (name : String), p.parts = [name] → name ≠ ".." → name ≠ "." →
      rootOf files p = .ok ⟨"/", [name]⟩ := by
    intro p name hp hb hs
    have hl : ∀ target, Node.child? name [("dump.json", .file (Dump.text false [method]).toUTF8)] ≠ some (.link target) := by
      intro target h
      unfold Node.child? at h
      split at h <;> cases h
    unfold rootOf
    rw [FileTree.resolve_name hp hb hs hl]
  have hdump : files.load ⟨"/", ["dump.json"]⟩ = .ok [method] := by
    have hfind : files.find ⟨"/", ["dump.json"]⟩ =
        .ok ⟨["dump.json"], some (.file (Dump.text false [method]).toUTF8)⟩ :=
      Node.follow_of_leads (.enter rfl (by decide) (by decide) rfl (fun _ => Node.noConfusion) (.done _ _))
    have hbytes : files.bytes ⟨"/", ["dump.json"]⟩ = .ok (Dump.text false [method]).toUTF8 := by
      unfold FileTree.bytes FileTree.node
      rw [hfind]
    exact FileTree.load_text hbytes (by decide +kernel) fun h => absurd h Bool.false_ne_true
  obtain ⟨fault, hmissing⟩ : ∃ fault, files.load ⟨"/", ["missing.json"]⟩ = .error fault := by
    have hfind : files.find ⟨"/", ["missing.json"]⟩ = .ok ⟨["missing.json"], none⟩ :=
      Node.follow_of_leads (.fresh _ rfl (by decide) (by decide) rfl)
    unfold FileTree.load FileTree.records FileTree.bytes FileTree.node
    rw [hfind]
    exact ⟨_, rfl⟩
  obtain ⟨c, hc⟩ : ∃ c, create {} none none = .ok c := ⟨_, rfl⟩
  let entry (root : Path) : Entry := ⟨root, .ofFragments false [method], .ofRun {} false root.text
    { index := .ofFragments false [method] }⟩
  have hbuilt : ∀ file path root, rootForFile files ⟨"/", ["dump.json"]⟩ path = .ok root → file.parts = ["dump.json"] →
      (op (.load file path)).built c = some (entry root) := by
    intro file path root hroot hfile
    cases hc
    simp only [Operation.built, op]
    rw [hresolve file "dump.json" hfile (by decide) (by decide)]
    simp only [Except.toOption, Option.bind_eq_bind, Option.bind_some]
    rw [hroot, hdump]
    rfl
  have hunbuilt : (op (.load ⟨"/", ["missing.json"]⟩ none)).built c = none := by
    simp only [Operation.built, op]
    rw [hresolve _ "missing.json" rfl (by decide) (by decide)]
    simp only [Except.toOption, Option.bind_eq_bind, Option.bind_some, rootForFile, hmissing, Option.bind_none]
  have hhistory : history ops c = [entry ⟨"/", []⟩, entry ⟨"/", ["src"]⟩] := by
    have hfirst := hbuilt ⟨"", ["dump.json"]⟩ none ⟨"/", []⟩ rfl rfl
    have hthird := hbuilt ⟨"/", ["dump.json"]⟩ (some ⟨"", ["src"]⟩) ⟨"/", ["src"]⟩
      (hresolve ⟨"", ["src"]⟩ "src" rfl (by decide) (by decide)) rfl
    simp only [history, ops, List.filterMap_cons, List.filterMap_nil, hfirst, hunbuilt, hthird]
  obtain ⟨hholds, _⟩ := registries_exact {} none none c hc ops
  rw [hhistory] at hholds
  refine ⟨c, hc, by rw [hhistory]; rfl, ?_, ?_⟩
  · show (indexOf files ⟨"/", ["src"]⟩ (run ops c)).map (fun ix => Reply.size ix.size) = _
    rw [hholds.found, hresolve _ "src" rfl (by decide) (by decide)]
    rfl
  · exact hholds.missing (op (.size ⟨"/", ["lib"]⟩)) _ rfl (hresolve _ "lib" rfl (by decide) (by decide)) rfl

end Registries

end FragmentSearch.Client
