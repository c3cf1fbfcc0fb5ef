import FragmentSearch.Agent.Tools
import FragmentSearch.Proofs.Client.Requests
import FragmentSearch.Proofs.Files.Resolution
import FragmentSearch.Proofs.Json.Grammar
import FragmentSearch.Proofs.Text.Words

/-!
# One server, many calls

The calls of an agent share one client. A call may find other files, another outside and another journal than the one
before.

* `Gives` -- what can be said of the result of a session, whatever the journal;
* `Effect` -- what a call may do to the client: nothing, build the index of a directory that has none, or, if it is
  `index_directory`, build one in any case; `effect_call` says that there is nothing else;
* `Answered` -- what follows for one call, `answered` proves it;
* `serve` -- the client after many calls, and `serve_exact` what it keeps.

The answer to `search_code` is JSON whatever happens: a list of results, or the report of a fault.
-/

namespace FragmentSearch.Agent

open FragmentSearch.Text

/-! ## 1. What a session gives -/

section Sessions

variable {α β : Type} {P : α → Prop} {Q : β → Prop}

/-- Whatever has been requested before, the result of a session has a property. -/
def Gives (s : Session α) (P : α → Prop) : Prop := ∀ j, P (s j).1

theorem Gives.pure {x : α} (h : P x) : Gives (Pure.pure x) P := fun _ => h

/-- A session goes on with what another one gives. -/
theorem Gives.bind {s : Session α} {k : α → Session β} (hs : Gives s P) (hk : ∀ x, P x → Gives (k x) Q) :
    Gives (s >>= k) Q := by
  intro j
  rw [Session.bind_run]
  exact hk (s j).1 (hs j) (s j).2

theorem Gives.any (s : Session α) : Gives s fun _ => True := fun _ => trivial

end Sessions

/-! ## 2. What a call does to the client -/

/-- A path leads to a directory whose index is kept under `root`: the path is resolved, and what comes of it once
more. -/
def LeadsToDirectory (a : Setting) (path : String) (root : Path) : Prop :=
  ∃ p, rootOf a path = .ok p ∧ Client.rootOf a.files p = .ok root ∧ a.files.isDirectory p = true

/-- The root is a directory itself. That a name of the current directory is a single dot cannot be. -/
theorem LeadsToDirectory.isDirectory {a : Setting} {path : String} {root : Path} (h : LeadsToDirectory a path root)
    (hhere : "." ∉ a.files.here) : a.files.isDirectory root = true := by
  have hresolve : ∀ {p q : Path}, Client.rootOf a.files p = .ok q → a.files.resolve p = .ok q := by
    intro p q h
    unfold Client.rootOf at h
    split at h
    · next hp => exact hp.trans (congrArg Except.ok (Except.ok.inj h))
    · cases h
  obtain ⟨p, hp, hroot, hd⟩ := h
  have hmeant : Client.rootOf a.files (meant a path) = .ok p := by
    unfold rootOf at hp
    split at hp
    · next hp' => exact hp'.trans (congrArg Except.ok (Except.ok.inj hp))
    · cases hp
  exact FileTree.isDirectory_of_resolve hhere (hresolve hmeant) (hresolve hroot) hd

/-- The path of a call that needs an index. -/
def ToolCall.needs? : ToolCall → Option String
  | .searchCode _ path _ => some path
  | .askCodebase _ path _ => some path
  | .indexStats path => some path
  | .indexDirectory _ => none
  | .health => none

/-- What a call may leave. -/
inductive Effect (a : Setting) (c : Client) : ToolCall → Client → Prop
  | stays (t : ToolCall) : Effect a c t c
  | builds {t : ToolCall} {path : String} {root : Path} (ix : Index) (report : IndexReport) (ht : t.needs? = some path)
      (hpath : LeadsToDirectory a path root) (hnew : Table.get? root c.indexes = none) :
      Effect a c t (c.register root ix report)
  | rebuilds {path : String} {root : Path} (ix : Index) (report : IndexReport) (hpath : LeadsToDirectory a path root) :
      Effect a c (.indexDirectory path) (c.register root ix report)

section Effects

variable {a : Setting} {c : Client} {path : String} {p : Path}

/-- A path is indexed, or the client stays as it is. -/
def Indexed (a : Setting) (path : String) (c c' : Client) : Prop :=
  c' = c ∨ ∃ root ix report, LeadsToDirectory a path root ∧ c' = c.register root ix report

theorem indexed_indexRoot (hp : rootOf a path = .ok p) :
    Gives (indexRoot a path p c) fun r => Indexed a path c r.2 := by
  unfold indexRoot
  by_cases hd : a.files.isDirectory p = true
  · rw [if_pos hd]
    have hindex : Gives (c.index a.outside a.files p) fun r => Indexed a path c r.2 := by
      intro j
      rcases Client.index_cases a.outside a.files j p c with ⟨e, he⟩ | hfails
      · exact Or.inr ⟨e.root, e.index, e.report, ⟨p, hp, he.root, hd⟩, he.after⟩
      · exact Or.inl hfails.after
    refine hindex.bind ?_
    rintro ⟨result, c'⟩ hc'
    cases result with
    | ok report => exact .pure hc'
    | error e => exact .pure hc'
  · rw [if_neg hd]
    exact .pure (Or.inl rfl)

theorem effect_indexDirectory : Gives (indexDirectory a path c) fun r => Effect a c (.indexDirectory path) r.2 := by
  unfold indexDirectory
  cases hp : rootOf a path with
  | error e => exact .pure (.stays _)
  | ok p =>
      refine (indexed_indexRoot hp).bind ?_
      rintro ⟨result, c'⟩ (rfl | ⟨root, ix, report, hpath, rfl⟩)
      · exact .pure (.stays _)
      · exact .pure (.rebuilds ix report hpath)

/-- That there is no index is said of a root that has none. -/
theorem get?_of_notBuilt {t : FileTree} {root : Path} (h : c.indexOf t p = .error (.notBuilt root)) :
    Client.rootOf t p = .ok root ∧ Table.get? root c.indexes = none := by
  unfold Client.indexOf at h
  cases hroot : Client.rootOf t p with
  | error e =>
      rw [hroot] at h
      obtain ⟨e', rfl⟩ := Client.circle_of_root (r := .size p) rfl hroot
      cases h
  | ok root' =>
      rw [hroot] at h
      dsimp only at h
      cases hix : Table.get? root' c.indexes with
      | some ix =>
          rw [hix] at h
          cases h
      | none =>
          rw [hix] at h
          cases h
          exact ⟨rfl, hix⟩

/-- **An index is built only where there is none.** -/
theorem effect_ensureIndex (t : ToolCall) (ht : t.needs? = some path) :
    Gives (ensureIndex a path c) fun r => Effect a c t r.2 := by
  unfold ensureIndex
  cases hp : rootOf a path with
  | error e => exact .pure (.stays _)
  | ok p =>
      dsimp only
      split
      · exact .pure (.stays _)
      · next root hnone =>
          obtain ⟨hroot, hnew⟩ := get?_of_notBuilt hnone
          refine (indexed_indexRoot hp).bind ?_
          rintro ⟨result, c'⟩ (rfl | ⟨root', ix, report, hpath, rfl⟩)
          · exact .pure (.stays _)
          · obtain ⟨p', hp', hroot', -⟩ := id hpath
            cases hp.symm.trans hp'
            cases hroot.symm.trans hroot'
            exact .pure (.builds ix report ht hpath hnew)
      · exact .pure (.stays _)

theorem effect_searchCode (query : Json) (limit : Option Int) :
    Gives (searchCode a query path limit c) fun r => Effect a c (.searchCode query path limit) r.2 := by
  unfold searchCode
  dsimp only
  split
  · exact .pure (.stays _)
  · refine (effect_ensureIndex (.searchCode query path limit) rfl).bind ?_
    rintro ⟨root, c'⟩ hc'
    cases root with
    | error e => exact .pure hc'
    | ok root =>
        refine (Gives.any _).bind fun result _ => ?_
        cases result with
        | ok s => exact .pure hc'
        | error e => exact .pure hc'

theorem effect_askCodebase (question : Option String) (limit : Option Int) :
    Gives (askCodebase a question path limit c) fun r => Effect a c (.askCodebase question path limit) r.2 := by
  unfold askCodebase
  refine (effect_ensureIndex (.askCodebase question path limit) rfl).bind ?_
  rintro ⟨root, c'⟩ hc'
  cases root with
  | error e => exact .pure hc'
  | ok root =>
      refine (Gives.any _).bind fun result _ => ?_
      cases result with
      | ok answer => exact .pure hc'
      | error e => exact .pure hc'

theorem effect_indexStats : Gives (indexStats a path c) fun r => Effect a c (.indexStats path) r.2 := by
  unfold indexStats
  refine (effect_ensureIndex (.indexStats path) rfl).bind ?_
  rintro ⟨root, c'⟩ hc'
  cases root with
  | error e => exact .pure hc'
  | ok root =>
      dsimp only
      split
      · exact .pure hc'
      · exact .pure hc'

/-- **What a call does to the client**, however it ends. -/
theorem effect_call (t : ToolCall) : Gives (call a t c) fun r => Effect a c t r.2 := by
  unfold call
  cases t with
  | indexDirectory path => exact effect_indexDirectory
  | searchCode query path limit => exact (effect_searchCode query limit).bind fun _ h => .pure h
  | askCodebase question path limit => exact effect_askCodebase question limit
  | indexStats path => exact effect_indexStats
  | health => exact .pure (.stays _)

end Effects

/-! ## 3. What is kept -/

section Kept

variable {a : Setting} {c c' : Client} {t : ToolCall} {root : Path}

/-- Does the call ask for a new index of a directory that is kept under `root`? -/
def Rebuilds (a : Setting) (t : ToolCall) (root : Path) : Prop :=
  ∃ path, t = .indexDirectory path ∧ LeadsToDirectory a path root

/-- An index that is there stays, with its report, unless the call asks for a new one. -/
theorem Effect.get?_eq (h : Effect a c t c') {ix : Index} (hix : Table.get? root c.indexes = some ix)
    (ht : ¬ Rebuilds a t root) :
    Table.get? root c'.indexes = some ix ∧ Table.get? root c'.reports = Table.get? root c.reports := by
  cases h with
  | stays t => exact ⟨hix, rfl⟩
  | @builds _ path root' ix' report ht' hpath hnew =>
      have hne : ¬ root' = root := by
        rintro rfl
        cases hnew.symm.trans hix
      refine ⟨?_, ?_⟩
      · exact (Table.get?_put root root' ix' c.indexes).trans ((if_neg hne).trans hix)
      · exact (Table.get?_put root root' report c.reports).trans (if_neg hne)
  | @rebuilds path root' ix' report hpath =>
      have hne : ¬ root' = root := by
        rintro rfl
        exact ht ⟨path, rfl, hpath⟩
      refine ⟨?_, ?_⟩
      · exact (Table.get?_put root root' ix' c.indexes).trans ((if_neg hne).trans hix)
      · exact (Table.get?_put root root' report c.reports).trans (if_neg hne)

theorem Effect.of_needs (h : Effect a c t c') {path : String} (ht : t.needs? = some path) :
    c' = c ∨ ∃ root ix report, LeadsToDirectory a path root ∧ ("." ∉ a.files.here → a.files.isDirectory root = true) ∧
      Table.get? root c.indexes = none ∧ c' = c.register root ix report := by
  cases h with
  | stays t => exact Or.inl rfl
  | builds ix report ht' hpath hnew =>
      cases ht.symm.trans ht'
      exact Or.inr ⟨_, ix, report, hpath, hpath.isDirectory, hnew, rfl⟩
  | rebuilds ix report hpath => cases ht

/-- No call removes an entry. -/
theorem Effect.keys_subset (h : Effect a c t c') :
    Table.keys c.indexes ⊆ Table.keys c'.indexes ∧ Table.keys c.reports ⊆ Table.keys c'.reports := by
  have hregister : ∀ (root : Path) (ix : Index) (report : IndexReport),
      Table.keys c.indexes ⊆ Table.keys (c.register root ix report).indexes ∧
        Table.keys c.reports ⊆ Table.keys (c.register root ix report).reports := fun root ix report =>
    ⟨fun k hk => Table.mem_keys_adjust.mpr (Or.inl hk), fun k hk => Table.mem_keys_adjust.mpr (Or.inl hk)⟩
  cases h with
  | stays t => exact ⟨fun _ hk => hk, fun _ hk => hk⟩
  | builds ix report ht hpath hnew => exact hregister _ ix report
  | rebuilds ix report hpath => exact hregister _ ix report

end Kept

/-! ## 4. The answer to a search -/

section Answers

variable {a : Setting} {c : Client} {path : String}

/-- A JSON text of a list of results, or of an object with an error and no results. -/
def IsSearchAnswer (text : String) : Prop :=
  ∃ v, Json.Spells text.toList v ∧
    ((∃ results : List SearchResult, v = .list (results.map Report.record)) ∨
      ∃ message, v = .object [("error", .text message), ("results", .list [])])

theorem isSearchAnswer_failureText (message : String) : IsSearchAnswer (failureText message) := by
  refine ⟨_, Json.spells_render (.object ?_), Or.inr ⟨message, rfl⟩⟩
  simp only [List.forall_mem_cons, List.not_mem_nil, false_imp_iff, implies_true, and_true]
  exact ⟨.text message, .list fun v hv => absurd hv List.not_mem_nil⟩

/-- The scores that are written are numbers. -/
theorem isFinite_record {r : SearchResult} (h : Report.isWritable r = true) : Json.IsFinite (Report.record r) := by
  have hname : Json.IsFinite (Json.ofText? r.name) := by
    cases r.name with
    | none => exact .null
    | some s => exact .text s
  have hscore : Json.IsFinite (.float (Decimal.round Report.scorePlaces r.score)) := by
    unfold Report.isWritable at h
    split at h
    · next hfinite => exact .float hfinite
    · cases h
  refine .object ?_
  simp only [List.forall_mem_cons, List.not_mem_nil, false_imp_iff, implies_true, and_true]
  exact ⟨.text _, hname, .text _, .text _, .int _, .int _, hscore, .int _, .text _, .text _, .text _, .text _⟩

theorem isSearchAnswer_json {results : List SearchResult} {s : String} (h : Report.json results = .ok s) :
    IsSearchAnswer s := by
  unfold Report.json at h
  split at h
  · cases h
  · next hall =>
      cases h
      refine ⟨_, Json.spells_renderIndented (.list fun v hv => ?_), Or.inl ⟨results, rfl⟩⟩
      obtain ⟨r, hr, rfl⟩ := List.mem_map.mp hv
      have hwritable := List.find?_eq_none.mp hall r hr
      exact isFinite_record (by simpa using hwritable)

theorem isSearchAnswer_resultsText (query : String) (root : Path) (limit : Option Int) :
    Gives (resultsText a query root limit c) fun r => ∀ s, r = .ok s → IsSearchAnswer s := by
  unfold resultsText
  refine (Gives.any _).bind fun results _ => ?_
  cases results with
  | error e => exact .pure fun s hs => nomatch hs
  | ok results =>
      dsimp only
      split
      · next s hs =>
          refine .pure fun s' hs' => ?_
          cases hs'
          exact isSearchAnswer_json hs
      · exact .pure fun s hs => nomatch hs

/-- **The answer to a search is JSON.** -/
theorem isSearchAnswer_searchCode (query : Json) (limit : Option Int) :
    Gives (searchCode a query path limit c) fun r => IsSearchAnswer r.1 := by
  unfold searchCode
  dsimp only
  split
  · exact .pure (isSearchAnswer_failureText _)
  · refine (Gives.any _).bind ?_
    rintro ⟨root, c'⟩ -
    cases root with
    | error e => exact .pure (isSearchAnswer_failureText _)
    | ok root =>
        refine (isSearchAnswer_resultsText _ root limit).bind fun result hresult => ?_
        cases result with
        | ok s => exact .pure (hresult s rfl)
        | error e => exact .pure (isSearchAnswer_failureText _)

/-- A query that is null, or a text of nothing but blanks. -/
inductive IsBlankQuery : Json → Prop
  | null : IsBlankQuery .null
  | text {s : String} (h : ∀ ch ∈ s.toList, isBlank ch = true) : IsBlankQuery (.text s)

theorem queryOf_blank {q : Json} (h : IsBlankQuery q) : queryOf q = "" := by
  cases h with
  | null => rfl
  | text h => exact trim_eq_empty_iff.mpr h

/-- A search without a query does nothing but say so. -/
theorem call_of_blank {query : Json} (h : IsBlankQuery query) (limit : Option Int) (j : Journal) :
    call a (.searchCode query path limit) c j = ((.ok (failureText "Missing required argument: query"), c), j) := by
  have hsearch : searchCode a query path limit c = pure (failureText "Missing required argument: query", c) := by
    unfold searchCode
    rw [queryOf_blank h]
    rfl
  unfold call
  simp only [hsearch]
  rfl

end Answers

/-! ## 5. Many calls -/

/-- A call with what it meets: the setting, and the journal of what has been requested before. -/
structure Invocation where
  setting : Setting
  journal : Journal
  call : ToolCall

namespace Invocation

/-- The reply to a call. -/
def reply (n : Invocation) (c : Client) : Except ToolFault String := (Agent.call n.setting n.call c n.journal).1.1

/-- The client that is left. -/
def after (n : Invocation) (c : Client) : Client := (Agent.call n.setting n.call c n.journal).1.2

end Invocation

/-- The client after some calls. -/
def serve (ns : List Invocation) (c : Client) : Client := ns.foldl (fun c n => n.after c) c

/-- What a call gives and what it leaves. -/
structure Answered (n : Invocation) (c : Client) : Prop where
  /-- A search is answered in JSON, -/
  search : ∀ query path limit, n.call = .searchCode query path limit →
    ∃ text, n.reply c = .ok text ∧ IsSearchAnswer text
  /-- and without a query nothing happens at all. -/
  blank : ∀ query path limit, n.call = .searchCode query path limit → IsBlankQuery query →
    Agent.call n.setting n.call c n.journal =
      ((.ok (failureText "Missing required argument: query"), c), n.journal)
  /-- An index stays, with its report, unless the call asks for a new one. -/
  kept : ∀ (root : Path) (ix : Index), Table.get? root c.indexes = some ix → ¬ Rebuilds n.setting n.call root →
    Table.get? root (n.after c).indexes = some ix ∧
      Table.get? root (n.after c).reports = Table.get? root c.reports
  /-- A call that needs an index builds it for a directory that has none, and changes nothing else. -/
  built : ∀ path, n.call.needs? = some path → n.after c = c ∨
    ∃ root ix report, LeadsToDirectory n.setting path root ∧
      ("." ∉ n.setting.files.here → n.setting.files.isDirectory root = true) ∧
      Table.get? root c.indexes = none ∧ n.after c = c.register root ix report
  /-- No entry is removed. -/
  entries : Table.keys c.indexes ⊆ Table.keys (n.after c).indexes ∧ Table.keys c.reports ⊆ Table.keys (n.after c).reports

section Runs

variable {c : Client}

theorem answered (n : Invocation) (c : Client) : Answered n c := by
  have heffect : Effect n.setting c n.call (n.after c) := effect_call n.call n.journal
  refine ⟨fun query path limit hcall => ?_, fun query path limit hcall hblank => ?_,
    fun root ix hix hrebuilds => heffect.get?_eq hix hrebuilds, fun path hneeds => ?_, heffect.keys_subset⟩
  · have hreply : Gives (call n.setting (.searchCode query path limit) c) fun r =>
        ∃ text, r.1 = .ok text ∧ IsSearchAnswer text :=
      (isSearchAnswer_searchCode query limit).bind fun r h => .pure ⟨r.1, rfl, h⟩
    unfold Invocation.reply
    rw [hcall]
    exact hreply n.journal
  · rw [hcall]
    exact call_of_blank hblank limit n.journal
  · exact heffect.of_needs hneeds

/-- Over some calls none of which asks for a new one, an index stays. -/
theorem get?_serve {root : Path} {ix : Index} {ns : List Invocation} (hix : Table.get? root c.indexes = some ix)
    (hns : ∀ n ∈ ns, ¬ Rebuilds n.setting n.call root) : Table.get? root (serve ns c).indexes = some ix := by
  induction ns generalizing c with
  | nil => exact hix
  | cons n ns ih =>
      have hstep := ((answered n c).kept root ix hix (hns n List.mem_cons_self)).1
      exact ih hstep fun m hm => hns m (List.mem_cons_of_mem n hm)

theorem keys_serve (ns : List Invocation) (c : Client) :
    Table.keys c.indexes ⊆ Table.keys (serve ns c).indexes ∧ Table.keys c.reports ⊆ Table.keys (serve ns c).reports := by
  induction ns generalizing c with
  | nil => exact ⟨fun _ hk => hk, fun _ hk => hk⟩
  | cons n ns ih =>
      obtain ⟨hindexes, hreports⟩ := (answered n c).entries
      obtain ⟨hindexes', hreports'⟩ := ih (n.after c)
      exact ⟨fun _ hk => hindexes' (hindexes hk), fun _ hk => hreports' (hreports hk)⟩

/-- **One index for a path, kept.** In a run of calls, each of them gives and leaves what `Answered` says, an index
that is there stays until a call asks for a new one, and no entry is ever removed. -/
theorem serve_exact (c : Client) (before after : List Invocation) :
    (∀ n, Answered n (serve before c)) ∧
    (∀ root ix, Table.get? root (serve before c).indexes = some ix →
      (∀ n ∈ after, ¬ Rebuilds n.setting n.call root) →
      Table.get? root (serve (before ++ after) c).indexes = some ix) ∧
    Table.keys (serve before c).indexes ⊆ Table.keys (serve (before ++ after) c).indexes ∧
    Table.keys (serve before c).reports ⊆ Table.keys (serve (before ++ after) c).reports := by
  have hsplit : serve (before ++ after) c = serve after (serve before c) := List.foldl_append
  rw [hsplit]
  exact ⟨fun n => answered n _, fun root ix hix hns => get?_serve hix hns, keys_serve after _⟩

end Runs

end FragmentSearch.Agent
