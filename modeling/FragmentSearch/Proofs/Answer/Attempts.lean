import FragmentSearch.Answer
import Mathlib.Data.List.Basic

/-!
# Attempts and pauses

A question is sent until an attempt gives a text or finds that the kit is missing, or until the attempts are used up.
The attempts are followed here for anything that may be asked: what an attempt does is a parameter. Not every length of
time can be paused for, so what is said of all attempts is said for pauses that are accepted.

* `Event`, `course` -- what happens when so many attempts are made: the attempts, and between any two of them a pause;
* `outcome` -- the outcome of an attempt, if all before it have failed;
* `Outside.Accepts` -- the powers of a base, up to one of them, are lengths of time that can be paused for;
* `attempts_of_ok`, `attempts_of_notInstalled`, `attempts_of_last`, `attempts_of_pause`, `attempts_of_refusedPause` --
  what one attempt does, and the pause after it;
* `attempts_of_first_ok`, `attempts_of_first_notInstalled`, `attempts_of_all_failed` -- so the attempts stop at the first
  that has not failed, or not at all;
* `attempts_of_first_refusedPause` -- or they break off where a pause is refused;
* `answer_retries` -- the answer, what was raised, the attempts and the pauses, for all outcomes and all refusals of pauses.
-/

namespace FragmentSearch

/-- So many powers of a base, from the power 0 on, are lengths of time that can be paused for. -/
def Outside.Accepts (o : Outside) (base : Float) (pauses : Nat) : Prop :=
  ∀ i < pauses, o.refusal (base ^ Float.ofNat i) = none

namespace Answerer

/-! ## 1. Events -/

/-- What happens while a question is asked. -/
inductive Event where
  | attempt
  | pause (seconds : Float)

/-- The journal after an event; `ask` makes an attempt. -/
def Event.run (ask : Session (Except ServiceFailure String)) (j : Journal) : Event → Journal
  | .attempt => (ask j).2
  | .pause seconds => j.withPause seconds

/-- So many attempts, and a pause after each of them. -/
def rounds (base : Float) (made : Nat) : List Event :=
  (List.range made).flatMap fun i => [.attempt, .pause (base ^ Float.ofNat i)]

/-- So many attempts, and a pause between any two of them. -/
def course (base : Float) : Nat → List Event
  | 0 => []
  | c + 1 => rounds base c ++ [.attempt]

section Outcomes

variable (base : Float) (ask : Session (Except ServiceFailure String)) (j : Journal)

/-- The journal after so many attempts with the pauses between them. -/
def after (c : Nat) : Journal := (course base c).foldl (Event.run ask) j

/-- The journal before the attempt of a number, counted from 0, if all attempts before it were followed by a pause. -/
def before (i : Nat) : Journal := (rounds base i).foldl (Event.run ask) j

/-- The outcome of the attempt of a number, counted from 0. -/
def outcome (i : Nat) : Except ServiceFailure String := (ask (before base ask j i)).1

/-- The outcome is a failure after which a question is asked again: any but a missing kit. -/
def Failed (r : Except ServiceFailure String) : Prop := ∃ e, r = .error e ∧ ∀ m, e ≠ .notInstalled m

theorem failed_or (r : Except ServiceFailure String) :
    Failed r ∨ (∃ s, r = .ok s) ∨ ∃ m, r = .error (.notInstalled m) := by
  cases r with
  | ok s => exact Or.inr (Or.inl ⟨s, rfl⟩)
  | error e =>
      cases e with
      | notInstalled m => exact Or.inr (Or.inr ⟨m, rfl⟩)
      | _ => exact Or.inl ⟨_, rfl, nofun⟩

variable {base ask j} {i : Nat}

theorem after_succ : after base ask j (i + 1) = (ask (before base ask j i)).2 := by
  unfold after course before
  rw [List.foldl_append]
  rfl

theorem before_succ : before base ask j (i + 1) = (after base ask j (i + 1)).withPause (base ^ Float.ofNat i) := by
  rw [after_succ]
  unfold before rounds
  rw [List.range_succ, List.flatMap_append, List.foldl_append]
  rfl

end Outcomes

/-! ## 2. One attempt -/

section Attempts

variable {o : Outside} {a : Answerer} {ask : Session (Except ServiceFailure String)} {left made : Nat}
  {last : Option ServiceFailure} {j : Journal}

theorem attempts_of_ok {s : String} (h : (ask j).1 = .ok s) :
    attempts o a ask (left + 1) made last j = (.ok s, (ask j).2) := by
  rw [attempts, Session.bind_run, h]
  rfl

theorem attempts_of_notInstalled {m : String} (h : (ask j).1 = .error (.notInstalled m)) :
    attempts o a ask (left + 1) made last j = (.error (.refused m), (ask j).2) := by
  rw [attempts, Session.bind_run, h]
  rfl

/-- After an attempt that has failed there is a pause before the next. -/
theorem attempts_of_failed {e : ServiceFailure} (h : (ask j).1 = .error e) (he : ∀ m, e ≠ .notInstalled m) :
    attempts o a ask (left + 1) made last j =
      match a.pauseBefore o left made (ask j).2 with
      | (.ok (), j') => attempts o a ask left (made + 1) (some e) j'
      | (.error refusal, j') => (.error refusal, j') := by
  rw [attempts, Session.bind_run, h]
  cases e with
  | notInstalled m => exact absurd rfl (he m)
  | _ =>
      dsimp only
      rw [Session.bind_run]
      generalize a.pauseBefore o left made (ask j).2 = paused
      obtain ⟨_ | _, _⟩ := paused <;> rfl

/-- After the last attempt there is no pause. -/
theorem attempts_of_last {e : ServiceFailure} (h : (ask j).1 = .error e) (he : ∀ m, e ≠ .notInstalled m) :
    attempts o a ask 1 made last j = attempts o a ask 0 (made + 1) (some e) (ask j).2 := by
  rw [attempts_of_failed h he]
  rfl

theorem attempts_of_pause {e : ServiceFailure} (h : (ask j).1 = .error e) (he : ∀ m, e ≠ .notInstalled m) (hleft : left ≠ 0)
    (hpause : o.refusal (a.config.backoffBase ^ Float.ofNat made) = none) :
    attempts o a ask (left + 1) made last j =
      attempts o a ask left (made + 1) (some e) ((ask j).2.withPause (a.config.backoffBase ^ Float.ofNat made)) := by
  rw [attempts_of_failed h he, pauseBefore, if_neg hleft, Outside.pause, hpause]

/-- A pause that is refused is not made, and no attempt is made after it. -/
theorem attempts_of_refusedPause {e : ServiceFailure} {m : String} (h : (ask j).1 = .error e)
    (he : ∀ m, e ≠ .notInstalled m) (hleft : left ≠ 0)
    (hpause : o.refusal (a.config.backoffBase ^ Float.ofNat made) = some m) :
    attempts o a ask (left + 1) made last j = (.error (.cannotPause m), (ask j).2) := by
  rw [attempts_of_failed h he, pauseBefore, if_neg hleft, Outside.pause, hpause]

/-! ## 3. All attempts -/

variable {n k : Nat}

/-- Attempts go on while they fail. -/
theorem attempts_skip (ho : o.Accepts a.config.backoffBase k) (hk : k < n)
    (h : ∀ i < k, Failed (outcome a.config.backoffBase ask j i)) :
    ∃ last, attempts o a ask n 0 none j = attempts o a ask (n - k) k last (before a.config.backoffBase ask j k) := by
  induction k with
  | zero => exact ⟨none, rfl⟩
  | succ k ih =>
      obtain ⟨last, hlast⟩ := ih (fun i hi => ho i (by omega)) (by omega) fun i hi => h i (by omega)
      obtain ⟨e, he, hne⟩ := h k (by omega)
      have hleft : n - k = n - (k + 1) + 1 := by omega
      rw [hlast, hleft, attempts_of_pause he hne (by omega) (ho k (by omega)), before_succ, after_succ]
      exact ⟨some e, rfl⟩

/-- The attempts stop at the first that gives a text. -/
theorem attempts_of_first_ok {s : String} (ho : o.Accepts a.config.backoffBase k) (hk : k < n)
    (h : ∀ i < k, Failed (outcome a.config.backoffBase ask j i)) (hs : outcome a.config.backoffBase ask j k = .ok s) :
    attempts o a ask n 0 none j = (.ok s, after a.config.backoffBase ask j (k + 1)) := by
  obtain ⟨last, hskip⟩ := attempts_skip ho hk h
  have hleft : n - k = n - (k + 1) + 1 := by omega
  rw [hskip, hleft, attempts_of_ok hs, after_succ]

/-- The attempts stop at the first that finds no kit. -/
theorem attempts_of_first_notInstalled {m : String} (ho : o.Accepts a.config.backoffBase k) (hk : k < n)
    (h : ∀ i < k, Failed (outcome a.config.backoffBase ask j i))
    (hm : outcome a.config.backoffBase ask j k = .error (.notInstalled m)) :
    attempts o a ask n 0 none j = (.error (.refused m), after a.config.backoffBase ask j (k + 1)) := by
  obtain ⟨last, hskip⟩ := attempts_skip ho hk h
  have hleft : n - k = n - (k + 1) + 1 := by omega
  rw [hskip, hleft, attempts_of_notInstalled hm, after_succ]

/-- **A pause that is refused breaks the attempts off.** If it would be the first, and all attempts before it have failed,
what is raised is neither an answer nor a refusal of the provider. -/
theorem attempts_of_first_refusedPause {m : String} (ho : o.Accepts a.config.backoffBase k) (hk : k + 1 < n)
    (h : ∀ i < k + 1, Failed (outcome a.config.backoffBase ask j i))
    (hm : o.refusal (a.config.backoffBase ^ Float.ofNat k) = some m) :
    attempts o a ask n 0 none j = (.error (.cannotPause m), after a.config.backoffBase ask j (k + 1)) := by
  have hkn : k < n := Nat.lt_of_succ_lt hk
  obtain ⟨last, hskip⟩ := attempts_skip ho hkn fun i hi => h i (by omega)
  obtain ⟨e, he, hne⟩ := h k (Nat.lt_succ_self k)
  have hleft : n - k = n - (k + 1) + 1 := by omega
  rw [hskip, hleft, attempts_of_refusedPause he hne (by omega) hm, after_succ]

/-- The failure of the last of so many attempts. -/
def lastFailure (r : Nat → Except ServiceFailure String) : Nat → Option ServiceFailure
  | 0 => none
  | c + 1 =>
    match r c with
    | .error e => some e
    | .ok _ => none

/-- If all attempts fail, all of them are made. -/
theorem attempts_of_all_failed (ho : o.Accepts a.config.backoffBase (n - 1))
    (h : ∀ i < n, Failed (outcome a.config.backoffBase ask j i)) :
    attempts o a ask n 0 none j =
      (.error (.refused (a.givingUp (after a.config.backoffBase ask j n).completionClient
        (lastFailure (outcome a.config.backoffBase ask j) n))), after a.config.backoffBase ask j n) := by
  cases n with
  | zero => rfl
  | succ m =>
      obtain ⟨last, hskip⟩ := attempts_skip (k := m) ho (Nat.lt_succ_self m) fun i hi => h i (by omega)
      obtain ⟨e, he, hne⟩ := h m (Nat.lt_succ_self m)
      have hleft : m + 1 - m = 0 + 1 := by omega
      rw [hskip, hleft, attempts_of_last he hne, after_succ, lastFailure, he]
      rfl

/-- Either all of some outcomes are failures, or there is a first that is none. -/
theorem failed_or_first (r : Nat → Except ServiceFailure String) (n : Nat) :
    (∀ i < n, Failed (r i)) ∨ ∃ k < n, (∀ i < k, Failed (r i)) ∧ ((∃ s, r k = .ok s) ∨ ∃ m, r k = .error (.notInstalled m)) := by
  induction n with
  | zero => exact Or.inl fun i hi => absurd hi (Nat.not_lt_zero i)
  | succ n ih =>
      rcases ih with hall | ⟨k, hk, hfirst, hend⟩
      · rcases failed_or (r n) with hn | hn
        · refine Or.inl fun i hi => ?_
          rcases Nat.lt_succ_iff_lt_or_eq.mp hi with hi | rfl
          · exact hall i hi
          · exact hn
        · exact Or.inr ⟨n, Nat.lt_succ_self n, hall, hn⟩
      · exact Or.inr ⟨k, by omega, hfirst, hend⟩

/-- Nothing but a refusal of the provider is raised. -/
theorem refused_of_attempts {e : ServiceFailure} (ho : o.Accepts a.config.backoffBase (n - 1))
    (h : (attempts o a ask n 0 none j).1 = .error e) : ∃ m, e = .refused m := by
  rcases failed_or_first (outcome a.config.backoffBase ask j) n with hall | ⟨k, hk, hfirst, ⟨s, hs⟩ | ⟨m, hm⟩⟩
  · rw [attempts_of_all_failed ho hall] at h
    exact ⟨_, (Except.error.inj h).symm⟩
  · rw [attempts_of_first_ok (fun i hi => ho i (by omega)) hk hfirst hs] at h
    cases h
  · rw [attempts_of_first_notInstalled (fun i hi => ho i (by omega)) hk hfirst hm] at h
    exact ⟨m, (Except.error.inj h).symm⟩

end Attempts

/-! ## 4. What is left in the journal -/

section Journals

variable {base : Float} {ask : Session (Except ServiceFailure String)} {j : Journal}

/-- What an attempt adds to and a pause keeps is there after so many attempts. -/
theorem after_induction (P : Nat → Journal → Prop) (h : P 0 j) (hask : ∀ i j', P i j' → P (i + 1) (ask j').2)
    (hpause : ∀ i seconds j', P i j' → P i (j'.withPause seconds)) (c : Nat) : P c (after base ask j c) := by
  have hbefore : ∀ i, P i (before base ask j i) := by
    intro i
    induction i with
    | zero => exact h
    | succ i ih =>
        rw [before_succ, after_succ]
        exact hpause _ _ _ (hask _ _ ih)
  cases c with
  | zero => exact h
  | succ c =>
      rw [after_succ]
      exact hask _ _ (hbefore c)

/-- **The pauses are the powers of the base in their order**, one less than there are attempts. -/
theorem pauses_after (hask : ∀ j, (ask j).2.pauses = j.pauses) (c : Nat) :
    (after base ask j c).pauses = j.pauses ++ (List.range (c - 1)).map fun i => base ^ Float.ofNat i := by
  have hbefore : ∀ i, (before base ask j i).pauses = j.pauses ++ (List.range i).map fun i => base ^ Float.ofNat i := by
    intro i
    induction i with
    | zero => exact (List.append_nil _).symm
    | succ i ih =>
        have hpause : (before base ask j (i + 1)).pauses =
            (before base ask j i).pauses ++ [base ^ Float.ofNat i] := by
          rw [before_succ, after_succ]
          exact congrArg (· ++ [base ^ Float.ofNat i]) (hask _)
        rw [hpause, ih, List.range_succ, List.map_append, List.append_assoc]
        rfl
  cases c with
  | zero => exact (List.append_nil _).symm
  | succ c => rw [after_succ, hask, hbefore, Nat.add_sub_cancel]

end Journals

/-! ## 5. Requests -/

section Requests

variable {o : Outside} {a : Answerer} {p : Prompt} {j : Journal}

/-- The call asks for nothing but an answer to the prompt; making a client asks for nothing. -/
def Sends (p : Prompt) : KitCall → Prop
  | .client _ => True
  | .complete _ _ q => q = p
  | .embed _ _ _ => False

theorem request_of_model {m : Model} (h : a.model = some m) :
    a.request o p j = (m.answer j.modelCalls.length p, { j with modelCalls := j.modelCalls ++ [p] }) := by
  unfold request
  rw [h]
  rfl

/-- What a request to a kit leaves in the journal: calls to the kit, which ask for nothing but an answer to the prompt. -/
structure Asked (p : Prompt) (j j' : Journal) : Prop where
  pauses : j'.pauses = j.pauses
  modelCalls : j'.modelCalls = j.modelCalls
  kitCalls : ∃ calls, j'.kitCalls = j.kitCalls ++ calls ∧ ∀ call ∈ calls, Sends p call

theorem asked_refl : Asked p j j := ⟨rfl, rfl, [], (List.append_nil _).symm, nofun⟩

theorem Asked.trans {j' j'' : Journal} (h : Asked p j j') (h' : Asked p j' j'') : Asked p j j'' := by
  obtain ⟨calls, hcalls, hsends⟩ := h.kitCalls
  obtain ⟨calls', hcalls', hsends'⟩ := h'.kitCalls
  refine ⟨h'.pauses.trans h.pauses, h'.modelCalls.trans h.modelCalls, calls ++ calls', ?_, fun call hcall => ?_⟩
  · rw [hcalls', hcalls, List.append_assoc]
  · exact (List.mem_append.mp hcall).elim (hsends call) (hsends' call)

theorem asked_create (c : Config) (provider : Option String) : Asked p j (Completer.create o c provider j).2 := by
  unfold Completer.create
  split
  · exact asked_refl
  · next key _ =>
      split
      · refine ⟨rfl, rfl, [.client key], rfl, fun call hcall => ?_⟩
        rw [List.mem_singleton.mp hcall]
        exact trivial
      · exact asked_refl

theorem asked_ask (q : Completer) : Asked p j (q.ask o p j).2 := by
  refine ⟨rfl, rfl, [.complete q.vendor q.model p], rfl, fun call hcall => ?_⟩
  rw [List.mem_singleton.mp hcall]
  exact rfl

/-- A request to a vendor makes a client if there is none yet, and then asks for an answer to the prompt. -/
theorem asked_request (h : a.model = none) : Asked p j (a.request o p j).2 := by
  unfold request
  rw [h]
  by_cases hclient : j.completionClient = true
  · simp only [bind, StateT.bind, get, getThe, MonadStateOf.get, StateT.get, pure, if_pos hclient]
    cases Completer.find a.config none with
    | ok found => exact asked_ask found.1
    | error e => exact asked_refl
  · have hcreate : Asked p j (Completer.create o a.config none j).2 := asked_create a.config none
    simp only [bind, StateT.bind, get, getThe, MonadStateOf.get, StateT.get, pure, if_neg hclient]
    generalize Completer.create o a.config none j = r at hcreate ⊢
    obtain ⟨r, j'⟩ := r
    cases r with
    | ok q => exact hcreate.trans (asked_ask q)
    | error e => exact hcreate

/-- A request pauses nowhere. -/
theorem pauses_request (o : Outside) (a : Answerer) (p : Prompt) (j : Journal) : (a.request o p j).2.pauses = j.pauses := by
  cases h : a.model with
  | none => exact (asked_request h).pauses
  | some m => rw [request_of_model h]

end Requests

/-! ## 6. Answers -/

section Answers

variable (o : Outside) (a : Answerer) (query : String) (context : List Fragment) (j : Journal)

/-- How a question is asked, where `ask` makes an attempt, `p` is the prompt of the question and `n` the number of
attempts. -/
structure Retries (ask : Prompt → Session (Except ServiceFailure String)) (p : Prompt) (n : Nat) : Prop where
  /-- Without a model and a key nothing is tried. -/
  unavailable : a.isAvailable = false → a.answerBy o ask query context j = (.error a.notConfigured, j)
  /-- The first attempt that does not fail is the last; a text is the answer. -/
  text : a.isAvailable = true → ∀ k < n, (∀ i < k, Failed (outcome a.config.backoffBase (ask p) j i)) →
    ∀ s, outcome a.config.backoffBase (ask p) j k = .ok s →
      a.answerBy o ask query context j = (.ok s, after a.config.backoffBase (ask p) j (k + 1))
  /-- A missing kit ends the attempts, too, and the question is refused with its message. -/
  kitMissing : a.isAvailable = true → ∀ k < n, (∀ i < k, Failed (outcome a.config.backoffBase (ask p) j i)) →
    ∀ m, outcome a.config.backoffBase (ask p) j k = .error (.notInstalled m) →
      a.answerBy o ask query context j = (.error (.refused m), after a.config.backoffBase (ask p) j (k + 1))
  /-- If all attempts fail, all of them are made. -/
  exhausted : a.isAvailable = true → (∀ i < n, Failed (outcome a.config.backoffBase (ask p) j i)) →
    a.answerBy o ask query context j =
      (.error (.refused (a.givingUp (after a.config.backoffBase (ask p) j n).completionClient
        (lastFailure (outcome a.config.backoffBase (ask p) j) n))), after a.config.backoffBase (ask p) j n)
  /-- Nothing but a refusal of the provider is raised. -/
  refused : ∀ e, (a.answerBy o ask query context j).1 = .error e → ∃ m, e = .refused m

/-- What `c` attempts leave in the journal: pauses that are the powers of the base from the power 0 on, one less than
there are attempts; and requests for nothing but an answer to the prompt, to the model one in each attempt. -/
structure Recorded (p : Prompt) (c : Nat) (j' : Journal) : Prop where
  pauses : j'.pauses = j.pauses ++ (List.range (c - 1)).map fun i => a.config.backoffBase ^ Float.ofNat i
  toModel : ∀ m, a.model = some m → j'.modelCalls = j.modelCalls ++ List.replicate c p
  toKit : a.model = none → ∃ calls, j'.kitCalls = j.kitCalls ++ calls ∧ ∀ call ∈ calls, Sends p call

theorem answerBy_of_available (ask : Prompt → Session (Except ServiceFailure String)) (h : a.isAvailable = true) :
    a.answerBy o ask query context =
      attempts o a (ask (a.prompt query context)) a.config.retryAttempts.toNat 0 none := if_pos h

theorem retries (ho : o.Accepts a.config.backoffBase (a.config.retryAttempts.toNat - 1))
    (ask : Prompt → Session (Except ServiceFailure String)) :
    Retries o a query context j ask (a.prompt query context) a.config.retryAttempts.toNat := by
  have hrun := answerBy_of_available o a query context ask
  have hunavailable : a.isAvailable = false → a.answerBy o ask query context j = (.error a.notConfigured, j) := by
    intro h
    unfold answerBy
    rw [if_neg (by rw [h]; exact Bool.false_ne_true)]
    rfl
  refine ⟨hunavailable, fun h k hk hfirst s hs => ?_, fun h k hk hfirst m hm => ?_, fun h hall => ?_, fun e he => ?_⟩
  · rw [hrun h, attempts_of_first_ok (fun i hi => ho i (by omega)) hk hfirst hs]
  · rw [hrun h, attempts_of_first_notInstalled (fun i hi => ho i (by omega)) hk hfirst hm]
  · rw [hrun h, attempts_of_all_failed ho hall]
  · cases h : a.isAvailable with
    | false =>
        rw [hunavailable h] at he
        exact ⟨_, (Except.error.inj he).symm⟩
    | true =>
        rw [hrun h] at he
        exact refused_of_attempts ho he

theorem recorded (p : Prompt) (c : Nat) :
    Recorded a j p c (after a.config.backoffBase (a.request o p) j c) := by
  refine ⟨pauses_after (pauses_request o a p) c, fun m hm => ?_, fun hnone => ?_⟩
  · refine after_induction (fun i j' => j'.modelCalls = j.modelCalls ++ List.replicate i p)
      (List.append_nil _).symm (fun i j' h => ?_) (fun i seconds j' h => h) c
    rw [request_of_model hm, List.replicate_succ', ← List.append_assoc, ← h]
  · refine after_induction
      (fun _ j' => ∃ calls, j'.kitCalls = j.kitCalls ++ calls ∧ ∀ call ∈ calls, Sends p call)
      asked_refl.kitCalls (fun i j' h => ?_) (fun i seconds j' h => h) c
    obtain ⟨calls, hcalls, hsends⟩ := h
    obtain ⟨calls', hcalls', hsends'⟩ := (asked_request (o := o) (p := p) (j := j') hnone).kitCalls
    refine ⟨calls ++ calls', ?_, fun call hcall => (List.mem_append.mp hcall).elim (hsends call) (hsends' call)⟩
    rw [hcalls', hcalls, List.append_assoc]

/-- **A pause that is refused breaks the question off**, with the report of the refusal. It would have stood between two
attempts, and all attempts before it have failed. -/
theorem answerBy_of_refusedPause (ask : Prompt → Session (Except ServiceFailure String)) {k : Nat} {m : String}
    (h : a.isAvailable = true) (ho : o.Accepts a.config.backoffBase k) (hk : k + 1 < a.config.retryAttempts.toNat)
    (hfailed : ∀ i < k + 1, Failed (outcome a.config.backoffBase (ask (a.prompt query context)) j i))
    (hm : o.refusal (a.config.backoffBase ^ Float.ofNat k) = some m) :
    a.answerBy o ask query context j =
      (.error (.cannotPause m), after a.config.backoffBase (ask (a.prompt query context)) j (k + 1)) := by
  rw [answerBy_of_available o a query context ask h, attempts_of_first_refusedPause ho hk hfailed hm]

/-- **A question is asked again until an attempt does not fail.** Whatever an attempt does, with its outcomes it is
decided how many attempts are made, what is answered and what is raised; a negative number of attempts counts as none.
The attempts are all made with the prompt of the question, and `after c` is the journal after `c` attempts with a pause
between any two of them. What the answerer itself does in an attempt is recorded. All this is said of pauses that are
accepted; the first that is not is the end of the question. -/
theorem answer_retries :
    (o.Accepts a.config.backoffBase (a.config.retryAttempts.toNat - 1) →
      ∀ ask, Retries o a query context j ask (a.prompt query context) a.config.retryAttempts.toNat) ∧
    (∀ ask k m, a.isAvailable = true → o.Accepts a.config.backoffBase k → k + 1 < a.config.retryAttempts.toNat →
      (∀ i < k + 1, Failed (outcome a.config.backoffBase (ask (a.prompt query context)) j i)) →
      o.refusal (a.config.backoffBase ^ Float.ofNat k) = some m →
      a.answerBy o ask query context j =
        (.error (.cannotPause m), after a.config.backoffBase (ask (a.prompt query context)) j (k + 1))) ∧
    a.answer o query context = a.answerBy o (a.request o) query context ∧
    ∀ c, Recorded a j (a.prompt query context) c
      (after a.config.backoffBase (a.request o (a.prompt query context)) j c) :=
  ⟨retries o a query context j, fun ask _ _ => answerBy_of_refusedPause o a query context j ask, rfl,
    recorded o a j (a.prompt query context)⟩

/-- A model that is busy when it is asked first is asked twice, with one pause between. -/
theorem answer_retries_busy :
    let a : Answerer := ⟨{}, some ⟨"mine", fun i _ => if i = 0 then .error (.failed "busy") else .ok "yes"⟩⟩
    let o : Outside := .scripted none fun _ => .text ""
    o.Accepts a.config.backoffBase (a.config.retryAttempts.toNat - 1) ∧ (a.answer o "why" [] {}).1 = .ok "yes" ∧
      (a.answer o "why" [] {}).2.modelCalls = [a.prompt "why" [], a.prompt "why" []] ∧
      (a.answer o "why" [] {}).2.pauses = [2.0 ^ Float.ofNat 0] := by
  intro a o
  have ho : o.Accepts a.config.backoffBase (a.config.retryAttempts.toNat - 1) := fun _ _ => rfl
  obtain ⟨hretries, -, hanswer, hrecorded⟩ := answer_retries o a "why" [] {}
  have hfirst : ∀ i < 1, Failed (outcome a.config.backoffBase (a.request o (a.prompt "why" [])) {} i) := by
    intro i hi
    obtain rfl : i = 0 := by omega
    exact ⟨.failed "busy", rfl, nofun⟩
  have hrun := (hretries ho (a.request o)).text rfl 1 (by decide) hfirst "yes" rfl
  rw [hanswer, hrun]
  exact ⟨ho, rfl, (hrecorded 2).toModel _ rfl, (hrecorded 2).pauses⟩

end Answers

end Answerer

end FragmentSearch
