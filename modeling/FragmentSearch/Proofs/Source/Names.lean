import FragmentSearch.Proofs.Source.Bindings
import FragmentSearch.Proofs.Text.Name

/-!
# The names that are read

No name that is read from a source holds a point. A name is read from a name among the tokens, a reader only takes
tokens from the front, and the name of a token is the normal form of a name.

* `tokens?_plain` -- the names among the tokens of a source;
* `Reader.Yields` -- what holds of every value that a reader reads from plain tokens, step by step;
* `yields_expressionAt`, `yields_statementAt` -- the names that expressions and statements are made of;
* `plain_ofSource?` -- every name that a module binds is plain.
-/

namespace FragmentSearch.Source

/-! ## 1. Plain names -/

/-- The name holds no point. -/
def IsPlain (n : String) : Prop := '.' ∉ n.toList

/-- If the lexeme is a name, it is plain. -/
def Lexeme.IsPlain : Lexeme → Prop
  | .name id => Source.IsPlain id
  | _ => True

/-- If the expression is a name, it is plain. -/
def Expr.IsPlain : Expr → Prop
  | .name id => Source.IsPlain id
  | _ => True

/-- Every name that the statement binds is plain. -/
def Stmt.IsPlain (s : Stmt) : Prop := ∀ above place, ∀ b ∈ s.bindings above place, Source.IsPlain b.name

/-! ## 2. Tokens -/

section Tokens

theorem plain_scanName {s rest : List Char} {l : Lexeme} (h : scanName s = some (l, rest)) : l.IsPlain := by
  unfold scanName at h
  dsimp only at h
  split at h
  · cases h
    trivial
  · split at h
    · next hname =>
        cases h
        show '.' ∉ (String.ofList _).toList
        rw [String.toList_ofList]
        exact Text.point_not_mem_normalName hname
    · cases h

theorem plain_scanLexeme {s rest : List Char} {l : Lexeme} (h : scanLexeme s = some (l, rest)) : l.IsPlain := by
  unfold scanLexeme at h
  split at h
  · obtain ⟨_, -, he⟩ := Option.map_eq_some_iff.mp h
    cases he
    trivial
  · split at h
    · cases h
    · split at h
      · obtain ⟨_, -, he⟩ := Option.map_eq_some_iff.mp h
        cases he
        trivial
      · split at h
        · exact plain_scanName h
        · obtain ⟨_, -, he⟩ := Option.map_eq_some_iff.mp h
          cases he
          trivial

/-- Marks of layout are no names. -/
theorem plain_adjustIndents {i : Indentation} {stack stack' : List Indentation} {marks : List Lexeme}
    (h : adjustIndents i stack = some (stack', marks)) : ∀ m ∈ marks, m.IsPlain := by
  induction stack generalizing stack' marks with
  | nil => cases h
  | cons top below ih =>
      unfold adjustIndents at h
      split at h
      · split at h
        · cases h
          exact fun m hm => absurd hm List.not_mem_nil
        · cases h
      · split at h
        · split at h
          · cases h
            exact List.forall_mem_singleton.mpr trivial
          · cases h
        · obtain ⟨⟨stack'', marks'⟩, hrest, h⟩ := Option.bind_eq_some_iff.mp h
          dsimp only at h
          split at h
          · cases h
          · cases h
            exact List.forall_mem_cons.mpr ⟨trivial, ih hrest⟩

/-- Plain tokens. -/
def ArePlain (ts : List Token) : Prop := ∀ t ∈ ts, t.lexeme.IsPlain

theorem ArePlain.cons {ts : List Token} (h : ArePlain ts) {l : Lexeme} (hl : l.IsPlain) (line endLine : Nat) :
    ArePlain (⟨l, line, endLine⟩ :: ts) := List.forall_mem_cons.mpr ⟨hl, h⟩

theorem ArePlain.marks {line : Nat} {marks : List Lexeme} (hmarks : ∀ m ∈ marks, m.IsPlain) {ts : List Token}
    (h : ArePlain ts) : ArePlain (marks.foldl (fun acc m => ⟨m, line, line⟩ :: acc) ts) := by
  induction marks generalizing ts with
  | nil => exact h
  | cons m marks ih =>
      obtain ⟨hm, hrest⟩ := List.forall_mem_cons.mp hmarks
      exact ih hrest (h.cons hm line line)

/-- Every step of the lexer adds plain tokens. -/
theorem plain_tokensFrom {fuel : Nat} {acc ts : List Token} {atStart blank : Bool} {st : LexState} {s : List Char}
    (hacc : ArePlain acc) (h : tokensFrom fuel acc atStart blank st s = some ts) : ArePlain ts := by
  induction fuel generalizing acc atStart blank st s with
  | zero => cases h
  | succ fuel ih =>
      cases atStart with
      | true =>
          unfold tokensFrom at h
          split at h
          · cases h
          · split at h
            · exact ih hacc h
            · dsimp only at h
              split at h
              · split at h
                · cases h
                · next hmarks => exact ih (hacc.marks (plain_adjustIndents hmarks)) h
              · exact ih hacc h
      | false =>
          unfold tokensFrom at h
          split at h
          · split at h
            · cases h
              have hends : ArePlain (⟨.endMarker, st.line, st.line⟩ :: acc) := hacc.cons (l := .endMarker) trivial _ _
              exact fun _ ht => hends _ (List.mem_reverse.mp ht)
            · cases h
          · split at h
            · split at h
              · exact ih hacc h
              · exact ih (hacc.cons (l := .newline) trivial _ _) h
            · split at h
              · split at h
                · exact ih hacc h
                · cases h
              · split at h
                · cases h
                · next lexeme rest hlexeme =>
                    have hplain : lexeme.IsPlain := plain_scanLexeme hlexeme
                    cases lexeme with
                    | op o =>
                        dsimp only at h
                        split at h
                        · cases h
                        · exact ih (hacc.cons hplain _ _) h
                    | _ => exact ih (hacc.cons hplain _ _) h

/-- **The names among the tokens of a source are plain.** -/
theorem tokens?_plain {s : List Char} {ts : List Token} (h : tokens? s = some ts) : ArePlain ts :=
  plain_tokensFrom (fun _ ht => absurd ht List.not_mem_nil) h

end Tokens

/-! ## 3. Readers -/

namespace Reader

variable {α β : Type} {x y : Reader α} {f : α → Reader β} {Q : α → Prop} {R : β → Prop}

/-- Every value that is read from plain tokens has the property. -/
def Yields (x : Reader α) (Q : α → Prop) : Prop := ∀ s a s', ArePlain s.rest → x.run s = some (a, s') → Q a

theorem yields_look {g : Stream → Option α} (h : ∀ s, ArePlain s.rest → ∀ a ∈ g s, Q a) : Yields (look g) Q := by
  intro s a s' hs hrun
  obtain ⟨b, hb, he⟩ := Option.map_eq_some_iff.mp hrun
  cases he
  exact h s hs a hb

theorem yields_pure {a : α} (h : Q a) : Yields (pure a) Q := by
  refine yields_look fun _ _ b hb => ?_
  cases hb
  exact h

theorem yields_refuse : Yields refuse Q := yields_look fun _ _ _ => nofun

theorem yields_ofOption {o : Option α} (h : ∀ a ∈ o, Q a) : Yields (ofOption o) Q := yields_look fun _ _ => h

/-- One reader after another: the second one reads what the first one has left, which is plain as well. -/
theorem Yields.bind (hx : Yields x Q) (hf : ∀ a, Q a → Yields (f a) R) : Yields (x >>= f) R := by
  intro s b s' hs hrun
  have hrun' : (x.andThen f).run s = some (b, s') := hrun
  unfold andThen at hrun'
  dsimp only at hrun'
  split at hrun'
  · next a rest ha => exact hf a (hx s a rest hs ha) rest b s' (fun t ht => hs t ((x.suffix ha).subset ht)) hrun'
  · cases hrun'

/-- If nothing need be known of what the first reader reads. -/
theorem yields_then (hf : ∀ a, Yields (f a) R) : Yields (x >>= f) R :=
  @Yields.bind _ _ x f (fun _ => True) R (fun _ _ _ _ _ => trivial) fun a _ => hf a

theorem yields_ite {c : Prop} [Decidable c] (hx : Yields x Q) (hy : Yields y Q) : Yields (if c then x else y) Q := by
  split
  · exact hx
  · exact hy

/-- What every step preserves holds in the end. -/
theorem yields_iterate {step : α → Reader (Option α)} (hstep : ∀ a, Q a → Yields (step a) fun o => ∀ b ∈ o, Q b) :
    ∀ (fuel : Nat) {a : α}, Q a → Yields (iterate step fuel a) Q
  | 0, a, ha => yields_pure ha
  | fuel + 1, a, ha => by
      refine (hstep a ha).bind fun o ho => ?_
      cases o with
      | none => exact yields_pure ha
      | some b => exact yields_iterate hstep fuel (ho b rfl)

/-- A step that gives nothing ends the repetition. -/
theorem yields_none : Yields (pure none : Reader (Option α)) fun o => ∀ b ∈ o, Q b := yields_pure nofun

theorem yields_some {a : α} (h : Q a) : Yields (pure (some a)) fun o => ∀ b ∈ o, Q b :=
  yields_pure fun _ hb => Option.some.inj hb ▸ h

theorem yields_peek : Yields peek Lexeme.IsPlain := by
  refine yields_look fun s hs l hl => ?_
  split at hl
  · cases hl
    trivial
  · next t r hrest =>
      cases hl
      exact hs t (hrest ▸ List.mem_cons_self)

theorem yields_expectName : Yields expectName IsPlain := by
  refine yields_peek.bind fun l hl => ?_
  split
  · exact yields_then fun _ => yields_pure hl
  · exact yields_refuse

/-- The items of a list. -/
theorem yields_commaList {starts : Lexeme → Bool} {fuel : Nat} (hx : Yields x Q) :
    Yields (commaList starts x fuel) fun r => ∀ a ∈ r.1, Q a := by
  refine hx.bind fun first hfirst => ?_
  refine (@yields_iterate _ (fun r : List α × Bool => ∀ a ∈ r.1, Q a) _ ?_ _ _ ?_).bind ?_
  · rintro ⟨items, trailing⟩ hitems
    refine yields_ite (yields_then fun l => ?_) (yields_then fun comma => ?_)
    · exact yields_ite (hx.bind fun a ha => yields_some (List.forall_mem_cons.mpr ⟨ha, hitems⟩)) yields_none
    · exact yields_ite (yields_some hitems) yields_none
  · exact List.forall_mem_singleton.mpr hfirst
  · rintro ⟨items, trailing⟩ hitems
    exact yields_pure fun a ha => hitems a (List.mem_reverse.mp ha)

end Reader

open Reader

/-! ## 4. Expressions -/

section Expressions

variable {named : List Char → Option Nat} {inner : Inner} {fuel line : Nat}

/-- The names that are read as expressions are plain. -/
def YieldsPlain (x : Reader Spanned) : Prop := Yields x fun e => e.expr.IsPlain

theorem plain_joinLiterals? {expression? : List Char → Option Expr} {ls : List Literal} {e : Expr}
    (h : joinLiterals? named expression? ls = some e) : e.IsPlain := by
  unfold joinLiterals? at h
  split at h
  · obtain ⟨_, -, rfl⟩ := Option.map_eq_some_iff.mp h
    trivial
  · split at h
    · cases h
    · obtain ⟨_, -, rfl⟩ := Option.map_eq_some_iff.mp h
      split <;> trivial

theorem yields_readLiterals : Yields (readLiterals named inner fuel) Expr.IsPlain :=
  yields_then fun _ => yields_ofOption fun _ h => plain_joinLiterals? h

theorem yields_readYield : Yields (readYield inner) Expr.IsPlain := by
  refine yields_then fun _ => yields_ite (yields_then fun _ => yields_pure trivial) (yields_then fun _ => ?_)
  exact yields_ite (yields_then fun _ => yields_pure trivial) (yields_pure trivial)

theorem yields_readParenthesized (hinner : ∀ g, YieldsPlain (inner g)) :
    YieldsPlain (readParenthesized inner fuel line) := by
  refine yields_then fun _ => yields_ite (yields_pure trivial) (yields_then fun _ => yields_then fun _ => ?_)
  refine yields_ite (yields_readYield.bind fun e he => yields_then fun _ => yields_pure he) ?_
  refine (hinner _).bind fun first hfirst => yields_then fun _ => yields_ite ?_ ?_
  · refine yields_then fun _ => yields_then fun _ => yields_ite (yields_pure trivial) ?_
    exact yields_then fun _ => yields_then fun _ => yields_pure trivial
  · refine yields_then fun _ => yields_then fun _ => yields_ite ?_ ?_
    · exact yields_then fun _ => yields_then fun _ => yields_pure trivial
    · exact yields_then fun _ => yields_pure hfirst

theorem yields_readBracketed : Yields (readBracketed inner fuel) Expr.IsPlain := by
  refine yields_then fun _ => yields_ite (yields_pure trivial) (yields_then fun r => yields_then fun _ => ?_)
  refine yields_ite ?_ (yields_then fun _ => yields_pure trivial)
  split
  · exact yields_refuse
  · exact yields_then fun _ => yields_then fun _ => yields_pure trivial
  · exact yields_refuse

theorem yields_readEntries {first : Entry} : Yields (readEntries inner fuel first) Expr.IsPlain :=
  yields_then fun _ => yields_pure trivial

theorem yields_readBraced : Yields (readBraced inner fuel) Expr.IsPlain := by
  refine yields_then fun _ => yields_ite (yields_pure trivial) (yields_then fun _ => yields_ite ?_ ?_)
  · exact yields_then fun _ => yields_readEntries
  · refine yields_then fun _ => yields_then fun first => yields_then fun _ => yields_ite ?_ ?_
    · refine yields_then fun _ => yields_then fun _ => yields_ite ?_ yields_readEntries
      exact yields_then fun _ => yields_then fun _ => yields_pure trivial
    · refine yields_then fun _ => yields_ite ?_ ?_
      · exact yields_then fun _ => yields_then fun _ => yields_pure trivial
      · refine yields_then fun _ => ?_
        dsimp only
        refine yields_ite (yields_then fun _ => ?_) ?_
        · exact yields_then fun _ => yields_then fun _ => yields_pure trivial
        · exact yields_then fun _ => yields_then fun _ => yields_pure trivial

/-- An atom is a name of a token, or no name. -/
theorem yields_readAtom (hinner : ∀ g, YieldsPlain (inner g)) : YieldsPlain (readAtom named inner fuel) := by
  refine yields_then fun _ => yields_peek.bind fun l hl => ?_
  split
  · exact yields_then fun _ => yields_pure hl
  · exact yields_then fun _ => yields_pure trivial
  · exact yields_readLiterals.bind fun _ he => yields_pure he
  · exact yields_then fun _ => yields_pure trivial
  · exact yields_then fun _ => yields_pure trivial
  · exact yields_then fun _ => yields_pure trivial
  · exact yields_then fun _ => yields_pure trivial
  · exact yields_then fun _ => yields_readParenthesized hinner
  · exact yields_then fun _ => yields_readBracketed.bind fun _ he => yields_pure he
  · exact yields_then fun _ => yields_readBraced.bind fun _ he => yields_pure he
  · exact yields_refuse

theorem yields_readPrimary (hinner : ∀ g, YieldsPlain (inner g)) : YieldsPlain (readPrimary named inner fuel) := by
  refine yields_then fun _ => (yields_readAtom hinner).bind fun _ hatom => ?_
  refine @yields_iterate _ (fun e : Spanned => e.expr.IsPlain) _ (fun e _ => ?_) fuel _ hatom
  refine yields_then fun _ => yields_ite (yields_then fun _ => yields_some trivial) (yields_then fun _ => ?_)
  refine yields_ite (yields_then fun _ => yields_some trivial) (yields_then fun _ => ?_)
  exact yields_ite (yields_then fun _ => yields_some trivial) yields_none

theorem yields_readPower (hinner : ∀ g, YieldsPlain (inner g)) : YieldsPlain (readPower named inner fuel) := by
  have hprimary : YieldsPlain (readPrimary named inner fuel) := yields_readPrimary hinner
  have hawait (line : Nat) (e : Expr) : Yields (pure ⟨line, .await e⟩) fun b : Spanned => b.expr.IsPlain :=
    yields_pure trivial
  refine yields_then fun _ => yields_then fun _ => ?_
  dsimp only
  refine yields_ite (yields_then fun _ => (hawait _ _).bind fun base hbase => ?_) (hprimary.bind fun base hbase => ?_)
  all_goals exact yields_then fun _ => yields_ite (yields_then fun _ => yields_pure trivial) (yields_pure hbase)

theorem yields_readFactor (hinner : ∀ g, YieldsPlain (inner g)) : YieldsPlain (readFactor named inner fuel) := by
  refine yields_then fun _ => yields_then fun op => ?_
  split
  · exact yields_then fun _ => yields_pure trivial
  · exact yields_readPower hinner

theorem yields_readBinary {operand : Reader Spanned} (h : YieldsPlain operand) :
    ∀ levels, YieldsPlain (readBinary operand fuel levels)
  | [] => h
  | level :: tighter => by
      refine yields_then fun _ => (yields_readBinary h tighter).bind fun _ hfirst => ?_
      refine @yields_iterate _ (fun e : Spanned => e.expr.IsPlain) _ (fun e _ => ?_) fuel _ hfirst
      refine yields_then fun op => ?_
      split
      · exact yields_then fun _ => yields_some trivial
      · exact yields_none

theorem yields_readBitOr (hinner : ∀ g, YieldsPlain (inner g)) : YieldsPlain (readBitOr named inner fuel) :=
  yields_readBinary (yields_readFactor hinner) binaryLevels

theorem yields_readComparison (hinner : ∀ g, YieldsPlain (inner g)) :
    YieldsPlain (readComparison named inner fuel) := by
  refine yields_then fun _ => (yields_readBitOr hinner).bind fun _ hfirst => yields_then fun _ => ?_
  exact yields_ite (yields_pure hfirst) (yields_pure trivial)

theorem yields_readInversion (hinner : ∀ g, YieldsPlain (inner g)) : YieldsPlain (readInversion named inner fuel) := by
  refine yields_then fun _ => yields_then fun _ => yields_ite ?_ (yields_readComparison hinner)
  exact yields_then fun _ => yields_pure trivial

theorem yields_readJunction {word : String} {build : List Expr → Expr} {operand : Reader Spanned}
    (hbuild : ∀ es, (build es).IsPlain) (h : YieldsPlain operand) :
    YieldsPlain (readJunction word build operand fuel) := by
  refine yields_then fun _ => h.bind fun _ hfirst => yields_then fun _ => ?_
  exact yields_ite (yields_pure hfirst) (yields_pure (hbuild _))

theorem yields_readDisjunction (hinner : ∀ g, YieldsPlain (inner g)) :
    YieldsPlain (readDisjunction named inner fuel) :=
  yields_readJunction (fun _ => trivial) (yields_readJunction (fun _ => trivial) (yields_readInversion hinner))

theorem yields_readExpression (hinner : ∀ g, YieldsPlain (inner g)) :
    YieldsPlain (readExpression named inner fuel) := by
  refine yields_then fun _ => yields_then fun _ => yields_ite ?_ ?_
  · exact yields_then fun _ => yields_then fun _ => yields_then fun _ => yields_pure trivial
  · refine (yields_readDisjunction hinner).bind fun _ hbody => yields_then fun _ => yields_ite ?_ (yields_pure hbody)
    exact yields_then fun _ => yields_then fun _ => yields_then fun _ => yields_pure trivial

theorem yields_readNamed (hinner : ∀ g, YieldsPlain (inner g)) : YieldsPlain (readNamed named inner fuel) := by
  refine yields_then fun _ => yields_then fun _ => yields_then fun _ => ?_
  split
  · exact yields_then fun _ => yields_then fun _ => yields_then fun _ => yields_pure trivial
  · exact (yields_readExpression hinner).bind fun _ he => yields_then fun _ => yields_then fun _ => yields_pure he

theorem yields_readItem {plain : Reader Spanned} (h : YieldsPlain plain) : YieldsPlain (readItem inner plain) :=
  yields_then fun _ => yields_then fun _ => yields_ite (yields_then fun _ => yields_pure trivial) h

theorem yields_readList {starts : Lexeme → Bool} {item : Reader Spanned} (h : YieldsPlain item) :
    YieldsPlain (readList starts item fuel) := by
  refine yields_then fun _ => (yields_commaList h).bind fun r hr => ?_
  split
  · exact yields_pure (hr _ List.mem_cons_self)
  · exact yields_pure trivial

theorem yields_readTarget (hinner : ∀ g, YieldsPlain (inner g)) : YieldsPlain (readTarget named inner fuel) := by
  have hprimary : YieldsPlain (readPrimary named inner fuel) := yields_readPrimary hinner
  have hstarred (line : Nat) (e : Expr) : Yields (pure ⟨line, .starred e⟩) fun b : Spanned => b.expr.IsPlain :=
    yields_pure trivial
  refine yields_then fun _ => yields_then fun _ => ?_
  dsimp only
  refine yields_ite (yields_then fun _ => (hstarred _ _).bind fun e he => ?_) (hprimary.bind fun e he => ?_)
  all_goals exact yields_then fun _ => yields_pure he

theorem yields_readGoal (hinner : ∀ g, YieldsPlain (inner g)) (g : Goal) :
    YieldsPlain (readGoal named inner fuel g) := by
  cases g with
  | expression => exact yields_readExpression hinner
  | named => exact yields_readNamed hinner
  | namedItem => exact yields_readItem (yields_readNamed hinner)
  | list => exact yields_readList (yields_readItem (yields_readExpression hinner))
  | listOrYield =>
      refine yields_then fun _ => yields_then fun _ => yields_ite ?_ ?_
      · exact yields_readYield.bind fun _ he => yields_pure he
      · exact yields_readList (yields_readItem (yields_readExpression hinner))
  | disjunction => exact yields_readDisjunction hinner
  | inversion => exact yields_readInversion hinner
  | factor => exact yields_readFactor hinner
  | bitOr => exact yields_readBitOr hinner
  | targets => exact yields_readList (yields_readTarget hinner)
  | target => exact yields_readTarget hinner

/-- **A name that is read as an expression is plain**, at every level of nesting. -/
theorem yields_expressionAt (g : Goal) : YieldsPlain (expressionAt named fuel g) := by
  induction fuel generalizing g with
  | zero => exact yields_refuse
  | succ fuel ih => exact yields_readGoal ih g

end Expressions

/-! ## 5. Statements -/

namespace Stmt

/-- A statement is plain if its own name is, the names among its targets are, and what a class has in it is. -/
theorem isPlain_of {s : Stmt} (hname : ∀ n ∈ s.name?, Source.IsPlain n) (htargets : ∀ t ∈ s.targets, t.IsPlain)
    (hchildren : s.isClass = true → ∀ c ∈ s.children, c.IsPlain) : s.IsPlain := by
  intro above place b hb
  rcases mem_bindings.mp hb with ⟨name, hn, rfl⟩ | ⟨-, k, name, ht, rfl⟩ | ⟨hclass, k, c, hc, hb⟩
  · exact hname name hn
  · exact htargets _ (List.mem_of_getElem? ht)
  · exact hchildren hclass c (List.mem_of_getElem? hc) _ _ b hb

theorem isPlain_other (e : Extent) (blocks : List Stmt) : (other e blocks).IsPlain :=
  isPlain_of nofun (fun _ h => absurd h List.not_mem_nil) nofun

theorem isPlain_expression (e : Extent) (value : Expr) : (expression e value).IsPlain :=
  isPlain_of nofun (fun _ h => absurd h List.not_mem_nil) nofun

end Stmt

section Statements

variable {p : Parts} {line fuel : Nat} {decorators : List Nat}

/-- The statements that are read bind plain names. -/
def YieldsPlainStmts (x : Reader (List Stmt)) : Prop := Yields x fun body => ∀ s ∈ body, s.IsPlain

theorem yields_readAssigned (hexpr : ∀ g, YieldsPlain (p.expr g)) {first : Expr} (hfirst : first.IsPlain) :
    Yields (readAssigned p first) fun r => ∀ t ∈ r.1, t.IsPlain := by
  refine (@yields_iterate _ (fun r : List Expr × Expr × Bool => (∀ t ∈ r.1, t.IsPlain) ∧ r.2.1.IsPlain) _
    ?_ _ _ ?_).bind ?_
  · rintro ⟨targets, value, closed⟩ ⟨htargets, hvalue⟩
    refine yields_ite yields_none (yields_then fun _ => yields_ite (yields_then fun _ => ?_) ?_)
    · refine (hexpr _).bind fun e he => yields_some ⟨List.forall_mem_cons.mpr ⟨hvalue, htargets⟩, he⟩
    · exact yields_some ⟨htargets, hvalue⟩
  · exact ⟨fun _ h => absurd h List.not_mem_nil, hfirst⟩
  · rintro ⟨targets, value, closed⟩ ⟨htargets, -⟩
    exact yields_pure fun t ht => htargets t (List.mem_reverse.mp ht)

theorem yields_readExpressionStatement (hexpr : ∀ g, YieldsPlain (p.expr g)) :
    Yields (readExpressionStatement p) Stmt.IsPlain := by
  refine yields_then fun line => yields_then fun opened => yields_then fun yields => (hexpr _).bind fun e he => ?_
  refine yields_ite (yields_then fun _ => yields_pure (Stmt.isPlain_expression _ _)) (yields_then fun next => ?_)
  refine yields_ite ?_ (yields_ite ?_ (yields_ite ?_ ?_))
  · refine yields_then fun _ => yields_then fun _ => yields_then fun type => yields_then fun _ => ?_
    dsimp only
    have hplain (extent : Extent) (value : Option Expr) :
        (Stmt.annotate extent e.expr type.expr value !opened).IsPlain :=
      Stmt.isPlain_of nofun (List.forall_mem_singleton.mpr he) nofun
    refine yields_ite (yields_then fun _ => ?_) ?_
    · exact yields_then fun _ => yields_then fun _ => yields_pure (hplain _ _)
    · exact yields_then fun _ => yields_then fun _ => yields_pure (hplain _ _)
  · refine yields_then fun _ => yields_then fun _ => yields_then fun _ => yields_then fun _ => ?_
    exact yields_pure (Stmt.isPlain_other _ _)
  · refine (yields_readAssigned hexpr he).bind fun r hr => yields_then fun _ => ?_
    exact yields_pure (Stmt.isPlain_of nofun hr nofun)
  · exact yields_then fun _ => yields_pure (Stmt.isPlain_expression _ _)

theorem yields_readSimple (hexpr : ∀ g, YieldsPlain (p.expr g)) : Yields (readSimple p) Stmt.IsPlain := by
  refine yields_then fun _ => yields_then fun l => ?_
  split
  · split
    · exact yields_then fun _ => yields_then fun _ => yields_then fun _ => yields_pure (Stmt.isPlain_other _ _)
    · exact yields_readExpressionStatement hexpr
  · exact yields_readExpressionStatement hexpr

theorem yields_readSimpleLine (hexpr : ∀ g, YieldsPlain (p.expr g)) : YieldsPlainStmts (readSimpleLine p) := by
  refine (yields_readSimple hexpr).bind fun first hfirst => ?_
  refine (@yields_iterate _ (fun r : List Stmt × Bool => ∀ s ∈ r.1, s.IsPlain) _ ?_ _ _ ?_).bind ?_
  · rintro ⟨stmts, closed⟩ hstmts
    refine yields_ite yields_none (yields_then fun _ => yields_ite (yields_then fun l => ?_) (yields_some hstmts))
    split
    · exact yields_some hstmts
    · exact (yields_readSimple hexpr).bind fun s hs => yields_some (List.forall_mem_cons.mpr ⟨hs, hstmts⟩)
  · exact List.forall_mem_singleton.mpr hfirst
  · rintro ⟨stmts, closed⟩ hstmts
    exact yields_then fun _ => yields_pure fun s hs => hstmts s (List.mem_reverse.mp hs)

theorem yields_readFunction {isAsync : Bool} : Yields (readFunction p line decorators isAsync) Stmt.IsPlain := by
  refine yields_expectName.bind fun name hname => yields_then fun _ => yields_then fun parameters => ?_
  have hplain (extent : Extent) (result : Option Expr) (body : List Stmt) :
      (Stmt.functionDef extent decorators ⟨isAsync, name, parameters, result⟩ body).IsPlain :=
    Stmt.isPlain_of (fun n hn => Option.some.inj hn ▸ hname) (fun _ h => absurd h List.not_mem_nil) nofun
  refine yields_then fun _ => yields_then fun _ => ?_
  dsimp only
  refine yields_ite (yields_then fun _ => ?_) ?_
  all_goals
    refine yields_then fun _ => yields_then fun _ => yields_then fun _ => yields_then fun _ => ?_
    exact yields_pure (hplain _ _ _)

theorem yields_readClass (hblock : YieldsPlainStmts p.block) : Yields (readClass p line decorators) Stmt.IsPlain := by
  refine yields_expectName.bind fun name hname => yields_then fun _ => ?_
  have hplain (extent : Extent) (bases : List Expr) (keywords : List Keyword) {body : List Stmt}
      (hbody : ∀ s ∈ body, s.IsPlain) : (Stmt.classDef extent decorators ⟨name, bases, keywords⟩ body).IsPlain :=
    Stmt.isPlain_of (fun n hn => Option.some.inj hn ▸ hname) (fun _ h => absurd h List.not_mem_nil) fun _ => hbody
  dsimp only
  refine yields_ite ?_ ?_
  all_goals
    refine yields_then fun _ => yields_then fun _ => hblock.bind fun body hbody => ?_
    exact yields_then fun _ => yields_pure (hplain _ _ _ hbody)

theorem yields_readDefinition (hblock : YieldsPlainStmts p.block) :
    Yields (readDefinition p decorators) Stmt.IsPlain := by
  refine yields_then fun _ => yields_then fun _ => yields_ite (yields_readClass hblock) ?_
  exact yields_then fun _ => yields_then fun _ => yields_readFunction

theorem yields_readPlain {read : Reader (List Stmt)} : YieldsPlainStmts (readPlain line read) := by
  refine yields_then fun _ => yields_then fun _ => yields_then fun _ => yields_pure ?_
  exact List.forall_mem_singleton.mpr (Stmt.isPlain_other _ _)

/-- A definition stands alone. -/
theorem yields_definition (hblock : YieldsPlainStmts p.block) :
    YieldsPlainStmts (do return [← readDefinition p decorators]) :=
  (yields_readDefinition hblock).bind fun _ hs => yields_pure (List.forall_mem_singleton.mpr hs)

theorem yields_readAsync (hblock : YieldsPlainStmts p.block) : YieldsPlainStmts (readAsync p line) := by
  refine yields_then fun _ => yields_ite ?_ (yields_ite ?_ (yields_definition hblock))
  · exact yields_then fun _ => yields_readPlain
  · exact yields_then fun _ => yields_readPlain

theorem yields_readStatement (hexpr : ∀ g, YieldsPlain (p.expr g)) (hblock : YieldsPlainStmts p.block) :
    YieldsPlainStmts (readStatement p) := by
  refine yields_then fun _ => yields_then fun l => ?_
  split
  · exact yields_then fun _ => yields_definition hblock
  · refine yields_ite (yields_definition hblock) (yields_ite (yields_readAsync hblock) ?_)
    refine yields_ite yields_readPlain (yields_ite yields_readPlain (yields_ite yields_readPlain ?_))
    exact yields_ite yields_readPlain (yields_ite yields_readPlain (yields_readSimpleLine hexpr))
  · refine yields_then fun head => ?_
    split
    · refine yields_then fun _ => yields_then fun _ => yields_pure ?_
      exact List.forall_mem_singleton.mpr (Stmt.isPlain_other _ _)
    · exact yields_readSimpleLine hexpr
  · exact yields_readSimpleLine hexpr

theorem yields_readStatements {statement : Reader (List Stmt)} (h : YieldsPlainStmts statement) :
    YieldsPlainStmts (readStatements statement fuel) := by
  refine (@yields_iterate _ (fun groups : List (List Stmt) => ∀ g ∈ groups, ∀ s ∈ g, s.IsPlain) _ ?_ _ _ ?_).bind ?_
  · intro groups hgroups
    refine yields_then fun _ => yields_ite yields_none ?_
    exact h.bind fun g hg => yields_some (List.forall_mem_cons.mpr ⟨hg, hgroups⟩)
  · exact fun _ h => absurd h List.not_mem_nil
  · intro groups hgroups
    refine yields_pure fun s hs => ?_
    obtain ⟨g, hg, hs⟩ := List.mem_flatten.mp hs
    exact hgroups g (List.mem_reverse.mp hg) s hs

theorem yields_readBlock {statement : Reader (List Stmt)} {simple : Reader (List Stmt)}
    (h : YieldsPlainStmts statement) (hsimple : YieldsPlainStmts simple) :
    YieldsPlainStmts (readBlock statement simple fuel) := by
  refine yields_then fun l => ?_
  split
  · refine yields_then fun _ => yields_then fun l' => ?_
    dsimp only
    split
    all_goals
      refine yields_then fun _ => (yields_readStatements h).bind fun body hbody => yields_then fun _ => ?_
      refine yields_then fun last => ?_
      split
      · exact yields_then fun _ => yields_pure hbody
      · exact yields_then fun _ => yields_pure hbody
  · exact hsimple

/-- **The names that a statement binds are plain**, at every level of nesting. -/
theorem yields_statementAt {expr : Inner} {pattern : Reader Unit} (hexpr : ∀ g, YieldsPlain (expr g)) :
    YieldsPlainStmts (statementAt expr pattern fuel) := by
  induction fuel with
  | zero => exact yields_refuse
  | succ fuel ih => exact yields_readStatement hexpr (yields_readBlock ih (yields_readSimpleLine hexpr))

end Statements

/-! ## 6. Modules -/

/-- **Every name that a module binds is plain.** -/
theorem plain_ofSource? {named : List Char → Option Nat} {source : String} {tree : Module}
    (h : Module.ofSource? named source = some tree) : ∀ b ∈ bindings tree, IsPlain b.name := by
  obtain ⟨ts, hts, h⟩ := Option.bind_eq_some_iff.mp h
  obtain ⟨⟨body, rest⟩, hbody, h⟩ := Option.bind_eq_some_iff.mp h
  have hplain : ∀ s ∈ body, s.IsPlain :=
    yields_readStatements (yields_statementAt fun g => yields_expressionAt g) _ _ _ (tokens?_plain hts) hbody
  have htree : body = tree := by
    dsimp only at h
    split at h
    · exact Option.some.inj h
    · cases h
  subst htree
  intro b hb
  obtain ⟨k, s, hs, hb⟩ := mem_bindingsIn.mp hb
  exact hplain s (List.mem_of_getElem? hs) _ _ b hb

end FragmentSearch.Source
