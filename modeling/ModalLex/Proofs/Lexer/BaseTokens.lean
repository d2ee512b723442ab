import Mathlib.Data.List.Forall2
import ModalLex.Proofs.Lexer.Compilation

/-!
# Factories Do Not Matter

The engine knows base tokens only; what a lexer emits is made of them by its factory. The tokens
are kept, though, and shown again: the token before to the predicates of the next pull, and to its
own `after` hook. So what a factory makes could change what a run does, but only by way of these
hooks.

Every lexer has a lexer of **base tokens** beside it (`Lexer.onBase`), whose factory makes nothing,
and whose hooks make for themselves what the factory would have made (`Rule.onBase`). The runs of a
lexer are the runs of its base lexer, with all tokens made in the end (`reports_shown`); no
hypothesis is needed for this. Two lexers whose hooks do not depend on what they are shown have the
same base lexer, and so their runs are two views of one run.

## Main results

* `pull_shown`: a pull is the pull of the base lexer, shown through the factory.
* `make_onBase`: the base lexer is made where the lexer is made.
* `factory_only_shapes_tokens`: **the factory decides nothing but the tokens.**
-/

namespace ModalLex

variable {σ τ τ' : Type}

/-! ### Base tokens shown through a factory -/

/-- A rule for base tokens, whose hooks make what a factory would have made before they look. -/
def Rule.onBase (factory : BaseToken → Text → τ) (rule : Rule σ τ) : Rule σ BaseToken where
  pattern := rule.pattern
  kind := rule.kind
  test := rule.test.map fun test context host =>
    test { context with lastToken := context.lastToken.map (factory · context.input) } host
  value := rule.value
  before := rule.before
  fetch := rule.fetch
  after := rule.after.map fun after context host =>
    after { context with token := factory context.token context.input } host

/-- An answer with another view of its token. -/
def Pull.map (view : τ → τ') : Pull τ → Pull τ'
  | .token t => .token (view t)
  | .failed e => .failed e
  | .ended => .ended
  | .stalled => .stalled

/-- The end of an attempt with another view of its token. -/
def Lexer.Attempt.map (view : τ → τ') : Lexer.Attempt τ → Lexer.Attempt τ'
  | .token t => .token (view t)
  | .failed e => .failed e
  | .aborted => .aborted

/-- A report with another view of its token. -/
def Lexer.Report.map (view : τ → τ') (report : Lexer.Report σ τ) : Lexer.Report σ τ' where
  answer := report.answer.map view
  position := report.position
  state := report.state
  depth := report.depth
  host := report.host

/-- A stream of base tokens, shown through a factory. -/
def TokenStream.shown (factory : BaseToken → Text → τ) (stream : TokenStream BaseToken) :
    TokenStream τ where
  input := stream.input
  cursor := stream.cursor
  stack := stream.stack
  lastToken := stream.lastToken.map (factory · stream.input)
  pending := stream.pending
  startError := stream.startError
  finished := stream.finished

/-! ### Resolving -/

namespace Query

/-- A query about rules for base tokens. -/
def onBase (factory : BaseToken → Text → τ) (q : Query σ τ) (lastToken : Option BaseToken) :
    Query σ BaseToken where
  compiler := q.compiler
  rules := q.rules.map (Rule.onBase factory)
  state := q.state
  input := q.input
  offset := q.offset
  lastToken := lastToken

variable {factory : BaseToken → Text → τ} {q : Query σ τ} {last : Option BaseToken}

/-- A predicate sees what it would have seen. -/
theorem accepts_onBase (h : q.lastToken = last.map (factory · q.input)) (rule : Rule σ τ)
    (found : Found) (host : σ) :
    (q.onBase factory last).accepts (rule.onBase factory) found host =
      q.accepts rule found host := by
  have hcontext : q.testContext found = { q.testContext found with
      lastToken := last.map (factory · q.input) } := by
    rw [testContext, h]
  rw [accepts, accepts, hcontext, Rule.onBase]
  cases rule.test <;> rfl

/-- The search for a rule takes the same course among the rules for base tokens. -/
theorem Runs.onBase (h : q.lastToken = last.map (factory · q.input)) {attempts first : Nat}
    {ambient : Ambient σ} {out : Except ConfigError (Option (Found × Rule σ τ)) × Ambient σ}
    (hruns : q.Runs attempts first ambient out) :
    (q.onBase factory last).Runs attempts first ambient
      (mapRules (fun _ => Rule.onBase factory) out.1, out.2) := by
  have hrule (index : Nat) : (q.onBase factory last).rules[index]? =
      q.rules[index]?.map (Rule.onBase factory) := List.getElem?_map
  induction hruns with
  | spent => exact .spent
  | unbuilt hq => exact .unbuilt hq
  | exhausted hq => exact .exhausted hq
  | unmatched hq hmatch => exact .unmatched hq hmatch
  | unowned hq hmatch hnone =>
      exact .unowned hq hmatch ((hrule _).trans (congrArg _ hnone))
  | accepted hq hmatch hsome haccepts =>
      exact .accepted hq hmatch ((hrule _).trans (congrArg _ hsome))
        ((accepts_onBase h _ _ _).trans haccepts)
  | rejected hq hmatch hsome haccepts _ ih =>
      exact .rejected hq hmatch ((hrule _).trans (congrArg _ hsome))
        ((accepts_onBase h _ _ _).trans haccepts) ih

/-- A query resolves to the rule for base tokens that belongs to the rule it would have resolved
to. -/
theorem resolve_onBase (h : q.lastToken = last.map (factory · q.input)) (ambient : Ambient σ) :
    (q.onBase factory last).resolve ambient =
      (mapRules (fun _ => Rule.onBase factory) (q.resolve ambient).1, (q.resolve ambient).2) := by
  have hlength : (q.onBase factory last).rules.length = q.rules.length := by simp [onBase]
  rw [resolve, hlength]
  exact ((q.resolveFrom_runs _ _ ambient).onBase h).eq

end Query

namespace Lexer

/-! ### Pulling -/

/-- The lexer of base tokens beside a lexer. -/
def onBase (lexer : Lexer σ τ) : Lexer σ BaseToken where
  config := lexer.config
  compiler := lexer.compiler
  rules := lexer.rules.map fun rules => rules.map (Rule.onBase lexer.factory)
  factory := fun base _ => base

/-- The rules of a state, on base tokens. -/
theorem rulesOf_onBase (lexer : Lexer σ τ) (state : Nat) :
    lexer.onBase.rulesOf state = (lexer.rulesOf state).map (Rule.onBase lexer.factory) := by
  simp only [rulesOf, onBase, List.getD_eq_getElem?_getD, List.getElem?_map]
  cases lexer.rules[state]? <;> rfl

/-- A pull keeps the input. -/
theorem pull_input (lexer : Lexer σ τ) (stream : TokenStream τ) (ambient : Ambient σ)
    (attempts : Nat) : (lexer.pull attempts stream ambient).2.1.input = stream.input := by
  have hruns := lexer.pull_runs attempts stream ambient
  generalize lexer.pull attempts stream ambient = out at hruns
  cases hruns with
  | closed => rfl
  | misplaced => rfl
  | unfinished _ _ hfinish => exact hfinish.input_eq
  | searched _ _ hfinish hscan =>
      exact (close_input _).trans (hscan.frame.1.trans hfinish.input_eq)

section Shown

variable {lexer : Lexer σ τ} {stream : TokenStream BaseToken} {ambient ambient' : Ambient σ}

/-- The base lexer asks what the lexer asks, with the last token shown. -/
theorem query_onBase (lexer : Lexer σ τ) (stream : TokenStream BaseToken) :
    lexer.onBase.query stream =
      (lexer.query (stream.shown lexer.factory)).onBase lexer.factory stream.lastToken := by
  rw [query, rulesOf_onBase]
  rfl

/-- What the base lexer resolves, the lexer resolves. -/
theorem resolve_shown {answer : Except ConfigError (Option (Found × Rule σ BaseToken))}
    (h : (lexer.onBase.query stream).resolve ambient = (answer, ambient')) :
    ∃ answer', answer = Query.mapRules (fun _ => Rule.onBase lexer.factory) answer' ∧
      (lexer.query (stream.shown lexer.factory)).resolve ambient = (answer', ambient') := by
  rw [query_onBase, Query.resolve_onBase rfl] at h
  obtain ⟨rfl, rfl⟩ := Prod.mk.inj h
  exact ⟨_, rfl, rfl⟩

/-- A hook after a token is given the token as it is shown. -/
theorem runAfter_shown (factory : BaseToken → Text → τ) (rule : Option (Rule σ τ))
    (pending : Pending) (stream : TokenStream BaseToken) (ambient : Ambient σ) :
    runAfter rule pending (stream.shown factory) ambient =
      runAfter (rule.map (Rule.onBase factory)) pending stream ambient := by
  have hafter : (rule.map (Rule.onBase factory)).bind (·.after) =
      (rule.bind (·.after)).map fun after context host =>
        after { context with token := factory context.token context.input } host := by
    cases rule <;> rfl
  unfold runAfter
  rw [hafter]
  cases rule.bind (·.after) with
  | none => rfl
  | some hook =>
      cases hlast : stream.lastToken with
      | none => simp only [TokenStream.shown, hlast, Option.map_none, Option.map_some]
      | some token => simp only [TokenStream.shown, hlast, Option.map_some]

/-- The end of a base token is that of the token it is shown as. -/
theorem FinishRuns.shown {out : Except LexError Unit × TokenStream BaseToken × Ambient σ}
    (hruns : FinishRuns lexer.onBase stream ambient out) :
    FinishRuns lexer (stream.shown lexer.factory) ambient
      (out.1, out.2.1.shown lexer.factory, out.2.2) := by
  have hafter {p : Pending} {out : Except LexError Unit × StateStack × Ambient σ}
      (h : runAfter (lexer.onBase.rulesOf p.state)[p.rule]? p stream ambient = out) :
      runAfter (lexer.rulesOf p.state)[p.rule]? p (stream.shown lexer.factory) ambient = out := by
    rwa [runAfter_shown, ← List.getElem?_map, ← rulesOf_onBase]
  cases hruns with
  | idle hpending => exact .idle hpending
  | afterFailed hpending hrun => exact .afterFailed hpending (hafter hrun)
  | finished hpending hrun => exact .finished hpending (hafter hrun)

/-- One attempt, shown through the factory. -/
theorem AttemptRuns.shown {out : Attempt BaseToken × TokenStream BaseToken × Ambient σ}
    (hruns : AttemptRuns lexer.onBase stream ambient out) :
    AttemptRuns lexer (stream.shown lexer.factory) ambient
      (out.1.map (lexer.factory · stream.input), out.2.1.shown lexer.factory, out.2.2) := by
  cases hruns with
  | unbuilt hq =>
      obtain ⟨answer, hanswer, hq'⟩ := resolve_shown hq
      obtain rfl := Query.eq_error_of_mapRules hanswer
      exact .unbuilt hq'
  | unmatched hq =>
      obtain ⟨answer, hanswer, hq'⟩ := resolve_shown hq
      obtain rfl := Query.eq_none_of_mapRules hanswer
      exact .unmatched hq'
  | beforeFailed hq hbefore =>
      obtain ⟨answer, hanswer, hq'⟩ := resolve_shown hq
      obtain ⟨rule, rfl, rfl⟩ := Query.eq_some_of_mapRules hanswer
      exact .beforeFailed hq' hbefore
  | aborted hq hbefore =>
      obtain ⟨answer, hanswer, hq'⟩ := resolve_shown hq
      obtain ⟨rule, rfl, rfl⟩ := Query.eq_some_of_mapRules hanswer
      exact .aborted hq' hbefore
  | fetchFailed hq hbefore hfetch =>
      obtain ⟨answer, hanswer, hq'⟩ := resolve_shown hq
      obtain ⟨rule, rfl, rfl⟩ := Query.eq_some_of_mapRules hanswer
      exact .fetchFailed hq' hbefore hfetch
  | token hq hbefore hfetch hvalue hkind =>
      obtain ⟨answer, hanswer, hq'⟩ := resolve_shown hq
      obtain ⟨rule, rfl, rfl⟩ := Query.eq_some_of_mapRules hanswer
      exact .token hq' hbefore hfetch hvalue hkind

/-- A search, shown through the factory. -/
theorem ScanRuns.shown {attempts : Nat}
    {out : Pull BaseToken × TokenStream BaseToken × Ambient σ}
    (hruns : ScanRuns lexer.onBase attempts stream ambient out) :
    ScanRuns lexer attempts (stream.shown lexer.factory) ambient
      (out.1.map (lexer.factory · stream.input), out.2.1.shown lexer.factory, out.2.2) := by
  induction hruns with
  | stalled => exact .stalled
  | ended hends => exact .ended hends
  | token hgoes hattempt => exact .token hgoes hattempt.shown
  | failed hgoes hattempt => exact .failed hgoes hattempt.shown
  | again hgoes hattempt _ ih =>
      rw [hattempt.attempted.input_eq] at ih
      exact .again hgoes hattempt.shown ih

/-- A run is closed whatever its tokens are shown as. -/
theorem close_shown (view : BaseToken → τ) (factory : BaseToken → Text → τ)
    (out : Pull BaseToken × TokenStream BaseToken × Ambient σ) :
    close (out.1.map view, out.2.1.shown factory, out.2.2) =
      ((close out).1.map view, (close out).2.1.shown factory, (close out).2.2) := by
  obtain ⟨answer, stream, ambient⟩ := out
  cases answer <;> rfl

/-- **A pull of the base lexer is one of the lexer**, with its token shown. -/
theorem PullRuns.shown {attempts : Nat}
    {out : Pull BaseToken × TokenStream BaseToken × Ambient σ}
    (hruns : PullRuns lexer.onBase attempts stream ambient out) :
    PullRuns lexer attempts (stream.shown lexer.factory) ambient
      (out.1.map (lexer.factory · stream.input), out.2.1.shown lexer.factory, out.2.2) := by
  cases hruns with
  | closed hclosed => exact .closed hclosed
  | misplaced hopen herror => exact .misplaced hopen herror
  | unfinished hopen herror hfinish =>
      rw [← close_shown]
      exact .unfinished hopen herror hfinish.shown
  | searched hopen herror hfinish hscan =>
      rw [← close_shown, ← hfinish.input_eq]
      exact .searched hopen herror hfinish.shown hscan.shown

end Shown

variable (lexer : Lexer σ τ) (stream : TokenStream BaseToken) (ambient : Ambient σ)

/-- **One pull, shown through the factory.** -/
theorem pull_shown (attempts : Nat) :
    lexer.pull attempts (stream.shown lexer.factory) ambient =
      ((lexer.onBase.pull attempts stream ambient).1.map (lexer.factory · stream.input),
        (lexer.onBase.pull attempts stream ambient).2.1.shown lexer.factory,
        (lexer.onBase.pull attempts stream ambient).2.2) :=
  (lexer.onBase.pull_runs attempts stream ambient).shown.eq

/-- **A run, shown through the factory**: it reports what the base lexer reports, with the tokens
made. -/
theorem reports_shown (allowances : List Nat) :
    lexer.reports allowances (stream.shown lexer.factory) ambient =
      (lexer.onBase.reports allowances stream ambient).map
        (.map (lexer.factory · stream.input)) := by
  induction allowances generalizing stream ambient with
  | nil => rfl
  | cons attempts allowances ih =>
      have hinput := lexer.onBase.pull_input stream ambient attempts
      rw [reports, reports, pull_shown]
      generalize lexer.onBase.pull attempts stream ambient = answer at hinput
      obtain ⟨out, stream₁, ambient₁⟩ := answer
      have hinput : stream₁.input = stream.input := hinput
      dsimp only
      rw [ih stream₁ ambient₁, hinput]
      rfl

/-- A fresh run has no token to show. -/
theorem tokenizeFrom_shown (input : Text) (start : Nat) :
    (lexer.tokenizeFrom input start).1 =
      ((lexer.onBase.tokenizeFrom input start).1.shown lexer.factory) := rfl

end Lexer

/-! ### Making the base lexer -/

/-- A table with other rules. -/
def StateTable.map {ρ ρ' : Type} (f : ρ → ρ') (table : StateTable ρ) : StateTable ρ' :=
  ⟨table.entries.map fun entry => (entry.1, entry.2.map f)⟩

/-- A table is resolved whatever is made of its rules. -/
theorem StateTable.resolve_map {ρ ρ' : Type} (f : ρ → ρ') (table : StateTable ρ) (base : String) :
    (table.map f).resolve base =
      (table.resolve base).map fun resolved => (resolved.1, resolved.2.map (List.map f)) :=
  resolve_mapRules (List.map f) table base

/-- Patterns are checked without looking at hooks. -/
theorem Compiler.ofRules_onBase (factory : BaseToken → Text → τ) (names : StateNames)
    (rules : List (List (Rule σ τ))) :
    Compiler.ofRules names (rules.map (List.map (Rule.onBase factory))) =
      Compiler.ofRules names rules := by
  have hrule : checkRule ∘ Rule.onBase factory = checkRule (σ := σ) := rfl
  have hstate : (fun stateRules => stateRules.mapM checkRule) ∘ List.map (Rule.onBase factory) =
      fun stateRules : List (Rule σ τ) => stateRules.mapM checkRule := by
    funext stateRules
    rw [Function.comp_apply, List.mapM_map, hrule]
  rw [ofRules, ofRules, List.mapM_map, hstate]

namespace Lexer

/-- **The base lexer is made where the lexer is made**, with the same cache and the same journal,
and where the lexer cannot be made it cannot be made for the same reason. -/
theorem make_onBase (table : StateTable (Rule σ τ)) (config : LexerConfig)
    (factory : BaseToken → Text → τ) :
    make (table.map (Rule.onBase factory)) config (fun base _ => base) =
      ((make table config factory).1.map fun made => (made.1.onBase, made.2),
        (make table config factory).2) := by
  have hsize : (table.map (Rule.onBase factory)).size = table.size := by
    simp [StateTable.size, StateTable.map]
  rw [make, make, StateTable.resolve_map, hsize]
  dsimp only
  cases table.resolve config.baseState with
  | error e => rfl
  | ok resolved =>
      obtain ⟨names, rules⟩ := resolved
      simp only [Except.map, Compiler.ofRules_onBase]
      cases Compiler.ofRules names rules with
      | error e => rfl
      | ok compiler =>
          dsimp only
          split
          · generalize compiler.compileAll .empty _ = answer
            obtain ⟨result, cache, journal⟩ := answer
            cases result <;> rfl
          · rfl

end Lexer

/-! ### Hooks that do not depend on tokens -/

/-- Two rules, for tokens that may be of different types, that are the same but for what their
hooks do with tokens: and there, neither the predicate nor the `after` hook depends on the token
that it is shown. -/
structure Rule.SameButTokens (rule : Rule σ τ) (rule' : Rule σ τ') : Prop where
  pattern_eq : rule.pattern = rule'.pattern
  kind_eq : rule.kind = rule'.kind
  value_eq : rule.value = rule'.value
  before_eq : rule.before = rule'.before
  fetch_eq : rule.fetch = rule'.fetch
  test : Option.Rel
    (fun test test' => ∀ (matched : MatchContext) (state : String) (last : Option τ)
      (last' : Option τ') (host : σ), last.isSome = last'.isSome →
        test { matched with state, lastToken := last } host =
          test' { matched with state, lastToken := last' } host)
    rule.test rule'.test
  after : Option.Rel
    (fun after after' => ∀ (matched : MatchContext) (position : Nat) (token : τ) (token' : τ')
      (host : σ),
        after { matched with position, token } host =
          after' { matched with position, token := token' } host)
    rule.after rule'.after

/-- Two tables of the same states with rules that are the same but for tokens. -/
def StateTable.SameButTokens (table : StateTable (Rule σ τ)) (table' : StateTable (Rule σ τ')) :
    Prop :=
  List.Forall₂ (fun entry entry' => entry.1 = entry'.1 ∧
    List.Forall₂ Rule.SameButTokens entry.2 entry'.2) table.entries table'.entries

/-- What is mapped alike is equal when it has been mapped. -/
theorem option_map_eq_of_rel {α β γ : Type} {f : α → γ} {g : β → γ} {related : α → β → Prop}
    (h : ∀ a b, related a b → f a = g b) {a? : Option α} {b? : Option β}
    (hrel : Option.Rel related a? b?) : a?.map f = b?.map g := by
  cases hrel with
  | none => rfl
  | some hab => rw [Option.map_some, Option.map_some, h _ _ hab]

/-- Lists that are mapped alike one by one are equal when they have been mapped. -/
theorem list_map_eq_of_forall₂ {α β γ : Type} {f : α → γ} {g : β → γ} {l : List α} {l' : List β}
    (h : List.Forall₂ (fun a b => f a = g b) l l') : l.map f = l'.map g := by
  rw [← List.forall₂_eq_eq_eq]
  exact List.forall₂_map_left_iff.mpr (List.forall₂_map_right_iff.mpr h)

/-- Rules that are the same but for tokens are one rule for base tokens. -/
theorem Rule.SameButTokens.onBase_eq {rule : Rule σ τ} {rule' : Rule σ τ'}
    (h : rule.SameButTokens rule') (F : BaseToken → Text → τ) (G : BaseToken → Text → τ') :
    rule.onBase F = rule'.onBase G := by
  have htest : (rule.onBase F).test = (rule'.onBase G).test := by
    refine option_map_eq_of_rel ?_ h.test
    intro test test' heq
    funext context host
    exact heq _ _ _ _ _ (by simp)
  have hafter : (rule.onBase F).after = (rule'.onBase G).after := by
    refine option_map_eq_of_rel ?_ h.after
    intro after after' heq
    funext context host
    exact heq _ _ _ _ _
  rw [onBase, onBase, mk.injEq]
  exact ⟨h.pattern_eq, h.kind_eq, htest, h.value_eq, h.before_eq, h.fetch_eq, hafter⟩

/-- Tables that are the same but for tokens are one table for base tokens. -/
theorem StateTable.SameButTokens.map_onBase_eq {table : StateTable (Rule σ τ)}
    {table' : StateTable (Rule σ τ')} (h : table.SameButTokens table')
    (F : BaseToken → Text → τ) (G : BaseToken → Text → τ') :
    table.map (Rule.onBase F) = table'.map (Rule.onBase G) := by
  have hentries : table.entries.map (fun entry => (entry.1, entry.2.map (Rule.onBase F))) =
      table'.entries.map fun entry => (entry.1, entry.2.map (Rule.onBase G)) := by
    refine list_map_eq_of_forall₂ (h.imp ?_)
    rintro ⟨name, rules⟩ ⟨name', rules'⟩ ⟨hname, hrules⟩
    obtain rfl : name = name' := hname
    rw [list_map_eq_of_forall₂ (hrules.imp fun _ _ hrule => hrule.onBase_eq F G)]
  rw [map, map, hentries]

namespace Lexer

/-- **The factory decides nothing but the tokens.**

Take two tables that are the same but for tokens (in particular one table twice, whose predicates
and `after` hooks do not depend on the token they are shown), and two factories. Then both lexers
fail to be made for the same reason; or both are made, with the same cache and the same journal,
and there is one lexer of base tokens whose runs tell what both do: whatever the input, the start
and the allowances of the pulls, and whatever has been put into the caches by other runs, the
reports of either lexer are those of the base lexer with every base token handed to its own
factory. Everything else in them is the same: the errors and the end, each at the same pull, the
positions, states and depths behind every pull, and the host. -/
theorem factory_only_shapes_tokens {table : StateTable (Rule σ τ)}
    {table' : StateTable (Rule σ τ')} (h : table.SameButTokens table') (config : LexerConfig)
    (F : BaseToken → Text → τ) (G : BaseToken → Text → τ') :
    (∃ e journal, make table config F = (.error e, journal) ∧
      make table' config G = (.error e, journal)) ∨
    ∃ (lexer : Lexer σ τ) (lexer' : Lexer σ τ') (base : Lexer σ BaseToken)
      (cache : AlternationCache) (journal : Journal),
      make table config F = (.ok (lexer, cache), journal) ∧
        make table' config G = (.ok (lexer', cache), journal) ∧
        lexer.compiler.Coherent cache ∧
        ∀ (input : Text) (start : Nat) (allowances : List Nat) (a b : Ambient σ),
          a.Alike lexer.compiler b →
            lexer.reports allowances (lexer.tokenizeFrom input start).1 a =
                (base.reports allowances (base.tokenizeFrom input start).1 a).map
                  (.map (F · input)) ∧
              lexer'.reports allowances (lexer'.tokenizeFrom input start).1 b =
                (base.reports allowances (base.tokenizeFrom input start).1 a).map
                  (.map (G · input)) := by
  have hmade := make_onBase table config F
  have hmade' := make_onBase table' config G
  rw [h.map_onBase_eq F G, hmade'] at hmade
  cases hmake : make table config F with
  | mk result journal =>
      cases hmake' : make table' config G with
      | mk result' journal' =>
          rw [hmake, hmake'] at hmade
          cases result with
          | error e =>
              cases result' with
              | error e' =>
                  obtain ⟨rfl, rfl⟩ : e' = e ∧ journal' = journal := by
                    simpa [Except.map] using hmade
                  exact .inl ⟨e', journal', rfl, rfl⟩
              | ok made' => exact absurd hmade (by simp [Except.map])
          | ok made =>
              cases result' with
              | error e' => exact absurd hmade (by simp [Except.map])
              | ok made' =>
                  obtain ⟨lexer, cache⟩ := made
                  obtain ⟨lexer', cache'⟩ := made'
                  obtain ⟨⟨hbase, rfl⟩, rfl⟩ :
                      (lexer'.onBase = lexer.onBase ∧ cache' = cache) ∧ journal' = journal := by
                    simpa [Except.map] using hmade
                  obtain ⟨-, -, hF, -, hcoherent⟩ := make_ok hmake
                  obtain ⟨-, -, hG, -, -⟩ := make_ok hmake'
                  refine .inr ⟨lexer, lexer', lexer.onBase, cache', journal', rfl, rfl, hcoherent,
                    ?_⟩
                  intro input start allowances a b halike
                  have halike : a.Alike lexer.onBase.compiler b := halike
                  refine ⟨?_, ?_⟩
                  · rw [tokenizeFrom_shown, reports_shown, hF]
                    rfl
                  · rw [tokenizeFrom_shown, reports_shown, hG, hbase, reports_alike halike]
                    rfl

/-- Lists: `[` enters the state `items` and `]` leaves it, both in an `after` hook; inside stand
words and line ends, and outside a comma is accepted once there is a token before it. -/
def listTable (τ : Type) : StateTable (Rule Unit τ) :=
  (StateTable.flat
    [{ pattern := .source ['\\', '[']
       after := some fun _ host => .ask (.push "items") fun _ => .done (.ok (), host) },
      { pattern := .source [',']
        test := some fun context host => (context.lastToken.isSome, host) }]).declare "items"
    [{ pattern := .source ['[', 'a', '-', 'z', ']', '+'] },
      { pattern := .source ['\n'] },
      { pattern := .source [']']
        after := some fun _ host => .ask .pop fun _ => .done (.ok (), host) }]

/-- The hooks of this table do not look at tokens, except whether there is one. -/
theorem listTable_sameButTokens (τ τ' : Type) : (listTable τ).SameButTokens (listTable τ') := by
  refine .cons ⟨rfl, .cons ?_ (.cons ?_ .nil)⟩
    (.cons ⟨rfl, .cons ?_ (.cons ?_ (.cons ?_ .nil))⟩ .nil)
  · exact ⟨rfl, rfl, rfl, rfl, rfl, .none, .some fun _ _ _ _ _ => rfl⟩
  · exact ⟨rfl, rfl, rfl, rfl, rfl, .some fun _ _ _ _ _ h => congrArg (·, ()) h, .none⟩
  · exact ⟨rfl, rfl, rfl, rfl, rfl, .none, .none⟩
  · exact ⟨rfl, rfl, rfl, rfl, rfl, .none, .none⟩
  · exact ⟨rfl, rfl, rfl, rfl, rfl, .none, .some fun _ _ _ _ _ => rfl⟩

/-- A list over two lines, once with the texts and once with the lines of its tokens. At the end
there stands a bracket that is not opened, which both runs refuse. -/
theorem factory_only_shapes_tokens_lines :
    ∃ (lexer : Lexer Unit Token) (lexer' : Lexer Unit LineToken) (base : Lexer Unit BaseToken)
      (ambient : Ambient Unit) (run : List (Report Unit BaseToken)),
      run = base.reports [1, 1, 1, 1, 1, 1, 1, 1]
          (base.tokenizeFrom ['[', 'a', '\n', 'b', ']', ',', ']'] 0).1 ambient ∧
        lexer.reports [1, 1, 1, 1, 1, 1, 1, 1]
            (lexer.tokenizeFrom ['[', 'a', '\n', 'b', ']', ',', ']'] 0).1 ambient =
          run.map (.map (Token.make · ['[', 'a', '\n', 'b', ']', ',', ']'])) ∧
        lexer'.reports [1, 1, 1, 1, 1, 1, 1, 1]
            (lexer'.tokenizeFrom ['[', 'a', '\n', 'b', ']', ',', ']'] 0).1 ambient =
          run.map (.map (LineToken.make · ['[', 'a', '\n', 'b', ']', ',', ']'])) ∧
        run.map (fun r => (r.position, r.depth)) =
          [(1, 0), (2, 1), (3, 1), (4, 1), (5, 1), (6, 0), (6, 0), (6, 0)] ∧
        (lexer'.reports [1, 1, 1, 1, 1, 1, 1, 1]
            (lexer'.tokenizeFrom ['[', 'a', '\n', 'b', ']', ',', ']'] 0).1 ambient).map
          (fun r => r.answer.token?.map (·.line)) =
          [some 1, some 1, some 1, some 2, some 2, some 2, none, none] := by
  have hrun : (match make (listTable LineToken) {} LineToken.make with
      | (.ok (lexer', cache), _) =>
        let reports := lexer'.reports [1, 1, 1, 1, 1, 1, 1, 1]
          (lexer'.tokenizeFrom ['[', 'a', '\n', 'b', ']', ',', ']'] 0).1 ⟨cache, (), #[]⟩
        decide (reports.map (fun r => (r.position, r.depth)) =
            [(1, 0), (2, 1), (3, 1), (4, 1), (5, 1), (6, 0), (6, 0), (6, 0)] ∧
          reports.map (fun r => r.answer.token?.map (·.line)) =
            [some 1, some 1, some 1, some 2, some 2, some 2, none, none])
      | (.error _, _) => false) = true := by
    decide +kernel
  rcases factory_only_shapes_tokens (listTable_sameButTokens Token LineToken) {} Token.make
    LineToken.make with ⟨e, journal, -, herror⟩ | ⟨lexer, lexer', base, cache, journal, -, hmake',
      hcoherent, hboth⟩
  · rw [herror] at hrun
    exact absurd hrun (by simp)
  · rw [hmake'] at hrun
    obtain ⟨hplaces, hlines⟩ := of_decide_eq_true hrun
    obtain ⟨hleft, hright⟩ := hboth ['[', 'a', '\n', 'b', ']', ',', ']'] 0
      [1, 1, 1, 1, 1, 1, 1, 1] ⟨cache, (), #[]⟩ ⟨cache, (), #[]⟩ ⟨rfl, hcoherent, hcoherent⟩
    refine ⟨lexer, lexer', base, ⟨cache, (), #[]⟩, _, rfl, hleft, hright, ?_, hlines⟩
    rw [hright, List.map_map] at hplaces
    exact hplaces

end Lexer

end ModalLex
