import ModalLex.Proofs.Lexer.Aborting
import ModalLex.Proofs.Lexer.Mirroring

/-!
# Progress

A rule that has no predicate and no hooks but for the value of its tokens is **plain**. A lexer of
plain rules never leaves its base state, no match is rejected or aborted, and a token ends where
its match does. So what a pull does is settled by the cursor alone (`PlainPull`): the same match is
found there every time (`nextMatch`), with the same token but for what the host may do to its value
and its kind.

Two things can become of such a run. As long as every match has text, each token takes at least one
character of what is left of the input, and the run closes when nothing is left or nothing matches.
The first match without text leaves the cursor where it is, and there it is found for ever.

## Main results

* `InBase.plainPull`: what a pull of a lexer of plain rules does.
* `InBase.repeats`: a match without text is found for ever.
* `InBase.progress`: the two ways of a run, by induction on the characters that are left.
* `progress_dichotomy`: **a run of a lexer of plain rules ends, or it repeats an empty token for
  ever**.
-/

namespace ModalLex

variable {σ τ : Type}

/-! ### Plain rules -/

/-- A rule without a predicate, and without hooks that switch states or move the cursor. -/
structure Rule.Plain (rule : Rule σ τ) : Prop where
  test_eq : rule.test = none
  before_eq : rule.before = none
  fetch_eq : rule.fetch = none
  after_eq : rule.after = none

/-- A rule whose value and kind are functions of what its hooks are given, whatever the host. -/
structure Rule.Functional (rule : Rule σ τ) : Prop where
  value_eq : ∀ hook ∈ rule.value, ∀ context host host',
    (hook context host).1 = (hook context host').1
  kind_eq : ∀ derive, rule.kind = .derived derive → ∀ matched host host',
    (derive matched host).1 = (derive matched host').1

/-- A lexer of plain rules. -/
def Lexer.Plain (lexer : Lexer σ τ) : Prop := ∀ rules ∈ lexer.rules, ∀ rule ∈ rules, rule.Plain

/-- A lexer whose values and kinds are functions of what the hooks are given. -/
def Lexer.Functional (lexer : Lexer σ τ) : Prop :=
  ∀ rules ∈ lexer.rules, ∀ rule ∈ rules, rule.Functional

namespace Query

/-- The first match of a query, where no predicate rejects one. -/
def firstMatch (q : Query σ τ) : Except ConfigError (Option (Found × Rule σ τ)) :=
  match q.matchFrom 0 with
  | .error e => .error e
  | .ok none => .ok none
  | .ok (some found) => .ok (q.rules[found.rule]?.map fun rule => (found, rule))

/-- Where no rule has a predicate, a query is resolved to its first match. -/
theorem resolve_eq_firstMatch (q : Query σ τ) (h : ∀ rule ∈ q.rules, rule.test = none)
    {a : Ambient σ} (hcoherent : q.compiler.Coherent a.cache) :
    ∃ a' : Ambient σ, q.resolve a = (q.firstMatch, a') := by
  obtain ⟨a', -, -, hround⟩ := q.resolveFrom_succ hcoherent q.rules.length 0
  rw [resolve, hround, firstMatch]
  cases q.matchFrom 0 with
  | error e => exact ⟨_, rfl⟩
  | ok found? =>
      cases found? with
      | none => exact ⟨_, rfl⟩
      | some found =>
          dsimp only
          cases hrule : q.rules[found.rule]? with
          | none => exact ⟨_, rfl⟩
          | some rule =>
              have haccepts : q.accepts rule found a.host = (true, a.host) := by
                rw [accepts, h rule (List.mem_of_getElem? hrule)]
              dsimp only
              rw [haccepts]
              exact ⟨_, rfl⟩

end Query

namespace Lexer

variable {lexer : Lexer σ τ} {input : Text} {s t : TokenStream τ} {a : Ambient σ}

/-- What the rules of the base state match at an offset, where no predicate rejects a match. -/
def nextMatch (lexer : Lexer σ τ) (input : Text) (offset : Nat) :
    Except ConfigError (Option (Found × Rule σ τ)) :=
  (lexer.queryIn lexer.names.base input offset none).firstMatch

/-- The token of a match that is found at an offset and changed by no hook. -/
def plainToken (lexer : Lexer σ τ) (input : Text) (offset : Nat) (found : Found)
    (rule : Rule σ τ) (host : σ) : BaseToken :=
  let matched := input.slice offset found.stop
  let (value, host) := valueOf rule
    { input, matched, start := offset, state := lexer.names.baseName, position := found.stop } host
  { kind := (kindOf rule matched host).1, value, start := offset, stop := found.stop }

/-- A token is the same for all hosts where value and kind are functions. -/
theorem plainToken_congr {rule : Rule σ τ} (h : rule.Functional) (offset : Nat) (found : Found)
    (host host' : σ) : lexer.plainToken input offset found rule host =
      lexer.plainToken input offset found rule host' := by
  have hvalue : ∀ context, (valueOf rule context host).1 = (valueOf rule context host').1 := by
    intro context
    rw [valueOf, valueOf]
    cases hhook : rule.value with
    | none => rfl
    | some hook => exact h.value_eq hook hhook context host host'
  have hkind : ∀ matched (host host' : σ),
      (kindOf rule matched host).1 = (kindOf rule matched host').1 := by
    intro matched host host'
    rw [kindOf, kindOf]
    cases hkind : rule.kind with
    | matched => rfl
    | literal kind => rfl
    | derived derive => exact h.kind_eq derive hkind matched host host'
  simp only [plainToken, hvalue]
  congr 1
  exact hkind _ _ _

/-! ### One pull -/

/-- A stream in the base state whose run is not finished. -/
structure InBase (lexer : Lexer σ τ) (input : Text) (s : TokenStream τ) : Prop
    extends Rested lexer s where
  input_eq : s.input = input
  stack_eq : s.stack.stack = []
  startError_eq : s.startError = none
  finished_eq : s.finished = false

/-- A run starts in the base state. -/
theorem inBase_tokenizeFrom (hnames : lexer.names.Resolved) {start : Nat}
    (hstart : input.isBoundary start = true) :
    InBase lexer input (lexer.tokenizeFrom input start).1 ∧
      (lexer.tokenizeFrom input start).1.cursor = start := by
  have herror := startError?_eq_none hstart
  refine ⟨⟨tokenizeFrom_rested hnames input start, rfl, rfl, herror, rfl⟩, ?_⟩
  simp only [tokenizeFrom, herror, Option.isSome_none, Bool.false_eq_true, if_false]

/-- Without an `after` hook, finishing the token before leads to the head of the loop. -/
theorem InBase.finishPending (hplain : lexer.Plain) (h : InBase lexer input s) (a : Ambient σ) :
    ∃ s', lexer.finishPending s a = (.ok (), s', a) ∧
      HeadAt lexer input s.cursor [] s.lastToken s' := by
  obtain ⟨hinput, hcursor, hfinished, -, hready⟩ := h.toRested.finishPending h.finished_eq a
  have herror := lexer.finishPending_startError s a
  suffices hok : ∃ s', lexer.finishPending s a = (.ok (), s', a) ∧ s'.stack.stack = [] ∧
      s'.lastToken = s.lastToken by
    obtain ⟨s', hok, hstack, hlast⟩ := hok
    rw [hok] at hinput hcursor hfinished hready herror
    exact ⟨s', hok, hready rfl, hinput.trans h.input_eq, hcursor, hstack, hlast,
      herror.trans h.startError_eq, hfinished.trans h.finished_eq⟩
  rw [Lexer.finishPending]
  cases s.pending with
  | none => exact ⟨s, rfl, h.stack_eq, rfl⟩
  | some p =>
      have hafter : ((lexer.rulesOf p.state)[p.rule]?).bind (·.after) = none := by
        cases hrule : (lexer.rulesOf p.state)[p.rule]? with
        | none => rfl
        | some rule =>
            exact (forall_rulesOf hplain p.state rule (List.mem_of_getElem? hrule)).after_eq
      dsimp only
      rw [runAfter, hafter]
      exact ⟨_, rfl, h.stack_eq, rfl⟩

/-- What a pull of a lexer of plain rules does in the base state: its answer, and the stream that it
leaves. -/
inductive PlainPull (lexer : Lexer σ τ) (input : Text) (cursor : Nat) :
    Pull τ → TokenStream τ → Prop
  | ended {s' : TokenStream τ} : ¬cursor < input.byteLength → s'.finished = true →
      PlainPull lexer input cursor .ended s'
  | failed {e : LexError} {s' : TokenStream τ} :
      (∀ p, lexer.nextMatch input cursor ≠ .ok (some p)) → s'.finished = true →
      PlainPull lexer input cursor (.failed e) s'
  | token {found : Found} {rule : Rule σ τ} {host : σ} {s' : TokenStream τ} :
      cursor < input.byteLength → lexer.nextMatch input cursor = .ok (some (found, rule)) →
      InBase lexer input s' → s'.cursor = found.stop →
      PlainPull lexer input cursor
        (.token (lexer.factory (lexer.plainToken input cursor found rule host) input)) s'

/-- The rule of a match is a rule of the base state. -/
theorem mem_of_nextMatch {offset : Nat} {found : Found} {rule : Rule σ τ}
    (h : lexer.nextMatch input offset = .ok (some (found, rule))) :
    rule ∈ lexer.rulesOf lexer.names.base := by
  rw [nextMatch, Query.firstMatch] at h
  split at h
  · exact absurd h (by simp)
  · exact absurd h (by simp)
  · next found' _ =>
      obtain ⟨rule', hrule, hsame⟩ := Option.map_eq_some_iff.mp (Except.ok.inj h)
      obtain ⟨rfl, rfl⟩ := Prod.mk.inj hsame
      exact List.mem_of_getElem? hrule

/-- At the head of the loop, the resolver answers with the next match of the base state. -/
theorem HeadAt.resolve_plain (hplain : lexer.Plain) {cursor : Nat} {lastToken : Option τ}
    (h : HeadAt lexer input cursor [] lastToken s) (hcoherent : lexer.compiler.Coherent a.cache)
    {answer : Except ConfigError (Option (Found × Rule σ τ))} {a' : Ambient σ}
    (hresolve : (lexer.query s).resolve a = (answer, a')) :
    lexer.nextMatch input cursor = answer := by
  have hcurrent : s.stack.current = lexer.names.base := by
    rw [StateStack.current, h.stack_eq, h.names_eq]
    rfl
  have hquery : lexer.query s = lexer.queryIn lexer.names.base input cursor lastToken := by
    rw [query, queryIn, hcurrent, h.input_eq, h.anchor_eq, h.cursor_eq, h.lastToken_eq]
  obtain ⟨a₁, hfirst⟩ := (lexer.query s).resolve_eq_firstMatch
    (fun rule hmem => (forall_rulesOf hplain _ rule hmem).test_eq) hcoherent
  rw [hresolve] at hfirst
  obtain ⟨rfl, -⟩ := Prod.mk.inj hfirst
  rw [hquery]
  rfl

/-- A plain match that is attempted at the head of the loop becomes a token that ends with it. -/
theorem HeadAt.attempt_plain (hplain : lexer.Plain) {cursor : Nat} {lastToken : Option τ}
    (h : HeadAt lexer input cursor [] lastToken s) (hcoherent : lexer.compiler.Coherent a.cache)
    {out : Attempt τ × TokenStream τ × Ambient σ} (hruns : AttemptRuns lexer s a out) :
    (∃ found rule host, lexer.nextMatch input cursor = .ok (some (found, rule)) ∧
      out.1 = .token (lexer.factory (lexer.plainToken input cursor found rule host) input) ∧
      out.2.1.stack.stack = [] ∧ out.2.1.startError = none ∧ out.2.1.finished = false ∧
      out.2.1.cursor = found.stop) ∨
    (∀ p, lexer.nextMatch input cursor ≠ .ok (some p)) ∧ ∃ e, out.1 = .failed e := by
  have hmatch {found : Found} {rule : Rule σ τ} {a₁ : Ambient σ}
      (hresolve : (lexer.query s).resolve a = (.ok (some (found, rule)), a₁)) : rule.Plain :=
    forall_rulesOf hplain _ rule (mem_of_nextMatch (h.resolve_plain hplain hcoherent hresolve))
  -- The hooks before and after the match are missing, so none of them fails or aborts.
  cases hruns with
  | unbuilt hresolve =>
      rw [h.resolve_plain hplain hcoherent hresolve]
      exact .inr ⟨by simp, _, rfl⟩
  | unmatched hresolve =>
      rw [h.resolve_plain hplain hcoherent hresolve]
      exact .inr ⟨by simp, _, rfl⟩
  | beforeFailed hresolve hbefore =>
      rw [runBefore, (hmatch hresolve).before_eq] at hbefore
      cases hbefore
  | aborted hresolve hbefore =>
      rw [runBefore, (hmatch hresolve).before_eq] at hbefore
      cases hbefore
  | fetchFailed hresolve _ hfetch =>
      rw [runFetch, (hmatch hresolve).fetch_eq] at hfetch
      cases hfetch
  | @token found rule stack stop value kind valued kinded a₁ a₂ a₃ hresolve hbefore hfetch hvalue
      hkind =>
      rw [runBefore, (hmatch hresolve).before_eq] at hbefore
      cases hbefore
      rw [runFetch, (hmatch hresolve).fetch_eq, h.valid.anchor_setAnchor] at hfetch
      cases hfetch
      have hname : (s.stack.setAnchor found.stop).currentName = lexer.names.baseName := by
        rw [StateStack.setAnchor_currentName, StateStack.currentName, StateStack.current,
          h.stack_eq, h.names_eq]
        rfl
      have hanchor : s.stack.anchor = cursor := h.anchor_eq.trans h.cursor_eq
      rw [TokenStream.matchContext, h.input_eq, hanchor] at hvalue hkind
      rw [hname] at hvalue
      refine .inl ⟨found, rule, a₁.host, h.resolve_plain hplain hcoherent hresolve, ?_,
        h.stack_eq, h.startError_eq, h.finished_eq, rfl⟩
      simp only [plainToken, hvalue, hkind, hanchor, h.input_eq]

/-- **What a pull does** in the base state of a lexer of plain rules. -/
theorem InBase.plainPull (hplain : lexer.Plain) (h : InBase lexer input s) {attempts : Nat}
    (hattempts : 0 < attempts) (hcoherent : lexer.compiler.Coherent a.cache) :
    PlainPull lexer input s.cursor (lexer.pull attempts s a).1 (lexer.pull attempts s a).2.1 := by
  obtain ⟨attempts, rfl⟩ := Nat.exists_eq_add_one.mpr hattempts
  obtain ⟨s₁, hfinish, hhead⟩ := h.finishPending hplain a
  obtain ⟨hinput', hrested', -, -⟩ := h.pulled (attempts + 1) a
  have hscan := lexer.scan_runs (attempts + 1) s₁ a
  have hpull : lexer.pull (attempts + 1) s a = close (lexer.scan (attempts + 1) s₁ a) :=
    PullRuns.eq (.searched h.finished_eq h.startError_eq (finishRuns_iff.mpr hfinish) hscan)
  rw [hpull] at hinput' hrested' ⊢
  generalize lexer.scan (attempts + 1) s₁ a = out at hinput' hrested' hscan ⊢
  cases hscan with
  | ended hends =>
      rw [hhead.cursor_eq, hhead.input_eq] at hends
      exact .ended hends rfl
  | token hgoes hattempt =>
      rw [hhead.cursor_eq, hhead.input_eq] at hgoes
      rcases hhead.attempt_plain hplain hcoherent hattempt with
        ⟨found, rule, host, hnext, htoken, hstack, herror, hfinished, hcursor⟩ | ⟨-, e, hfailed⟩
      · obtain rfl := Attempt.token.inj htoken
        exact .token hgoes hnext
          ⟨hrested', hinput'.trans h.input_eq, hstack, herror, hfinished⟩ hcursor
      · cases hfailed
  | failed _ hattempt =>
      rcases hhead.attempt_plain hplain hcoherent hattempt with
        ⟨_, _, _, _, htoken, _⟩ | ⟨hnone, -⟩
      · cases htoken
      · exact .failed hnone rfl
  | again _ hattempt =>
      rcases hhead.attempt_plain hplain hcoherent hattempt with
        ⟨_, _, _, _, htoken, _⟩ | ⟨-, e, hfailed⟩
      · cases htoken
      · cases hfailed

/-- A pull that emits a token does not move the cursor back. -/
theorem InBase.cursor_le (h : InBase lexer input s) {attempts : Nat} {token : τ}
    (htoken : (lexer.pull attempts s a).1 = .token token) :
    s.cursor ≤ (lexer.pull attempts s a).2.1.cursor := by
  obtain ⟨-, -, -, hpulled⟩ := h.pulled attempts a
  obtain ⟨hpulled, -⟩ := hpulled h.finished_eq
  rw [htoken] at hpulled
  generalize htoken' : Pull.token token = answer at hpulled
  cases hpulled with
  | token _ _ hstart hle hstop => exact hstart ▸ hstop ▸ hle
  | failed | ended | stalled => cases htoken'

/-! ### Runs without end -/

/-- The answers of a run that is pulled for ever, each time with an allowance of its own. What other
runs of the lexer and the host have done before a pull is in its ambient. -/
def answers (lexer : Lexer σ τ) (pulls : Nat → Nat × Ambient σ) (s : TokenStream τ) : Nat → Pull τ
  | 0 => (lexer.pull (pulls 0).1 s (pulls 0).2).1
  | n + 1 => lexer.answers (fun i => pulls (i + 1)) (lexer.pull (pulls 0).1 s (pulls 0).2).2.1 n

/-- Pulls that may attempt a match, under caches that are coherent. -/
def Able (lexer : Lexer σ τ) (pulls : Nat → Nat × Ambient σ) : Prop :=
  ∀ n, 0 < (pulls n).1 ∧ lexer.compiler.Coherent (pulls n).2.cache

/-- An answer that is a token with text. -/
def HasText (lexer : Lexer σ τ) (input : Text) (answer : Pull τ) : Prop :=
  ∃ base : BaseToken, answer = .token (lexer.factory base input) ∧ base.start < base.stop

/-- A run that emits `n` tokens, all with text, and then its end or its single error. -/
structure Closes (lexer : Lexer σ τ) (input : Text) (answers : Nat → Pull τ) (n : Nat) : Prop where
  hasText : ∀ i < n, lexer.HasText input (answers i)
  closed : answers n = .ended ∨ ∃ e, answers n = .failed e
  ended : ∀ i, n < i → answers i = .ended

/-- A run that emits `n` tokens with text, and then an empty token for ever: always with the same
range, and where kinds and values are functions, the same token. -/
structure Repeats (lexer : Lexer σ τ) (input : Text) (answers : Nat → Pull τ) (n : Nat) : Prop where
  hasText : ∀ i < n, lexer.HasText input (answers i)
  repeated : ∃ base : BaseToken, base.start = base.stop ∧ ∀ i, n ≤ i → ∃ same : BaseToken,
    answers i = .token (lexer.factory same input) ∧ same.start = base.start ∧
      same.stop = base.stop ∧ (lexer.Functional → same = base)

variable {pulls : Nat → Nat × Ambient σ}

theorem Able.tail (h : lexer.Able pulls) : lexer.Able fun i => pulls (i + 1) :=
  fun n => h (n + 1)

/-- A run that is finished only answers that it has ended. -/
theorem answers_of_finished (h : s.finished = true) (i : Nat) :
    lexer.answers pulls s i = .ended := by
  induction i generalizing s pulls with
  | zero => rw [answers, pull, if_pos h]
  | succ i ih =>
      rw [answers, pull, if_pos h]
      exact ih h

/-- A run closes with a pull that closes it. -/
theorem closes_zero (hfinished : (lexer.pull (pulls 0).1 s (pulls 0).2).2.1.finished = true)
    (hclosed : (lexer.pull (pulls 0).1 s (pulls 0).2).1 = .ended ∨
      ∃ e, (lexer.pull (pulls 0).1 s (pulls 0).2).1 = .failed e) :
    lexer.Closes input (lexer.answers pulls s) 0 := by
  refine ⟨fun i hi => absurd hi (Nat.not_lt_zero i), hclosed, ?_⟩
  intro i hi
  obtain ⟨i, rfl⟩ := Nat.exists_eq_add_one.mpr hi
  exact answers_of_finished hfinished i

/-- A token with text in front of a run that closes. -/
theorem Closes.succ {answers : Nat → Pull τ} {n : Nat} (hfirst : lexer.HasText input (answers 0))
    (h : lexer.Closes input (fun i => answers (i + 1)) n) : lexer.Closes input answers (n + 1) := by
  refine ⟨?_, h.closed, ?_⟩
  · intro i hi
    cases i with
    | zero => exact hfirst
    | succ i => exact h.hasText i (Nat.lt_of_succ_lt_succ hi)
  · intro i hi
    obtain ⟨i, rfl⟩ := Nat.exists_eq_add_one.mpr (Nat.zero_lt_of_lt hi)
    exact h.ended i (Nat.lt_of_succ_lt_succ hi)

/-- A token with text in front of a run that repeats an empty one. -/
theorem Repeats.succ {answers : Nat → Pull τ} {n : Nat}
    (hfirst : lexer.HasText input (answers 0))
    (h : lexer.Repeats input (fun i => answers (i + 1)) n) :
    lexer.Repeats input answers (n + 1) := by
  obtain ⟨htext, base, hempty, hrepeated⟩ := h
  refine ⟨?_, base, hempty, ?_⟩
  · intro i hi
    cases i with
    | zero => exact hfirst
    | succ i => exact htext i (Nat.lt_of_succ_lt_succ hi)
  · intro i hi
    obtain ⟨i, rfl⟩ := Nat.exists_eq_add_one.mpr (Nat.zero_lt_of_lt hi)
    exact hrepeated i (Nat.le_of_succ_le_succ hi)

/-- Where something is matched, a pull emits the token of that match. -/
theorem PlainPull.of_nextMatch {cursor : Nat} {answer : Pull τ}
    (h : PlainPull lexer input cursor answer t) (hgoes : cursor < input.byteLength)
    {found : Found} {rule : Rule σ τ}
    (hnext : lexer.nextMatch input cursor = .ok (some (found, rule))) :
    ∃ host, answer = .token (lexer.factory (lexer.plainToken input cursor found rule host) input) ∧
      InBase lexer input t ∧ t.cursor = found.stop := by
  cases h with
  | ended hend => exact absurd hgoes hend
  | failed hnone => exact absurd hnext (hnone _)
  | token _ hnext' hbase hcursor =>
      obtain ⟨rfl, rfl⟩ := Prod.mk.inj (Option.some.inj (Except.ok.inj (hnext'.symm.trans hnext)))
      exact ⟨_, rfl, hbase, hcursor⟩

/-- **A match without text is found for ever**: every token is a token of that match. -/
theorem InBase.answers_of_empty (hplain : lexer.Plain) (h : InBase lexer input s)
    (hpulls : lexer.Able pulls) {cursor : Nat} (hcursor : s.cursor = cursor)
    (hgoes : cursor < input.byteLength) {found : Found} {rule : Rule σ τ}
    (hnext : lexer.nextMatch input cursor = .ok (some (found, rule)))
    (hempty : found.stop = cursor) (i : Nat) :
    ∃ host, lexer.answers pulls s i =
      .token (lexer.factory (lexer.plainToken input cursor found rule host) input) := by
  induction i generalizing s pulls with
  | zero =>
      obtain ⟨hattempts, hcoherent⟩ := hpulls 0
      obtain ⟨host, hanswer, -⟩ :=
        (h.plainPull hplain hattempts hcoherent).of_nextMatch (hcursor ▸ hgoes) (hcursor ▸ hnext)
      exact ⟨host, by rw [answers, hanswer, hcursor]⟩
  | succ i ih =>
      obtain ⟨hattempts, hcoherent⟩ := hpulls 0
      obtain ⟨-, -, hbase, hstop⟩ :=
        (h.plainPull hplain hattempts hcoherent).of_nextMatch (hcursor ▸ hgoes) (hcursor ▸ hnext)
      -- The pull leaves the base state at the cursor at which it found it.
      exact ih hbase hpulls.tail (hstop.trans hempty)

/-- A run that finds a match without text repeats its token. -/
theorem InBase.repeats (hplain : lexer.Plain) (h : InBase lexer input s)
    (hpulls : lexer.Able pulls) (hgoes : s.cursor < input.byteLength) {found : Found}
    {rule : Rule σ τ} (hnext : lexer.nextMatch input s.cursor = .ok (some (found, rule)))
    (hempty : found.stop = s.cursor) : lexer.Repeats input (lexer.answers pulls s) 0 := by
  obtain ⟨host, -⟩ := h.answers_of_empty hplain hpulls rfl hgoes hnext hempty 0
  refine ⟨fun i hi => absurd hi (Nat.not_lt_zero i),
    lexer.plainToken input s.cursor found rule host, hempty.symm, ?_⟩
  intro i _
  obtain ⟨host', hanswer⟩ := h.answers_of_empty hplain hpulls rfl hgoes hnext hempty i
  refine ⟨_, hanswer, rfl, rfl, ?_⟩
  intro hfunctional
  exact plainToken_congr (forall_rulesOf hfunctional _ rule (mem_of_nextMatch hnext)) _ _ _ _

/-! ### The two ways of a run -/

/-- Between two boundaries there is at least one character. -/
theorem length_dropBytes_lt {start stop : Nat} (hstart : input.isBoundary start = true)
    (hstop : input.isBoundary stop = true) (h : start < stop) :
    (input.dropBytes stop).length < (input.dropBytes start).length := by
  obtain ⟨front, middle, back, rfl, rfl, rfl⟩ :=
    Text.exists_split_of_isBoundary hstart hstop (Nat.le_of_lt h)
  have hmiddle : middle ≠ [] := by
    rintro rfl
    simp at h
  have hrest : (front ++ (middle ++ back)).dropBytes (front.byteLength + middle.byteLength) =
      back := by
    rw [← Text.byteLength_append, ← List.append_assoc, Text.dropBytes_append]
  rw [hrest, Text.dropBytes_append, List.length_append]
  have := List.length_pos_iff.mpr hmiddle
  omega

/-- **The two ways of a run**, by induction on the characters that are left: each token with text
takes at least one of them. -/
theorem InBase.progress (hplain : lexer.Plain) (h : InBase lexer input s)
    (hpulls : lexer.Able pulls) : ∃ n ≤ (input.dropBytes s.cursor).length,
      lexer.Closes input (lexer.answers pulls s) n ∨
        lexer.Repeats input (lexer.answers pulls s) n := by
  generalize hleft : (input.dropBytes s.cursor).length = left
  induction left using Nat.strongRecOn generalizing s pulls with
  | _ left ih =>
      obtain ⟨hattempts, hcoherent⟩ := hpulls 0
      have hpull := h.plainPull hplain hattempts hcoherent
      have hle := @InBase.cursor_le _ _ _ _ _ (pulls 0).2 h (pulls 0).1
      generalize hanswer : (lexer.pull (pulls 0).1 s (pulls 0).2).1 = answer at hpull hle
      generalize hs' : (lexer.pull (pulls 0).1 s (pulls 0).2).2.1 = s' at hpull hle
      cases hpull with
      | ended _ hfinished =>
          exact ⟨0, Nat.zero_le _, .inl (closes_zero (hs' ▸ hfinished) (.inl hanswer))⟩
      | failed _ hfinished =>
          exact ⟨0, Nat.zero_le _, .inl (closes_zero (hs' ▸ hfinished) (.inr ⟨_, hanswer⟩))⟩
      | @token found rule host _ hgoes hnext hbase hcursor =>
          have hstop : s.cursor ≤ found.stop := hcursor ▸ hle rfl
          rcases Nat.eq_or_lt_of_le hstop with hempty | hlt
          · exact ⟨0, Nat.zero_le _, .inr (h.repeats hplain hpulls hgoes hnext hempty.symm)⟩
          · have hfewer : (input.dropBytes s'.cursor).length < left := by
              rw [← hleft, hcursor]
              exact length_dropBytes_lt (h.input_eq ▸ h.cursor_isBoundary)
                (hcursor ▸ hbase.input_eq ▸ hbase.cursor_isBoundary) hlt
            have hfirst : lexer.HasText input (lexer.answers pulls s 0) :=
              ⟨_, hanswer, hlt⟩
            obtain ⟨n, hn, hways⟩ := ih _ hfewer hbase hpulls.tail rfl
            refine ⟨n + 1, by omega, ?_⟩
            have htail : (fun i => lexer.answers pulls s (i + 1)) =
                lexer.answers (fun i => pulls (i + 1)) s' := by
              funext i
              rw [answers, hs']
            rcases hways with hcloses | hrepeats
            · exact .inl (Closes.succ hfirst (htail ▸ hcloses))
            · exact .inr (Repeats.succ hfirst (htail ▸ hrepeats))

/-- **The progress dichotomy.** Take a lexer of rules without predicates and without `before`,
`fetch` and `after` hooks, any input and any valid offset, and pull a run for ever, whatever other
runs of the lexer and the host do in between. Either the run emits tokens with text, at most as many
as there are characters behind the offset, then its end or its single error, and from then on only
that it has ended; or it emits tokens with text, at most as many, and from then on an empty token at
every pull: always with the same range, and with the same kind and value as far as these are
functions of what their hooks are given. -/
theorem progress_dichotomy {table : StateTable (Rule σ τ)} {config : LexerConfig}
    {factory : BaseToken → Text → τ} {cache : AlternationCache} {journal : Journal}
    (hmake : Lexer.make table config factory = (.ok (lexer, cache), journal))
    (hplain : lexer.Plain) {start : Nat} (hstart : input.isBoundary start = true)
    (hpulls : lexer.Able pulls) : ∃ n ≤ (input.dropBytes start).length,
      lexer.Closes input (lexer.answers pulls (lexer.tokenizeFrom input start).1) n ∨
        lexer.Repeats input (lexer.answers pulls (lexer.tokenizeFrom input start).1) n := by
  obtain ⟨hlt, -⟩ := make_ok hmake
  obtain ⟨hbase, hcursor⟩ := inBase_tokenizeFrom hlt hstart
  have hways := hbase.progress hplain hpulls
  rwa [hcursor] at hways

/-- Single letters `a`, with a value of their own, and any number of letters `b`, also none. -/
def stutterTable : StateTable (Rule Unit Token) :=
  StateTable.flat
    [{ pattern := .source ['a']
       kind := .literal ['A']
       value := some fun context host => (.text (context.text ++ context.text), host) },
      { pattern := .source ['b', '*']
        kind := .derived fun matched host => ('B' :: matched, host) }]

/-- The rules of this table have kinds and values, but no other hooks. -/
theorem plain_of_stutterTable {config : LexerConfig} {factory : BaseToken → Text → Token}
    {lexer : Lexer Unit Token} {cache : AlternationCache} {journal : Journal}
    (h : Lexer.make stutterTable config factory = (.ok (lexer, cache), journal)) :
    lexer.Plain := by
  rw [Plain, make_rules h]
  intro rules hrules rule hrule
  simp only [stutterTable, StateTable.flat, List.map_cons, List.map_nil,
    List.mem_singleton] at hrules
  subst hrules
  simp only [List.mem_cons, List.not_mem_nil, or_false] at hrule
  rcases hrule with rfl | rfl <;> exact ⟨rfl, rfl, rfl, rfl⟩

/-- Over `aac` the run takes the two letters `a` and then repeats an empty token before the `c`. -/
theorem progress_dichotomy_stutter :
    ∃ (lexer : Lexer Unit Token) (pulls : Nat → Nat × Ambient Unit),
      lexer.Plain ∧ lexer.Able pulls ∧
        (List.range 5).map (fun i => (lexer.answers pulls
            (lexer.tokenizeFrom ['a', 'a', 'c'] 0).1 i).token?.map fun t => (t.start, t.stop)) =
          [some (0, 1), some (1, 2), some (2, 2), some (2, 2), some (2, 2)] ∧
        ∃ n ≤ 3, lexer.Repeats ['a', 'a', 'c']
          (lexer.answers pulls (lexer.tokenizeFrom ['a', 'a', 'c'] 0).1) n := by
  have hrun : (match Lexer.make stutterTable {} Token.make with
      | (.ok (lexer, cache), _) => decide
          ((List.range 5).map (fun i => (lexer.answers (fun _ => (1, ⟨cache, (), #[]⟩))
              (lexer.tokenizeFrom ['a', 'a', 'c'] 0).1 i).token?.map fun t => (t.start, t.stop)) =
            [some (0, 1), some (1, 2), some (2, 2), some (2, 2), some (2, 2)])
      | (.error _, _) => false) = true := by
    decide +kernel
  split at hrun
  · next lexer cache journal hmake =>
      have htokens := of_decide_eq_true hrun
      have hplain := plain_of_stutterTable hmake
      obtain ⟨-, -, -, -, hcoherent⟩ := make_ok hmake
      have hable : lexer.Able fun _ => (1, (⟨cache, (), #[]⟩ : Ambient Unit)) :=
        fun _ => ⟨Nat.one_pos, hcoherent⟩
      have hstart : Text.isBoundary ['a', 'a', 'c'] 0 = true := rfl
      obtain ⟨n, hn, hcloses | hrepeats⟩ := progress_dichotomy hmake hplain hstart hable
      · have hended := hcloses.ended 4 (Nat.lt_of_le_of_lt hn (by decide))
        simp [List.range_succ, hended, Pull.token?] at htokens
      · exact ⟨lexer, _, hplain, hable, htokens, n, hn, hrepeats⟩
  · exact absurd hrun (by simp)

end Lexer

end ModalLex
