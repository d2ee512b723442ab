import ModalLex.Proofs.Lexer.Bare
import ModalLex.Proofs.Lexer.Coverage
import ModalLex.Proofs.Lexer.Reports

/-!
# Resuming at a Token

A run that is started anew where a token of another run begins sees the same input at the same
cursor, but it has no past: its anchors are all alike, there is no token before, and no `after`
hook is left to run. When the stack of the other run is empty at that place, nothing of this can
be told apart any more:

* out-of-date anchors are never read, since the engine without anchors answers the same
  (`reports_bare`);
* the token before is read by predicates only, so it makes no difference to a lexer whose
  predicates do not read it (`Bare.attempt_withLast`), and as soon as a token is made, both runs
  have the same one.

## Main results

* `reports_bare`: runs that differ in out-of-date anchors report the same.
* `Ready.scan_resumed`: streams that also differ in the token before find the same token.
* `resumed_run_yields_rest`: **resuming at a token boundary yields the rest**.
-/

namespace ModalLex

variable {σ τ : Type}

/-! ### Predicates that do not read the token before -/

/-- A rule whose predicate answers the same whatever the token before is. -/
def Rule.IgnoresLastToken (rule : Rule σ τ) : Prop :=
  ∀ test ∈ rule.test, ∀ (context : TestContext τ) (lastToken : Option τ) (host : σ),
    test { context with lastToken } host = test context host

/-- A lexer whose predicates do not read the token before. -/
def Lexer.IgnoresLastToken (lexer : Lexer σ τ) : Prop :=
  ∀ rules ∈ lexer.rules, ∀ rule ∈ rules, rule.IgnoresLastToken

/-- What all rules of a lexer have in common, the rules of each of its states have. -/
theorem Lexer.forall_rulesOf {lexer : Lexer σ τ} {p : Rule σ τ → Prop}
    (h : ∀ rules ∈ lexer.rules, ∀ rule ∈ rules, p rule) (state : Nat) :
    ∀ rule ∈ lexer.rulesOf state, p rule := by
  intro rule hrule
  rw [Lexer.rulesOf, List.getD_eq_getElem?_getD] at hrule
  cases hrules : lexer.rules[state]? with
  | none => exact absurd hrule (by simp [hrules])
  | some rules =>
      rw [hrules] at hrule
      exact h rules (List.mem_of_getElem? hrules) rule hrule

namespace Query

/-- A query with another token before. -/
def withLast (q : Query σ τ) (lastToken : Option τ) : Query σ τ := { q with lastToken }

/-- Such a predicate accepts the same whatever the last token was. -/
theorem accepts_withLast (q : Query σ τ) (lastToken : Option τ) {rule : Rule σ τ}
    (h : rule.IgnoresLastToken) (found : Found) (host : σ) :
    (q.withLast lastToken).accepts rule found host = q.accepts rule found host := by
  rw [accepts, accepts]
  cases htest : rule.test with
  | none => rfl
  | some test => exact h test htest (q.testContext found) lastToken host

/-- **Resolving takes the same course whatever the last token was**, by induction on the course. -/
theorem Runs.withLast {q : Query σ τ} (lastToken : Option τ)
    (h : ∀ rule ∈ q.rules, rule.IgnoresLastToken) {attempts first : Nat} {ambient : Ambient σ}
    {out : Except ConfigError (Option (Found × Rule σ τ)) × Ambient σ}
    (hruns : q.Runs attempts first ambient out) :
    (q.withLast lastToken).Runs attempts first ambient out := by
  have haccepts {found : Found} {rule : Rule σ τ} {host : σ} {out : Bool × σ}
      (hrule : q.rules[found.rule]? = some rule) (haccepts : q.accepts rule found host = out) :
      (q.withLast lastToken).accepts rule found host = out :=
    (q.accepts_withLast lastToken (h rule (List.mem_of_getElem? hrule)) found host).trans haccepts
  induction hruns with
  | spent => exact .spent
  | unbuilt hq => exact .unbuilt hq
  | exhausted hq => exact .exhausted hq
  | unmatched hq hmatch => exact .unmatched hq hmatch
  | unowned hq hmatch hrule => exact .unowned hq hmatch hrule
  | accepted hq hmatch hrule haccepted =>
      exact .accepted hq hmatch hrule (haccepts hrule haccepted)
  | rejected hq hmatch hrule hrejected _ ih =>
      exact .rejected hq hmatch hrule (haccepts hrule hrejected) ih

/-- Predicates that do not read the token before reject the same matches whatever it is. -/
theorem resolve_withLast (q : Query σ τ) (lastToken : Option τ)
    (h : ∀ rule ∈ q.rules, rule.IgnoresLastToken) (ambient : Ambient σ) :
    (q.withLast lastToken).resolve ambient = q.resolve ambient :=
  ((q.resolveFrom_runs _ _ ambient).withLast lastToken h).eq

end Query

/-! ### The engine without anchors -/

namespace Bare

/-- A stream with another token before. -/
def Stream.withLast (s : Stream τ) (lastToken : Option τ) : Stream τ := { s with lastToken }

/-- What an attempt leaves when the token before was another one: the same, once it has made a
token. -/
def afterAttempt (lastToken : Option τ) :
    Lexer.Attempt τ × Stream τ × Ambient σ → Lexer.Attempt τ × Stream τ × Ambient σ
  | (.token token, s, ambient) => (.token token, s, ambient)
  | (out, s, ambient) => (out, s.withLast lastToken, ambient)

/-- An attempt that emits a token puts the new one in the place of the last, whatever that was. -/
theorem produce_withLast (lexer : Lexer σ τ) (rule : Rule σ τ) (matched : MatchContext)
    (found : Found) (state : Nat) (s : Stream τ) (lastToken : Option τ) (ambient : Ambient σ) :
    produce lexer rule matched found state (s.withLast lastToken) ambient =
      afterAttempt lastToken (produce lexer rule matched found state s ambient) := by
  unfold produce
  dsimp only [Stream.withLast]
  generalize Lexer.runFetch rule _ _ ambient = answer
  obtain ⟨result, ambient₁⟩ := answer
  cases result <;> rfl

/-- **One attempt.** The token before makes no difference to a lexer that ignores it. -/
theorem attempt_withLast {lexer : Lexer σ τ} (h : lexer.IgnoresLastToken) (s : Stream τ)
    (lastToken : Option τ) (ambient : Ambient σ) :
    attempt lexer (s.withLast lastToken) ambient =
      afterAttempt lastToken (attempt lexer s ambient) := by
  have hresolve := Query.resolve_withLast
    { compiler := lexer.compiler
      rules := lexer.rulesOf s.stack.current
      state := s.stack.current
      input := s.input
      offset := s.cursor
      lastToken := s.lastToken } lastToken (Lexer.forall_rulesOf h _) ambient
  rw [Query.withLast] at hresolve
  unfold attempt
  dsimp only [Stream.withLast] at hresolve ⊢
  rw [hresolve]
  generalize Query.resolve _ ambient = answer
  obtain ⟨result, ambient₁⟩ := answer
  cases result with
  | error e => rfl
  | ok found? =>
      cases found? with
      | none => rfl
      | some p =>
          obtain ⟨found, rule⟩ := p
          dsimp only
          generalize runBefore rule _ s.stack ambient₁ = ended
          obtain ⟨result, stack, ambient₂⟩ := ended
          cases result with
          | error e => rfl
          | ok aborted =>
              cases aborted with
              | true => rfl
              | false =>
                  exact produce_withLast lexer rule _ found s.stack.current
                    { s with stack, cursor := found.stop } lastToken ambient₂

/-- A search that finds a token finds the same one whatever the token before is, and leaves the
same stream. -/
theorem scan_withLast {lexer : Lexer σ τ} (h : lexer.IgnoresLastToken) {attempts : Nat}
    {s s' : Stream τ} {ambient ambient' : Ambient σ} {token : τ} (lastToken : Option τ)
    (hscan : scan lexer attempts s ambient = (.token token, s', ambient')) :
    scan lexer attempts (s.withLast lastToken) ambient = (.token token, s', ambient') := by
  induction attempts generalizing s ambient with
  | zero => exact absurd hscan (by simp [scan])
  | succ attempts ih =>
      rw [scan] at hscan ⊢
      have hplace : (s.withLast lastToken).cursor = s.cursor ∧
        (s.withLast lastToken).input = s.input := ⟨rfl, rfl⟩
      rw [attempt_withLast h, hplace.1, hplace.2]
      split at hscan
      · next hgoes =>
          rw [if_pos hgoes]
          generalize attempt lexer s ambient = answer at hscan
          obtain ⟨out, s₁, ambient₁⟩ := answer
          cases out with
          | token t => exact hscan
          | failed e => exact absurd hscan (by simp)
          | aborted => exact ih hscan
      · exact absurd hscan (by simp)

end Bare

namespace Lexer

variable {lexer : Lexer σ τ} {s t : TokenStream τ} {a b : Ambient σ}

/-! ### Out-of-date anchors -/

/-- Reports show nothing of anchors. -/
theorem report_eq_of_bare {answer : Pull τ} (hbare : s.bare = t.bare) (hhost : a.host = b.host) :
    report (answer, s, a) = report (answer, t, b) := by
  have hposition : s.cursor = t.cursor := congrArg Bare.Stream.cursor hbare
  have hstack : s.stack.bare = t.stack.bare := congrArg Bare.Stream.stack hbare
  have hstate : s.stack.currentName = t.stack.currentName :=
    congrArg Bare.Stack.currentName hstack
  have hdepth : s.stack.depth = t.stack.depth := congrArg Bare.Stack.depth hstack
  simp only [report, hposition, hstate, hdepth, hhost]

/-- **Out-of-date anchors are not read.** Two runs whose streams differ in nothing but anchors
report the same. -/
theorem reports_bare (hs : Rested lexer s) (ht : Rested lexer t) (hbare : s.bare = t.bare)
    (h : a.Alike lexer.compiler b) (allowances : List Nat) :
    lexer.reports allowances s a = lexer.reports allowances t b := by
  rw [reports_alike h allowances s]
  have hcoherent := h.right
  clear h
  induction allowances generalizing s t b with
  | nil => rfl
  | cons attempts allowances ih =>
      obtain ⟨-, hs', -⟩ := hs.pulled attempts b
      obtain ⟨-, ht', -⟩ := ht.pulled attempts b
      have hpull := (hs.pull_bare attempts b).symm.trans
        ((congrArg (fun s => Bare.pull lexer attempts s b.bare) hbare).trans
          (ht.pull_bare attempts b))
      have hs'' := pull_coherent attempts s hcoherent
      have ht'' := pull_coherent attempts t hcoherent
      rw [reports, reports]
      generalize lexer.pull attempts s b = x at *
      generalize lexer.pull attempts t b = y at *
      obtain ⟨answer, s', a'⟩ := x
      obtain ⟨answer', t', b'⟩ := y
      simp only [Prod.mk.injEq] at hpull
      obtain ⟨rfl, hbare', hambient⟩ := hpull
      have hhost : a'.host = b'.host := by simpa using congrArg Ambient.host hambient
      rw [report_eq_of_bare hbare' hhost, reports_alike ⟨hhost, hs'', ht''⟩, ih hs' ht' hbare' ht'']

/-! ### Starting anew -/

/-- A run that is started anew where another one stands, with an empty stack, differs from it in
anchors and in the token before. -/
theorem Ready.tokenizeFrom_bare (h : Ready lexer s) (hempty : s.stack.stack = [])
    (hopen : s.finished = false) (herror : s.startError = none) :
    (lexer.tokenizeFrom s.input s.cursor).1.bare = s.bare.withLast none := by
  have hnames : s.stack.names = lexer.names := h.names_eq
  simp only [tokenizeFrom, startError?_eq_none h.cursor_isBoundary, TokenStream.bare,
    Bare.Stream.withLast, StateStack.bare, StateStack.start, hempty, hopen, herror, hnames,
    h.pending_none, Option.isSome_none, Bool.false_eq_true, if_false]

/-- A pull that emits a token: it finishes the token before and searches on. -/
theorem pull_eq_token {attempts : Nat} {token : τ} {s' : TokenStream τ} {a' : Ambient σ} :
    lexer.pull attempts s a = (.token token, s', a') ↔
      s.finished = false ∧ s.startError = none ∧
        ∃ s₁ a₁, lexer.finishPending s a = (.ok (), s₁, a₁) ∧
          lexer.scan attempts s₁ a₁ = (.token token, s', a') := by
  constructor
  · intro h
    have hruns := lexer.pull_runs attempts s a
    generalize lexer.pull attempts s a = out at h hruns
    cases hruns with
    | closed => exact absurd h (by simp)
    | misplaced => exact absurd h (by simp [close])
    | unfinished => exact absurd h (by simp [close])
    | @searched _ _ out hopen herror hfinish hscan =>
        obtain ⟨answer, s₂, a₂⟩ := out
        obtain rfl : answer = .token token := (close_answer _).symm.trans (congrArg Prod.fst h)
        exact ⟨hopen, herror, _, _, hfinish.eq, hscan.eq.trans h⟩
  · rintro ⟨hopen, herror, s₁, a₁, hfinish, hscan⟩
    exact PullRuns.eq (.searched hopen herror (finishRuns_iff.mpr hfinish) (scanRuns_iff.mpr hscan))

/-- **The same token.** Streams that differ in anchors and in the token before find the same
token, and then differ in anchors alone. -/
theorem Ready.scan_resumed (hs : Ready lexer s) (ht : Ready lexer t)
    (hignores : lexer.IgnoresLastToken) {lastToken : Option τ}
    (hbare : t.bare = s.bare.withLast lastToken) (halike : a.Alike lexer.compiler b)
    {attempts : Nat} {token : τ} {s' : TokenStream τ} {a' : Ambient σ}
    (hscan : lexer.scan attempts s a = (.token token, s', a')) :
    ∃ t' b', lexer.scan attempts t b = (.token token, t', b') ∧ s'.bare = t'.bare ∧
      a'.Alike lexer.compiler b' := by
  have hagree := scan_alike halike attempts s
  have hcoherent := (lexer.scan_runs attempts t b).coherent halike.right
  have hs' := hs.scan_bare (lexer.scan_runs attempts s b)
  have ht' := ht.scan_bare (lexer.scan_runs attempts t b)
  rw [hscan] at hagree
  generalize lexer.scan attempts s b = x at hagree hs'
  generalize lexer.scan attempts t b = y at hcoherent ht' ⊢
  obtain ⟨out, t', b'⟩ := y
  obtain ⟨_, _, halike'⟩ := hagree
  rw [hbare, Bare.scan_withLast hignores lastToken hs'] at ht'
  simp only [Prod.mk.injEq] at ht'
  obtain ⟨rfl, hbare', hambient⟩ := ht'
  refine ⟨t', b', rfl, hbare', ?_, halike'.left, hcoherent⟩
  rw [halike'.host_eq]
  simpa using congrArg Ambient.host hambient

/-- A run that is started anew where another one is about to find a token finds the same token. -/
theorem Ready.pull_anew (hs : Ready lexer s) (hnames : lexer.names.Resolved)
    (hempty : s.stack.stack = []) (hopen : s.finished = false) (herror : s.startError = none)
    (hignores : lexer.IgnoresLastToken) (halike : a.Alike lexer.compiler b) {attempts : Nat}
    {token : τ} {s' : TokenStream τ} {a' : Ambient σ}
    (hscan : lexer.scan attempts s a = (.token token, s', a')) :
    ∃ t' b', lexer.pull attempts (lexer.tokenizeFrom s.input s.cursor).1 b =
        (.token token, t', b') ∧ s'.bare = t'.bare ∧ a'.Alike lexer.compiler b' := by
  have hrested := tokenizeFrom_rested hnames s.input s.cursor
  obtain ⟨t', b', hscan', hbare', halike'⟩ := hs.scan_resumed
    ⟨hrested.toSound, rfl, hrested.synced rfl rfl⟩ hignores
    (hs.tokenizeFrom_bare hempty hopen herror) halike hscan
  have hstart : (lexer.tokenizeFrom s.input s.cursor).1.startError = none :=
    startError?_eq_none hs.cursor_isBoundary
  exact ⟨t', b', pull_eq_token.mpr ⟨rfl, hstart, _, _, rfl, hscan'⟩, hbare', halike'⟩

/-- A run that was not pulled yet. -/
theorem Reaches.eq_start {input : Text} {start : Nat} (h : Reaches lexer input start [] s) :
    s = (lexer.tokenizeFrom input start).1 := by
  generalize hitems : ([] : List (Pull τ)) = items at h
  cases h with
  | start => rfl
  | pull => exact absurd hitems (by simp)

/-- Before the first pull there is no `after` hook to run, and the stack is empty. -/
theorem Reaches.stack_eq_nil {input : Text} {start : Nat} {items : List (Pull τ)}
    (h : Reaches lexer input start items s)
    (hempty : items = [] ∨ (lexer.finishPending s a).2.1.stack.depth = 0) :
    (lexer.finishPending s a).2.1.stack.stack = [] := by
  rcases hempty with rfl | hdepth
  · rw [h.eq_start]
    rfl
  · exact List.eq_nil_of_length_eq_zero hdepth

/-- The end of a token does not change whether the start of the run was refused. -/
theorem finishPending_startError (lexer : Lexer σ τ) (s : TokenStream τ) (a : Ambient σ) :
    (lexer.finishPending s a).2.1.startError = s.startError := by
  have hruns := lexer.finishPending_runs s a
  generalize lexer.finishPending s a = out at hruns
  cases hruns <;> rfl

/-- **Resuming at a token boundary yields the rest.** Where a pull of a run emits a token, and the
stack is empty once the `after` hook of the token before has run, which it always is before the
first pull, a run that is started anew at the beginning of that token reports what the first run
reports from that pull on: the same tokens, the same error or end, the same positions, states and
depths. The host of the new run has to stand where that of the first one stands by then, and
the cache can be any that tells the truth. -/
theorem resumed_run_yields_rest {table : StateTable (Rule σ τ)} {config : LexerConfig}
    {factory : BaseToken → Text → τ} {lexer : Lexer σ τ} {cache : AlternationCache}
    {journal : Journal} (hmake : Lexer.make table config factory = (.ok (lexer, cache), journal))
    (hignores : lexer.IgnoresLastToken) {input : Text} {start : Nat}
    {items : List (Pull τ)} {stream : TokenStream τ}
    (hreach : Reaches lexer input start items stream) {attempts : Nat} {ambient : Ambient σ}
    (hcoherent : lexer.compiler.Coherent ambient.cache) {token : τ}
    (htoken : (lexer.pull attempts stream ambient).1 = .token token)
    (hempty : items = [] ∨ (lexer.finishPending stream ambient).2.1.stack.depth = 0) :
    ∃ base : BaseToken, token = factory base input ∧ base.start = stream.cursor ∧
      ∀ resumed : Ambient σ, resumed.host = (lexer.finishPending stream ambient).2.2.host →
        lexer.compiler.Coherent resumed.cache → ∀ allowances,
          lexer.reports (attempts :: allowances) (lexer.tokenizeFrom input base.start).1 resumed =
            lexer.reports (attempts :: allowances) stream ambient := by
  obtain ⟨hnames, -, rfl, -, -⟩ := make_ok hmake
  have hstack := hreach.stack_eq_nil hempty
  obtain ⟨rfl, hrested⟩ := hreach.rested hnames
  obtain ⟨-, hrested', -, hpulled⟩ := hrested.pulled attempts ambient
  have hcache := finishPending_cache lexer stream ambient
  have hstartError := finishPending_startError lexer stream ambient
  -- The pull finishes the token before, which leaves the stream `s` ready, and searches on.
  generalize hpull : lexer.pull attempts stream ambient = ended at htoken hrested' hpulled
  obtain ⟨answer, stream', ambient'⟩ := ended
  obtain rfl : answer = .token token := htoken
  obtain ⟨hopen, herror, s, a, hfinish, hscan⟩ := pull_eq_token.mp hpull
  obtain ⟨hinput, hcursor, hfinished, -, hready⟩ := hrested.finishPending hopen ambient
  rw [hfinish] at hinput hcursor hfinished hready hcache hstack hstartError
  obtain ⟨base, hmade, hstart⟩ : ∃ base, token = lexer.factory base stream.input ∧
      base.start = stream.cursor := by
    obtain ⟨hp, -⟩ := hpulled hopen
    cases hp with
    | token _ _ hstart => exact ⟨_, rfl, hstart⟩
  refine ⟨base, hmade, hstart, ?_⟩
  intro resumed hhost hresumed allowances
  rw [hfinish] at hhost
  have halike : a.Alike lexer.compiler resumed := by
    refine ⟨hhost.symm, ?_, hresumed⟩
    rw [show a.cache = ambient.cache from hcache]
    exact hcoherent
  -- The new run differs from `s` in anchors and in the token before, until it finds this token.
  obtain ⟨t', b', hpull', hbare', halike'⟩ := (hready rfl).pull_anew hnames hstack
    (hfinished.trans hopen) (hstartError.trans herror) hignores halike hscan
  rw [show s.input = stream.input from hinput,
    show s.cursor = stream.cursor from hcursor] at hpull'
  obtain ⟨-, hrested'', -⟩ :=
    (tokenizeFrom_rested hnames stream.input stream.cursor).pulled attempts resumed
  rw [hpull'] at hrested''
  rw [hstart, reports, reports, hpull, hpull', report_eq_of_bare hbare' halike'.host_eq,
    reports_bare hrested' hrested'' hbare' halike']

/-- Tags: `<` enters the state `tag` and `>` leaves it, both in an `after` hook; inside, a word is
accepted by a predicate that reads the match. -/
def tagTable : StateTable (Rule Unit Token) :=
  (StateTable.flat
    [{ pattern := .source ['<']
       after := some fun _ host => .ask (.push "tag") fun _ => .done (.ok (), host) }]).declare "tag"
    [{ pattern := .source ['[', 'a', '-', 'z', ']', '+']
       test := some fun context host => (context.matched != ['x'], host) },
      { pattern := .source ['>']
        after := some fun _ host => .ask .pop fun _ => .done (.ok (), host) }]

/-- The only predicate of this table reads nothing but the match. -/
theorem tagTable_ignoresLastToken {config : LexerConfig} {factory : BaseToken → Text → Token}
    {lexer : Lexer Unit Token} {cache : AlternationCache} {journal : Journal}
    (h : Lexer.make tagTable config factory = (.ok (lexer, cache), journal)) :
    lexer.IgnoresLastToken := by
  rw [IgnoresLastToken, make_rules h]
  simp [tagTable, StateTable.flat, StateTable.declare, Rule.IgnoresLastToken]

/-- A pull that shows a token is one. -/
theorem exists_token {out : Pull τ} (h : out.token?.isSome = true) :
    ∃ token, out = .token token := by
  cases out with
  | token token => exact ⟨token, rfl⟩
  | _ => exact absurd h (by simp [Pull.token?])

/-- The third pull of `<a><b` emits the `>`, whose `after` hook leaves the tag; a run that is
started at the second `<` then reports the rest, in which a tag is entered that is never left. -/
theorem resumed_run_yields_rest_tags :
    ∃ (lexer : Lexer Unit Token) (items : List (Pull Token)) (stream : TokenStream Token)
      (ambient resumed : Ambient Unit),
      Reaches lexer ['<', 'a', '>', '<', 'b'] 0 items stream ∧ items.length = 3 ∧
        stream.cursor = 3 ∧ stream.stack.depth = 1 ∧
        (lexer.reports [1, 1, 1] stream ambient).map (fun r => (r.position, r.depth)) =
          [(4, 0), (5, 1), (5, 1)] ∧
        lexer.reports [1, 1, 1] (lexer.tokenizeFrom ['<', 'a', '>', '<', 'b'] 3).1 resumed =
          lexer.reports [1, 1, 1] stream ambient := by
  have hrun : (match Lexer.make tagTable {} Token.make with
      | (.ok (lexer, cache), _) =>
        let a : Ambient Unit := ⟨cache, (), #[]⟩
        let first := lexer.pull 1 (lexer.tokenizeFrom ['<', 'a', '>', '<', 'b'] 0).1 a
        let second := lexer.pull 1 first.2.1 a
        let third := lexer.pull 1 second.2.1 a
        decide (third.2.1.cursor = 3 ∧ third.2.1.stack.depth = 1 ∧
          (lexer.finishPending third.2.1 a).2.1.stack.depth = 0 ∧
          (lexer.pull 1 third.2.1 a).1.token?.isSome ∧
          (lexer.reports [1, 1, 1] third.2.1 a).map (fun r => (r.position, r.depth)) =
            [(4, 0), (5, 1), (5, 1)])
      | (.error _, _) => false) = true := by
    decide +kernel
  split at hrun
  · next lexer cache journal hmake =>
      obtain ⟨hcursor, hinside, hdepth, htoken, hreports⟩ := of_decide_eq_true hrun
      obtain ⟨-, -, -, -, hcoherent⟩ := make_ok hmake
      have hstart : Reaches lexer ['<', 'a', '>', '<', 'b'] 0 [] _ := .start
      have hreach := ((hstart.pull 1 ⟨cache, (), #[]⟩ hcoherent).pull 1 ⟨cache, (), #[]⟩
        hcoherent).pull 1 ⟨cache, (), #[]⟩ hcoherent
      obtain ⟨token, htoken⟩ := exists_token htoken
      obtain ⟨base, -, hbase, hrest⟩ := resumed_run_yields_rest hmake
        (tagTable_ignoresLastToken hmake) hreach hcoherent htoken (.inr hdepth)
      rw [hbase.trans hcursor] at hrest
      exact ⟨lexer, _, _, ⟨cache, (), #[]⟩, ⟨cache, (), #[]⟩, hreach, rfl, hcursor, hinside,
        hreports, hrest ⟨cache, (), #[]⟩ rfl hcoherent [1, 1]⟩
  · exact absurd hrun (by simp)

end Lexer

end ModalLex
