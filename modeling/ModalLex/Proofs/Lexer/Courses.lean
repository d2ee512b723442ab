import ModalLex.Lexer

/-!
# The Courses of a Pull

A pull is written with matches inside matches: an alternation is asked for, a match is looked for,
a predicate is asked, a hook runs, and each of them may put an end to it. Here every function of a
pull is given as a relation beside it, with one constructor for each course that it can take. The
constructor carries the equations of its course, so that a fact about pulls is proved by cases on
the course and no proof opens the functions themselves.

The relations say the same as the functions: the functions run (`Compiler.alternation_runs`,
`Query.resolveFrom_runs`, `attempt_runs`, `finishPending_runs`, `scan_runs`, `pull_runs`), and what
runs is what the functions give (`Query.Runs.eq`, `AttemptRuns.eq`, `FinishRuns.eq`, `ScanRuns.eq`,
`PullRuns.eq`). The recursions of the functions are inductions over the relations.

## Main results

* `Query.runs_iff`, `attemptRuns_iff`, `finishRuns_iff`, `scanRuns_iff`, `PullRuns.eq`: **the
  functions of a pull are determined by their courses.**
-/

namespace ModalLex

/-! ### Alternations -/

namespace Compiler

/-- The courses of a request for an alternation, with the cache that is left and what there is to
tell. -/
inductive AlternationRuns (compiler : Compiler) (cache : AlternationCache) (state first : Nat) :
    Except ConfigError (Option Alternation) × AlternationCache × List Event → Prop
  /-- No rule is left. -/
  | exhausted : (compiler.partsOf state).drop first = [] →
      AlternationRuns compiler cache state first
        (.ok none, cache, [.noRulesLeft (compiler.names.name state) first])
  /-- The alternation is in the cache. -/
  | cached {a : Alternation} : (compiler.partsOf state).drop first ≠ [] →
      cache.find? state first = some a →
      AlternationRuns compiler cache state first (.ok (some a), cache, [])
  /-- The alternation cannot be built. -/
  | unbuilt {cause : PatternError} : (compiler.partsOf state).drop first ≠ [] →
      cache.find? state first = none →
      Alternation.build ((compiler.partsOf state).drop first) first = .error cause →
      AlternationRuns compiler cache state first (.error (.pattern cause), cache, [])
  /-- The alternation is built and kept. -/
  | built {a : Alternation} : (compiler.partsOf state).drop first ≠ [] →
      cache.find? state first = none →
      Alternation.build ((compiler.partsOf state).drop first) first = .ok a →
      AlternationRuns compiler cache state first
        (.ok (some a), cache.insert state first a,
          [.compiledAlternation (compiler.names.name state) first a.ruleCount a.source])

/-- What the compiler does is one of the courses: the answer is in the cache, or there are no
rules, or the build fails, or what it builds is kept. -/
theorem alternation_runs (compiler : Compiler) (cache : AlternationCache) (state first : Nat) :
    AlternationRuns compiler cache state first (compiler.alternation cache state first) := by
  unfold alternation
  dsimp only
  split
  · next hparts => exact .exhausted hparts
  · next hparts =>
      split
      · next hfind => exact .cached hparts hfind
      · next hfind =>
          split
          · next hbuild => exact .unbuilt hparts hfind hbuild
          · next hbuild => exact .built hparts hfind hbuild

end Compiler

variable {σ τ : Type}

/-! ### Resolving -/

namespace Query

variable {q : Query σ τ} {attempts first : Nat} {ambient : Ambient σ}
  {out : Except ConfigError (Option (Found × Rule σ τ)) × Ambient σ}

/-- The courses of the search for a rule, with an allowance of attempts. -/
inductive Runs (q : Query σ τ) : Nat → Nat → Ambient σ →
    Except ConfigError (Option (Found × Rule σ τ)) × Ambient σ → Prop
  /-- The allowance is used up. -/
  | spent {first : Nat} {ambient : Ambient σ} : Runs q 0 first ambient (.ok none, ambient)
  /-- The alternation cannot be built. -/
  | unbuilt {attempts first : Nat} {ambient ambient₁ : Ambient σ} {e : ConfigError} :
      q.alternation first ambient = (.error e, ambient₁) →
      Runs q (attempts + 1) first ambient (.error e, ambient₁)
  /-- No rule is left. -/
  | exhausted {attempts first : Nat} {ambient ambient₁ : Ambient σ} :
      q.alternation first ambient = (.ok none, ambient₁) →
      Runs q (attempts + 1) first ambient (.ok none, ambient₁)
  /-- No rule matches. -/
  | unmatched {attempts first : Nat} {ambient ambient₁ : Ambient σ} {a : Alternation} :
      q.alternation first ambient = (.ok (some a), ambient₁) →
      a.matchAt q.input q.offset = none →
      Runs q (attempts + 1) first ambient
        (.ok none, ambient₁.note (.noAlternativeMatched q.stateName q.offset first))
  /-- The match is of no rule. -/
  | unowned {attempts first : Nat} {ambient ambient₁ : Ambient σ} {a : Alternation}
      {found : Found} :
      q.alternation first ambient = (.ok (some a), ambient₁) →
      a.matchAt q.input q.offset = some found → q.rules[found.rule]? = none →
      Runs q (attempts + 1) first ambient (.ok none, ambient₁)
  /-- The rule accepts its match. -/
  | accepted {attempts first : Nat} {ambient ambient₁ : Ambient σ} {a : Alternation}
      {found : Found} {rule : Rule σ τ} {host : σ} :
      q.alternation first ambient = (.ok (some a), ambient₁) →
      a.matchAt q.input q.offset = some found → q.rules[found.rule]? = some rule →
      q.accepts rule found ambient₁.host = (true, host) →
      Runs q (attempts + 1) first ambient
        (.ok (some (found, rule)), ({ ambient₁ with host } : Ambient σ).note
          (.resolvedRule q.stateName found.rule found.start found.stop))
  /-- The rule rejects its match, and those behind it are tried. -/
  | rejected {attempts first : Nat} {ambient ambient₁ : Ambient σ} {a : Alternation}
      {found : Found} {rule : Rule σ τ} {host : σ}
      {out : Except ConfigError (Option (Found × Rule σ τ)) × Ambient σ} :
      q.alternation first ambient = (.ok (some a), ambient₁) →
      a.matchAt q.input q.offset = some found → q.rules[found.rule]? = some rule →
      q.accepts rule found ambient₁.host = (false, host) →
      Runs q attempts (found.rule + 1) (({ ambient₁ with host } : Ambient σ).note
        (.predicateRejected q.stateName found.rule q.offset)) out →
      Runs q (attempts + 1) first ambient out

/-- No alternation calls a hook. -/
theorem alternation_host {ambient' : Ambient σ}
    {result : Except ConfigError (Option Alternation)}
    (h : q.alternation first ambient = (result, ambient')) : ambient'.host = ambient.host :=
  congrArg (·.2.host) h.symm

/-- Resolving follows a course, by induction on the attempts that are left. -/
theorem resolveFrom_runs (q : Query σ τ) (attempts first : Nat) (ambient : Ambient σ) :
    q.Runs attempts first ambient (q.resolveFrom attempts first ambient) := by
  induction attempts generalizing first ambient with
  | zero => exact .spent
  | succ attempts ih =>
      rw [resolveFrom]
      split
      · next halternation => exact .unbuilt halternation
      · next halternation => exact .exhausted halternation
      · next a ambient₁ halternation =>
          split
          · next hmatch => exact .unmatched halternation hmatch
          · next found hmatch =>
              split
              · next hrule => exact .unowned halternation hmatch hrule
              · next rule hrule =>
                  dsimp only
                  split
                  · next haccepted =>
                      exact .accepted halternation hmatch hrule (Prod.ext haccepted rfl)
                  · next hrejected =>
                      rw [Bool.not_eq_true] at hrejected
                      exact .rejected halternation hmatch hrule (Prod.ext hrejected rfl) (ih _ _)

/-- A course determines the result, so resolving has no other course. -/
theorem Runs.eq (h : q.Runs attempts first ambient out) :
    q.resolveFrom attempts first ambient = out := by
  induction h with
  | spent => rfl
  | unbuilt halternation => simp only [resolveFrom, halternation]
  | exhausted halternation => simp only [resolveFrom, halternation]
  | unmatched halternation hmatch => simp only [resolveFrom, halternation, hmatch]
  | unowned halternation hmatch hrule => simp only [resolveFrom, halternation, hmatch, hrule]
  | accepted halternation hmatch hrule haccepts =>
      simp only [resolveFrom, halternation, hmatch, hrule, haccepts, if_true]
  | rejected halternation hmatch hrule haccepts _ ih =>
      simp only [resolveFrom, halternation, hmatch, hrule, haccepts, Bool.false_eq_true, if_false]
      exact ih

/-- **The courses of the search for a rule.** -/
theorem runs_iff : q.Runs attempts first ambient out ↔ q.resolveFrom attempts first ambient = out :=
  ⟨Runs.eq, fun h => h ▸ q.resolveFrom_runs attempts first ambient⟩

section Answers

variable {σ' τ' : Type} {f : Found → Rule σ τ → Rule σ' τ'}
  {answer : Except ConfigError (Option (Found × Rule σ τ))}

/-- The answer to a query, as it is given where other rules stand in the places of its rules. -/
def mapRules (f : Found → Rule σ τ → Rule σ' τ')
    (answer : Except ConfigError (Option (Found × Rule σ τ))) :
    Except ConfigError (Option (Found × Rule σ' τ')) :=
  answer.map (Option.map fun p => (p.1, f p.1 p.2))

/-- Changing the rules of answers makes no error. -/
theorem eq_error_of_mapRules {e : ConfigError} (h : .error e = mapRules f answer) :
    answer = .error e := by
  cases answer with
  | error e' => exact congrArg _ (Except.error.inj h).symm
  | ok found? => cases h

/-- Nor does it lose a rule. -/
theorem eq_none_of_mapRules (h : .ok none = mapRules f answer) : answer = .ok none := by
  cases answer with
  | error e => cases h
  | ok found? =>
      cases found? with
      | none => rfl
      | some p => cases h

/-- A rule that is found after the change is one that was found before it, changed. -/
theorem eq_some_of_mapRules {found : Found} {rule : Rule σ' τ'}
    (h : .ok (some (found, rule)) = mapRules f answer) :
    ∃ rule', answer = .ok (some (found, rule')) ∧ rule = f found rule' := by
  cases answer with
  | error e => cases h
  | ok found? =>
      cases found? with
      | none => cases h
      | some p =>
          obtain ⟨found', rule'⟩ := p
          obtain ⟨rfl, hrule⟩ := Prod.mk.inj (Option.some.inj (Except.ok.inj h))
          exact ⟨rule', rfl, hrule⟩

end Answers

end Query

/-- What the hooks of a rule read of its match, which begins at the anchor. -/
def TokenStream.matchContext (stream : TokenStream τ) (found : Found) : MatchContext where
  input := stream.input
  matched := stream.input.slice stream.stack.anchor found.stop
  start := stream.stack.anchor

namespace Lexer

/-! ### Attempts -/

/-- What an attempt asks the resolver. -/
def query (lexer : Lexer σ τ) (stream : TokenStream τ) : Query σ τ where
  compiler := lexer.compiler
  rules := lexer.rulesOf stream.stack.current
  state := stream.stack.current
  input := stream.input
  offset := stream.stack.anchor
  lastToken := stream.lastToken

/-- The courses of one attempt to match. -/
inductive AttemptRuns (lexer : Lexer σ τ) (stream : TokenStream τ) (ambient : Ambient σ) :
    Attempt τ × TokenStream τ × Ambient σ → Prop
  /-- An alternation cannot be built. -/
  | unbuilt {e : ConfigError} {ambient₁ : Ambient σ} :
      (lexer.query stream).resolve ambient = (.error e, ambient₁) →
      AttemptRuns lexer stream ambient (.failed (.config e), stream, ambient₁)
  /-- No rule is found. -/
  | unmatched {ambient₁ : Ambient σ} :
      (lexer.query stream).resolve ambient = (.ok none, ambient₁) →
      AttemptRuns lexer stream ambient
        (.failed (.noMatch stream.stack.anchor stream.stack.currentName), stream, ambient₁)
  /-- The `before` hook fails. -/
  | beforeFailed {found : Found} {rule : Rule σ τ} {stack : StateStack} {e : LexError}
      {ambient₁ ambient₂ : Ambient σ} :
      (lexer.query stream).resolve ambient = (.ok (some (found, rule)), ambient₁) →
      runBefore rule { stream.matchContext found with position := stream.cursor }
        (stream.stack.setAnchor found.stop) ambient₁ = (.error e, stack, ambient₂) →
      AttemptRuns lexer stream ambient (.failed e, { stream with stack }, ambient₂)
  /-- The `before` hook aborts. -/
  | aborted {found : Found} {rule : Rule σ τ} {stack : StateStack}
      {ambient₁ ambient₂ : Ambient σ} :
      (lexer.query stream).resolve ambient = (.ok (some (found, rule)), ambient₁) →
      runBefore rule { stream.matchContext found with position := stream.cursor }
        (stream.stack.setAnchor found.stop) ambient₁ = (.ok true, stack, ambient₂) →
      AttemptRuns lexer stream ambient
        (.aborted,
          { stream with
            cursor := stream.stack.anchor
            stack := stack.setAnchor stream.stack.anchor },
          ambient₂.note (.matchAborted found.rule stream.stack.anchor stack.currentName))
  /-- The `fetch` hook fails. -/
  | fetchFailed {found : Found} {rule : Rule σ τ} {stack : StateStack} {e : LexError}
      {ambient₁ ambient₂ ambient₃ : Ambient σ} :
      (lexer.query stream).resolve ambient = (.ok (some (found, rule)), ambient₁) →
      runBefore rule { stream.matchContext found with position := stream.cursor }
        (stream.stack.setAnchor found.stop) ambient₁ = (.ok false, stack, ambient₂) →
      runFetch rule { stream.matchContext found with state := stack.currentName } stack.anchor
        ambient₂ = (.error e, ambient₃) →
      AttemptRuns lexer stream ambient
        (.failed e, { stream with stack, cursor := stack.anchor }, ambient₃)
  /-- A token is made. -/
  | token {found : Found} {rule : Rule σ τ} {stack : StateStack} {cursor : Nat} {value : Value}
      {kind : Text} {valued kinded : σ} {ambient₁ ambient₂ ambient₃ : Ambient σ} :
      (lexer.query stream).resolve ambient = (.ok (some (found, rule)), ambient₁) →
      runBefore rule { stream.matchContext found with position := stream.cursor }
        (stream.stack.setAnchor found.stop) ambient₁ = (.ok false, stack, ambient₂) →
      runFetch rule { stream.matchContext found with state := stack.currentName } stack.anchor
        ambient₂ = (.ok cursor, ambient₃) →
      valueOf rule
        { stream.matchContext found with state := stack.currentName, position := cursor }
        ambient₃.host = (value, valued) →
      kindOf rule (stream.matchContext found).matched valued = (kind, kinded) →
      AttemptRuns lexer stream ambient
        (.token (lexer.factory
          { kind, value, start := stream.stack.anchor, stop := cursor } stream.input),
          { stream with
            stack
            cursor
            lastToken := some (lexer.factory
              { kind, value, start := stream.stack.anchor, stop := cursor } stream.input)
            pending := some
              { state := stream.stack.current
                rule := found.rule
                start := stream.stack.anchor
                matchEnd := found.stop } },
          ({ ambient₃ with host := kinded } : Ambient σ).note (.producedToken kind
            stream.stack.anchor cursor (lexer.names.name stream.stack.current)))

variable {lexer : Lexer σ τ} {stream : TokenStream τ} {ambient : Ambient σ}

/-- Every attempt follows a course; the cases are those of the answer of the resolver, then those
of the hooks. -/
theorem attempt_runs (lexer : Lexer σ τ) (stream : TokenStream τ) (ambient : Ambient σ) :
    AttemptRuns lexer stream ambient (lexer.attempt stream ambient) := by
  rw [attempt]
  dsimp only
  split
  · next hresolve => exact .unbuilt hresolve
  · next hresolve => exact .unmatched hresolve
  · next found rule ambient₁ hresolve =>
      split
      · next hbefore => exact .beforeFailed hresolve (Prod.ext hbefore rfl)
      · next hbefore => exact .aborted hresolve (Prod.ext hbefore rfl)
      · next hbefore =>
          rw [produce]
          dsimp only
          split
          · next hfetch => exact .fetchFailed hresolve (Prod.ext hbefore rfl) hfetch
          · next hfetch => exact .token hresolve (Prod.ext hbefore rfl) hfetch rfl rfl

/-- A course of an attempt determines what it gives. -/
theorem AttemptRuns.eq {out : Attempt τ × TokenStream τ × Ambient σ}
    (h : AttemptRuns lexer stream ambient out) : lexer.attempt stream ambient = out := by
  cases h with
  | unbuilt hresolve =>
      rw [query] at hresolve
      simp only [attempt, hresolve]
  | unmatched hresolve =>
      rw [query] at hresolve
      simp only [attempt, hresolve]
  | beforeFailed hresolve hbefore =>
      rw [query] at hresolve
      rw [TokenStream.matchContext] at hbefore
      simp only [attempt, hresolve, hbefore]
  | aborted hresolve hbefore =>
      rw [query] at hresolve
      rw [TokenStream.matchContext] at hbefore
      simp only [attempt, hresolve, hbefore]
  | fetchFailed hresolve hbefore hfetch =>
      rw [query] at hresolve
      rw [TokenStream.matchContext] at hbefore hfetch
      simp only [attempt, hresolve, hbefore, produce, hfetch]
  | token hresolve hbefore hfetch hvalue hkind =>
      rw [query] at hresolve
      rw [TokenStream.matchContext] at hbefore hfetch hvalue hkind
      simp only [attempt, hresolve, hbefore, produce, hfetch, hvalue, hkind]

/-- **The courses of an attempt.** -/
theorem attemptRuns_iff {out : Attempt τ × TokenStream τ × Ambient σ} :
    AttemptRuns lexer stream ambient out ↔ lexer.attempt stream ambient = out :=
  ⟨AttemptRuns.eq, fun h => h ▸ lexer.attempt_runs stream ambient⟩

/-! ### The token before -/

/-- The courses of what is left to do for the token before. -/
inductive FinishRuns (lexer : Lexer σ τ) (stream : TokenStream τ) (ambient : Ambient σ) :
    Except LexError Unit × TokenStream τ × Ambient σ → Prop
  /-- Nothing is left to do. -/
  | idle : stream.pending = none → FinishRuns lexer stream ambient (.ok (), stream, ambient)
  /-- The `after` hook fails. -/
  | afterFailed {p : Pending} {e : LexError} {stack : StateStack} {ambient₁ : Ambient σ} :
      stream.pending = some p →
      runAfter (lexer.rulesOf p.state)[p.rule]? p stream ambient = (.error e, stack, ambient₁) →
      FinishRuns lexer stream ambient
        (.error e, { stream with pending := none, stack }, ambient₁)
  /-- The current state goes on at the cursor. -/
  | finished {p : Pending} {stack : StateStack} {ambient₁ : Ambient σ} :
      stream.pending = some p →
      runAfter (lexer.rulesOf p.state)[p.rule]? p stream ambient = (.ok (), stack, ambient₁) →
      FinishRuns lexer stream ambient
        (.ok (), { stream with pending := none, stack := stack.setAnchor stream.cursor }, ambient₁)

/-- Finishing the token before follows a course: nothing is pending, or the hook of its rule runs
and succeeds or fails. -/
theorem finishPending_runs (lexer : Lexer σ τ) (stream : TokenStream τ) (ambient : Ambient σ) :
    FinishRuns lexer stream ambient (lexer.finishPending stream ambient) := by
  rw [finishPending]
  split
  · next hpending => exact .idle hpending
  · next p hpending =>
      dsimp only
      split
      · next hafter => exact .afterFailed hpending (Prod.ext hafter rfl)
      · next hafter => exact .finished hpending (Prod.ext hafter rfl)

/-- A course of the end of a token determines what it gives. -/
theorem FinishRuns.eq {out : Except LexError Unit × TokenStream τ × Ambient σ}
    (h : FinishRuns lexer stream ambient out) : lexer.finishPending stream ambient = out := by
  cases h with
  | idle hpending => simp only [finishPending, hpending]
  | afterFailed hpending hafter => simp only [finishPending, hpending, hafter]
  | finished hpending hafter => simp only [finishPending, hpending, hafter]

/-- **The courses of what is left to do for the token before.** -/
theorem finishRuns_iff {out : Except LexError Unit × TokenStream τ × Ambient σ} :
    FinishRuns lexer stream ambient out ↔ lexer.finishPending stream ambient = out :=
  ⟨FinishRuns.eq, fun h => h ▸ lexer.finishPending_runs stream ambient⟩

/-- Hooks that run after a token cannot change the input. -/
theorem FinishRuns.input_eq {out : Except LexError Unit × TokenStream τ × Ambient σ}
    (h : FinishRuns lexer stream ambient out) : out.2.1.input = stream.input := by
  cases h <;> rfl

/-! ### Searches -/

/-- The courses of the search for a token, with an allowance of attempts. -/
inductive ScanRuns (lexer : Lexer σ τ) : Nat → TokenStream τ → Ambient σ →
    Pull τ × TokenStream τ × Ambient σ → Prop
  /-- The allowance is used up. -/
  | stalled {stream : TokenStream τ} {ambient : Ambient σ} :
      ScanRuns lexer 0 stream ambient (.stalled, stream, ambient)
  /-- The input is at its end. -/
  | ended {attempts : Nat} {stream : TokenStream τ} {ambient : Ambient σ} :
      ¬ stream.cursor < stream.input.byteLength →
      ScanRuns lexer (attempts + 1) stream ambient
        (.ended, stream, ambient.note (.reachedEnd stream.cursor))
  /-- An attempt makes a token. -/
  | token {attempts : Nat} {stream stream₁ : TokenStream τ} {ambient ambient₁ : Ambient σ}
      {token : τ} :
      stream.cursor < stream.input.byteLength →
      AttemptRuns lexer stream ambient (.token token, stream₁, ambient₁) →
      ScanRuns lexer (attempts + 1) stream ambient (.token token, stream₁, ambient₁)
  /-- An attempt fails. -/
  | failed {attempts : Nat} {stream stream₁ : TokenStream τ} {ambient ambient₁ : Ambient σ}
      {e : LexError} :
      stream.cursor < stream.input.byteLength →
      AttemptRuns lexer stream ambient (.failed e, stream₁, ambient₁) →
      ScanRuns lexer (attempts + 1) stream ambient (.failed e, stream₁, ambient₁)
  /-- An attempt is aborted, and another one is made. -/
  | again {attempts : Nat} {stream stream₁ : TokenStream τ} {ambient ambient₁ : Ambient σ}
      {out : Pull τ × TokenStream τ × Ambient σ} :
      stream.cursor < stream.input.byteLength →
      AttemptRuns lexer stream ambient (.aborted, stream₁, ambient₁) →
      ScanRuns lexer attempts stream₁ ambient₁ out →
      ScanRuns lexer (attempts + 1) stream ambient out

/-- A search follows a course, by induction on the attempts that are left. -/
theorem scan_runs (lexer : Lexer σ τ) (attempts : Nat) (stream : TokenStream τ)
    (ambient : Ambient σ) :
    ScanRuns lexer attempts stream ambient (lexer.scan attempts stream ambient) := by
  induction attempts generalizing stream ambient with
  | zero => exact .stalled
  | succ attempts ih =>
      rw [scan]
      split
      · next hgoes =>
          split
          · next hattempt => exact .token hgoes (attemptRuns_iff.mpr hattempt)
          · next hattempt => exact .failed hgoes (attemptRuns_iff.mpr hattempt)
          · next hattempt => exact .again hgoes (attemptRuns_iff.mpr hattempt) (ih _ _)
      · next hends => exact .ended hends

/-- A course of a search determines what it gives. -/
theorem ScanRuns.eq {attempts : Nat} {out : Pull τ × TokenStream τ × Ambient σ}
    (h : ScanRuns lexer attempts stream ambient out) :
    lexer.scan attempts stream ambient = out := by
  induction h with
  | stalled => rfl
  | ended hends => rw [scan, if_neg hends]
  | token hgoes hattempt => rw [scan, if_pos hgoes, hattempt.eq]
  | failed hgoes hattempt => rw [scan, if_pos hgoes, hattempt.eq]
  | again hgoes hattempt _ ih =>
      rw [scan, if_pos hgoes, hattempt.eq]
      exact ih

/-- **The courses of the search for a token.** -/
theorem scanRuns_iff {attempts : Nat} {out : Pull τ × TokenStream τ × Ambient σ} :
    ScanRuns lexer attempts stream ambient out ↔ lexer.scan attempts stream ambient = out :=
  ⟨ScanRuns.eq, fun h => h ▸ lexer.scan_runs attempts stream ambient⟩

/-! ### Pulls -/

/-- The answer of a search, as that of a pull: after an error and after the end, the run is
finished, and an error is reported. -/
def close : Pull τ × TokenStream τ × Ambient σ → Pull τ × TokenStream τ × Ambient σ
  | (.failed e, stream, ambient) =>
    (.failed e, { stream with finished := true },
      ambient.note (.tokenizationFailed e stream.cursor stream.stack.currentName))
  | (.ended, stream, ambient) => (.ended, { stream with finished := true }, ambient)
  | answer => answer

/-- Closing a run does not change the answer. -/
@[simp] theorem close_answer (out : Pull τ × TokenStream τ × Ambient σ) :
    (close out).1 = out.1 := by
  obtain ⟨answer, stream, ambient⟩ := out
  cases answer <;> rfl

/-- Closing a run does not change what belongs to the hooks. -/
@[simp] theorem close_host (out : Pull τ × TokenStream τ × Ambient σ) :
    (close out).2.2.host = out.2.2.host := by
  obtain ⟨answer, stream, ambient⟩ := out
  cases answer <;> rfl

/-- Closing a run does not change the cache. -/
@[simp] theorem close_cache (out : Pull τ × TokenStream τ × Ambient σ) :
    (close out).2.2.cache = out.2.2.cache := by
  obtain ⟨answer, stream, ambient⟩ := out
  cases answer <;> rfl

/-- Closing a run does not change the input. -/
@[simp] theorem close_input (out : Pull τ × TokenStream τ × Ambient σ) :
    (close out).2.1.input = out.2.1.input := by
  obtain ⟨answer, stream, ambient⟩ := out
  cases answer <;> rfl

/-- The courses of a pull. -/
inductive PullRuns (lexer : Lexer σ τ) (attempts : Nat) (stream : TokenStream τ)
    (ambient : Ambient σ) : Pull τ × TokenStream τ × Ambient σ → Prop
  /-- The run is finished. -/
  | closed : stream.finished = true →
      PullRuns lexer attempts stream ambient (.ended, stream, ambient)
  /-- The offset to start at is wrong. -/
  | misplaced {e : LexError} : stream.finished = false → stream.startError = some e →
      PullRuns lexer attempts stream ambient
        (close (.failed e, { stream with startError := none }, ambient))
  /-- The `after` hook of the token before fails. -/
  | unfinished {e : LexError} {stream₁ : TokenStream τ} {ambient₁ : Ambient σ} :
      stream.finished = false → stream.startError = none →
      FinishRuns lexer stream ambient (.error e, stream₁, ambient₁) →
      PullRuns lexer attempts stream ambient (close (.failed e, stream₁, ambient₁))
  /-- The next token is searched. -/
  | searched {stream₁ : TokenStream τ} {ambient₁ : Ambient σ}
      {out : Pull τ × TokenStream τ × Ambient σ} :
      stream.finished = false → stream.startError = none →
      FinishRuns lexer stream ambient (.ok (), stream₁, ambient₁) →
      ScanRuns lexer attempts stream₁ ambient₁ out →
      PullRuns lexer attempts stream ambient (close out)

/-- On an open run a pull is one step, after which the run is closed if it has ended. -/
theorem pull_eq_close (lexer : Lexer σ τ) (attempts : Nat) (stream : TokenStream τ)
    (ambient : Ambient σ) (hopen : stream.finished = false) :
    lexer.pull attempts stream ambient = close (lexer.step attempts stream ambient) := by
  rw [pull, hopen]
  simp only [Bool.false_eq_true, if_false]
  obtain ⟨answer, stream₁, ambient₁⟩ := lexer.step attempts stream ambient
  cases answer <;> rfl

/-- Every pull follows a course: the run is closed already, or a step is made. -/
theorem pull_runs (lexer : Lexer σ τ) (attempts : Nat) (stream : TokenStream τ)
    (ambient : Ambient σ) :
    PullRuns lexer attempts stream ambient (lexer.pull attempts stream ambient) := by
  cases hopen : stream.finished with
  | true =>
      rw [pull, if_pos hopen]
      exact .closed hopen
  | false =>
      rw [pull_eq_close lexer attempts stream ambient hopen, step]
      split
      · next e herror => exact .misplaced hopen herror
      · next herror =>
          split
          · next hfinish => exact .unfinished hopen herror (finishRuns_iff.mpr hfinish)
          · next hfinish =>
              exact .searched hopen herror (finishRuns_iff.mpr hfinish) (lexer.scan_runs _ _ _)

/-- A course of a pull determines what it gives. -/
theorem PullRuns.eq {attempts : Nat} {out : Pull τ × TokenStream τ × Ambient σ}
    (h : PullRuns lexer attempts stream ambient out) :
    lexer.pull attempts stream ambient = out := by
  cases h with
  | closed hclosed => rw [pull, if_pos hclosed]
  | misplaced hopen herror => rw [pull_eq_close _ _ _ _ hopen, step, herror]
  | unfinished hopen herror hfinish =>
      simp only [pull_eq_close _ _ _ _ hopen, step, herror, hfinish.eq]
  | searched hopen herror hfinish hscan =>
      simp only [pull_eq_close _ _ _ _ hopen, step, herror, hfinish.eq, hscan.eq]

end Lexer

end ModalLex
