import ModalLex.Proofs.Lexer.Recording

/-!
# The Calls of a Pull

The lexer that records its hooks (`Lexer.recorded`) tells which predicates and hooks a pull calls
and what they are shown. This module says what these calls are, course by course: every relation
mirrors one of `ModalLex.Proofs.Lexer.Courses` and has its calls beside the course, so the match
that the hooks are called for is the one that the resolver has found in this run, and the token, the
stream and the ambient are those that the run goes on with.

* Predicates come first, and all but the last of them reject (`Query.Tests`).
* The hooks of the match that was accepted follow in their order, each only if all before it have
  succeeded, and `fetch` only if `before` has not asked for an abort (`AttemptCalls`).
* An aborted attempt is followed by the calls of the next one (`ScanCalls`).
* The `after` hook of the token before is called ahead of everything else, for the match that the
  stream has kept (`AfterCalls`, `PullCalls`).

A hook that a rule does not have is not called, and is passed over as if it had succeeded
(`HookCalled`).

## Main results

* `Query.Runs.calls`, `AttemptRuns.calls`, `ScanRuns.calls`: the calls of one resolution, of one
  attempt and of one search for a token.
* `Rested.pull_calls`: **the calls of one pull**.
-/

namespace ModalLex

variable {σ τ : Type}

/-! ### Hooks -/

/-- What all hooks of a match can read. -/
def Pending.context (p : Pending) (input : Text) : MatchContext where
  input
  matched := input.slice p.start p.matchEnd
  start := p.start

/-- A call of a hook of the rule of a match. -/
def Pending.call (p : Pending) (event : HookEvent τ) : HookCall τ := ⟨p.state, p.rule, event⟩

/-- The call of a hook that a rule may have, with what the hook asked and how it ended. -/
inductive HookCalled {Ask : Type} {Reply : Ask → Type} {η : Type} (p : Pending)
    (event : List ((q : Ask) × Reply q) → Except LexError Unit → HookEvent τ) :
    Option η → List ((q : Ask) × Reply q) → List (HookCall τ) → Except LexError Unit → Prop
  | absent : HookCalled p event none [] [] (.ok ())
  | called {hook : η} {talk : List ((q : Ask) × Reply q)} {result : Except LexError Unit} :
      HookCalled p event (some hook) talk [p.call (event talk result)] result

/-- A call of a hook shows what its event says. -/
theorem HookCalled.event_eq {Ask : Type} {Reply : Ask → Type} {η : Type} {p : Pending}
    {event : List ((q : Ask) × Reply q) → Except LexError Unit → HookEvent τ} {hook : Option η}
    {talk : List ((q : Ask) × Reply q)} {calls : List (HookCall τ)}
    {result : Except LexError Unit} (h : HookCalled p event hook talk calls result)
    {call : HookCall τ} (hcall : call ∈ calls) : call.event = event talk result := by
  cases h with
  | absent => exact absurd hcall (by simp)
  | called =>
      obtain rfl := List.mem_singleton.mp hcall
      rfl

/-- Whether a `before` hook asked for an abort. -/
def asksAbort (talk : List ((q : BeforeAsk) × q.Reply)) : Bool :=
  talk.any fun
    | ⟨.abort, _⟩ => true
    | ⟨.switch _, _⟩ => false

/-- What is said when the `before` hook of a rule runs, if the rule has one. -/
def Rule.beforeTalk (rule : Rule σ τ) (context : BeforeContext) (stack : StateStack)
    (ambient : Ambient σ) : List ((q : BeforeAsk) × q.Reply) :=
  match rule.before with
  | none => []
  | some hook =>
    (hook context ambient.host).talk Lexer.answerBefore ⟨stack, ambient.journal, false⟩

/-- What is said when the `fetch` hook of a rule runs, if the rule has one. -/
def Rule.fetchTalk (rule : Rule σ τ) (context : FetchContext) (cursor : Nat)
    (ambient : Ambient σ) : List ((q : FetchAsk) × q.Reply) :=
  match rule.fetch with
  | none => []
  | some hook =>
    (hook context ambient.host).talk Lexer.answerFetch ⟨context.input, cursor, cursor⟩

/-- What is said when the `after` hook of a rule runs, if the rule has one. -/
def Rule.afterTalk (rule : Rule σ τ) (context : AfterContext τ) (stack : StateStack)
    (ambient : Ambient σ) : List ((q : SwitchAsk) × q.Reply) :=
  match rule.after with
  | none => []
  | some hook =>
    (hook context ambient.host).talk Lexer.answerSwitch ⟨stack, ambient.journal, false⟩

/-- The call of the `value` hook, if the rule has one. -/
def Rule.valueCalls (rule : Rule σ τ) (p : Pending) (context : ValueContext) :
    List (HookCall τ) :=
  if rule.value.isSome then [p.call (.value context)] else []

/-- The call that finds the kind, if it is derived. -/
def Rule.kindCalls (rule : Rule σ τ) (p : Pending) (matched : Text) : List (HookCall τ) :=
  match rule.kind with
  | .derived _ => [p.call (.kind matched)]
  | _ => []

namespace Lexer

/-- No switch aborts a match. -/
theorem answerSwitch_aborted (ask : SwitchAsk) (s : Switching) :
    (answerSwitch ask s).2.aborted = s.aborted := by
  cases ask with
  | push name =>
      rw [answerSwitch]
      split <;> rfl
  | pop =>
      rw [answerSwitch]
      split <;> rfl
  | currentState => rfl

/-- A match is aborted exactly if the hook asks for it. -/
theorem aborted_run_recorded {α : Type} (d : Dialogue BeforeAsk BeforeAsk.Reply α)
    (talk : List ((q : BeforeAsk) × q.Reply)) {s : Switching} (h : s.aborted = asksAbort talk) :
    ((d.recorded talk).run answerBefore s).2.aborted =
      asksAbort ((d.recorded talk).run answerBefore s).1.1 := by
  induction d generalizing talk s with
  | done result => exact h
  | ask q next ih =>
      refine ih _ _ ?_
      cases q with
      | switch ask =>
          refine (answerSwitch_aborted ask s).trans (h.trans ?_)
          simp [asksAbort]
      | abort => exact (by simp [asksAbort] : true = asksAbort (talk ++ [⟨.abort, ()⟩]))

section Hooks

variable {rule : Rule σ τ} {ambient : Ambient (σ × List (HookCall τ))}

/-- What the `before` hook of a rule adds to the record, and how it ends. -/
theorem runBefore_called (p : Pending) {context : BeforeContext} {stack : StateStack}
    {out : Except LexError Bool × StateStack × Ambient (σ × List (HookCall τ))}
    (h : runBefore (rule.recorded p.state p.rule) context stack ambient = out) :
    ∃ talk calls result, talk = rule.beforeTalk context stack ambient.unrecorded ∧
      HookCalled p (.before context) rule.before talk calls result ∧
      out.1 = result.map (fun _ => asksAbort talk) ∧
      out.2.2.host.2 = ambient.host.2 ++ calls := by
  subst h
  unfold runBefore Rule.recorded Rule.beforeTalk
  cases rule.before with
  | none => exact ⟨_, _, _, rfl, .absent, rfl, (List.append_nil _).symm⟩
  | some hook =>
      dsimp only [Option.map_some]
      rw [recordedHook, Dialogue.run_bind]
      have haborted := aborted_run_recorded (hook context ambient.host.1) []
        (s := ⟨stack, ambient.journal, false⟩) rfl
      refine ⟨_, _, _, rfl, .called, ?_, rfl⟩
      rw [Dialogue.talk, Ambient.unrecorded, ← haborted]
      rfl

/-- What the `fetch` hook of a rule adds to the record. -/
theorem runFetch_called (p : Pending) {context : FetchContext} {cursor : Nat}
    {out : Except LexError Nat × Ambient (σ × List (HookCall τ))}
    (h : runFetch (rule.recorded p.state p.rule) context cursor ambient = out) :
    ∃ talk calls, talk = rule.fetchTalk context cursor ambient.unrecorded ∧
      HookCalled p (.fetch context) rule.fetch talk calls (out.1.map fun _ => ()) ∧
      out.2.host.2 = ambient.host.2 ++ calls := by
  have hended (result : Except LexError Unit) (stop : Nat) :
      (result.map fun _ => stop).map (fun _ => ()) = result := by
    cases result <;> rfl
  subst h
  unfold runFetch Rule.recorded Rule.fetchTalk
  cases rule.fetch with
  | none => exact ⟨_, _, rfl, .absent, (List.append_nil _).symm⟩
  | some hook =>
      dsimp only [Option.map_some]
      rw [recordedHook, Dialogue.run_bind, hended]
      exact ⟨_, _, rfl, .called, rfl⟩

/-- What the `value` hook of a rule adds to the record. -/
theorem valueOf_called (p : Pending) {context : ValueContext} {host : σ × List (HookCall τ)}
    {out : Value × σ × List (HookCall τ)}
    (h : valueOf (rule.recorded p.state p.rule) context host = out) :
    out.2.2 = host.2 ++ rule.valueCalls p context := by
  subst h
  unfold valueOf Rule.recorded Rule.valueCalls
  cases rule.value with
  | none => exact (List.append_nil _).symm
  | some hook => rfl

/-- What finding the kind adds to the record. -/
theorem kindOf_called (p : Pending) {matched : Text} {host : σ × List (HookCall τ)}
    {out : Text × σ × List (HookCall τ)}
    (h : kindOf (rule.recorded p.state p.rule) matched host = out) :
    out.2.2 = host.2 ++ rule.kindCalls p matched := by
  subst h
  unfold kindOf Rule.recorded Rule.kindCalls Kind.recorded
  cases rule.kind with
  | matched => exact (List.append_nil _).symm
  | literal kind => exact (List.append_nil _).symm
  | derived derive => rfl

/-- What the `after` hook of a rule adds to the record. -/
theorem runAfter_called (p : Pending) {stream : TokenStream τ} {token : τ}
    (htoken : stream.lastToken = some token)
    {out : Except LexError Unit × StateStack × Ambient (σ × List (HookCall τ))}
    (h : runAfter (some (rule.recorded p.state p.rule)) p stream ambient = out) :
    ∃ talk calls,
      talk = rule.afterTalk { p.context stream.input with position := stream.cursor, token }
        stream.stack ambient.unrecorded ∧
      HookCalled p (.after { p.context stream.input with position := stream.cursor, token })
        rule.after talk calls out.1 ∧
      out.2.2.host.2 = ambient.host.2 ++ calls := by
  subst h
  unfold runAfter Rule.recorded Rule.afterTalk
  rw [htoken]
  cases rule.after with
  | none => exact ⟨_, _, rfl, .absent, (List.append_nil _).symm⟩
  | some hook =>
      dsimp only [Option.map_some, Option.bind_some]
      rw [recordedHook, Dialogue.run_bind]
      exact ⟨_, _, rfl, .called, rfl⟩

end Hooks

end Lexer

/-! ### Predicates -/

namespace Query

/-- The call of the predicate of a rule, if it has one. -/
def testCalls (q : Query σ τ) (found : Found) (rule : Rule σ τ) (accepted : Bool) :
    List (HookCall τ) :=
  if rule.test.isSome then [⟨q.state, found.rule, .test (q.testContext found) accepted⟩] else []

/-- The calls of the search for a rule, course by course as in `Query.Runs`: no predicate is called
before a match is found, and each match that is found has the predicate of its rule called. -/
inductive Tests (q : Query σ τ) : Nat → Nat → Ambient σ → List (HookCall τ) →
    Except ConfigError (Option (Found × Rule σ τ)) × Ambient σ → Prop
  /-- The allowance is used up. -/
  | spent {first : Nat} {ambient : Ambient σ} : Tests q 0 first ambient [] (.ok none, ambient)
  /-- The alternation cannot be built. -/
  | unbuilt {attempts first : Nat} {ambient ambient₁ : Ambient σ} {e : ConfigError} :
      q.alternation first ambient = (.error e, ambient₁) →
      Tests q (attempts + 1) first ambient [] (.error e, ambient₁)
  /-- No rule is left. -/
  | exhausted {attempts first : Nat} {ambient ambient₁ : Ambient σ} :
      q.alternation first ambient = (.ok none, ambient₁) →
      Tests q (attempts + 1) first ambient [] (.ok none, ambient₁)
  /-- No rule matches. -/
  | unmatched {attempts first : Nat} {ambient ambient₁ : Ambient σ} {a : Alternation} :
      q.alternation first ambient = (.ok (some a), ambient₁) →
      a.matchAt q.input q.offset = none →
      Tests q (attempts + 1) first ambient []
        (.ok none, ambient₁.note (.noAlternativeMatched q.stateName q.offset first))
  /-- The match is of no rule. -/
  | unowned {attempts first : Nat} {ambient ambient₁ : Ambient σ} {a : Alternation}
      {found : Found} :
      q.alternation first ambient = (.ok (some a), ambient₁) →
      a.matchAt q.input q.offset = some found → q.rules[found.rule]? = none →
      Tests q (attempts + 1) first ambient [] (.ok none, ambient₁)
  /-- The rule accepts its match. -/
  | accepted {attempts first : Nat} {ambient ambient₁ : Ambient σ} {a : Alternation}
      {found : Found} {rule : Rule σ τ} {host : σ} :
      q.alternation first ambient = (.ok (some a), ambient₁) →
      a.matchAt q.input q.offset = some found → q.rules[found.rule]? = some rule →
      q.accepts rule found ambient₁.host = (true, host) →
      Tests q (attempts + 1) first ambient (q.testCalls found rule true)
        (.ok (some (found, rule)), ({ ambient₁ with host } : Ambient σ).note
          (.resolvedRule q.stateName found.rule found.start found.stop))
  /-- The rule rejects its match, and the predicates of those behind it follow. -/
  | rejected {attempts first : Nat} {ambient ambient₁ : Ambient σ} {a : Alternation}
      {found : Found} {rule : Rule σ τ} {host : σ} {calls : List (HookCall τ)}
      {out : Except ConfigError (Option (Found × Rule σ τ)) × Ambient σ} :
      q.alternation first ambient = (.ok (some a), ambient₁) →
      a.matchAt q.input q.offset = some found → q.rules[found.rule]? = some rule →
      q.accepts rule found ambient₁.host = (false, host) →
      Tests q attempts (found.rule + 1) (({ ambient₁ with host } : Ambient σ).note
        (.predicateRejected q.stateName found.rule q.offset)) calls out →
      Tests q (attempts + 1) first ambient (q.testCalls found rule false ++ calls) out

/-- The calls of a resolution, with its answer and the ambient that it leaves. -/
def Resolved (q : Query σ τ) (ambient : Ambient σ) (calls : List (HookCall τ))
    (out : Except ConfigError (Option (Found × Rule σ τ)) × Ambient σ) : Prop :=
  q.Tests (q.rules.length + 1) 0 ambient calls out

variable {q : Query σ τ} {attempts first : Nat}

section Tests

variable {ambient : Ambient σ} {calls : List (HookCall τ)}
  {out : Except ConfigError (Option (Found × Rule σ τ)) × Ambient σ} {call : HookCall τ}

/-- Without its calls, the search is one of the courses. -/
theorem Tests.runs (h : q.Tests attempts first ambient calls out) :
    q.Runs attempts first ambient out := by
  induction h with
  | spent => exact .spent
  | unbuilt halternation => exact .unbuilt halternation
  | exhausted halternation => exact .exhausted halternation
  | unmatched halternation hmatch => exact .unmatched halternation hmatch
  | unowned halternation hmatch hrule => exact .unowned halternation hmatch hrule
  | accepted halternation hmatch hrule haccepts =>
      exact .accepted halternation hmatch hrule haccepts
  | rejected halternation hmatch hrule haccepts _ ih =>
      exact .rejected halternation hmatch hrule haccepts ih

/-- The answer of a resolution is that of the query. -/
theorem Resolved.eq (h : q.Resolved ambient calls out) : q.resolve ambient = out :=
  runs_iff.mp h.runs

/-- The call of a predicate shows a match of its rule. -/
theorem event_eq_of_testCalls {found : Found} {rule : Rule σ τ} {accepted : Bool}
    (hcall : call ∈ q.testCalls found rule accepted) :
    call.event = .test (q.testContext found) accepted := by
  rw [testCalls] at hcall
  split at hcall
  · obtain rfl := List.mem_singleton.mp hcall
    rfl
  · exact absurd hcall (by simp)

/-- A resolution calls predicates only, each with the context of a match. -/
theorem Tests.event_eq (h : q.Tests attempts first ambient calls out) (hcall : call ∈ calls) :
    ∃ found accepted, call.event = .test (q.testContext found) accepted := by
  induction h with
  | spent | unbuilt | exhausted | unmatched | unowned => exact absurd hcall (by simp)
  | accepted => exact ⟨_, _, event_eq_of_testCalls hcall⟩
  | rejected _ _ _ _ _ ih =>
      rcases List.mem_append.mp hcall with hcall | hcall
      · exact ⟨_, _, event_eq_of_testCalls hcall⟩
      · exact ih hcall

/-- A match that is accepted is that of a rule, and the predicate of this rule is called last. -/
theorem Tests.calls_of_accepted {found : Found} {rule : Rule σ τ}
    (h : q.Tests attempts first ambient calls out) (hout : out.1 = .ok (some (found, rule))) :
    q.rules[found.rule]? = some rule ∧
      ∃ rejected, calls = rejected ++ q.testCalls found rule true := by
  induction h with
  | spent | unbuilt | exhausted | unmatched | unowned => exact absurd hout (by simp)
  | accepted _ _ hrule _ =>
      obtain ⟨rfl, rfl⟩ := Prod.mk.inj (Option.some.inj (Except.ok.inj hout))
      exact ⟨hrule, [], rfl⟩
  | rejected _ _ _ _ _ ih =>
      obtain ⟨hrule, rejected, rfl⟩ := ih hout
      exact ⟨hrule, _, (List.append_assoc _ _ _).symm⟩

/-- Only patterns make a request for an alternation fail. -/
theorem alternation_error {first : Nat} {ambient ambient' : Ambient σ} {e : ConfigError}
    (h : q.alternation first ambient = (.error e, ambient')) : ∃ cause, e = .pattern cause := by
  have hresult : (q.compiler.alternation ambient.cache q.state first).1 = .error e :=
    congrArg Prod.fst h
  have hruns := q.compiler.alternation_runs ambient.cache q.state first
  generalize q.compiler.alternation ambient.cache q.state first = out at hruns hresult
  cases hruns with
  | exhausted | cached | built => cases hresult
  | unbuilt => exact ⟨_, (Except.error.inj hresult).symm⟩

/-- Only patterns make a resolution fail. -/
theorem Tests.eq_pattern {e : ConfigError} (h : q.Tests attempts first ambient calls out)
    (hout : out.1 = .error e) : ∃ cause, e = .pattern cause := by
  induction h with
  | spent | exhausted | unmatched | unowned | accepted => cases hout
  | unbuilt halternation =>
      obtain rfl := Except.error.inj hout
      exact alternation_error halternation
  | rejected _ _ _ _ _ ih => exact ih hout

end Tests

/-- What the predicate of a rule adds to the record. -/
theorem accepts_called {rule : Rule σ τ} {found : Found} {host : σ × List (HookCall τ)}
    {out : Bool × σ × List (HookCall τ)}
    (h : q.recorded.accepts (rule.recorded q.state found.rule) found host = out) :
    out.2.2 = host.2 ++ q.testCalls found rule out.1 := by
  subst h
  unfold accepts Rule.recorded testCalls
  cases rule.test with
  | none => exact (List.append_nil _).symm
  | some test => rfl

/-- **The calls of one resolution.** -/
theorem Runs.calls {ambient : Ambient (σ × List (HookCall τ))}
    {out : Except ConfigError (Option (Found × Rule (σ × List (HookCall τ)) τ)) ×
      Ambient (σ × List (HookCall τ))} (h : q.recorded.Runs attempts first ambient out) :
    ∃ calls answer,
      q.Tests attempts first ambient.unrecorded calls (answer, out.2.unrecorded) ∧
      out.1 = q.recordedAnswer answer ∧ out.2.host.2 = ambient.host.2 ++ calls := by
  have hquiet {first : Nat} {a b : Ambient (σ × List (HookCall τ))}
      {result : Except ConfigError (Option Alternation)}
      (hq : q.recorded.alternation first a = (result, b)) :
      q.alternation first a.unrecorded = (result, b.unrecorded) ∧
        b.host.2 = a.host.2 ++ [] := by
    rw [alternation_host hq, List.append_nil]
    exact ⟨congrArg (fun x => (x.1, x.2.unrecorded)) hq, rfl⟩
  induction h with
  | spent => exact ⟨[], .ok none, .spent, rfl, (List.append_nil _).symm⟩
  | @unbuilt _ _ _ _ e hq =>
      obtain ⟨halternation, hrecord⟩ := hquiet hq
      exact ⟨[], .error e, .unbuilt halternation, rfl, hrecord⟩
  | exhausted hq =>
      obtain ⟨halternation, hrecord⟩ := hquiet hq
      exact ⟨[], .ok none, .exhausted halternation, rfl, hrecord⟩
  | unmatched hq hmatch =>
      obtain ⟨halternation, hrecord⟩ := hquiet hq
      exact ⟨[], .ok none, .unmatched halternation hmatch, rfl, hrecord⟩
  | unowned hq hmatch hrule =>
      rw [recorded_rules, Option.map_eq_none_iff] at hrule
      obtain ⟨halternation, hrecord⟩ := hquiet hq
      exact ⟨[], .ok none, .unowned halternation hmatch hrule, rfl, hrecord⟩
  | @accepted _ _ _ _ _ found _ _ hq hmatch hrule haccepts =>
      rw [recorded_rules] at hrule
      obtain ⟨rule, hrule', rfl⟩ := Option.map_eq_some_iff.mp hrule
      have hcall := accepts_called haccepts
      rw [alternation_host hq] at hcall
      exact ⟨_, .ok (some (found, rule)),
        .accepted (hquiet hq).1 hmatch hrule' (recorded_accepts haccepts), rfl, hcall⟩
  | rejected hq hmatch hrule haccepts _ ih =>
      -- The next attempt is made behind the rule that was rejected.
      rw [recorded_rules] at hrule
      obtain ⟨rule, hrule', rfl⟩ := Option.map_eq_some_iff.mp hrule
      have hcall := accepts_called haccepts
      rw [alternation_host hq] at hcall
      obtain ⟨calls, answer, htests, hanswer, hcalls⟩ := ih
      refine ⟨_, answer,
        .rejected (hquiet hq).1 hmatch hrule' (recorded_accepts haccepts) htests, hanswer,
        hcalls.trans ((congrArg (· ++ calls) hcall).trans ?_)⟩
      exact List.append_assoc _ _ _

end Query

/-! ### Attempts -/

/-- A match that is found for a stream, as it is pending once a token is made from it. -/
def TokenStream.due (stream : TokenStream τ) (found : Found) : Pending where
  state := stream.stack.current
  rule := found.rule
  start := stream.cursor
  matchEnd := found.stop

/-- Whether a run is finished with an answer. -/
def Pull.closes : Pull τ → Bool
  | .failed _ => true
  | .ended => true
  | _ => false

namespace Lexer

/-- The calls up to the end of the `before` hook of the match that is accepted, with what comes of
it: an error, or whether the hook asked for an abort, the stack and the ambient that the hook
leaves. -/
inductive BeforeCalls (lexer : Lexer σ τ) (stream : TokenStream τ) (ambient : Ambient σ)
    (found : Found) (rule : Rule σ τ) :
    List (HookCall τ) → Except LexError Bool × StateStack × Ambient σ → Prop
  | intro {tests before : List (HookCall τ)} {talk : List ((q : BeforeAsk) × q.Reply)}
      {result : Except LexError Unit} {stack : StateStack} {ambient₁ ambient₂ : Ambient σ} :
      (lexer.query stream).Resolved ambient tests (.ok (some (found, rule)), ambient₁) →
      talk = rule.beforeTalk
        { (stream.due found).context stream.input with position := stream.cursor }
        (stream.stack.setAnchor found.stop) ambient₁ →
      HookCalled (stream.due found)
        (.before { (stream.due found).context stream.input with position := stream.cursor })
        rule.before talk before result →
      runBefore rule { (stream.due found).context stream.input with position := stream.cursor }
        (stream.stack.setAnchor found.stop) ambient₁ =
        (result.map fun _ => asksAbort talk, stack, ambient₂) →
      BeforeCalls lexer stream ambient found rule (tests ++ before)
        (result.map fun _ => asksAbort talk, stack, ambient₂)

/-- The calls of an attempt, with its answer and the stream and the ambient that it leaves, course
by course as in `AttemptRuns`. -/
inductive AttemptCalls (lexer : Lexer σ τ) (stream : TokenStream τ) (ambient : Ambient σ) :
    List (HookCall τ) → Attempt τ × TokenStream τ × Ambient σ → Prop
  /-- An alternation cannot be built. -/
  | unbuilt {tests : List (HookCall τ)} {e : ConfigError} {ambient₁ : Ambient σ} :
      (lexer.query stream).Resolved ambient tests (.error e, ambient₁) →
      AttemptCalls lexer stream ambient tests (.failed (.config e), stream, ambient₁)
  /-- No rule is left that matches. -/
  | unmatched {tests : List (HookCall τ)} {ambient₁ : Ambient σ} :
      (lexer.query stream).Resolved ambient tests (.ok none, ambient₁) →
      AttemptCalls lexer stream ambient tests
        (.failed (.noMatch stream.cursor stream.stack.currentName), stream, ambient₁)
  /-- The `before` hook fails. -/
  | beforeFailed {before : List (HookCall τ)} {found : Found} {rule : Rule σ τ} {e : LexError}
      {stack : StateStack} {ambient₂ : Ambient σ} :
      BeforeCalls lexer stream ambient found rule before (.error e, stack, ambient₂) →
      AttemptCalls lexer stream ambient before (.failed e, { stream with stack }, ambient₂)
  /-- The `before` hook asks for an abort. -/
  | aborted {before : List (HookCall τ)} {found : Found} {rule : Rule σ τ} {stack : StateStack}
      {ambient₂ : Ambient σ} :
      BeforeCalls lexer stream ambient found rule before (.ok true, stack, ambient₂) →
      AttemptCalls lexer stream ambient before
        (.aborted, { stream with stack := stack.setAnchor stream.cursor },
          ambient₂.note (.matchAborted found.rule stream.cursor stack.currentName))
  /-- The `fetch` hook fails. -/
  | fetchFailed {before fetch : List (HookCall τ)} {found : Found} {rule : Rule σ τ}
      {talk : List ((q : FetchAsk) × q.Reply)} {e : LexError} {stack : StateStack}
      {ambient₂ ambient₃ : Ambient σ} :
      BeforeCalls lexer stream ambient found rule before (.ok false, stack, ambient₂) →
      talk = rule.fetchTalk
        { (stream.due found).context stream.input with state := stack.currentName } found.stop
        ambient₂ →
      HookCalled (stream.due found)
        (.fetch { (stream.due found).context stream.input with state := stack.currentName })
        rule.fetch talk fetch (.error e) →
      runFetch rule { (stream.due found).context stream.input with state := stack.currentName }
        found.stop ambient₂ = (.error e, ambient₃) →
      stream.cursor ≤ found.stop →
      AttemptCalls lexer stream ambient (before ++ fetch)
        (.failed e, { stream with stack, cursor := found.stop }, ambient₃)
  /-- A token is made, of the kind and the value that the rule of the match gives it. -/
  | token {before fetch : List (HookCall τ)} {found : Found} {rule : Rule σ τ}
      {talk : List ((q : FetchAsk) × q.Reply)} {stack : StateStack} {stop : Nat} {kind : Text}
      {value : Value} {valued kinded : σ} {ambient₂ ambient₃ : Ambient σ} :
      BeforeCalls lexer stream ambient found rule before (.ok false, stack, ambient₂) →
      talk = rule.fetchTalk
        { (stream.due found).context stream.input with state := stack.currentName } found.stop
        ambient₂ →
      HookCalled (stream.due found)
        (.fetch { (stream.due found).context stream.input with state := stack.currentName })
        rule.fetch talk fetch (.ok ()) →
      runFetch rule { (stream.due found).context stream.input with state := stack.currentName }
        found.stop ambient₂ = (.ok stop, ambient₃) →
      stream.cursor ≤ found.stop → found.stop ≤ stop →
      valueOf rule
        { (stream.due found).context stream.input with
          state := stack.currentName, position := stop } ambient₃.host = (value, valued) →
      kindOf rule ((stream.due found).context stream.input).matched valued = (kind, kinded) →
      AttemptCalls lexer stream ambient
        (before ++ (fetch ++
          rule.valueCalls (stream.due found)
            { (stream.due found).context stream.input with
              state := stack.currentName, position := stop } ++
          rule.kindCalls (stream.due found) ((stream.due found).context stream.input).matched))
        (.token (lexer.factory { kind, value, start := stream.cursor, stop } stream.input),
          { stream with
            stack
            cursor := stop
            lastToken :=
              some (lexer.factory { kind, value, start := stream.cursor, stop } stream.input)
            pending := some (stream.due found) },
          ({ ambient₃ with host := kinded } : Ambient σ).note (.producedToken kind stream.cursor
            stop (lexer.names.name stream.stack.current)))

section Attempts

variable {lexer : Lexer σ τ} {stream : TokenStream τ}

/-- What is called up to the end of the `before` hook. -/
theorem BeforeCalls.cases {ambient : Ambient σ} {found : Found} {rule : Rule σ τ}
    {calls : List (HookCall τ)} {out : Except LexError Bool × StateStack × Ambient σ}
    (h : BeforeCalls lexer stream ambient found rule calls out) :
    ∃ tests before talk result ambient₁,
      (lexer.query stream).Resolved ambient tests (.ok (some (found, rule)), ambient₁) ∧
      HookCalled (stream.due found)
        (.before { (stream.due found).context stream.input with position := stream.cursor })
        rule.before talk before result ∧
      calls = tests ++ before ∧ out.1 = result.map fun _ => asksAbort talk := by
  cases h with
  | intro hresolved _ hbefore => exact ⟨_, _, _, _, _, hresolved, hbefore, rfl, rfl⟩

/-- A match that is accepted ends on a boundary behind the cursor. -/
theorem Ready.resolved_span (h : Ready lexer stream) {ambient ambient₁ : Ambient σ}
    {tests : List (HookCall τ)} {found : Found} {rule : Rule σ τ}
    (hresolved :
      (lexer.query stream).Resolved ambient tests (.ok (some (found, rule)), ambient₁)) :
    stream.cursor ≤ found.stop ∧ stream.input.isBoundary found.stop = true := by
  obtain ⟨⟨a, hmatch⟩, -⟩ := Query.resolveFrom_some hresolved.eq
  obtain ⟨-, hle, hstop⟩ := Alternation.matchAt_span h.anchor_isBoundary hmatch
  exact ⟨h.anchor_eq ▸ hle, hstop⟩

/-- Hooks are shown the match as it will be pending. -/
theorem Ready.matchContext_eq (h : Ready lexer stream) (found : Found) :
    stream.matchContext found = (stream.due found).context stream.input := by
  rw [TokenStream.matchContext, h.anchor_eq]
  rfl

variable {ambient ambient₁ ambient₂ ambient₃ : Ambient (σ × List (HookCall τ))}

/-- The calls of the resolution of an attempt. -/
theorem query_calls {answer : Except ConfigError (Option (Found × Rule (σ × List (HookCall τ)) τ))}
    (hq : (lexer.recorded.query stream).resolve ambient = (answer, ambient₁)) :
    ∃ calls answer',
      (lexer.query stream).Resolved ambient.unrecorded calls (answer', ambient₁.unrecorded) ∧
      answer = (lexer.query stream).recordedAnswer answer' ∧
      ambient₁.host.2 = ambient.host.2 ++ calls := by
  have hlength : (lexer.query stream).recorded.rules.length = (lexer.query stream).rules.length :=
    List.length_mapIdx
  rw [recorded_query, Query.resolve, hlength] at hq
  exact (Query.runs_iff.mpr hq).calls

/-- The calls up to the end of the `before` hook, and the anchor that the hook leaves. -/
theorem Ready.before_calls (h : Ready lexer stream) {found : Found}
    {rule : Rule (σ × List (HookCall τ)) τ} {stack : StateStack} {result : Except LexError Bool}
    (hq : (lexer.recorded.query stream).resolve ambient = (.ok (some (found, rule)), ambient₁))
    (hbefore : runBefore rule { stream.matchContext found with position := stream.cursor }
      (stream.stack.setAnchor found.stop) ambient₁ = (result, stack, ambient₂)) :
    ∃ rule' calls, rule = rule'.recorded stream.stack.current found.rule ∧
      BeforeCalls lexer stream ambient.unrecorded found rule' calls
        (result, stack, ambient₂.unrecorded) ∧
      ambient₂.host.2 = ambient.host.2 ++ calls ∧ stack.anchor = found.stop ∧
      stream.cursor ≤ found.stop ∧ stream.input.isBoundary found.stop = true := by
  obtain ⟨tests, answer, hresolved, hanswer, htests⟩ := query_calls hq
  obtain ⟨rule', rfl, rfl⟩ := Query.eq_some_of_mapRules hanswer
  obtain ⟨hle, hstop⟩ := h.resolved_span hresolved
  obtain ⟨-, -, hanchor, -⟩ := h.switched hstop (runBefore_switched hbefore)
  rw [h.matchContext_eq] at hbefore
  have hrun := recorded_runBefore hbefore
  obtain ⟨talk, before, ended, htalk, hcalled, rfl, hrecord⟩ :=
    runBefore_called (stream.due found) hbefore
  refine ⟨rule', tests ++ before, rfl, .intro hresolved htalk hcalled hrun, ?_, hanchor, hle, hstop⟩
  rw [← List.append_assoc, ← htests]
  exact hrecord

/-- **The calls of one attempt.** -/
theorem AttemptRuns.calls (h : Ready lexer stream)
    {out : Attempt τ × TokenStream τ × Ambient (σ × List (HookCall τ))}
    (hruns : AttemptRuns lexer.recorded stream ambient out) :
    ∃ calls, AttemptCalls lexer stream ambient.unrecorded calls
        (out.1, out.2.1, out.2.2.unrecorded) ∧
      out.2.2.host.2 = ambient.host.2 ++ calls := by
  cases hruns with
  | unbuilt hq =>
      obtain ⟨tests, answer, hresolved, hanswer, htests⟩ := query_calls hq
      obtain rfl := Query.eq_error_of_mapRules hanswer
      exact ⟨tests, .unbuilt hresolved, htests⟩
  | unmatched hq =>
      obtain ⟨tests, answer, hresolved, hanswer, htests⟩ := query_calls hq
      obtain rfl := Query.eq_none_of_mapRules hanswer
      rw [h.anchor_eq]
      exact ⟨tests, .unmatched hresolved, htests⟩
  | beforeFailed hq hbefore =>
      obtain ⟨_, before, -, hdone, hrecord, -⟩ := h.before_calls hq hbefore
      exact ⟨before, .beforeFailed hdone, hrecord⟩
  | aborted hq hbefore =>
      obtain ⟨_, before, -, hdone, hrecord, -⟩ := h.before_calls hq hbefore
      rw [h.anchor_eq]
      exact ⟨before, .aborted hdone, hrecord⟩
  | fetchFailed hq hbefore hfetch =>
      obtain ⟨rule, before, rfl, hdone, hrecord, hanchor, hle, -⟩ := h.before_calls hq hbefore
      rw [h.matchContext_eq, hanchor] at hfetch
      obtain ⟨talk, fetch, htalk, hcalled, hcalls⟩ := runFetch_called (stream.due _) hfetch
      rw [hanchor]
      refine ⟨before ++ fetch, .fetchFailed hdone htalk hcalled (recorded_runFetch hfetch) hle, ?_⟩
      rw [← List.append_assoc, ← hrecord]
      exact hcalls
  | @token found _ stack cursor _ _ _ _ _ _ _ hq hbefore hfetch hvalue hkind =>
      obtain ⟨rule, before, rfl, hdone, hrecord, hanchor, hle, hstop⟩ :=
        h.before_calls hq hbefore
      obtain ⟨hcursor, -⟩ := runFetch_ok (hanchor ▸ hstop) hfetch
      rw [h.matchContext_eq] at hfetch hvalue hkind
      rw [hanchor] at hfetch hcursor
      obtain ⟨talk, fetch, htalk, hcalled, hcalls⟩ := runFetch_called (stream.due found) hfetch
      rw [h.anchor_eq]
      refine ⟨_, .token hdone htalk hcalled (recorded_runFetch hfetch) hle hcursor
        (recorded_valueOf hvalue) (recorded_kindOf hkind), ?_⟩
      calc _ = _ := kindOf_called (stream.due found) hkind
        _ = _ := congrArg (· ++ _) (valueOf_called (stream.due found) hvalue)
        _ = _ := congrArg (· ++ _ ++ _) hcalls
        _ = _ := congrArg (· ++ _ ++ _ ++ _) hrecord
        _ = _ := by simp only [List.append_assoc]

end Attempts

/-! ### Searches -/

/-- The calls of a search for a token, course by course as in `ScanRuns`: those of attempts that
are aborted, and of one that is not, unless the search ends before. -/
inductive ScanCalls (lexer : Lexer σ τ) : Nat → TokenStream τ → Ambient σ →
    List (HookCall τ) → Pull τ × TokenStream τ × Ambient σ → Prop
  /-- The allowance is used up. -/
  | stalled {stream : TokenStream τ} {ambient : Ambient σ} :
      ScanCalls lexer 0 stream ambient [] (.stalled, stream, ambient)
  /-- The input is at its end. -/
  | ended {attempts : Nat} {stream : TokenStream τ} {ambient : Ambient σ} :
      stream.cursor = stream.input.byteLength →
      ScanCalls lexer (attempts + 1) stream ambient []
        (.ended, stream, ambient.note (.reachedEnd stream.cursor))
  /-- An attempt makes a token. -/
  | token {attempts : Nat} {stream stream₁ : TokenStream τ} {ambient ambient₁ : Ambient σ}
      {calls : List (HookCall τ)} {token : τ} :
      stream.cursor < stream.input.byteLength →
      AttemptCalls lexer stream ambient calls (.token token, stream₁, ambient₁) →
      ScanCalls lexer (attempts + 1) stream ambient calls (.token token, stream₁, ambient₁)
  /-- An attempt fails. -/
  | failed {attempts : Nat} {stream stream₁ : TokenStream τ} {ambient ambient₁ : Ambient σ}
      {calls : List (HookCall τ)} {e : LexError} :
      stream.cursor < stream.input.byteLength →
      AttemptCalls lexer stream ambient calls (.failed e, stream₁, ambient₁) →
      ScanCalls lexer (attempts + 1) stream ambient calls (.failed e, stream₁, ambient₁)
  /-- An attempt is aborted, and the calls of another one follow. -/
  | again {attempts : Nat} {stream stream₁ : TokenStream τ} {ambient ambient₁ : Ambient σ}
      {calls later : List (HookCall τ)} {out : Pull τ × TokenStream τ × Ambient σ} :
      stream.cursor < stream.input.byteLength →
      AttemptCalls lexer stream ambient calls (.aborted, stream₁, ambient₁) →
      ScanCalls lexer attempts stream₁ ambient₁ later out →
      ScanCalls lexer (attempts + 1) stream ambient (calls ++ later) out

section Searches

variable {lexer : Lexer σ τ} {stream : TokenStream τ}
  {ambient : Ambient (σ × List (HookCall τ))}

/-- **The calls of one search.** -/
theorem ScanRuns.calls (h : Ready lexer stream) {attempts : Nat}
    {out : Pull τ × TokenStream τ × Ambient (σ × List (HookCall τ))}
    (hruns : ScanRuns lexer.recorded attempts stream ambient out) :
    ∃ calls, ScanCalls lexer attempts stream ambient.unrecorded calls
        (out.1, out.2.1, out.2.2.unrecorded) ∧
      out.2.2.host.2 = ambient.host.2 ++ calls := by
  induction hruns with
  | stalled => exact ⟨[], .stalled, (List.append_nil _).symm⟩
  | ended hends =>
      have hle := Text.le_byteLength_of_isBoundary h.cursor_isBoundary
      exact ⟨[], .ended (by omega), (List.append_nil _).symm⟩
  | token hgoes hattempt =>
      obtain ⟨calls, hcalls, hrecord⟩ := hattempt.calls h
      exact ⟨calls, .token hgoes hcalls, hrecord⟩
  | failed hgoes hattempt =>
      obtain ⟨calls, hcalls, hrecord⟩ := hattempt.calls h
      exact ⟨calls, .failed hgoes hcalls, hrecord⟩
  | @again _ _ _ _ ambient₁ _ hgoes hattempt _ ih =>
      obtain ⟨calls, hcalls, hrecord⟩ := hattempt.calls h
      obtain ⟨later, hlater, hrecord'⟩ := ih (h.aborted hattempt.unrecorded).1
      refine ⟨calls ++ later, .again hgoes hcalls hlater, hrecord'.trans ?_⟩
      rw [show ambient₁.host.2 = _ from hrecord, List.append_assoc]

end Searches

/-! ### Pulls -/

/-- The call of the `after` hook of the token before, if there is one whose hook has still to
run, with its result and the stream and the ambient that are left, course by course as in
`FinishRuns`. -/
inductive AfterCalls (lexer : Lexer σ τ) (stream : TokenStream τ) (ambient : Ambient σ) :
    List (HookCall τ) → Except LexError Unit × TokenStream τ × Ambient σ → Prop
  /-- No hook has still to run. -/
  | settled : stream.pending = none →
      AfterCalls lexer stream ambient [] (.ok (), stream, ambient)
  /-- The hook of the match that is pending is called. -/
  | due {p : Pending} {rule : Rule σ τ} {token : τ} {talk : List ((q : SwitchAsk) × q.Reply)}
      {calls : List (HookCall τ)} {result : Except LexError Unit} {stream₁ : TokenStream τ}
      {ambient₁ : Ambient σ} :
      stream.pending = some p → (lexer.rulesOf p.state)[p.rule]? = some rule →
      stream.lastToken = some token →
      talk = rule.afterTalk { p.context stream.input with position := stream.cursor, token }
        stream.stack ambient →
      HookCalled p (.after { p.context stream.input with position := stream.cursor, token })
        rule.after talk calls result →
      FinishRuns lexer stream ambient (result, stream₁, ambient₁) →
      AfterCalls lexer stream ambient calls (result, stream₁, ambient₁)

/-- A stream that keeps the token whose `after` hook has still to run. -/
def KeepsToken (stream : TokenStream τ) : Prop :=
  ∀ p, stream.pending = some p → ∃ token, stream.lastToken = some token

/-- The calls of a pull, with its answer and the stream and the ambient that it leaves, course by
course as in `PullRuns`. -/
inductive PullCalls (lexer : Lexer σ τ) (attempts : Nat) (stream : TokenStream τ)
    (ambient : Ambient σ) : List (HookCall τ) → Pull τ × TokenStream τ × Ambient σ → Prop
  /-- The run is finished. -/
  | finished : stream.finished = true →
      PullCalls lexer attempts stream ambient [] (.ended, stream, ambient)
  /-- The offset to start at is wrong. -/
  | refused {e : LexError} :
      stream.finished = false → stream.startError = some e →
      PullCalls lexer attempts stream ambient []
        (close (.failed e, { stream with startError := none }, ambient))
  /-- The `after` hook of the token before fails. -/
  | afterFailed {after : List (HookCall τ)} {e : LexError} {stream₁ : TokenStream τ}
      {ambient₁ : Ambient σ} :
      stream.finished = false → stream.startError = none →
      AfterCalls lexer stream ambient after (.error e, stream₁, ambient₁) →
      PullCalls lexer attempts stream ambient after (close (.failed e, stream₁, ambient₁))
  /-- The token before is finished, and a token is searched for. -/
  | searched {after calls : List (HookCall τ)} {stream₁ : TokenStream τ} {ambient₁ : Ambient σ}
      {out : Pull τ × TokenStream τ × Ambient σ} :
      stream.finished = false → stream.startError = none →
      AfterCalls lexer stream ambient after (.ok (), stream₁, ambient₁) →
      ScanCalls lexer attempts stream₁ ambient₁ calls out →
      PullCalls lexer attempts stream ambient (after ++ calls) (close out)

/-- The calls that a pull makes. -/
def calls (lexer : Lexer σ τ) (attempts : Nat) (stream : TokenStream τ) (ambient : Ambient σ) :
    List (HookCall τ) :=
  (lexer.recorded.pull attempts stream
    ⟨ambient.cache, (ambient.host, []), ambient.journal⟩).2.2.host.2

section Pulls

variable {lexer : Lexer σ τ} {stream : TokenStream τ}
  {ambient : Ambient (σ × List (HookCall τ))}

/-- **The calls for the token before.** -/
theorem FinishRuns.calls (h : Sound lexer stream) (hkept : KeepsToken stream)
    {out : Except LexError Unit × TokenStream τ × Ambient (σ × List (HookCall τ))}
    (hruns : FinishRuns lexer.recorded stream ambient out) :
    ∃ calls, AfterCalls lexer stream ambient.unrecorded calls
        (out.1, out.2.1, out.2.2.unrecorded) ∧
      out.2.2.host.2 = ambient.host.2 ++ calls := by
  have hcalled {p : Pending} {ended : Except LexError Unit × StateStack × Ambient _}
      (hpending : stream.pending = some p)
      (hafter : runAfter (lexer.recorded.rulesOf p.state)[p.rule]? p stream ambient = ended) :
      ∃ rule token talk calls, (lexer.rulesOf p.state)[p.rule]? = some rule ∧
        stream.lastToken = some token ∧
        talk = rule.afterTalk { p.context stream.input with position := stream.cursor, token }
          stream.stack ambient.unrecorded ∧
        HookCalled p (.after { p.context stream.input with position := stream.cursor, token })
          rule.after talk calls ended.1 ∧
        ended.2.2.host.2 = ambient.host.2 ++ calls := by
    obtain ⟨token, htoken⟩ := hkept p hpending
    have hrule := List.getElem?_eq_getElem (h.pending_fits p hpending).rule_lt
    rw [recorded_rulesOf, List.getElem?_mapIdx, hrule, Option.map_some] at hafter
    obtain ⟨talk, calls, htalk, hafter, hrecord⟩ := runAfter_called p htoken hafter
    exact ⟨_, token, talk, calls, hrule, htoken, htalk, hafter, hrecord⟩
  have hfinish := hruns.unrecorded
  cases hruns with
  | idle hpending => exact ⟨[], .settled hpending, (List.append_nil _).symm⟩
  | afterFailed hpending hafter =>
      obtain ⟨rule, token, talk, calls, hrule, htoken, htalk, hcalls, hrecord⟩ :=
        hcalled hpending hafter
      exact ⟨calls, .due hpending hrule htoken htalk hcalls hfinish, hrecord⟩
  | finished hpending hafter =>
      obtain ⟨rule, token, talk, calls, hrule, htoken, htalk, hcalls, hrecord⟩ :=
        hcalled hpending hafter
      exact ⟨calls, .due hpending hrule htoken htalk hcalls hfinish, hrecord⟩

/-- The calls of one pull, on the record of what was called before. -/
theorem PullRuns.calls (h : Rested lexer stream) (hkept : KeepsToken stream) {attempts : Nat}
    {out : Pull τ × TokenStream τ × Ambient (σ × List (HookCall τ))}
    (hruns : PullRuns lexer.recorded attempts stream ambient out) :
    ∃ calls, PullCalls lexer attempts stream ambient.unrecorded calls
        (out.1, out.2.1, out.2.2.unrecorded) ∧
      out.2.2.host.2 = ambient.host.2 ++ calls := by
  cases hruns with
  | closed hclosed => exact ⟨[], .finished hclosed, (List.append_nil _).symm⟩
  | misplaced hopen herror => exact ⟨[], .refused hopen herror, (List.append_nil _).symm⟩
  | unfinished hopen herror hfinish =>
      obtain ⟨after, hafter, hrecord⟩ := hfinish.calls h.toSound hkept
      exact ⟨after, .afterFailed hopen herror hafter, hrecord⟩
  | @searched stream₁ ambient₁ out hopen herror hfinish hscan =>
      obtain ⟨after, hafter, hrecord⟩ := hfinish.calls h.toSound hkept
      obtain ⟨-, -, -, -, hready⟩ := h.finishRuns hopen hfinish.unrecorded
      obtain ⟨calls, hcalls, hrecord'⟩ := hscan.calls (hready rfl)
      rw [← close_unrecorded, close_host]
      refine ⟨after ++ calls, .searched hopen herror hafter hcalls, hrecord'.trans ?_⟩
      rw [show ambient₁.host.2 = _ from hrecord, List.append_assoc]

/-- **The calls of one pull.** -/
theorem Rested.pull_calls (h : Rested lexer stream) (hkept : KeepsToken stream) (attempts : Nat)
    (ambient : Ambient σ) :
    PullCalls lexer attempts stream ambient (lexer.calls attempts stream ambient)
      (lexer.pull attempts stream ambient) := by
  obtain ⟨calls, hcalls, hrecord⟩ := (lexer.recorded.pull_runs attempts stream
    ⟨ambient.cache, (ambient.host, []), ambient.journal⟩).calls h hkept
  have hsame : lexer.pull attempts stream ambient = _ := lexer.recorded_pull stream
    ⟨ambient.cache, (ambient.host, []), ambient.journal⟩ attempts
  rw [hsame, Lexer.calls, hrecord]
  exact hcalls

end Pulls

end Lexer

end ModalLex
