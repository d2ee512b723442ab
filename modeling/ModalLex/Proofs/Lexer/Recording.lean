import ModalLex.Proofs.Lexer.Run

/-!
# Recording What Hooks See

A lexer can be changed so that its host also keeps a list of all calls of its predicates and hooks
(`Lexer.recorded`): the state and the number of the rule, the context that was passed, everything
that a hook asked with the replies that it got, and how it ended. What two engines show to hooks
is compared by comparing these lists.

**Recording changes nothing else**: a pull of the changed lexer answers what the lexer itself
answers, with the same stream, cache and journal and the same state of the host.

## Main results

* `Dialogue.run_recorded`: a recorded dialogue ends as the dialogue itself.
* `recorded_pull`: a recorded pull ends as the pull itself.
-/

namespace ModalLex

/-! ### Dialogues -/

namespace Dialogue

variable {Ask : Type} {Reply : Ask → Type} {α β γ : Type}

/-- Running two dialogues, one behind the other, is running both. -/
theorem run_bind (answer : (q : Ask) → γ → Reply q × γ) (d : Dialogue Ask Reply α)
    (f : α → Dialogue Ask Reply β) (s : γ) :
    (d.bind f).run answer s = (f (d.run answer s).1).run answer (d.run answer s).2 := by
  induction d generalizing s with
  | done result => rfl
  | ask q next ih => exact ih _ _

/-- A dialogue that ends with the list of its questions and replies, behind those of `talk`. -/
def recorded : Dialogue Ask Reply α → (talk : List ((q : Ask) × Reply q)) →
    Dialogue Ask Reply (List ((q : Ask) × Reply q) × α)
  | .done result, talk => .done (talk, result)
  | .ask q next, talk => .ask q fun reply => (next reply).recorded (talk ++ [⟨q, reply⟩])

/-- A recorded dialogue ends as the dialogue itself. -/
theorem run_recorded (answer : (q : Ask) → γ → Reply q × γ) (d : Dialogue Ask Reply α)
    (talk : List ((q : Ask) × Reply q)) (s : γ) :
    d.run answer s =
      (((d.recorded talk).run answer s).1.2, ((d.recorded talk).run answer s).2) := by
  induction d generalizing talk s with
  | done result => rfl
  | ask q next ih => exact ih _ _ _

/-- What is said in a dialogue: its questions, with the replies that they get. -/
def talk (answer : (q : Ask) → γ → Reply q × γ) (d : Dialogue Ask Reply α) (s : γ) :
    List ((q : Ask) × Reply q) :=
  ((d.recorded []).run answer s).1.1

end Dialogue

/-! ### Rules -/

/-- A call of a predicate or a hook: its context, and for a hook that asks questions also these
and how it ended. -/
inductive HookEvent (τ : Type) where
  | test (context : TestContext τ) (accepted : Bool)
  | before (context : BeforeContext) (talk : List ((q : BeforeAsk) × q.Reply))
      (result : Except LexError Unit)
  | fetch (context : FetchContext) (talk : List ((q : FetchAsk) × q.Reply))
      (result : Except LexError Unit)
  | value (context : ValueContext)
  | kind (matched : Text)
  | after (context : AfterContext τ) (talk : List ((q : SwitchAsk) × q.Reply))
      (result : Except LexError Unit)

/-- A call with the state and the number of its rule. -/
structure HookCall (τ : Type) where
  state : Nat
  rule : Nat
  event : HookEvent τ

variable {σ τ : Type}

/-- A hook that also records its call. -/
def recordedHook {Ask : Type} {Reply : Ask → Type} {κ : Type}
    (call : κ → List ((q : Ask) × Reply q) → Except LexError Unit → HookCall τ)
    (hook : κ → σ → Dialogue Ask Reply (HookEnd σ)) (context : κ)
    (host : σ × List (HookCall τ)) : Dialogue Ask Reply (HookEnd (σ × List (HookCall τ))) :=
  ((hook context host.1).recorded []).bind fun ended =>
    .done (ended.2.1, ended.2.2, host.2 ++ [call context ended.1 ended.2.1])

/-- A way to find kinds that also records its calls. -/
def Kind.recorded (call : Text → HookCall τ) : Kind σ → Kind (σ × List (HookCall τ))
  | .matched => .matched
  | .literal kind => .literal kind
  | .derived derive => .derived fun matched host =>
      ((derive matched host.1).1, (derive matched host.1).2, host.2 ++ [call matched])

/-- A rule that also records the calls of its predicate and hooks. -/
def Rule.recorded (rule : Rule σ τ) (state index : Nat) : Rule (σ × List (HookCall τ)) τ where
  pattern := rule.pattern
  kind := rule.kind.recorded fun matched => ⟨state, index, .kind matched⟩
  test := rule.test.map fun test context host =>
    ((test context host.1).1, (test context host.1).2,
      host.2 ++ [⟨state, index, .test context (test context host.1).1⟩])
  value := rule.value.map fun value context host =>
    ((value context host.1).1, (value context host.1).2,
      host.2 ++ [⟨state, index, .value context⟩])
  before := rule.before.map
    (recordedHook fun context talk result => ⟨state, index, .before context talk result⟩)
  fetch := rule.fetch.map
    (recordedHook fun context talk result => ⟨state, index, .fetch context talk result⟩)
  after := rule.after.map
    (recordedHook fun context talk result => ⟨state, index, .after context talk result⟩)

/-- The ambient without the record. -/
def Ambient.unrecorded {γ : Type} (ambient : Ambient (σ × γ)) : Ambient σ where
  cache := ambient.cache
  host := ambient.host.1
  journal := ambient.journal

/-- A recorded hook ends as the hook itself. -/
theorem run_recordedHook {Ask : Type} {Reply : Ask → Type} {κ γ : Type}
    (answer : (q : Ask) → γ → Reply q × γ)
    (call : κ → List ((q : Ask) × Reply q) → Except LexError Unit → HookCall τ)
    (hook : κ → σ → Dialogue Ask Reply (HookEnd σ)) (context : κ)
    (host : σ × List (HookCall τ)) (s : γ) :
    (hook context host.1).run answer s =
      ((((recordedHook call hook context host).run answer s).1.1,
        ((recordedHook call hook context host).run answer s).1.2.1),
        ((recordedHook call hook context host).run answer s).2) := by
  rw [(hook context host.1).run_recorded answer [] s, recordedHook, Dialogue.run_bind]
  rfl

/-! ### Resolving -/

namespace Query

/-- A query about rules that record. -/
def recorded (q : Query σ τ) : Query (σ × List (HookCall τ)) τ where
  compiler := q.compiler
  rules := q.rules.mapIdx fun index rule => rule.recorded q.state index
  state := q.state
  input := q.input
  offset := q.offset
  lastToken := q.lastToken

/-- The rules of a query that is recorded are recorded with their numbers. -/
theorem recorded_rules (q : Query σ τ) (index : Nat) :
    q.recorded.rules[index]? = q.rules[index]?.map (·.recorded q.state index) := by
  simp [recorded]

/-- A recorded predicate accepts what the predicate itself accepts. -/
theorem recorded_accepts {q : Query σ τ} {rule : Rule σ τ} {index : Nat} {found : Found}
    {host : σ × List (HookCall τ)} {out : Bool × σ × List (HookCall τ)}
    (h : q.recorded.accepts (rule.recorded q.state index) found host = out) :
    q.accepts rule found host.1 = (out.1, out.2.1) := by
  subst h
  rw [accepts, Rule.recorded]
  cases rule.test <;> rfl

/-- The answer of a query, as its recorded query gives it. -/
def recordedAnswer (q : Query σ τ) (answer : Except ConfigError (Option (Found × Rule σ τ))) :
    Except ConfigError (Option (Found × Rule (σ × List (HookCall τ)) τ)) :=
  mapRules (fun found rule => rule.recorded q.state found.rule) answer

/-- A recorded query resolves what the query itself resolves. -/
theorem Runs.unrecorded {q : Query σ τ} {attempts first : Nat}
    {ambient : Ambient (σ × List (HookCall τ))}
    {out : Except ConfigError (Option (Found × Rule (σ × List (HookCall τ)) τ)) ×
      Ambient (σ × List (HookCall τ))}
    (h : q.recorded.Runs attempts first ambient out) :
    ∃ answer, out.1 = q.recordedAnswer answer ∧
      q.Runs attempts first ambient.unrecorded (answer, out.2.unrecorded) := by
  have halternation {first : Nat} {a b : Ambient (σ × List (HookCall τ))}
      {result : Except ConfigError (Option Alternation)}
      (h : q.recorded.alternation first a = (result, b)) :
      q.alternation first a.unrecorded = (result, b.unrecorded) :=
    congrArg (fun x => (x.1, x.2.unrecorded)) h
  induction h with
  | spent => exact ⟨.ok none, rfl, .spent⟩
  | @unbuilt _ _ _ _ e hq => exact ⟨.error e, rfl, .unbuilt (halternation hq)⟩
  | exhausted hq => exact ⟨.ok none, rfl, .exhausted (halternation hq)⟩
  | unmatched hq hmatch => exact ⟨.ok none, rfl, .unmatched (halternation hq) hmatch⟩
  | unowned hq hmatch hrule =>
      rw [recorded_rules, Option.map_eq_none_iff] at hrule
      exact ⟨.ok none, rfl, .unowned (halternation hq) hmatch hrule⟩
  | @accepted _ _ _ _ _ found _ _ hq hmatch hrule haccepts =>
      rw [recorded_rules] at hrule
      obtain ⟨rule, hrule', rfl⟩ := Option.map_eq_some_iff.mp hrule
      exact ⟨.ok (some (found, rule)), rfl,
        .accepted (halternation hq) hmatch hrule' (recorded_accepts haccepts)⟩
  | rejected hq hmatch hrule haccepts _ ih =>
      rw [recorded_rules] at hrule
      obtain ⟨rule, hrule', rfl⟩ := Option.map_eq_some_iff.mp hrule
      obtain ⟨answer, hanswer, hlater⟩ := ih
      exact ⟨answer, hanswer,
        .rejected (halternation hq) hmatch hrule' (recorded_accepts haccepts) hlater⟩

/-- **Recording calls does not change what is resolved.** -/
theorem recorded_resolve {q : Query σ τ} {ambient ambient' : Ambient (σ × List (HookCall τ))}
    {answer : Except ConfigError (Option (Found × Rule (σ × List (HookCall τ)) τ))}
    (h : q.recorded.resolve ambient = (answer, ambient')) :
    ∃ answer', answer = q.recordedAnswer answer' ∧
      q.resolve ambient.unrecorded = (answer', ambient'.unrecorded) := by
  have hlength : q.recorded.rules.length = q.rules.length := by simp [recorded]
  rw [resolve, hlength] at h
  obtain ⟨answer', hanswer, hruns⟩ := (runs_iff.mpr h).unrecorded
  exact ⟨answer', hanswer, hruns.eq⟩

end Query

/-! ### Lexers -/

namespace Lexer

/-- A lexer whose host also keeps the calls of all predicates and hooks. -/
def recorded (lexer : Lexer σ τ) : Lexer (σ × List (HookCall τ)) τ where
  config := lexer.config
  compiler := lexer.compiler
  rules := lexer.rules.mapIdx fun state rules =>
    rules.mapIdx fun index rule => rule.recorded state index
  factory := lexer.factory

/-- The rules of a state are recorded with their numbers. -/
theorem recorded_rulesOf (lexer : Lexer σ τ) (state : Nat) :
    lexer.recorded.rulesOf state =
      (lexer.rulesOf state).mapIdx fun index rule => rule.recorded state index := by
  simp only [rulesOf, recorded, List.getD_eq_getElem?_getD, List.getElem?_mapIdx]
  cases lexer.rules[state]? <;> rfl

/-- The search of an attempt is recorded as a whole. -/
theorem recorded_query (lexer : Lexer σ τ) (stream : TokenStream τ) :
    lexer.recorded.query stream = (lexer.query stream).recorded := by
  simp only [query, recorded_rulesOf, Query.recorded]
  rfl

section Hooks

variable {rule : Rule σ τ} {state index : Nat} {ambient : Ambient (σ × List (HookCall τ))}

/-- A hook before a match that is recorded runs as it does unrecorded. -/
theorem recorded_runBefore {context : BeforeContext} {stack : StateStack}
    {out : Except LexError Bool × StateStack × Ambient (σ × List (HookCall τ))}
    (h : runBefore (rule.recorded state index) context stack ambient = out) :
    runBefore rule context stack ambient.unrecorded = (out.1, out.2.1, out.2.2.unrecorded) := by
  subst h
  unfold runBefore Rule.recorded
  cases rule.before with
  | none => rfl
  | some hook =>
      have hrun := run_recordedHook answerBefore
        (fun context talk result => ⟨state, index, .before context talk result⟩) hook context
        ambient.host ⟨stack, ambient.journal, false⟩
      simp only [Option.map_some, Ambient.unrecorded, hrun]

/-- So does a hook that extends a token. -/
theorem recorded_runFetch {context : FetchContext} {cursor : Nat}
    {out : Except LexError Nat × Ambient (σ × List (HookCall τ))}
    (h : runFetch (rule.recorded state index) context cursor ambient = out) :
    runFetch rule context cursor ambient.unrecorded = (out.1, out.2.unrecorded) := by
  subst h
  unfold runFetch Rule.recorded
  cases rule.fetch with
  | none => rfl
  | some hook =>
      have hrun := run_recordedHook answerFetch
        (fun context talk result => ⟨state, index, .fetch context talk result⟩) hook context
        ambient.host ⟨context.input, cursor, cursor⟩
      simp only [Option.map_some, Ambient.unrecorded, hrun]

/-- So does a hook that gives a value. -/
theorem recorded_valueOf {context : ValueContext} {host : σ × List (HookCall τ)}
    {out : Value × σ × List (HookCall τ)}
    (h : valueOf (rule.recorded state index) context host = out) :
    valueOf rule context host.1 = (out.1, out.2.1) := by
  subst h
  rw [valueOf, Rule.recorded]
  cases rule.value <;> rfl

/-- So does a hook that gives a kind. -/
theorem recorded_kindOf {matched : Text} {host : σ × List (HookCall τ)}
    {out : Text × σ × List (HookCall τ)}
    (h : kindOf (rule.recorded state index) matched host = out) :
    kindOf rule matched host.1 = (out.1, out.2.1) := by
  subst h
  unfold kindOf Rule.recorded Kind.recorded
  cases rule.kind <;> rfl

/-- So does a hook after a token. -/
theorem recorded_runAfter {rule : Option (Rule σ τ)} {pending : Pending}
    {stream : TokenStream τ}
    {out : Except LexError Unit × StateStack × Ambient (σ × List (HookCall τ))}
    (h : runAfter (rule.map (·.recorded state index)) pending stream ambient = out) :
    runAfter rule pending stream ambient.unrecorded = (out.1, out.2.1, out.2.2.unrecorded) := by
  subst h
  have hafter : (rule.map (·.recorded state index)).bind (·.after) =
      (rule.bind (·.after)).map
        (recordedHook fun context talk result => ⟨state, index, .after context talk result⟩) := by
    cases rule <;> rfl
  unfold runAfter
  rw [hafter]
  cases rule.bind (·.after) with
  | none => rfl
  | some hook =>
      cases stream.lastToken with
      | none => rfl
      | some token =>
          dsimp only [Option.map_some]
          simp only [Ambient.unrecorded, run_recordedHook answerSwitch
            (fun context talk result => ⟨state, index, .after context talk result⟩) hook _
            ambient.host ⟨stream.stack, ambient.journal, false⟩]

end Hooks

variable {lexer : Lexer σ τ} {stream : TokenStream τ} {ambient : Ambient (σ × List (HookCall τ))}

/-- The token before is finished as without a record. -/
theorem FinishRuns.unrecorded
    {out : Except LexError Unit × TokenStream τ × Ambient (σ × List (HookCall τ))}
    (h : FinishRuns lexer.recorded stream ambient out) :
    FinishRuns lexer stream ambient.unrecorded (out.1, out.2.1, out.2.2.unrecorded) := by
  have hrule (p : Pending) : (lexer.recorded.rulesOf p.state)[p.rule]? =
      (lexer.rulesOf p.state)[p.rule]?.map (·.recorded p.state p.rule) := by
    rw [recorded_rulesOf, List.getElem?_mapIdx]
  cases h with
  | idle hpending => exact .idle hpending
  | afterFailed hpending hafter =>
      rw [hrule] at hafter
      exact .afterFailed hpending (recorded_runAfter hafter)
  | finished hpending hafter =>
      rw [hrule] at hafter
      exact .finished hpending (recorded_runAfter hafter)

/-- A recorded attempt ends as the attempt itself. -/
theorem AttemptRuns.unrecorded
    {out : Attempt τ × TokenStream τ × Ambient (σ × List (HookCall τ))}
    (h : AttemptRuns lexer.recorded stream ambient out) :
    AttemptRuns lexer stream ambient.unrecorded (out.1, out.2.1, out.2.2.unrecorded) := by
  have hresolve {answer : Except ConfigError (Option (Found × Rule (σ × List (HookCall τ)) τ))}
      {ambient' : Ambient (σ × List (HookCall τ))}
      (hq : (lexer.recorded.query stream).resolve ambient = (answer, ambient')) :=
    Query.recorded_resolve (lexer.recorded_query stream ▸ hq)
  cases h with
  | unbuilt hq =>
      obtain ⟨answer, hanswer, hq'⟩ := hresolve hq
      obtain rfl := Query.eq_error_of_mapRules hanswer
      exact .unbuilt hq'
  | unmatched hq =>
      obtain ⟨answer, hanswer, hq'⟩ := hresolve hq
      obtain rfl := Query.eq_none_of_mapRules hanswer
      exact .unmatched hq'
  | beforeFailed hq hbefore =>
      obtain ⟨answer, hanswer, hq'⟩ := hresolve hq
      obtain ⟨rule, rfl, rfl⟩ := Query.eq_some_of_mapRules hanswer
      exact .beforeFailed hq' (recorded_runBefore hbefore)
  | aborted hq hbefore =>
      obtain ⟨answer, hanswer, hq'⟩ := hresolve hq
      obtain ⟨rule, rfl, rfl⟩ := Query.eq_some_of_mapRules hanswer
      exact .aborted hq' (recorded_runBefore hbefore)
  | fetchFailed hq hbefore hfetch =>
      obtain ⟨answer, hanswer, hq'⟩ := hresolve hq
      obtain ⟨rule, rfl, rfl⟩ := Query.eq_some_of_mapRules hanswer
      exact .fetchFailed hq' (recorded_runBefore hbefore) (recorded_runFetch hfetch)
  | token hq hbefore hfetch hvalue hkind =>
      obtain ⟨answer, hanswer, hq'⟩ := hresolve hq
      obtain ⟨rule, rfl, rfl⟩ := Query.eq_some_of_mapRules hanswer
      exact .token hq' (recorded_runBefore hbefore) (recorded_runFetch hfetch)
        (recorded_valueOf hvalue) (recorded_kindOf hkind)

/-- A recorded search ends as the search itself. -/
theorem ScanRuns.unrecorded {attempts : Nat}
    {out : Pull τ × TokenStream τ × Ambient (σ × List (HookCall τ))}
    (h : ScanRuns lexer.recorded attempts stream ambient out) :
    ScanRuns lexer attempts stream ambient.unrecorded (out.1, out.2.1, out.2.2.unrecorded) := by
  induction h with
  | stalled => exact .stalled
  | ended hends => exact .ended hends
  | token hgoes hattempt => exact .token hgoes hattempt.unrecorded
  | failed hgoes hattempt => exact .failed hgoes hattempt.unrecorded
  | again hgoes hattempt _ ih => exact .again hgoes hattempt.unrecorded ih

/-- Closing a run records nothing. -/
theorem close_unrecorded (out : Pull τ × TokenStream τ × Ambient (σ × List (HookCall τ))) :
    close (out.1, out.2.1, out.2.2.unrecorded) =
      ((close out).1, (close out).2.1, (close out).2.2.unrecorded) := by
  obtain ⟨answer, stream, ambient⟩ := out
  cases answer <;> rfl

/-- A recorded pull ends as the pull itself. -/
theorem PullRuns.unrecorded {attempts : Nat}
    {out : Pull τ × TokenStream τ × Ambient (σ × List (HookCall τ))}
    (h : PullRuns lexer.recorded attempts stream ambient out) :
    PullRuns lexer attempts stream ambient.unrecorded (out.1, out.2.1, out.2.2.unrecorded) := by
  cases h with
  | closed hclosed => exact .closed hclosed
  | misplaced hopen herror => exact .misplaced hopen herror
  | unfinished hopen herror hfinish => exact .unfinished hopen herror hfinish.unrecorded
  | searched hopen herror hfinish hscan =>
      rw [← close_unrecorded]
      exact .searched hopen herror hfinish.unrecorded hscan.unrecorded

/-- **Recording changes nothing else.** -/
theorem recorded_pull (lexer : Lexer σ τ) (stream : TokenStream τ)
    (ambient : Ambient (σ × List (HookCall τ))) (attempts : Nat) :
    lexer.pull attempts stream ambient.unrecorded =
      ((lexer.recorded.pull attempts stream ambient).1,
        (lexer.recorded.pull attempts stream ambient).2.1,
        (lexer.recorded.pull attempts stream ambient).2.2.unrecorded) :=
  (lexer.recorded.pull_runs attempts stream ambient).unrecorded.eq

end Lexer

end ModalLex
