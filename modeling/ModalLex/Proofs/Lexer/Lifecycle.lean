import ModalLex.Proofs.Lexer.Bare
import ModalLex.Proofs.Lexer.Coverage
import ModalLex.Proofs.Lexer.Determinacy

/-!
# The Lifecycle of Hooks

The hooks of a match are called in the order `before`, `fetch`, `value`, and its `after` hook is
called last, when the token has been handed out and the next one is asked for. So a match has its
calls in two pulls, with whatever the consumer does in between, and the second pull finds the match
only because the stream has kept it. This module says what that comes to over whole runs, in terms
of the answers and calls of the pulls alone.

`Lifecycle` puts the calls of one pull behind those of another, each beside its course, from the
stream and the ambient that the pull before has left; so nothing but the run itself is a lifecycle
(`Lifecycle.unique`). Beside it stands what each pull does with what the pulls before it have left
(`InOrder`): it begins with the `after` hook of the token that the pull right before it has emitted,
called for the match that this token was made from and that the stream has kept since, and then
searches on with that token as the token before.

## Main results

* `PullCalls.inOrder`: one pull is in order.
* `Follows.history`: so are all pulls of a run.
* `Lifecycle.unique`: a run has one lifecycle only.
* `hooks_follow_lifecycle`: **the lifecycle of hooks over whole runs**.
-/

namespace ModalLex

variable {σ τ : Type}

/-! ### Calls of a search -/

/-- Whether a call belongs into a search that has `last` for its token before: predicates are shown
that token, and no `after` hook is called. -/
def HookEvent.InSearch (last : Option τ) : HookEvent τ → Prop
  | .test context _ => context.lastToken = last
  | .after _ _ _ => False
  | _ => True

/-- Calls that all belong into a search. -/
def SearchCalls (last : Option τ) (calls : List (HookCall τ)) : Prop :=
  ∀ call ∈ calls, call.event.InSearch last

variable {last : Option τ}

@[simp] theorem searchCalls_nil : SearchCalls last [] := by
  simp [SearchCalls]

@[simp] theorem searchCalls_append {calls calls' : List (HookCall τ)} :
    SearchCalls last (calls ++ calls') ↔ SearchCalls last calls ∧ SearchCalls last calls' :=
  List.forall_mem_append

theorem HookCalled.searchCalls {Ask : Type} {Reply : Ask → Type} {η : Type} {p : Pending}
    {event : List ((q : Ask) × Reply q) → Except LexError Unit → HookEvent τ} {hook : Option η}
    {talk : List ((q : Ask) × Reply q)} {calls : List (HookCall τ)}
    {result : Except LexError Unit} (h : HookCalled p event hook talk calls result)
    (hevent : (event talk result).InSearch last) : SearchCalls last calls := by
  intro call hcall
  rw [h.event_eq hcall]
  exact hevent

theorem Rule.searchCalls_valueCalls (rule : Rule σ τ) (p : Pending) (context : ValueContext) :
    SearchCalls last (rule.valueCalls p context) := by
  rw [valueCalls]
  split
  · simp [SearchCalls, Pending.call, HookEvent.InSearch]
  · exact searchCalls_nil

theorem Rule.searchCalls_kindCalls (rule : Rule σ τ) (p : Pending) (matched : Text) :
    SearchCalls last (rule.kindCalls p matched) := by
  rw [kindCalls]
  split
  · simp [SearchCalls, Pending.call, HookEvent.InSearch]
  · exact searchCalls_nil

/-- Predicates are shown the token before. -/
theorem Query.Resolved.searchCalls {q : Query σ τ} {ambient : Ambient σ} {calls : List (HookCall τ)}
    {out : Except ConfigError (Option (Found × Rule σ τ)) × Ambient σ}
    (h : q.Resolved ambient calls out) : SearchCalls q.lastToken calls := by
  intro call hcall
  obtain ⟨found, accepted, hevent⟩ := h.event_eq hcall
  rw [hevent]
  rfl

namespace Lexer

variable {lexer : Lexer σ τ} {input : Text} {stream stream' : TokenStream τ}
  {ambient ambient' : Ambient σ} {calls : List (HookCall τ)}

/-- Up to the end of its `before` hook, the calls of a match belong into the search. -/
theorem BeforeCalls.searchCalls {found : Found} {rule : Rule σ τ}
    {out : Except LexError Bool × StateStack × Ambient σ}
    (h : BeforeCalls lexer stream ambient found rule calls out) :
    SearchCalls stream.lastToken calls := by
  cases h with
  | intro hresolved _ hbefore =>
      exact searchCalls_append.mpr
        ⟨hresolved.searchCalls, hbefore.searchCalls trivial⟩

/-- All calls of an attempt belong into the search. -/
theorem AttemptCalls.searchCalls {out : Attempt τ × TokenStream τ × Ambient σ}
    (h : AttemptCalls lexer stream ambient calls out) : SearchCalls stream.lastToken calls := by
  cases h with
  | unbuilt hresolved => exact hresolved.searchCalls
  | unmatched hresolved => exact hresolved.searchCalls
  | beforeFailed hbefore => exact hbefore.searchCalls
  | aborted hbefore => exact hbefore.searchCalls
  | fetchFailed hbefore _ hfetch =>
      exact searchCalls_append.mpr
        ⟨hbefore.searchCalls, hfetch.searchCalls trivial⟩
  | token hbefore _ hfetch =>
      simp only [searchCalls_append]
      exact ⟨hbefore.searchCalls, ⟨hfetch.searchCalls trivial,
        Rule.searchCalls_valueCalls _ _ _⟩, Rule.searchCalls_kindCalls _ _ _⟩

/-- An aborted attempt leaves the stream where it was, but for its stack. -/
theorem AttemptCalls.eq_of_aborted
    (h : AttemptCalls lexer stream ambient calls (.aborted, stream', ambient')) :
    ∃ stack, stream' = { stream with stack } := by
  cases h with
  | aborted => exact ⟨_, rfl⟩

/-- All calls of a search belong into it: aborts do not change the token before. -/
theorem ScanCalls.searchCalls {attempts : Nat} {out : Pull τ × TokenStream τ × Ambient σ}
    (h : ScanCalls lexer attempts stream ambient calls out) :
    SearchCalls stream.lastToken calls := by
  induction h with
  | stalled => exact searchCalls_nil
  | ended => exact searchCalls_nil
  | token _ h => exact h.searchCalls
  | failed _ h => exact h.searchCalls
  | again _ h _ ih =>
      have hsearch := h.searchCalls
      obtain ⟨stack, rfl⟩ := h.eq_of_aborted
      exact searchCalls_append.mpr ⟨hsearch, ih⟩

/-! ### Emitted tokens -/

/-- The calls of the hooks of a match that a token is made from, in their order, with the token: its
kind and its value are those that the rule of the match gives it. -/
inductive MatchCalls (lexer : Lexer σ τ) (input : Text) (p : Pending) (rule : Rule σ τ)
    (stop : Nat) : List (HookCall τ) → τ → Prop
  | intro {before fetch : List (HookCall τ)} {talk : List ((q : BeforeAsk) × q.Reply)}
      {fetchTalk : List ((q : FetchAsk) × q.Reply)} {state : String} {value : Value} {kind : Text}
      {host valued kinded : σ} :
      HookCalled p (.before { p.context input with position := p.start }) rule.before talk before
        (.ok ()) →
      asksAbort talk = false →
      HookCalled p (.fetch { p.context input with state }) rule.fetch fetchTalk fetch (.ok ()) →
      valueOf rule { p.context input with state, position := stop } host = (value, valued) →
      kindOf rule (p.context input).matched valued = (kind, kinded) →
      MatchCalls lexer input p rule stop
        (before ++ (fetch ++ rule.valueCalls p { p.context input with state, position := stop } ++
          rule.kindCalls p (p.context input).matched))
        (lexer.factory { kind, value, start := p.start, stop } input)

/-- A token that was emitted by a pull with some calls, which has left the stream `left`. It was
made from the match `p` of a rule. -/
structure Emitted (lexer : Lexer σ τ) (input : Text) (calls : List (HookCall τ))
    (left : TokenStream τ) (token : τ) (p : Pending) (rule : Rule σ τ) : Prop where
  /-- The match is the one that the resolver has found and the rule has accepted, for the stream
  that the last attempt was made from. -/
  resolved : ∃ (tried : TokenStream τ) (found : Found) (ambient ambient' : Ambient σ),
    (lexer.query tried).resolve ambient = (.ok (some (found, rule)), ambient') ∧
      p = tried.due found
  rule_eq : (lexer.rulesOf p.state)[p.rule]? = some rule
  /-- Its hooks were called last, and the token is what they have made of it. -/
  made : ∃ others own, calls = others ++ own ∧
    MatchCalls lexer input p rule left.cursor own token
  /-- The stream keeps the match and the token. -/
  pending_eq : left.pending = some p
  lastToken_eq : left.lastToken = some token

/-- The same token behind earlier calls. -/
theorem Emitted.append {token : τ} {p : Pending} {rule : Rule σ τ}
    (h : Emitted lexer input calls stream token p rule) (earlier : List (HookCall τ)) :
    Emitted lexer input (earlier ++ calls) stream token p rule := by
  obtain ⟨others, own, rfl, hown⟩ := h.made
  exact ⟨h.resolved, h.rule_eq, ⟨earlier ++ others, own, (List.append_assoc _ _ _).symm, hown⟩,
    h.pending_eq, h.lastToken_eq⟩

/-- An attempt that makes a token emits it. -/
theorem AttemptCalls.emitted {token : τ}
    (h : AttemptCalls lexer stream ambient calls (.token token, stream', ambient')) :
    ∃ p rule, Emitted lexer stream.input calls stream' token p rule := by
  cases h with
  | @token before fetch found rule talk stack stop kind value _ _ _ _ hbefore _ hfetch _ _ _ hvalue
      hkind =>
      obtain ⟨tests, own, beforeTalk, result, ambient₁, hresolved, hcalled, rfl, hpassed⟩ :=
        hbefore.cases
      obtain ⟨hrule, -⟩ := hresolved.calls_of_accepted rfl
      cases result with
      | error e => exact absurd hpassed (by simp [Except.map])
      | ok =>
          have hgoes : asksAbort beforeTalk = false := (Except.ok.inj hpassed).symm
          exact ⟨stream.due found, rule, ⟨_, _, _, _, hresolved.eq, rfl⟩, hrule,
            ⟨tests, _, List.append_assoc _ _ _, .intro hcalled hgoes hfetch hvalue hkind⟩, rfl, rfl⟩

/-- So does a search that finds a token. -/
theorem ScanCalls.emitted {attempts : Nat} {out : Pull τ × TokenStream τ × Ambient σ} {token : τ}
    (h : ScanCalls lexer attempts stream ambient calls out) (htoken : out.1 = .token token) :
    ∃ p rule, Emitted lexer stream.input calls out.2.1 token p rule := by
  induction h with
  | stalled => exact absurd htoken (by simp)
  | ended => exact absurd htoken (by simp)
  | token _ h =>
      obtain rfl := Pull.token.inj htoken
      exact h.emitted
  | failed => exact absurd htoken (by simp)
  | again _ h _ ih =>
      obtain ⟨p, rule, hemitted⟩ := ih htoken
      obtain ⟨stack, rfl⟩ := h.eq_of_aborted
      exact ⟨p, rule, hemitted.append _⟩

/-- Only an attempt that makes a token changes the token before and the match that is pending. -/
theorem AttemptCalls.frame {out : Attempt τ × TokenStream τ × Ambient σ}
    (h : AttemptCalls lexer stream ambient calls out) :
    out.2.1.input = stream.input ∧ out.2.1.startError = stream.startError ∧
      out.2.1.finished = stream.finished ∧
      ((∀ token, out.1 ≠ .token token) →
        out.2.1.lastToken = stream.lastToken ∧ out.2.1.pending = stream.pending) := by
  cases h <;> simp

/-- Only a search that finds a token changes the token before and the match that is pending. -/
theorem ScanCalls.frame {attempts : Nat} {out : Pull τ × TokenStream τ × Ambient σ}
    (h : ScanCalls lexer attempts stream ambient calls out) :
    out.2.1.input = stream.input ∧ out.2.1.startError = stream.startError ∧
      out.2.1.finished = stream.finished ∧
      ((∀ token, out.1 ≠ .token token) →
        out.2.1.lastToken = stream.lastToken ∧ out.2.1.pending = stream.pending) := by
  induction h with
  | stalled => exact ⟨rfl, rfl, rfl, fun _ => ⟨rfl, rfl⟩⟩
  | ended => exact ⟨rfl, rfl, rfl, fun _ => ⟨rfl, rfl⟩⟩
  | token _ h =>
      obtain ⟨hinput, herror, hopen, -⟩ := h.frame
      exact ⟨hinput, herror, hopen, fun hnone => absurd rfl (hnone _)⟩
  | failed _ h =>
      obtain ⟨hinput, herror, hopen, hkept⟩ := h.frame
      exact ⟨hinput, herror, hopen, fun _ => hkept (by simp)⟩
  | again _ h _ ih =>
      obtain ⟨stack, rfl⟩ := h.eq_of_aborted
      exact ih

/-- Finishing the token before settles what was pending, and changes nothing else but the stack. -/
theorem AfterCalls.eq_settled {out : Except LexError Unit × TokenStream τ × Ambient σ}
    (h : AfterCalls lexer stream ambient calls out) :
    ∃ stack, out.2.1 = { stream with pending := none, stack } := by
  cases h with
  | settled hpending => exact ⟨stream.stack, by rw [← hpending]⟩
  | due _ _ _ _ _ hfinish =>
      cases hfinish with
      | idle hpending => exact ⟨stream.stack, by rw [← hpending]⟩
      | afterFailed => exact ⟨_, rfl⟩
      | finished => exact ⟨_, rfl⟩

/-- A run begins without a token. -/
theorem keepsToken_start (lexer : Lexer σ τ) (input : Text) (start : Nat) :
    KeepsToken (lexer.tokenizeFrom input start).1 :=
  fun _ hpending => absurd hpending (by simp [tokenizeFrom])

/-- The end of a search, as that of a pull, leaves the same stream, but for whether the run is
finished. -/
theorem close_left (out : Pull τ × TokenStream τ × Ambient σ) :
    (close out).2.1 = { out.2.1 with finished := out.1.closes || out.2.1.finished } := by
  obtain ⟨answer, stream, ambient⟩ := out
  cases answer <;> rfl

/-- A pull leaves a stream that keeps the token whose `after` hook has still to run. -/
theorem PullCalls.keepsToken {attempts : Nat} {out : Pull τ × TokenStream τ × Ambient σ}
    (h : PullCalls lexer attempts stream ambient calls out) (hkept : KeepsToken stream) :
    KeepsToken out.2.1 := by
  cases h with
  | finished => exact hkept
  | refused => exact hkept
  | afterFailed _ _ hafter =>
      obtain ⟨stack, hstream⟩ := hafter.eq_settled
      rw [close_left, hstream]
      exact fun _ hpending => absurd hpending (by simp)
  | @searched _ _ stream₁ _ out _ _ hafter hscan =>
      obtain ⟨stack, hstream⟩ := hafter.eq_settled
      obtain rfl : stream₁ = _ := hstream
      rw [close_left]
      intro p hpending
      by_cases htoken : ∃ token, out.1 = .token token
      · obtain ⟨token, htoken⟩ := htoken
        obtain ⟨_, _, hemitted⟩ := hscan.emitted htoken
        exact ⟨token, hemitted.lastToken_eq⟩
      · obtain ⟨-, hnone⟩ := hscan.frame.2.2.2 fun token h => htoken ⟨token, h⟩
        exact absurd (hpending.symm.trans hnone) (by simp)

/-! ### One pull -/

/-- A pull as it is observed: its answer, the calls that it made, and the stream that it left. -/
structure Observed (τ : Type) where
  answer : Pull τ
  calls : List (HookCall τ)
  left : TokenStream τ

/-- The token that was emitted last. -/
def lastEmitted (earlier : List (Observed τ)) : Option τ :=
  (earlier.filterMap (·.answer.token?)).getLast?

/-- The calls that a pull begins with. -/
structure BeginsWith (lexer : Lexer σ τ) (input : Text) (earlier : List (Observed τ))
    (after : List (HookCall τ)) : Prop where
  /-- When the pull right before has emitted a token, the `after` hook is called, for the match
  that the token was made from and that was left pending; it is shown the token and its end. -/
  called : ∀ previous ∈ earlier.getLast?, ∀ token, previous.answer = .token token →
    ∃ p rule talk result, Emitted lexer input previous.calls previous.left token p rule ∧
      HookCalled p (.after { p.context input with position := previous.left.cursor, token })
        rule.after talk after result
  /-- Else there is no such call. -/
  settled : (∀ previous ∈ earlier.getLast?, ∀ token, previous.answer ≠ .token token) → after = []

/-- A pull is in order, given the pulls before it: it begins with the `after` hook of the token
before, if any, and all its other calls belong into a search that has this token for its token
before. -/
def InOrder (lexer : Lexer σ τ) (input : Text) (earlier : List (Observed τ))
    (pull : Observed τ) : Prop :=
  ∃ after rest, pull.calls = after ++ rest ∧ BeginsWith lexer input earlier after ∧
    SearchCalls (lastEmitted earlier) rest

/-- What a stream keeps of the pulls that have led to it. -/
structure Follows (lexer : Lexer σ τ) (input : Text) (earlier : List (Observed τ))
    (stream : TokenStream τ) : Prop where
  input_eq : stream.input = input
  lastToken_eq : stream.lastToken = lastEmitted earlier
  left_eq : ∀ previous ∈ earlier.getLast?, previous.left = stream
  /-- After a token, its match is pending and the run goes on. -/
  emitted : ∀ previous ∈ earlier.getLast?, ∀ token, previous.answer = .token token →
    stream.finished = false ∧ stream.startError = none ∧
      ∃ p rule, Emitted lexer input previous.calls stream token p rule
  /-- After anything else, nothing is pending. -/
  settled : (∀ previous ∈ earlier.getLast?, ∀ token, previous.answer ≠ .token token) →
    stream.pending = none

variable {earlier : List (Observed τ)}

/-- A run that is finished or was refused has nothing pending. -/
theorem Follows.pending_eq_none (h : Follows lexer input earlier stream)
    (hclosed : stream.finished = true ∨ stream.startError ≠ none) : stream.pending = none := by
  refine h.settled fun previous hprevious token htoken => ?_
  obtain ⟨hopen, herror, -⟩ := h.emitted previous hprevious token htoken
  rcases hclosed with hfinished | hrefused
  · exact absurd (hopen.symm.trans hfinished) (by simp)
  · exact hrefused herror

/-- Where nothing is pending, no `after` hook is called. -/
theorem AfterCalls.eq_nil {out : Except LexError Unit × TokenStream τ × Ambient σ}
    (h : AfterCalls lexer stream ambient calls out) (hpending : stream.pending = none) :
    calls = [] := by
  cases h with
  | settled => rfl
  | due hdue => exact absurd (hdue.symm.trans hpending) (by simp)

/-- The `after` hook is called for what the pull before has left pending. -/
theorem AfterCalls.beginsWith {out : Except LexError Unit × TokenStream τ × Ambient σ}
    (h : AfterCalls lexer stream ambient calls out) (hf : Follows lexer input earlier stream) :
    BeginsWith lexer input earlier calls := by
  refine ⟨?_, fun hnone => h.eq_nil (hf.settled hnone)⟩
  intro previous hprevious token htoken
  obtain ⟨-, -, p, rule, hemitted⟩ := hf.emitted previous hprevious token htoken
  obtain rfl := hf.left_eq previous hprevious
  obtain rfl := hf.input_eq
  cases h with
  | settled hnone => exact absurd (hemitted.pending_eq.symm.trans hnone) (by simp)
  | due hpending hrule hlast _ hcalled _ =>
      obtain rfl := Option.some.inj (hemitted.pending_eq.symm.trans hpending)
      obtain rfl := Option.some.inj (hemitted.rule_eq.symm.trans hrule)
      obtain rfl := Option.some.inj (hemitted.lastToken_eq.symm.trans hlast)
      exact ⟨p, rule, _, _, hemitted, hcalled⟩

variable {attempts : Nat} {out : Pull τ × TokenStream τ × Ambient σ}

/-- **One pull is in order.** -/
theorem PullCalls.inOrder (h : PullCalls lexer attempts stream ambient calls out)
    (hf : Follows lexer input earlier stream) :
    InOrder lexer input earlier ⟨out.1, calls, out.2.1⟩ := by
  have hsilent (hclosed : stream.finished = true ∨ stream.startError ≠ none) :
      BeginsWith lexer input earlier [] := by
    refine ⟨?_, fun _ => rfl⟩
    intro previous hprevious token htoken
    obtain ⟨-, -, p, rule, hemitted⟩ := hf.emitted previous hprevious token htoken
    exact absurd (hemitted.pending_eq.symm.trans (hf.pending_eq_none hclosed)) (by simp)
  cases h with
  | finished hfinished => exact ⟨[], [], rfl, hsilent (.inl hfinished), searchCalls_nil⟩
  | refused _ herror => exact ⟨[], [], rfl, hsilent (.inr (by simp [herror])), searchCalls_nil⟩
  | afterFailed _ _ hafter =>
      exact ⟨calls, [], (List.append_nil _).symm, hafter.beginsWith hf, searchCalls_nil⟩
  | @searched _ _ stream₁ _ _ _ _ hafter hscan =>
      have hsearch := hscan.searchCalls
      obtain ⟨stack, hstream⟩ := hafter.eq_settled
      obtain rfl : stream₁ = _ := hstream
      exact ⟨_, _, rfl, hafter.beginsWith hf, hf.lastToken_eq ▸ hsearch⟩

/-- The token that is emitted last is that of the last pull, if it has emitted one. -/
theorem lastEmitted_concat (earlier : List (Observed τ)) (pull : Observed τ) :
    lastEmitted (earlier ++ [pull]) = pull.answer.token?.or (lastEmitted earlier) := by
  unfold lastEmitted
  cases htoken : pull.answer.token? with
  | none => simp [htoken]
  | some token => simp [htoken]

/-- Behind a pull that has emitted no token, the stream keeps what it kept, and nothing is
pending. -/
theorem Follows.concat {pull : Observed τ} (h : Follows lexer input earlier stream)
    (hnone : ∀ token, pull.answer ≠ .token token) (hinput : pull.left.input = stream.input)
    (hlast : pull.left.lastToken = stream.lastToken) (hpending : pull.left.pending = none) :
    Follows lexer input (earlier ++ [pull]) pull.left := by
  have htoken : pull.answer.token? = none := by
    cases hanswer : pull.answer with
    | token t => exact absurd hanswer (hnone t)
    | _ => rfl
  refine ⟨hinput.trans h.input_eq, ?_, ?_, ?_, fun _ => hpending⟩
  · rw [lastEmitted_concat, htoken, hlast, h.lastToken_eq]
    rfl
  · intro previous hprevious
    obtain rfl : pull = previous := by simpa using hprevious
    rfl
  · intro previous hprevious token hanswer
    obtain rfl : pull = previous := by simpa using hprevious
    exact absurd hanswer (hnone token)

/-- What the stream keeps of one more pull. -/
theorem PullCalls.follows (h : PullCalls lexer attempts stream ambient calls out)
    (hf : Follows lexer input earlier stream) :
    Follows lexer input (earlier ++ [⟨out.1, calls, out.2.1⟩]) out.2.1 := by
  cases h with
  | finished hfinished =>
      exact hf.concat (by simp) rfl rfl (hf.pending_eq_none (.inl hfinished))
  | refused _ herror =>
      exact hf.concat (by simp [close]) rfl rfl
        (hf.pending_eq_none (.inr (by simp [herror])))
  | afterFailed _ _ hafter =>
      obtain ⟨stack, hstream⟩ := hafter.eq_settled
      refine hf.concat (by simp [close]) ?_ ?_ ?_ <;> rw [close_left, hstream]
  | @searched after found stream₁ ambient₁ out hopen herror hafter hscan =>
      obtain ⟨stack, hstream⟩ := hafter.eq_settled
      obtain rfl : stream₁ = _ := hstream
      obtain ⟨hinput, herror', hopen', hkept⟩ := hscan.frame
      by_cases htoken : ∃ token, out.1 = .token token
      · obtain ⟨token, htoken⟩ := htoken
        obtain ⟨p, rule, hemitted⟩ := hscan.emitted htoken
        -- a pull that emits a token leaves the run open
        have hclose : close out = out := by
          obtain ⟨answer, s, a⟩ := out
          obtain rfl : answer = .token token := htoken
          rfl
        rw [hclose]
        refine ⟨hinput.trans hf.input_eq, ?_, ?_, ?_, ?_⟩
        · rw [lastEmitted_concat, htoken]
          exact hemitted.lastToken_eq
        · intro previous hprevious
          obtain rfl : _ = previous := by simpa using hprevious
          rfl
        · intro previous hprevious t ht
          obtain rfl : _ = previous := by simpa using hprevious
          obtain rfl := Pull.token.inj (htoken.symm.trans ht)
          exact ⟨hopen'.trans hopen, herror'.trans herror, p, rule,
            hf.input_eq ▸ hemitted.append after⟩
        · exact fun hnone => absurd htoken (hnone _ List.getLast?_concat token)
      · have hnone : ∀ token, out.1 ≠ .token token := fun token h => htoken ⟨token, h⟩
        obtain ⟨hlast, hpending⟩ := hkept hnone
        refine hf.concat ?_ ?_ ?_ ?_
        · simpa using hnone
        · rw [close_left]
          exact hinput
        · rw [close_left]
          exact hlast
        · rw [close_left]
          exact hpending

/-! ### Runs -/

/-- The pulls of a run in its turns with their calls, each from the stream and the ambient that the
one before has left. -/
inductive Lifecycle (lexer : Lexer σ τ) :
    List (Turn σ) → TokenStream τ → Ambient σ → List (Observed τ) → Prop
  | done {stream : TokenStream τ} {ambient : Ambient σ} : Lifecycle lexer [] stream ambient []
  | pull {turn : Turn σ} {turns : List (Turn σ)} {stream : TokenStream τ} {ambient : Ambient σ}
      {calls : List (HookCall τ)} {ended : Pull τ × TokenStream τ × Ambient σ}
      {later : List (Observed τ)} :
      PullCalls lexer turn.attempts stream (turn.begin ambient) calls ended →
      Lifecycle lexer turns ended.2.1 ended.2.2 later →
      Lifecycle lexer (turn :: turns) stream ambient (⟨ended.1, calls, ended.2.1⟩ :: later)

/-- The pulls of a run in its turns. -/
def history (lexer : Lexer σ τ) :
    List (Turn σ) → TokenStream τ → Ambient σ → List (Observed τ)
  | [], _, _ => []
  | turn :: turns, stream, ambient =>
    let ended := lexer.pull turn.attempts stream (turn.begin ambient)
    { answer := ended.1
      calls := lexer.calls turn.attempts stream (turn.begin ambient)
      left := ended.2.1 } ::
      lexer.history turns ended.2.1 ended.2.2

/-- **All pulls of a run are in order.** -/
theorem Follows.history (hf : Follows lexer input earlier stream) (h : Rested lexer stream)
    (hkept : KeepsToken stream) (turns : List (Turn σ)) (ambient : Ambient σ) :
    Lifecycle lexer turns stream ambient (lexer.history turns stream ambient) ∧
      ∀ before pull later, lexer.history turns stream ambient = before ++ pull :: later →
        InOrder lexer input (earlier ++ before) pull := by
  induction turns generalizing stream earlier ambient with
  | nil => exact ⟨.done, fun before pull later h => absurd h (by simp [Lexer.history])⟩
  | cons turn turns ih =>
      have hcalls := h.pull_calls hkept turn.attempts (turn.begin ambient)
      obtain ⟨-, hrested, -⟩ := h.pulled turn.attempts (turn.begin ambient)
      rw [Lexer.history]
      obtain ⟨hlife, horder⟩ := ih (hcalls.follows hf) hrested (hcalls.keepsToken hkept)
        (lexer.pull turn.attempts stream (turn.begin ambient)).2.2
      refine ⟨.pull hcalls hlife, ?_⟩
      intro before pull later hsplit
      cases before with
      | nil =>
          obtain ⟨rfl, -⟩ := List.cons.inj hsplit
          rw [List.append_nil]
          exact hcalls.inOrder hf
      | cons first before =>
          obtain ⟨rfl, hlater⟩ := List.cons.inj hsplit
          have hpull := horder before pull later hlater
          rwa [List.append_assoc] at hpull

/-- There is one lifecycle of a run only. -/
theorem Lifecycle.unique {turns : List (Turn σ)} {pulls pulls' : List (Observed τ)}
    (h : Lifecycle lexer turns stream ambient pulls)
    (h' : Lifecycle lexer turns stream ambient pulls') : pulls = pulls' := by
  induction h generalizing pulls' with
  | done =>
      cases h' with
      | done => rfl
  | pull hcalls _ ih =>
      cases h' with
      | pull hcalls' hlater =>
          obtain ⟨rfl, rfl⟩ := hcalls.unique hcalls'
          rw [ih hlater]

/-- **The lifecycle of hooks over whole runs.** Whatever turns a run takes, the calls of its pulls
are those of `Lifecycle`, and no other pulls are: for every match that the resolver finds and its
rule accepts, `before`, then `fetch` if there was neither an abort nor an error, then `value`, then
the token with the kind and the value that this rule gives it; no hook is called for a match that
was aborted or has failed. And each pull is in order: if the pull right before it has emitted a
token, it begins with the `after` hook of the rule and the state that the match was made in, as the
stream has kept them, whatever state is current by now; the hook is shown that very token, the end
of the token, and the same start and text as the other hooks of the match. Nowhere else is an
`after` hook called. All predicates of the pull are shown the token that was emitted last, also
behind aborts. -/
theorem hooks_follow_lifecycle {table : StateTable (Rule σ τ)} {config : LexerConfig}
    {factory : BaseToken → Text → τ} {lexer : Lexer σ τ} {cache : AlternationCache}
    {journal : Journal} (hmake : Lexer.make table config factory = (.ok (lexer, cache), journal))
    (input : Text) (start : Nat) (turns : List (Turn σ)) (ambient : Ambient σ) :
    (∀ pulls, Lifecycle lexer turns (lexer.tokenizeFrom input start).1 ambient pulls ↔
        pulls = lexer.history turns (lexer.tokenizeFrom input start).1 ambient) ∧
      ∀ earlier pull later,
        lexer.history turns (lexer.tokenizeFrom input start).1 ambient =
          earlier ++ pull :: later →
        InOrder lexer input earlier pull := by
  obtain ⟨hnames, -⟩ := make_ok hmake
  have hfollows : Follows lexer input [] (lexer.tokenizeFrom input start).1 :=
    ⟨rfl, rfl, by simp, by simp, fun _ => rfl⟩
  obtain ⟨hlife, horder⟩ := hfollows.history (tokenizeFrom_rested hnames input start)
    (keepsToken_start lexer input start) turns ambient
  exact ⟨fun pulls => ⟨fun h => h.unique hlife, fun h => h ▸ hlife⟩, horder⟩

/-- The state and the rule of a call, and which hook is called. -/
def callLabel (call : HookCall τ) : Nat × Nat × String :=
  (call.state, call.rule,
    match call.event with
    | .test .. => "test"
    | .before .. => "before"
    | .fetch .. => "fetch"
    | .value .. => "value"
    | .kind .. => "kind"
    | .after .. => "after")

/-- A match of the base state is always aborted for one of the state `inner`, which goes back to the
base state before its token is made, with the letter behind the match. -/
def relayTable : StateTable (Rule Unit Token) :=
  (StateTable.flat
    [{ pattern := .source ['a']
       test := some fun context host => (context.state == "start", host)
       before := some fun _ host =>
         .ask (.switch (.push "inner")) fun _ => .ask .abort fun _ => .done (.ok (), host) }]).declare
    "inner"
    [{ pattern := .source ['a']
       test := some fun context host => (context.state == "inner", host)
       before := some fun _ host => .ask (.switch .pop) fun _ => .done (.ok (), host)
       fetch := some fun _ host => .ask .next fun _ => .done (.ok (), host)
       value := some fun context host => (.text context.text, host)
       after := some fun _ host => .done (.ok (), host) }]

/-- The calls of three pulls over `abab`. The `after` hook of the state `inner`, which has the
number 1, comes first in the pull behind its token, when the base state has long been current. -/
theorem hooks_follow_lifecycle_relay :
    ∃ (lexer : Lexer Unit Token) (turns : List (Turn Unit)) (ambient : Ambient Unit),
      (lexer.history turns (lexer.tokenizeFrom ['a', 'b', 'a', 'b'] 0).1 ambient).map
          (fun pull => pull.calls.map callLabel) =
        [[(0, 0, "test"), (0, 0, "before"), (1, 0, "test"), (1, 0, "before"), (1, 0, "fetch"),
            (1, 0, "value")],
          [(1, 0, "after"), (0, 0, "test"), (0, 0, "before"), (1, 0, "test"), (1, 0, "before"),
            (1, 0, "fetch"), (1, 0, "value")],
          [(1, 0, "after")]] ∧
        ∀ earlier pull later,
          lexer.history turns (lexer.tokenizeFrom ['a', 'b', 'a', 'b'] 0).1 ambient =
            earlier ++ pull :: later →
          InOrder lexer ['a', 'b', 'a', 'b'] earlier pull := by
  have hrun : (match Lexer.make relayTable {} Token.make with
      | (.ok (lexer, cache), _) => decide
          ((lexer.history (List.replicate 3 ⟨Prod.mk, 2⟩)
              (lexer.tokenizeFrom ['a', 'b', 'a', 'b'] 0).1 ⟨cache, (), #[]⟩).map
            (fun pull => pull.calls.map callLabel) =
            [[(0, 0, "test"), (0, 0, "before"), (1, 0, "test"), (1, 0, "before"), (1, 0, "fetch"),
                (1, 0, "value")],
              [(1, 0, "after"), (0, 0, "test"), (0, 0, "before"), (1, 0, "test"),
                (1, 0, "before"), (1, 0, "fetch"), (1, 0, "value")],
              [(1, 0, "after")]])
      | (.error _, _) => false) = true := by
    decide +kernel
  split at hrun
  · next lexer cache journal hmake =>
      exact ⟨lexer, _, _, of_decide_eq_true hrun,
        (hooks_follow_lifecycle hmake ['a', 'b', 'a', 'b'] 0 _ _).2⟩
  · exact absurd hrun (by simp)

end Lexer

end ModalLex
