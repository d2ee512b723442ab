import ModalLex.Proofs.Lexer.Lifecycle

/-!
# Where a Run Fails

A run ends with an error at most once, and stays where the error has left it. Where that is depends
on who has failed, and the calls of the failing pull tell: an error is raised by the engine if all
hooks have succeeded, and else by the hook that was called last (`FailsAt`).

Before the match is accepted by its `before` hook the cursor has not moved, so all errors up to
there leave it at the end of the last token. The `fetch` hook is called with the cursor at the end
of the match, and what the hook itself has consumed is lost when it fails.

## Main results

* `AttemptCalls.failsAt`, `ScanCalls.failsAt`, `PullCalls.failsAt`: where an attempt, a search and
  a pull fail.
* `Reaches.itemsInOrder`: tokens, then at most one error, then only ends.
* `errors_are_final`: **errors are final and leave a precise position**.
-/

namespace ModalLex

variable {σ τ : Type}

/-! ### Hooks that fail -/

/-- The error that a hook has ended with. -/
def HookEvent.error? : HookEvent τ → Option LexError
  | .before _ _ (.error e) => some e
  | .fetch _ _ (.error e) => some e
  | .after _ _ (.error e) => some e
  | _ => none

/-- Calls of which none has ended with an error. -/
def Succeeded (calls : List (HookCall τ)) : Prop := ∀ call ∈ calls, call.event.error? = none

@[simp] theorem succeeded_nil : Succeeded ([] : List (HookCall τ)) := by
  simp [Succeeded]

@[simp] theorem succeeded_append {calls calls' : List (HookCall τ)} :
    Succeeded (calls ++ calls') ↔ Succeeded calls ∧ Succeeded calls' :=
  List.forall_mem_append

section HookCalled

variable {Ask : Type} {Reply : Ask → Type} {η : Type} {p : Pending}
  {event : List ((q : Ask) × Reply q) → Except LexError Unit → HookEvent τ} {hook : Option η}
  {talk : List ((q : Ask) × Reply q)} {calls : List (HookCall τ)}

/-- A hook that has not failed is called without an error. -/
theorem HookCalled.succeeded (h : HookCalled p event hook talk calls (.ok ()))
    (hevent : (event talk (.ok ())).error? = none) : Succeeded calls := by
  intro call hcall
  rw [h.event_eq hcall]
  exact hevent

/-- A hook that fails is a hook that was called. -/
theorem HookCalled.eq_of_error {e : LexError} (h : HookCalled p event hook talk calls (.error e)) :
    calls = [p.call (event talk (.error e))] := by
  cases h with
  | called => rfl

end HookCalled

/-- Predicates do not fail. -/
theorem Query.Resolved.succeeded {q : Query σ τ} {ambient : Ambient σ} {calls : List (HookCall τ)}
    {out : Except ConfigError (Option (Found × Rule σ τ)) × Ambient σ}
    (h : q.Resolved ambient calls out) : Succeeded calls := by
  intro call hcall
  obtain ⟨found, accepted, hevent⟩ := h.event_eq hcall
  rw [hevent]
  rfl

/-- Whether the allowance of a pull was used up. -/
def Pull.isStalled : Pull τ → Bool
  | .stalled => true
  | _ => false

/-- The error of an answer. -/
def Pull.error? : Pull τ → Option LexError
  | .failed e => some e
  | _ => none

theorem Pull.eq_failed {answer : Pull τ} {e : LexError} (h : answer.error? = some e) :
    answer = .failed e := by
  cases answer with
  | failed e' => exact congrArg Pull.failed (Option.some.inj h)
  | _ => exact absurd h (by simp [Pull.error?])

/-- Where the last of some tokens ends, or else where they would begin. -/
def lastEnd (start : Nat) (tokens : List Token) : Nat := (tokens.getLast?.map (·.stop)).getD start

/-- Tokens that lie side by side reach up to the end of the last one. -/
theorem Covers.stop_eq {input : Text} {start stop : Nat} {tokens : List Token}
    (h : Covers input start tokens stop) : stop = lastEnd start tokens := by
  induction tokens generalizing start with
  | nil => exact (show start = stop from h).symm
  | cons first rest ih =>
      obtain ⟨-, -, -, -, hrest⟩ := h
      rw [ih hrest, lastEnd, lastEnd, List.getLast?_cons]
      cases rest.getLast? <;> rfl

namespace Lexer

variable {lexer : Lexer σ τ} {input : Text} {stream stream' : TokenStream τ}
  {ambient ambient' : Ambient σ} {calls : List (HookCall τ)} {e : LexError}

/-- Where a `before` hook has not failed, nothing called so far has. -/
theorem BeforeCalls.succeeded {found : Found} {rule : Rule σ τ} {aborted : Bool}
    {stack : StateStack}
    (h : BeforeCalls lexer stream ambient found rule calls (.ok aborted, stack, ambient')) :
    Succeeded calls := by
  obtain ⟨tests, before, talk, result, _, hresolved, hbefore, rfl, houtcome⟩ := h.cases
  cases result with
  | error e => exact absurd houtcome (by simp [Except.map])
  | ok => exact succeeded_append.mpr ⟨hresolved.succeeded, hbefore.succeeded rfl⟩

/-- Where a pull fails that has begun at the cursor `stop`: its calls, and the stream that it
leaves. -/
inductive FailsAt (input : Text) (stop : Nat) (stream' : TokenStream τ) :
    List (HookCall τ) → LexError → Prop
  /-- The engine finds no match. -/
  | unmatched {calls : List (HookCall τ)} :
      Succeeded calls → stream'.cursor = stop →
      FailsAt input stop stream' calls (.noMatch stop stream'.stack.currentName)
  /-- The engine cannot build a pattern. -/
  | unbuilt {calls : List (HookCall τ)} {cause : PatternError} :
      Succeeded calls → stream'.cursor = stop →
      FailsAt input stop stream' calls (.config (.pattern cause))
  /-- The `after` hook of the token before fails. -/
  | after {others : List (HookCall τ)} {p : Pending} {context : AfterContext τ}
      {talk : List ((q : SwitchAsk) × q.Reply)} {e : LexError} :
      Succeeded others → stream'.cursor = stop →
      FailsAt input stop stream' (others ++ [p.call (.after context talk (.error e))]) e
  /-- A `before` hook fails. -/
  | before {others : List (HookCall τ)} {p : Pending} {context : BeforeContext}
      {talk : List ((q : BeforeAsk) × q.Reply)} {e : LexError} :
      Succeeded others → stream'.cursor = stop →
      FailsAt input stop stream' (others ++ [p.call (.before context talk (.error e))]) e
  /-- A `fetch` hook fails: the cursor is left at the end of its match. -/
  | fetch {others : List (HookCall τ)} {p : Pending} {state : String}
      {talk : List ((q : FetchAsk) × q.Reply)} {e : LexError} :
      Succeeded others → p.start = stop → stop ≤ p.matchEnd → stream'.cursor = p.matchEnd →
      FailsAt input stop stream'
        (others ++ [p.call (.fetch { p.context input with state } talk (.error e))]) e

/-- The same failure behind calls that have succeeded. -/
theorem FailsAt.append {stop : Nat} (h : FailsAt input stop stream' calls e)
    {earlier : List (HookCall τ)} (hearlier : Succeeded earlier) :
    FailsAt input stop stream' (earlier ++ calls) e := by
  cases h with
  | unmatched h hcursor => exact .unmatched (succeeded_append.mpr ⟨hearlier, h⟩) hcursor
  | unbuilt h hcursor => exact .unbuilt (succeeded_append.mpr ⟨hearlier, h⟩) hcursor
  | after h hcursor =>
      rw [← List.append_assoc]
      exact .after (succeeded_append.mpr ⟨hearlier, h⟩) hcursor
  | before h hcursor =>
      rw [← List.append_assoc]
      exact .before (succeeded_append.mpr ⟨hearlier, h⟩) hcursor
  | fetch h hstart hle hcursor =>
      rw [← List.append_assoc]
      exact .fetch (succeeded_append.mpr ⟨hearlier, h⟩) hstart hle hcursor

/-- **Where an attempt fails.** -/
theorem AttemptCalls.failsAt
    (h : AttemptCalls lexer stream ambient calls (.failed e, stream', ambient')) :
    FailsAt stream.input stream.cursor stream' calls e := by
  cases h with
  | unbuilt hresolved =>
      obtain ⟨cause, rfl⟩ := hresolved.eq_pattern rfl
      exact .unbuilt hresolved.succeeded rfl
  | unmatched hresolved => exact .unmatched hresolved.succeeded rfl
  | beforeFailed hbefore =>
      obtain ⟨tests, before, talk, result, _, hresolved, hcalled, rfl, houtcome⟩ := hbefore.cases
      cases result with
      | ok => exact absurd houtcome (by simp [Except.map])
      | error e' =>
          obtain rfl := Except.error.inj houtcome
          rw [hcalled.eq_of_error]
          exact .before hresolved.succeeded rfl
  | fetchFailed hbefore _ hfetch _ hle =>
      rw [hfetch.eq_of_error]
      exact .fetch hbefore.succeeded rfl hle rfl

/-- **Where a search fails**: aborted attempts leave the cursor where it was. -/
theorem ScanCalls.failsAt {attempts : Nat} {out : Pull τ × TokenStream τ × Ambient σ}
    (h : ScanCalls lexer attempts stream ambient calls out) (hanswer : out.1 = .failed e) :
    FailsAt stream.input stream.cursor out.2.1 calls e := by
  induction h with
  | stalled => exact absurd hanswer (by simp)
  | ended => exact absurd hanswer (by simp)
  | token => exact absurd hanswer (by simp)
  | failed _ h =>
      obtain rfl := Pull.failed.inj hanswer
      exact h.failsAt
  | again _ h _ ih =>
      have hfails := ih hanswer
      cases h with
      | aborted hbefore => exact hfails.append hbefore.succeeded

/-- Whether a run is finished does not matter to where it has failed. -/
theorem FailsAt.finish {stop : Nat} (h : FailsAt input stop stream' calls e) (finished : Bool) :
    FailsAt input stop { stream' with finished } calls e := by
  cases h with
  | unmatched h hcursor => exact .unmatched h hcursor
  | unbuilt h hcursor => exact .unbuilt h hcursor
  | after h hcursor => exact .after h hcursor
  | before h hcursor => exact .before h hcursor
  | fetch h hstart hle hcursor => exact .fetch h hstart hle hcursor

/-- Where an `after` hook has not failed, nothing called for the token before has. -/
theorem AfterCalls.succeeded
    (h : AfterCalls lexer stream ambient calls (.ok (), stream', ambient')) : Succeeded calls := by
  cases h with
  | settled => exact succeeded_nil
  | due _ _ _ _ hcalled _ => exact hcalled.succeeded rfl

/-- **Where a pull fails**, unless it was refused. -/
theorem PullCalls.failsAt {attempts : Nat} {out : Pull τ × TokenStream τ × Ambient σ}
    (h : PullCalls lexer attempts stream ambient calls out) (hanswer : out.1 = .failed e)
    (herror : stream.startError = none) :
    FailsAt stream.input stream.cursor out.2.1 calls e := by
  cases h with
  | finished => exact absurd hanswer (by simp)
  | refused _ hrefused => exact absurd (hrefused.symm.trans herror) (by simp)
  | afterFailed _ _ hafter =>
      obtain ⟨stack, hstream⟩ := hafter.eq_settled
      rw [close_answer] at hanswer
      obtain rfl := Pull.failed.inj hanswer
      rw [close_left, hstream]
      cases hafter with
      | due _ _ _ _ hcalled _ =>
          rw [hcalled.eq_of_error, ← List.nil_append [_]]
          exact .after succeeded_nil rfl
  | @searched _ _ stream₁ _ _ _ _ hafter hscan =>
      have hsucceeded := hafter.succeeded
      obtain ⟨stack, hstream⟩ := hafter.eq_settled
      obtain rfl : stream₁ = _ := hstream
      rw [close_answer] at hanswer
      rw [close_left]
      exact ((hscan.failsAt hanswer).append hsucceeded).finish _

/-! ### Runs -/

variable {start : Nat} {items : List (Pull τ)}

/-- A pull of a run that was not refused does not refuse it. -/
theorem PullCalls.startError_eq_none {attempts : Nat} {out : Pull τ × TokenStream τ × Ambient σ}
    (h : PullCalls lexer attempts stream ambient calls out) (herror : stream.startError = none) :
    out.2.1.startError = none := by
  cases h with
  | finished => exact herror
  | refused => rfl
  | afterFailed _ _ hafter =>
      obtain ⟨stack, hstream⟩ := hafter.eq_settled
      rw [close_left, hstream]
      exact herror
  | @searched _ _ stream₁ _ _ _ _ hafter hscan =>
      obtain ⟨stack, hstream⟩ := hafter.eq_settled
      obtain rfl : stream₁ = _ := hstream
      rw [close_left]
      exact hscan.frame.2.1.trans herror

/-- The stream of a run keeps the token whose `after` hook has still to run. -/
theorem Reaches.keepsToken (hnames : lexer.names.Resolved)
    (h : Reaches lexer input start items stream) : KeepsToken stream := by
  induction h with
  | start => exact keepsToken_start lexer input start
  | pull attempts ambient hreach _ ih =>
      exact ((hreach.rested hnames).2.pull_calls ih attempts ambient).keepsToken ih

/-- The calls of the next pull of a run. -/
theorem Reaches.pull_calls (hnames : lexer.names.Resolved)
    (h : Reaches lexer input start items stream) (attempts : Nat) (ambient : Ambient σ) :
    PullCalls lexer attempts stream ambient (lexer.calls attempts stream ambient)
      (lexer.pull attempts stream ambient) :=
  (h.rested hnames).2.pull_calls (h.keepsToken hnames) attempts ambient

/-- **Tokens, then at most one error, then only ends.** Pulls whose allowance was used up are left
out. -/
theorem Reaches.itemsInOrder (hnames : lexer.names.Resolved)
    (h : Reaches lexer input start items stream) :
    ∃ (tokens : List τ) (error : Option LexError) (ends : Nat),
      items.filter (fun item => !item.isStalled) =
        tokens.map .token ++ (error.map .failed).toList ++ List.replicate ends .ended ∧
      (stream.finished = false → error = none ∧ ends = 0) := by
  induction h with
  | start => exact ⟨[], none, 0, rfl, fun _ => ⟨rfl, rfl⟩⟩
  | @pull items stream attempts ambient hreach _ ih =>
      obtain ⟨tokens, error, ends, hitems, hrunning⟩ := ih
      obtain ⟨-, -, hclosed, hopen⟩ := (hreach.rested hnames).2.pulled attempts ambient
      rw [List.filter_append, hitems]
      cases hfinished : stream.finished with
      | true =>
          rw [hclosed hfinished]
          refine ⟨tokens, error, ends + 1, ?_, fun h => absurd (hfinished.symm.trans h) (by simp)⟩
          simp [Pull.isStalled, List.replicate_succ']
      | false =>
          obtain ⟨rfl, rfl⟩ := hrunning hfinished
          obtain ⟨-, hgoes⟩ := hopen hfinished
          revert hgoes
          cases (lexer.pull attempts stream ambient).1 with
          | token t =>
              exact fun _ => ⟨tokens ++ [t], none, 0, by simp [Pull.isStalled], fun _ => ⟨rfl, rfl⟩⟩
          | failed e =>
              intro hgoes
              exact ⟨tokens, some e, 0, by simp [Pull.isStalled], fun h => by simp [h] at hgoes⟩
          | ended =>
              intro hgoes
              exact ⟨tokens, none, 1, by simp [Pull.isStalled], fun h => by simp [h] at hgoes⟩
          | stalled =>
              exact fun _ => ⟨tokens, none, 0, by simp [Pull.isStalled], fun _ => ⟨rfl, rfl⟩⟩

/-- A run that has reported an error or the end is finished. -/
theorem Reaches.finished_of_closes (hnames : lexer.names.Resolved)
    (h : Reaches lexer input start items stream) {item : Pull τ} (hitem : item ∈ items)
    (hcloses : item.closes = true) : stream.finished = true := by
  obtain ⟨tokens, error, ends, hitems, hrunning⟩ := h.itemsInOrder hnames
  cases hfinished : stream.finished with
  | true => rfl
  | false =>
      obtain ⟨rfl, rfl⟩ := hrunning hfinished
      have hkept : item ∈ items.filter fun item => !item.isStalled := by
        refine List.mem_filter.mpr ⟨hitem, ?_⟩
        cases item with
        | stalled => exact absurd hcloses (by simp [Pull.closes])
        | _ => rfl
      rw [hitems] at hkept
      obtain ⟨t, -, rfl⟩ : ∃ t ∈ tokens, Pull.token t = item := by simpa using hkept
      exact absurd hcloses (by simp [Pull.closes])

/-! ### Valid starts -/

/-- A run from a valid offset is not refused. -/
theorem Reaches.startError_eq_none (hnames : lexer.names.Resolved)
    (hstart : input.isBoundary start = true) (h : Reaches lexer input start items stream) :
    stream.startError = none := by
  induction h with
  | start => exact startError?_eq_none hstart
  | pull attempts ambient hreach _ ih =>
      exact (hreach.pull_calls hnames attempts ambient).startError_eq_none ih

/-- Where the next pull of a run fails: it has begun at the end of the last token. -/
theorem Reaches.failsAt (hnames : lexer.names.Resolved)
    (hstart : input.isBoundary start = true) (h : Reaches lexer input start items stream) :
    ∃ tokens : List Token,
      items.filterMap Pull.token? = tokens.map (fun token => lexer.factory token.base input) ∧
      Covers input start tokens (lastEnd start tokens) ∧
      ∀ attempts ambient e, (lexer.pull attempts stream ambient).1 = .failed e →
        FailsAt input (lastEnd start tokens) (lexer.pull attempts stream ambient).2.1
          (lexer.calls attempts stream ambient) e := by
  obtain ⟨tokens, stop, hcovered⟩ := h.covered hnames hstart
  obtain ⟨rfl, hrested⟩ := h.rested hnames
  obtain rfl := hcovered.covers.stop_eq
  refine ⟨tokens, hcovered.made, hcovered.covers, ?_⟩
  intro attempts ambient e hfailed
  obtain ⟨-, -, hclosed, -⟩ := hrested.pulled attempts ambient
  have hopen : stream.finished = false := by
    cases hfinished : stream.finished with
    | false => rfl
    | true => exact absurd (hfailed.symm.trans (congrArg Prod.fst (hclosed hfinished))) (by simp)
  rw [(hcovered.running hopen).1]
  exact (h.pull_calls hnames attempts ambient).failsAt hfailed (h.startError_eq_none hnames hstart)

/-! ### Starts that are refused -/

/-- An offset that is no boundary is wrong. -/
theorem startError?_eq_some (h : input.isBoundary start = false) :
    ∃ error, startError? input start = some (.cursor error) := by
  rw [startError?, h]
  split
  · exact ⟨_, rfl⟩
  · exact ⟨_, rfl⟩

/-- A run with a wrong offset fails in its first pull, calls no hook and stays where it is. -/
theorem Reaches.refused {error : LexError} (herror : startError? input start = some error)
    (h : Reaches lexer input start items stream) :
    stream.cursor = 0 ∧
      (items = [] ∧ stream.finished = false ∧ stream.startError = some error ∨
        stream.finished = true ∧ ∃ ends, items = .failed error :: List.replicate ends .ended) := by
  induction h with
  | start =>
      refine ⟨?_, .inl ⟨rfl, rfl, herror⟩⟩
      simp [tokenizeFrom, herror]
  | pull attempts ambient _ _ ih =>
      obtain ⟨hcursor, hcases⟩ := ih
      rcases hcases with ⟨rfl, hopen, hrefused⟩ | ⟨hfinished, ends, rfl⟩
      · rw [Lexer.pull, step, hopen, hrefused]
        exact ⟨hcursor, .inr ⟨rfl, 0, rfl⟩⟩
      · rw [Lexer.pull, if_pos hfinished]
        exact ⟨hcursor, .inr ⟨hfinished, ends + 1, by simp [List.replicate_succ']⟩⟩

/-- A run that is finished or refused calls no hook. -/
theorem PullCalls.eq_nil {attempts : Nat} {out : Pull τ × TokenStream τ × Ambient σ}
    (h : PullCalls lexer attempts stream ambient calls out)
    (hclosed : stream.finished = true ∨ stream.startError ≠ none) : calls = [] := by
  cases h with
  | finished => rfl
  | refused => rfl
  | afterFailed hopen herror =>
      rcases hclosed with hfinished | hrefused
      · exact absurd (hopen.symm.trans hfinished) (by simp)
      · exact absurd herror hrefused
  | searched hopen herror =>
      rcases hclosed with hfinished | hrefused
      · exact absurd (hopen.symm.trans hfinished) (by simp)
      · exact absurd herror hrefused

/-- **Errors are final and leave a precise position.**

* The answers of a run are tokens, then at most one error, then only ends, if pulls whose allowance
  was used up are left out.
* Once an error or the end was reported, a pull changes nothing at all.
* From a valid offset, a pull that fails has begun at the end of the last token, or at that offset
  if there is none, and `FailsAt` tells where it leaves the run: there too, unless a `fetch` hook
  has failed, which leaves it at the end of the failed match. Where the engine finds no match, the
  error names that place and the current state.
* From any other offset, the first pull fails, no hook is ever called, and the run stays at 0. -/
theorem errors_are_final {table : StateTable (Rule σ τ)} {config : LexerConfig}
    {factory : BaseToken → Text → τ} {lexer : Lexer σ τ} {cache : AlternationCache}
    {journal : Journal} (hmake : Lexer.make table config factory = (.ok (lexer, cache), journal))
    {input : Text} {start : Nat} {items : List (Pull τ)} {stream : TokenStream τ}
    (hreach : Reaches lexer input start items stream) :
    (∃ (tokens : List τ) (error : Option LexError) (ends : Nat),
      items.filter (fun item => !item.isStalled) =
        tokens.map .token ++ (error.map .failed).toList ++ List.replicate ends .ended) ∧
    ((∃ item ∈ items, item.closes = true) →
      ∀ attempts ambient, lexer.pull attempts stream ambient = (.ended, stream, ambient)) ∧
    (input.isBoundary start = true →
      ∃ tokens : List Token,
        items.filterMap Pull.token? = tokens.map (fun token => factory token.base input) ∧
        Covers input start tokens (lastEnd start tokens) ∧
        ∀ attempts ambient e, (lexer.pull attempts stream ambient).1 = .failed e →
          FailsAt input (lastEnd start tokens) (lexer.pull attempts stream ambient).2.1
            (lexer.calls attempts stream ambient) e) ∧
    (input.isBoundary start = false →
      ∃ error, startError? input start = some (.cursor error) ∧ stream.cursor = 0 ∧
        (items = [] ∨ ∃ ends, items = .failed (.cursor error) :: List.replicate ends .ended) ∧
        ∀ attempts ambient, lexer.calls attempts stream ambient = [] ∧
          (items = [] → (lexer.pull attempts stream ambient).1 = .failed (.cursor error))) := by
  obtain ⟨hnames, -, rfl, -⟩ := make_ok hmake
  refine ⟨?_, ?_, fun hstart => hreach.failsAt hnames hstart, ?_⟩
  · obtain ⟨tokens, error, ends, hitems, -⟩ := hreach.itemsInOrder hnames
    exact ⟨tokens, error, ends, hitems⟩
  · rintro ⟨item, hitem, hcloses⟩ attempts ambient
    obtain ⟨-, -, hclosed, -⟩ := (hreach.rested hnames).2.pulled attempts ambient
    exact hclosed (hreach.finished_of_closes hnames hitem hcloses)
  · intro hstart
    obtain ⟨error, herror⟩ := startError?_eq_some hstart
    obtain ⟨hcursor, hcases⟩ := hreach.refused herror
    have hsilent : stream.finished = true ∨ stream.startError ≠ none := by
      rcases hcases with ⟨-, -, hrefused⟩ | ⟨hfinished, -⟩
      · exact .inr (by simp [hrefused])
      · exact .inl hfinished
    refine ⟨error, herror, hcursor, ?_, fun attempts ambient => ⟨?_, ?_⟩⟩
    · rcases hcases with ⟨hitems, -⟩ | ⟨-, hitems⟩
      · exact .inl hitems
      · exact .inr hitems
    · exact (hreach.pull_calls hnames attempts ambient).eq_nil hsilent
    · rintro rfl
      rcases hcases with ⟨-, hopen, hrefused⟩ | ⟨-, ends, hitems⟩
      · rw [pull, step, hopen, hrefused]
        rfl
      · exact absurd hitems (by simp)

/-- The `fetch` hook of `b` takes one more letter and then fails. -/
def fumbleTable : StateTable (Rule Unit Token) :=
  StateTable.flat
    [{ pattern := .source ['a'] },
      { pattern := .source ['b']
        fetch := some fun _ host => .ask .next fun _ => .done (.error (.custom "lost"), host) }]

/-- The second pull of `aba` fails in the `fetch` hook of `b`. It leaves the run behind the `b`,
which begins where the first token ends, and not behind the letter that the hook has taken. A run
that starts at 4 is refused. -/
theorem errors_are_final_fumble :
    ∃ (lexer : Lexer Unit Token) (items : List (Pull Token)) (stream : TokenStream Token)
      (ambient : Ambient Unit),
      Reaches lexer ['a', 'b', 'a'] 0 items stream ∧ items.length = 1 ∧
        (lexer.pull 1 stream ambient).1 = .failed (.custom "lost") ∧
        (lexer.pull 1 stream ambient).2.1.cursor = 2 ∧
        FailsAt ['a', 'b', 'a'] 1 (lexer.pull 1 stream ambient).2.1
          (lexer.calls 1 stream ambient) (.custom "lost") ∧
        lexer.calls 1 (lexer.tokenizeFrom ['a', 'b', 'a'] 4).1 ambient = [] := by
  have hrun : (match Lexer.make fumbleTable {} Token.make with
      | (.ok (lexer, cache), _) =>
        let ambient : Ambient Unit := ⟨cache, (), #[]⟩
        let first := lexer.pull 1 (lexer.tokenizeFrom ['a', 'b', 'a'] 0).1 ambient
        decide (([first.1].filterMap Pull.token?).map (·.stop) = [1] ∧
          (lexer.pull 1 first.2.1 ambient).1.error? = some (.custom "lost") ∧
          (lexer.pull 1 first.2.1 ambient).2.1.cursor = 2)
      | (.error _, _) => false) = true := by
    decide +kernel
  split at hrun
  · next lexer cache journal hmake =>
      obtain ⟨hstops, hfailed, hcursor⟩ := of_decide_eq_true hrun
      obtain ⟨-, -, -, -, hcoherent⟩ := make_ok hmake
      have hstart : Reaches lexer ['a', 'b', 'a'] 0 [] _ := .start
      have hreach := hstart.pull 1 ⟨cache, (), #[]⟩ hcoherent
      obtain ⟨-, -, hvalid, -⟩ := errors_are_final hmake hreach
      obtain ⟨tokens, hmade, -, hfails⟩ := hvalid (by decide)
      have hend : lastEnd 0 tokens = 1 := by
        rw [List.nil_append] at hmade
        rw [hmade, List.map_map] at hstops
        rw [lastEnd, ← List.getLast?_map, show tokens.map (·.stop) = [1] from hstops]
        rfl
      obtain ⟨-, -, -, hinvalid⟩ :=
        errors_are_final hmake (.start : Reaches lexer ['a', 'b', 'a'] 4 [] _)
      obtain ⟨_, -, -, -, hsilent⟩ := hinvalid (by decide)
      exact ⟨lexer, _, _, ⟨cache, (), #[]⟩, hreach, rfl, Pull.eq_failed hfailed, hcursor,
        hend ▸ hfails 1 _ _ (Pull.eq_failed hfailed), (hsilent 1 _).1⟩
  · exact absurd hrun (by simp)

end Lexer

end ModalLex
