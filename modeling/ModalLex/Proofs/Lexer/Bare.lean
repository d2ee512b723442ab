import ModalLex.Proofs.Lexer.Recording

/-!
# One Cursor Instead of Anchors

The engine keeps one anchor for every state, and most of them are out of date at any time. The
engine defined here keeps **none**: it matches at the cursor, and when the `before` hook of a match
has not aborted, it moves the cursor to the end of the match. It answers the same.

What the engine with anchors does to a stream is laid over what the engine without them does by
forgetting anchors (`TokenStream.bare`). Between pulls the two agree because the current anchor
is the cursor, and within a hook because whatever the hook switches to, the current anchor goes
along.

The journal tells the anchor of every switch, and the engine without anchors has none to tell; so
journals are compared with these fields left out (`Event.bare`).

## Main results

* `Ready.attempt_bare`: one attempt answers the same.
* `Rested.pull_bare`: one pull answers the same.
* `anchors_refine_to_cursor`: **anchors refine to a single cursor**, for every sequence of pulls.
-/

namespace ModalLex

/-! ### The engine without anchors -/

namespace Bare

variable {σ τ : Type}

/-- A stack of states, the current one first. -/
structure Stack where
  names : StateNames
  stack : List Nat

namespace Stack

/-- The current state: the top of the stack, or the base state. -/
def current (s : Stack) : Nat := s.stack.headD s.names.base

/-- The name of the current state. -/
def currentName (s : Stack) : String := s.names.name s.current

/-- The number of states on the stack. -/
def depth (s : Stack) : Nat := s.stack.length

/-- Enters a state that is not the base state. -/
def push (s : Stack) (name : String) : Except StateError Stack :=
  if name = s.names.baseName then .error (.pushBase name)
  else match s.names.lookup? name with
    | none => .error (.unknown name)
    | some state => .ok { s with stack := state :: s.stack }

/-- Goes back to the state before the current one. -/
def pop (s : Stack) : Except StateError Stack :=
  match s.stack with
  | [] => .error .popEmpty
  | _ :: rest => .ok { s with stack := rest }

end Stack

/-- The state of one run over an input. -/
structure Stream (τ : Type) where
  input : Text
  cursor : Nat
  stack : Stack
  lastToken : Option τ
  pending : Option Pending
  startError : Option LexError
  finished : Bool

/-- What a hook that switches states works on. -/
structure Switching where
  stack : Stack
  journal : Journal
  aborted : Bool

/-- Starts a run at an offset. -/
def tokenizeFrom (lexer : Lexer σ τ) (input : Text) (start : Nat) : Stream τ :=
  let error := Lexer.startError? input start
  { input
    cursor := if error.isSome then 0 else start
    stack := ⟨lexer.names, []⟩
    lastToken := none
    pending := none
    startError := error
    finished := false }

/-- Answers a question about states. -/
def answerSwitch : (ask : SwitchAsk) → Switching → ask.Reply × Switching
  | .push name, s =>
    match s.stack.push name with
    | .error e => (.error e, s)
    | .ok stack =>
      (.ok (), { s with stack, journal := s.journal.push (.pushedState name stack.depth 0) })
  | .pop, s =>
    match s.stack.pop with
    | .error e => (.error e, s)
    | .ok stack =>
      (.ok (), { s with
        stack, journal := s.journal.push (.poppedState stack.currentName stack.depth 0) })
  | .currentState, s => (s.stack.currentName, s)

/-- Answers a question of a `before` hook. -/
def answerBefore : (ask : BeforeAsk) → Switching → ask.Reply × Switching
  | .switch ask, s => answerSwitch ask s
  | .abort, s => ((), { s with aborted := true })

/-- Runs the `before` hook of a rule. -/
def runBefore (rule : Rule σ τ) (context : BeforeContext) (stack : Stack) (ambient : Ambient σ) :
    Except LexError Bool × Stack × Ambient σ :=
  match rule.before with
  | none => (.ok false, stack, ambient)
  | some hook =>
    let ((result, host), s) :=
      (hook context ambient.host).run answerBefore ⟨stack, ambient.journal, false⟩
    (result.map fun _ => s.aborted, s.stack, { ambient with host, journal := s.journal })

/-- Runs the `after` hook of a rule on the token just emitted. -/
def runAfter (rule : Option (Rule σ τ)) (pending : Pending) (stream : Stream τ)
    (ambient : Ambient σ) : Except LexError Unit × Stack × Ambient σ :=
  match rule.bind (·.after), stream.lastToken with
  | some hook, some token =>
    let context : AfterContext τ :=
      { input := stream.input
        matched := stream.input.slice pending.start pending.matchEnd
        start := pending.start
        position := stream.cursor
        token }
    let ((result, host), s) :=
      (hook context ambient.host).run answerSwitch ⟨stream.stack, ambient.journal, false⟩
    (result, s.stack, { ambient with host, journal := s.journal })
  | _, _ => (.ok (), stream.stack, ambient)

/-- Finishes the token before. -/
def finishPending (lexer : Lexer σ τ) (stream : Stream τ) (ambient : Ambient σ) :
    Except LexError Unit × Stream τ × Ambient σ :=
  match stream.pending with
  | none => (.ok (), stream, ambient)
  | some pending =>
    let rule := (lexer.rulesOf pending.state)[pending.rule]?
    let (result, stack, ambient) := runAfter rule pending stream ambient
    (result, { stream with pending := none, stack }, ambient)

/-- Makes the token of a match that was not aborted and that ends at the cursor. -/
def produce (lexer : Lexer σ τ) (rule : Rule σ τ) (matched : MatchContext) (found : Found)
    (state : Nat) (stream : Stream τ) (ambient : Ambient σ) :
    Lexer.Attempt τ × Stream τ × Ambient σ :=
  let here := stream.stack.currentName
  match Lexer.runFetch rule { matched with state := here } stream.cursor ambient with
  | (.error e, ambient) => (.failed e, stream, ambient)
  | (.ok cursor, ambient) =>
    let (value, host) :=
      Lexer.valueOf rule { matched with state := here, position := cursor } ambient.host
    let (kind, host) := Lexer.kindOf rule matched.matched host
    let ambient := { ambient with host }.note
      (.producedToken kind matched.start cursor (lexer.names.name state))
    let token :=
      lexer.factory { kind, value, start := matched.start, stop := cursor } stream.input
    (.token token,
      { stream with
        cursor
        lastToken := some token
        pending := some
          { state, rule := found.rule, start := matched.start, matchEnd := found.stop } },
      ambient)

/-- One attempt to match at the cursor. -/
def attempt (lexer : Lexer σ τ) (stream : Stream τ) (ambient : Ambient σ) :
    Lexer.Attempt τ × Stream τ × Ambient σ :=
  let state := stream.stack.current
  let start := stream.cursor
  let query : Query σ τ :=
    { compiler := lexer.compiler
      rules := lexer.rulesOf state
      state
      input := stream.input
      offset := start
      lastToken := stream.lastToken }
  match query.resolve ambient with
  | (.error e, ambient) => (.failed (.config e), stream, ambient)
  | (.ok none, ambient) => (.failed (.noMatch start stream.stack.currentName), stream, ambient)
  | (.ok (some (found, rule)), ambient) =>
    let matched : MatchContext :=
      { input := stream.input, matched := stream.input.slice start found.stop, start }
    let (result, stack, ambient) :=
      runBefore rule { matched with position := start } stream.stack ambient
    match result with
    | .error e => (.failed e, { stream with stack }, ambient)
    | .ok true =>
      (.aborted, { stream with stack },
        ambient.note (.matchAborted found.rule start stack.currentName))
    | .ok false =>
      produce lexer rule matched found state { stream with stack, cursor := found.stop } ambient

/-- Attempts matches until one is not aborted or the input is at its end. -/
def scan (lexer : Lexer σ τ) : (attempts : Nat) → Stream τ → Ambient σ →
    Pull τ × Stream τ × Ambient σ
  | 0, stream, ambient => (.stalled, stream, ambient)
  | attempts + 1, stream, ambient =>
    if stream.cursor < stream.input.byteLength then
      match attempt lexer stream ambient with
      | (.token token, stream, ambient) => (.token token, stream, ambient)
      | (.failed e, stream, ambient) => (.failed e, stream, ambient)
      | (.aborted, stream, ambient) => scan lexer attempts stream ambient
    else (.ended, stream, ambient.note (.reachedEnd stream.cursor))

/-- One step of a run that is not finished. -/
def step (lexer : Lexer σ τ) (attempts : Nat) (stream : Stream τ) (ambient : Ambient σ) :
    Pull τ × Stream τ × Ambient σ :=
  match stream.startError with
  | some e => (.failed e, { stream with startError := none }, ambient)
  | none =>
    match finishPending lexer stream ambient with
    | (.error e, stream, ambient) => (.failed e, stream, ambient)
    | (.ok (), stream, ambient) => scan lexer attempts stream ambient

/-- Pulls the next token. -/
def pull (lexer : Lexer σ τ) (attempts : Nat) (stream : Stream τ) (ambient : Ambient σ) :
    Pull τ × Stream τ × Ambient σ :=
  if stream.finished then (.ended, stream, ambient)
  else
    match step lexer attempts stream ambient with
    | (.failed e, stream, ambient) =>
      (.failed e, { stream with finished := true },
        ambient.note (.tokenizationFailed e stream.cursor stream.stack.currentName))
    | (.ended, stream, ambient) => (.ended, { stream with finished := true }, ambient)
    | answer => answer

end Bare

/-! ### Forgetting anchors -/

/-- An event without the anchor that it tells. -/
def Event.bare : Event → Event
  | .pushedState state depth _ => .pushedState state depth 0
  | .poppedState state depth _ => .poppedState state depth 0
  | event => event

/-- The ambient with the journal without anchors. -/
def Ambient.bare {σ : Type} (ambient : Ambient σ) : Ambient σ :=
  { ambient with journal := ambient.journal.map Event.bare }

/-- A stack without its anchors. -/
def StateStack.bare (s : StateStack) : Bare.Stack := ⟨s.names, s.stack⟩

/-- A stream without its anchors. -/
def TokenStream.bare {τ : Type} (stream : TokenStream τ) : Bare.Stream τ where
  input := stream.input
  cursor := stream.cursor
  stack := stream.stack.bare
  lastToken := stream.lastToken
  pending := stream.pending
  startError := stream.startError
  finished := stream.finished

/-- What a hook works on, without anchors. -/
def Lexer.Switching.bare (s : Lexer.Switching) : Bare.Switching :=
  ⟨s.stack.bare, s.journal.map Event.bare, s.aborted⟩

variable {σ τ : Type}

/-- What is noted is noted without its anchors. -/
@[simp] theorem Ambient.bare_note (ambient : Ambient σ) (event : Event) :
    (ambient.note event).bare = ambient.bare.note event.bare := by
  simp [Ambient.bare, Ambient.note]

/-- Anchors are forgotten once. -/
theorem Event.bare_bare (event : Event) : event.bare.bare = event.bare := by
  cases event <;> rfl

/-- The journal of an ambient without anchors has none left to forget. -/
theorem Ambient.bare_bare (ambient : Ambient σ) : ambient.bare.bare = ambient.bare := by
  simp [Ambient.bare, Function.comp_def, Event.bare_bare]

/-- Forgetting anchors leaves the host alone. -/
@[simp] theorem Ambient.bare_host (ambient : Ambient σ) : ambient.bare.host = ambient.host := rfl

/-- **Setting an anchor does nothing to a stack without anchors.** -/
@[simp] theorem StateStack.bare_setAnchor (s : StateStack) (p : Nat) :
    (s.setAnchor p).bare = s.bare := rfl

/-- The current state does not depend on anchors. -/
@[simp] theorem StateStack.bare_current (s : StateStack) : s.bare.current = s.current := rfl

/-- Nor does its name. -/
@[simp] theorem StateStack.bare_currentName (s : StateStack) :
    s.bare.currentName = s.currentName := rfl

/-- A state is entered, or cannot be, whatever the anchors are. -/
theorem StateStack.bare_push (s : StateStack) (name : String) :
    s.bare.push name = (s.push name).map StateStack.bare := by
  rw [StateStack.push, Bare.Stack.push]
  by_cases hbase : name = s.names.baseName
  · simp only [StateStack.bare, hbase, if_true]
    rfl
  · simp only [StateStack.bare, hbase, if_false]
    cases s.names.lookup? name <;> rfl

/-- A state is left, or cannot be, whatever the anchors are. -/
theorem StateStack.bare_pop (s : StateStack) : s.bare.pop = s.pop.map StateStack.bare := by
  rw [StateStack.pop, Bare.Stack.pop]
  simp only [StateStack.bare]
  cases s.stack <;> rfl

/-- Engines that answer each question alike, up to what `f` forgets, run a dialogue alike. -/
theorem Dialogue.run_map {Ask : Type} {Reply : Ask → Type} {α β γ : Type}
    {answer : (q : Ask) → β → Reply q × β} {answer' : (q : Ask) → γ → Reply q × γ} (f : β → γ)
    (h : ∀ q s, answer' q (f s) = ((answer q s).1, f (answer q s).2)) (d : Dialogue Ask Reply α)
    (s : β) : d.run answer' (f s) = ((d.run answer s).1, f (d.run answer s).2) := by
  induction d generalizing s with
  | done result => rfl
  | ask q next ih =>
      rw [Dialogue.run, h]
      exact ih _ _

/-! ### Resolving -/

namespace Query

/-- Events of the compiler tell no anchor. -/
theorem bare_alternation (q : Query σ τ) (first : Nat) (ambient : Ambient σ) :
    q.alternation first ambient.bare =
      ((q.alternation first ambient).1, (q.alternation first ambient).2.bare) := by
  have hevents : (q.compiler.alternation ambient.cache q.state first).2.2.map Event.bare =
      (q.compiler.alternation ambient.cache q.state first).2.2 := by
    have hruns := q.compiler.alternation_runs ambient.cache q.state first
    generalize q.compiler.alternation ambient.cache q.state first = out at hruns ⊢
    cases hruns <;> rfl
  simp only [alternation, Ambient.bare, Array.map_append, List.map_toArray, hevents]

/-- The search for a rule takes the same course whatever anchors the journal tells. -/
theorem Runs.bare {q : Query σ τ} {attempts first : Nat} {ambient : Ambient σ}
    {out : Except ConfigError (Option (Found × Rule σ τ)) × Ambient σ}
    (hruns : q.Runs attempts first ambient out) :
    q.Runs attempts first ambient.bare (out.1, out.2.bare) := by
  have halternation {first : Nat} {ambient ambient' : Ambient σ}
      {result : Except ConfigError (Option Alternation)}
      (hq : q.alternation first ambient = (result, ambient')) :
      q.alternation first ambient.bare = (result, ambient'.bare) := by
    rw [bare_alternation, hq]
  induction hruns with
  | spent => exact .spent
  | unbuilt hq => exact .unbuilt (halternation hq)
  | exhausted hq => exact .exhausted (halternation hq)
  | unmatched hq hmatch =>
      rw [Ambient.bare_note]
      exact .unmatched (halternation hq) hmatch
  | unowned hq hmatch hrule => exact .unowned (halternation hq) hmatch hrule
  | accepted hq hmatch hrule haccepts =>
      rw [Ambient.bare_note]
      exact .accepted (halternation hq) hmatch hrule haccepts
  | rejected hq hmatch hrule haccepts _ ih =>
      rw [Ambient.bare_note] at ih
      exact .rejected (halternation hq) hmatch hrule haccepts ih

/-- Resolving tells no anchor and reads no journal. -/
theorem bare_resolve (q : Query σ τ) (ambient : Ambient σ) :
    q.resolve ambient.bare = ((q.resolve ambient).1, (q.resolve ambient).2.bare) :=
  (q.resolveFrom_runs _ _ ambient).bare.eq

end Query

/-! ### Hooks -/

namespace Lexer

variable {lexer : Lexer σ τ} {stream : TokenStream τ}

/-- A hook that asks about states is answered without anchors as it is with them. -/
theorem bare_answerSwitch (ask : SwitchAsk) (s : Switching) :
    Bare.answerSwitch ask s.bare = ((answerSwitch ask s).1, (answerSwitch ask s).2.bare) := by
  cases ask with
  | push name =>
      simp only [Bare.answerSwitch, answerSwitch, Switching.bare, StateStack.bare_push]
      cases s.stack.push name with
      | error e => rfl
      | ok stack => simp [Except.map, Event.bare]; rfl
  | pop =>
      simp only [Bare.answerSwitch, answerSwitch, Switching.bare, StateStack.bare_pop]
      cases s.stack.pop with
      | error e => rfl
      | ok stack => simp [Except.map, Event.bare]; rfl
  | currentState => rfl

/-- So is a hook before a match. -/
theorem bare_answerBefore (ask : BeforeAsk) (s : Switching) :
    Bare.answerBefore ask s.bare = ((answerBefore ask s).1, (answerBefore ask s).2.bare) := by
  cases ask with
  | switch ask => exact bare_answerSwitch ask s
  | abort => rfl

/-- A hook before a match runs without anchors as it does with them. -/
theorem bare_runBefore (rule : Rule σ τ) (context : BeforeContext) (stack : StateStack)
    (ambient : Ambient σ) :
    Bare.runBefore rule context stack.bare ambient.bare =
      ((runBefore rule context stack ambient).1, (runBefore rule context stack ambient).2.1.bare,
        (runBefore rule context stack ambient).2.2.bare) := by
  rw [Bare.runBefore, runBefore]
  cases rule.before with
  | none => rfl
  | some hook =>
      have hrun := Dialogue.run_map Switching.bare bare_answerBefore (hook context ambient.host)
        ⟨stack, ambient.journal, false⟩
      have hstart : (⟨stack.bare, ambient.bare.journal, false⟩ : Bare.Switching) =
        Switching.bare ⟨stack, ambient.journal, false⟩ := rfl
      simp only [Ambient.bare_host, hstart, hrun]
      rfl

/-- A hook that extends a token sees no anchors but the start of its match, which it is given. -/
theorem bare_runFetch (rule : Rule σ τ) (context : FetchContext) (cursor : Nat)
    (ambient : Ambient σ) :
    runFetch rule context cursor ambient.bare =
      ((runFetch rule context cursor ambient).1,
        (runFetch rule context cursor ambient).2.bare) := by
  unfold runFetch
  cases rule.fetch <;> rfl

/-- A hook after a token runs without anchors as it does with them. -/
theorem bare_runAfter (rule : Option (Rule σ τ)) (pending : Pending) (stream : TokenStream τ)
    (ambient : Ambient σ) :
    Bare.runAfter rule pending stream.bare ambient.bare =
      ((runAfter rule pending stream ambient).1, (runAfter rule pending stream ambient).2.1.bare,
        (runAfter rule pending stream ambient).2.2.bare) := by
  rw [Bare.runAfter, runAfter]
  have hlast : stream.bare.lastToken = stream.lastToken := rfl
  rw [hlast]
  cases rule.bind (·.after) with
  | none => rfl
  | some hook =>
      cases stream.lastToken with
      | none => rfl
      | some token =>
          have hstart : (⟨stream.bare.stack, ambient.bare.journal, false⟩ : Bare.Switching) =
            Switching.bare ⟨stream.stack, ambient.journal, false⟩ := rfl
          simp only [Ambient.bare_host, hstart, Dialogue.run_map Switching.bare bare_answerSwitch]
          rfl

/-- The end of a token is the same without anchors. -/
theorem bare_finishPending (lexer : Lexer σ τ) (stream : TokenStream τ) (ambient : Ambient σ) :
    Bare.finishPending lexer stream.bare ambient.bare =
      ((lexer.finishPending stream ambient).1, (lexer.finishPending stream ambient).2.1.bare,
        (lexer.finishPending stream ambient).2.2.bare) := by
  rw [Bare.finishPending, finishPending]
  have hpending : stream.bare.pending = stream.pending := rfl
  rw [hpending]
  cases stream.pending with
  | none => rfl
  | some pending =>
      dsimp only
      rw [bare_runAfter]
      generalize runAfter _ pending stream ambient = answer
      obtain ⟨result, stack, ambient₁⟩ := answer
      cases result <;> rfl

/-! ### Pulls -/

/-- A match that was not aborted becomes the same token, or fails alike. -/
theorem bare_produce (lexer : Lexer σ τ) (rule : Rule σ τ) (matched : MatchContext)
    (found : Found) (state : Nat) (stream : TokenStream τ) (ambient : Ambient σ) :
    Bare.produce lexer rule matched found state
        { stream.bare with cursor := stream.stack.anchor } ambient.bare =
      ((lexer.produce rule matched found state stream ambient).1,
        (lexer.produce rule matched found state stream ambient).2.1.bare,
        (lexer.produce rule matched found state stream ambient).2.2.bare) := by
  rw [Bare.produce, produce]
  dsimp only
  rw [bare_runFetch]
  have hname : stream.bare.stack.currentName = stream.stack.currentName := rfl
  rw [hname]
  generalize runFetch rule _ _ ambient = answer
  obtain ⟨result, ambient₁⟩ := answer
  cases result with
  | error e => rfl
  | ok cursor =>
      dsimp only [Ambient.bare_host]
      rw [Ambient.bare_note]
      rfl

/-- The stack that a `before` hook leaves has the end of the match for its current anchor,
whatever the hook has asked for. -/
theorem runBefore_anchor {rule : Rule σ τ} {context : BeforeContext} {stack left : StateStack}
    {stop : Nat} {ambient ambient' : Ambient σ} {result : Except LexError Bool} (h : stack.Valid)
    (hbefore : runBefore rule context (stack.setAnchor stop) ambient = (result, left, ambient')) :
    left.anchor = stop := by
  have hmoved := (h.setAnchor stop).moved_switched (runBefore_switched hbefore)
  rw [hmoved.anchor, h.anchor_setAnchor]

/-- **One attempt.** Where the current anchor is the cursor, both engines attempt the same
match. -/
theorem Ready.attempt_bare (h : Ready lexer stream) (ambient : Ambient σ) :
    Bare.attempt lexer stream.bare ambient.bare =
      ((lexer.attempt stream ambient).1, (lexer.attempt stream ambient).2.1.bare,
        (lexer.attempt stream ambient).2.2.bare) := by
  obtain ⟨input, cursor, stack, lastToken, pending, startError, finished⟩ := stream
  obtain rfl : stack.anchor = cursor := h.anchor_eq
  rw [Bare.attempt, attempt]
  simp only [TokenStream.bare, StateStack.bare_current, StateStack.bare_currentName,
    Query.bare_resolve]
  generalize Query.resolve _ ambient = answer
  obtain ⟨result, ambient₁⟩ := answer
  cases result with
  | error e => rfl
  | ok found? =>
      cases found? with
      | none => rfl
      | some p =>
          obtain ⟨found, rule⟩ := p
          dsimp only
          rw [← StateStack.bare_setAnchor stack found.stop, bare_runBefore]
          generalize hbefore : runBefore rule _ _ ambient₁ = ended
          obtain ⟨result, stack', ambient₂⟩ := ended
          cases result with
          | error e => rfl
          | ok aborted =>
              cases aborted with
              | true =>
                  dsimp only
                  rw [Ambient.bare_note]
                  rfl
              | false =>
                  rw [← runBefore_anchor h.valid hbefore]
                  exact bare_produce lexer rule _ found stack.current
                    ⟨input, stack.anchor, stack', lastToken, pending, startError, finished⟩
                    ambient₂

/-- Both engines attempt the same matches until one is not aborted. -/
theorem Ready.scan_bare (h : Ready lexer stream) {attempts : Nat} {ambient : Ambient σ}
    {out : Pull τ × TokenStream τ × Ambient σ}
    (hruns : ScanRuns lexer attempts stream ambient out) :
    Bare.scan lexer attempts stream.bare ambient.bare =
      (out.1, out.2.1.bare, out.2.2.bare) := by
  induction hruns with
  | stalled => rfl
  | @ended _ stream _ hends =>
      have hends' : ¬stream.bare.cursor < stream.bare.input.byteLength := hends
      rw [Bare.scan, if_neg hends', Ambient.bare_note]
      rfl
  | @token _ stream _ _ _ _ hgoes hattempt =>
      have hgoes' : stream.bare.cursor < stream.bare.input.byteLength := hgoes
      rw [Bare.scan, if_pos hgoes', h.attempt_bare, hattempt.eq]
  | @failed _ stream _ _ _ _ hgoes hattempt =>
      have hgoes' : stream.bare.cursor < stream.bare.input.byteLength := hgoes
      rw [Bare.scan, if_pos hgoes', h.attempt_bare, hattempt.eq]
  | @again _ stream _ _ _ _ hgoes hattempt _ ih =>
      have hgoes' : stream.bare.cursor < stream.bare.input.byteLength := hgoes
      rw [Bare.scan, if_pos hgoes', h.attempt_bare, hattempt.eq]
      exact ih (h.aborted hattempt).1

/-- An answer, closed without anchors. -/
theorem bare_pull_eq_close {s : Bare.Stream τ} {attempts : Nat} {ambient : Ambient σ}
    {out : Pull τ × TokenStream τ × Ambient σ} (hopen : s.finished = false)
    (hstep : Bare.step lexer attempts s ambient = (out.1, out.2.1.bare, out.2.2.bare)) :
    Bare.pull lexer attempts s ambient =
      ((close out).1, (close out).2.1.bare, (close out).2.2.bare) := by
  rw [Bare.pull, hopen, if_neg Bool.false_ne_true, hstep]
  obtain ⟨answer, stream', ambient'⟩ := out
  cases answer with
  | token t => rfl
  | failed e =>
      rw [close, Ambient.bare_note]
      rfl
  | ended => rfl
  | stalled => rfl

/-- **One pull.** Between pulls, both engines answer the same and are left alike. -/
theorem Rested.pull_bare (h : Rested lexer stream) (attempts : Nat) (ambient : Ambient σ) :
    Bare.pull lexer attempts stream.bare ambient.bare =
      ((lexer.pull attempts stream ambient).1, (lexer.pull attempts stream ambient).2.1.bare,
        (lexer.pull attempts stream ambient).2.2.bare) := by
  have hfinished : stream.bare.finished = stream.finished := rfl
  have hstartError : stream.bare.startError = stream.startError := rfl
  have hruns := lexer.pull_runs attempts stream ambient
  generalize lexer.pull attempts stream ambient = out at hruns
  cases hruns with
  | closed hclosed => rw [Bare.pull, hfinished, if_pos hclosed]
  | misplaced hopen herror =>
      refine bare_pull_eq_close hopen ?_
      rw [Bare.step, hstartError, herror]
      rfl
  | unfinished hopen herror hfinish =>
      refine bare_pull_eq_close hopen ?_
      rw [Bare.step, hstartError, herror, bare_finishPending, hfinish.eq]
  | searched hopen herror hfinish hscan =>
      obtain ⟨-, -, -, -, hready⟩ := h.finishRuns hopen hfinish
      refine bare_pull_eq_close hopen ?_
      rw [Bare.step, hstartError, herror, bare_finishPending, hfinish.eq]
      exact (hready rfl).scan_bare hscan

/-! ### Runs -/

/-- One turn of a run: what the host and other runs of the lexer do before a pull, and the
allowance of the pull. -/
structure Turn (σ : Type) where
  meanwhile : σ → AlternationCache → σ × AlternationCache
  attempts : Nat

/-- The ambient of the pull of a turn. -/
def Turn.begin (turn : Turn σ) (ambient : Ambient σ) : Ambient σ :=
  { ambient with
    host := (turn.meanwhile ambient.host ambient.cache).1
    cache := (turn.meanwhile ambient.host ambient.cache).2 }

/-- What can be seen after a pull: its answer, where the run stands, and the ambient with the
journal without anchors. -/
structure Seen (σ τ : Type) where
  answer : Pull τ
  position : Nat
  state : String
  depth : Nat
  ambient : Ambient σ

/-- What is seen of a run in its turns. -/
def watch (lexer : Lexer σ τ) : List (Turn σ) → TokenStream τ → Ambient σ → List (Seen σ τ)
  | [], _, _ => []
  | turn :: turns, stream, ambient =>
    let (answer, stream, ambient) := lexer.pull turn.attempts stream (turn.begin ambient)
    ⟨answer, stream.cursor, stream.stack.currentName, stream.stack.depth, ambient.bare⟩ ::
      lexer.watch turns stream ambient

/-- What is seen of a run of the engine without anchors. -/
def bareWatch (lexer : Lexer σ τ) : List (Turn σ) → Bare.Stream τ → Ambient σ → List (Seen σ τ)
  | [], _, _ => []
  | turn :: turns, stream, ambient =>
    let (answer, stream, ambient) := Bare.pull lexer turn.attempts stream (turn.begin ambient)
    ⟨answer, stream.cursor, stream.stack.currentName, stream.stack.depth, ambient.bare⟩ ::
      lexer.bareWatch turns stream ambient

/-- **What is watched of a run is what the engine without anchors shows**, by induction on the
turns. -/
theorem Rested.watch_bare (h : Rested lexer stream) (turns : List (Turn σ))
    (ambient : Ambient σ) :
    lexer.watch turns stream ambient = lexer.bareWatch turns stream.bare ambient.bare := by
  induction turns generalizing stream ambient with
  | nil => rfl
  | cons turn turns ih =>
      obtain ⟨-, hrested, -⟩ := h.pulled turn.attempts (turn.begin ambient)
      have hbegin : turn.begin ambient.bare = (turn.begin ambient).bare := rfl
      rw [watch, bareWatch, hbegin, h.pull_bare]
      dsimp only
      rw [Ambient.bare_bare, ih hrested]
      rfl

/-- Whatever a `before` hook asks for, the current anchor stays where it is. -/
theorem anchor_run_answerBefore {α : Type} {stack : StateStack} (h : stack.Valid)
    (hook : Dialogue BeforeAsk BeforeAsk.Reply α) (journal : Journal) :
    (hook.run answerBefore ⟨stack, journal, false⟩).2.stack.anchor = stack.anchor :=
  (h.moved_switched (Dialogue.run_kept (fun s : Switching => stack.Switched s.stack)
    answerBefore_switched hook .refl)).anchor

/-- **Anchors refine to a single cursor.** Whatever turns a run takes, the engine with anchors and
the engine without them show the same: the same answers, positions, states and depths, and the
same host, cache and journal. For the lexer that records its hooks this includes every context
that was passed and every reply that was given. Whenever the search for a match begins, the current
anchor is the cursor, and whatever the `before` hook of the match asks for, the current anchor is
the end of the match. -/
theorem anchors_refine_to_cursor {table : StateTable (Rule σ τ)} {config : LexerConfig}
    {factory : BaseToken → Text → τ} {lexer : Lexer σ τ} {cache : AlternationCache}
    {journal : Journal} (hmake : Lexer.make table config factory = (.ok (lexer, cache), journal))
    (input : Text) (start : Nat) :
    (∀ turns ambient,
      lexer.watch turns (lexer.tokenizeFrom input start).1 ambient =
        lexer.bareWatch turns (Bare.tokenizeFrom lexer input start) ambient.bare) ∧
    (∀ turns ambient,
      lexer.recorded.watch turns (lexer.tokenizeFrom input start).1 ambient =
        lexer.recorded.bareWatch turns (Bare.tokenizeFrom lexer input start) ambient.bare) ∧
    ∀ stream, AtLoopHead lexer input start stream →
      stream.stack.anchor = stream.cursor ∧
        ∀ ambient found rule, lexer.Resolves stream ambient found rule →
          ∀ (hook : Dialogue BeforeAsk BeforeAsk.Reply (HookEnd σ)) (journal : Journal),
            (hook.run answerBefore
              ⟨stream.stack.setAnchor found.stop, journal, false⟩).2.stack.anchor = found.stop := by
  obtain ⟨hnames, -⟩ := make_ok hmake
  refine ⟨?_, ?_, ?_⟩
  · intro turns ambient
    exact (tokenizeFrom_rested hnames input start).watch_bare turns ambient
  · intro turns ambient
    exact (lexer.recorded.tokenizeFrom_rested hnames input start).watch_bare turns ambient
  · intro stream hhead
    have hready := hhead.ready hnames
    refine ⟨hready.anchor_eq, ?_⟩
    intro ambient found rule _ hook journal
    rw [anchor_run_answerBefore (hready.valid.setAnchor _), hready.valid.anchor_setAnchor]

/-- Brackets: the state `inner` is entered by the one and left by the other, each in a `before`
hook, and the second also tries to leave the base state. -/
def bracketTable : StateTable (Rule Unit Token) :=
  (StateTable.flat
    [{ pattern := .source ['\\', '(']
       before := some fun _ host =>
         .ask (.switch (.push "inner")) fun _ => .done (.ok (), host) }]).declare "inner"
    [{ pattern := .source ['\\', ')']
       before := some fun _ host =>
         .ask (.switch .pop) fun _ => .ask (.switch .pop) fun _ => .done (.ok (), host) }]

/-- Both engines go into the brackets and out again, twice. -/
theorem anchors_refine_to_cursor_brackets :
    ∃ (lexer : Lexer Unit Token) (turns : List (Turn Unit)) (ambient : Ambient Unit),
      (lexer.watch turns (lexer.tokenizeFrom ['(', ')', '(', ')'] 0).1 ambient).map
          (fun seen => (seen.position, seen.depth)) = [(1, 1), (2, 0), (3, 1), (4, 0), (4, 0)] ∧
        lexer.watch turns (lexer.tokenizeFrom ['(', ')', '(', ')'] 0).1 ambient =
          lexer.bareWatch turns (Bare.tokenizeFrom lexer ['(', ')', '(', ')'] 0) ambient.bare := by
  have hrun : (match (Lexer.make bracketTable {} Token.make).1 with
      | .ok (lexer, cache) => decide
          ((lexer.watch (List.replicate 5 ⟨Prod.mk, 1⟩)
              (lexer.tokenizeFrom ['(', ')', '(', ')'] 0).1 ⟨cache, (), #[]⟩).map
            (fun seen => (seen.position, seen.depth)) =
              [(1, 1), (2, 0), (3, 1), (4, 0), (4, 0)])
      | .error _ => false) = true := by
    decide +kernel
  split at hrun
  · next lexer cache hmake =>
      have hmake' : Lexer.make bracketTable {} Token.make = (.ok (lexer, cache), _) :=
        Prod.ext hmake rfl
      exact ⟨lexer, _, _, of_decide_eq_true hrun,
        (anchors_refine_to_cursor hmake' ['(', ')', '(', ')'] 0).1 _ _⟩
  · exact absurd hrun (by simp)

end Lexer

end ModalLex
