import ModalLex.Config.Basic
import ModalLex.Resolver
import ModalLex.StateStack

/-!
# Lexers

A lexer is made once from a table of states and then runs over any number of inputs. A run is a
`TokenStream`, from which tokens are **pulled** one by one:

1. the `after` hook of the token before runs, and the current state goes on at the cursor;
2. a rule is resolved at the anchor of the current state;
3. its `before` hook runs, which may switch states or abort; an abort starts again at step 2 with
   the state it leaves behind;
4. its `fetch` hook may extend the token beyond the match;
5. its `value` hook and its kind make the token.

A hook that aborts every match would keep a pull going for ever. `pull` therefore takes an
allowance of attempts and answers `stalled` when they are used up; a pull that answers anything
else answers the same with more.
-/

namespace ModalLex

/-- A lexer for tokens of type `τ`, whose hooks use a host state of type `σ`. -/
structure Lexer (σ τ : Type) where
  config : LexerConfig
  compiler : Compiler
  rules : List (List (Rule σ τ))
  factory : BaseToken → Text → τ

/-- The match of the token before, whose `after` hook has still to run: the state that it was
made in, the number of its rule there, and where it starts and ends. -/
structure Pending where
  state : Nat
  rule : Nat
  start : Nat
  matchEnd : Nat
deriving DecidableEq, Repr

/-- The state of one run over an input. -/
structure TokenStream (τ : Type) where
  input : Text
  cursor : Nat
  stack : StateStack
  lastToken : Option τ
  pending : Option Pending
  startError : Option LexError
  finished : Bool

/-- The answer to a pull. -/
inductive Pull (τ : Type) where
  | token (token : τ)
  | failed (error : LexError)
  | ended
  /-- The allowance of attempts is used up. -/
  | stalled

namespace Lexer

variable {σ τ : Type}

/-- The names of the states. -/
def names (lexer : Lexer σ τ) : StateNames := lexer.compiler.names

/-- The rules of the state with a number. -/
def rulesOf (lexer : Lexer σ τ) (state : Nat) : List (Rule σ τ) := lexer.rules.getD state []

/-- The rules of the state with a name. -/
def rulesNamed? (lexer : Lexer σ τ) (name : String) : Option (List (Rule σ τ)) :=
  (lexer.names.lookup? name).map lexer.rulesOf

/-- Makes a lexer: the table is resolved, every pattern is checked by itself, and, if the settings
ask for it, the full alternation of every state is built. The journal tells what was done, also
where it failed. -/
def make (table : StateTable (Rule σ τ)) (config : LexerConfig)
    (factory : BaseToken → Text → τ) :
    Except ConfigError (Lexer σ τ × AlternationCache) × Journal :=
  let journal := #[Event.creatingLexer table.size config.baseState config.eagerCompile]
  match table.resolve config.baseState with
  | .error e => (.error e, journal)
  | .ok (names, rules) =>
    match Compiler.ofRules names rules with
    | .error e => (.error e, journal)
    | .ok compiler =>
      let lexer : Lexer σ τ := { config, compiler, rules, factory }
      if config.eagerCompile then
        match compiler.compileAll .empty journal with
        | (.error e, _, journal) => (.error e, journal)
        | (.ok (), cache, journal) => (.ok (lexer, cache), journal)
      else (.ok (lexer, .empty), journal)

/-- A lexer, as shown in a description: its settings, its states with the number of their rules,
and the number of alternations built so far. -/
def describe (lexer : Lexer σ τ) (cache : AlternationCache) : String :=
  let states := (lexer.names.names.zip lexer.rules).map fun (name, rules) =>
    "(" ++ Text.quoted name.toList ++ ", " ++ natText rules.length ++ ")"
  "Lexer \x7b config: " ++ lexer.config.describe ++ ", states: [" ++
    ", ".intercalate states ++ "], compiled: " ++ natText cache.count ++ " \x7d"

/-! ### Runs -/

/-- What is wrong with an offset to start at. -/
def startError? (input : Text) (start : Nat) : Option LexError :=
  if input.byteLength < start then
    some (.cursor (.outOfBounds start input.byteLength))
  else if !input.isBoundary start then some (.cursor (.notCharBoundary start))
  else none

/-- Starts a run at an offset. A wrong offset is reported by the first pull. -/
def tokenizeFrom (lexer : Lexer σ τ) (input : Text) (start : Nat) : TokenStream τ × Event :=
  let error := startError? input start
  let offset := if error.isSome then 0 else start
  ({ input
     cursor := offset
     stack := .start lexer.names offset
     lastToken := none
     pending := none
     startError := error
     finished := false },
   .startingTokenization input.byteLength start)

/-! ### Hooks -/

/-- What a hook that switches states works on. -/
structure Switching where
  stack : StateStack
  journal : Journal
  aborted : Bool

/-- Answers a question about states. A switch that succeeds is reported, one that fails changes
nothing. -/
def answerSwitch : (ask : SwitchAsk) → Switching → ask.Reply × Switching
  | .push name, s =>
    match s.stack.push name with
    | .error e => (.error e, s)
    | .ok stack =>
      (.ok (), { s with
        stack, journal := s.journal.push (.pushedState name stack.depth stack.anchor) })
  | .pop, s =>
    match s.stack.pop with
    | .error e => (.error e, s)
    | .ok stack =>
      (.ok (), { s with
        stack
        journal := s.journal.push (.poppedState stack.currentName stack.depth stack.anchor) })
  | .currentState, s => (s.stack.currentName, s)

/-- Answers a question of a `before` hook. -/
def answerBefore : (ask : BeforeAsk) → Switching → ask.Reply × Switching
  | .switch ask, s => answerSwitch ask s
  | .abort, s => ((), { s with aborted := true })

/-- Answers a question of a `fetch` hook. A move that fails leaves the cursor where it is. -/
def answerFetch : (ask : FetchAsk) → Window → ask.Reply × Window
  | .peek, w => (w.peek, w)
  | .next, w => w.next
  | .back count, w =>
    match w.back count with
    | .ok moved => (.ok (), moved)
    | .error e => (.error e, w)
  | .advanceTo offset, w =>
    match w.advanceTo offset with
    | .ok moved => (.ok (), moved)
    | .error e => (.error e, w)
  | .position, w => (w.cursor, w)

/-- Runs the `before` hook of a rule: its result, whether it aborts, and the stack it leaves. -/
def runBefore (rule : Rule σ τ) (context : BeforeContext) (stack : StateStack)
    (ambient : Ambient σ) : Except LexError Bool × StateStack × Ambient σ :=
  match rule.before with
  | none => (.ok false, stack, ambient)
  | some hook =>
    let ((result, host), s) :=
      (hook context ambient.host).run answerBefore ⟨stack, ambient.journal, false⟩
    (result.map fun _ => s.aborted, s.stack, { ambient with host, journal := s.journal })

/-- Runs the `fetch` hook of a rule and gives the offset it moved to. -/
def runFetch (rule : Rule σ τ) (context : FetchContext) (cursor : Nat) (ambient : Ambient σ) :
    Except LexError Nat × Ambient σ :=
  match rule.fetch with
  | none => (.ok cursor, ambient)
  | some hook =>
    let ((result, host), w) :=
      (hook context ambient.host).run answerFetch ⟨context.input, cursor, cursor⟩
    (result.map fun _ => w.cursor, { ambient with host })

/-- The value of a token: that of the hook, or the text of the token. -/
def valueOf (rule : Rule σ τ) (context : ValueContext) (host : σ) : Value × σ :=
  match rule.value with
  | none => (.text context.text, host)
  | some hook => hook context host

/-- The kind of a token. -/
def kindOf (rule : Rule σ τ) (matched : Text) (host : σ) : Text × σ :=
  match rule.kind with
  | .matched => (matched, host)
  | .literal kind => (kind, host)
  | .derived derive => derive matched host

/-- Runs the `after` hook of a rule on the token just emitted: its result and the stack it
leaves. -/
def runAfter (rule : Option (Rule σ τ)) (pending : Pending) (stream : TokenStream τ)
    (ambient : Ambient σ) : Except LexError Unit × StateStack × Ambient σ :=
  match rule.bind (·.after), stream.lastToken with
  | some hook, some token =>
    let context : AfterContext τ :=
      { input := stream.input
        matched := stream.input.slice pending.start pending.matchEnd
        start := pending.start
        position := stream.cursor
        token }
    let ((result, host), s) :=
      (hook context ambient.host).run answerSwitch ⟨stream.stack, ambient.journal, false⟩
    (result, s.stack, { ambient with host, journal := s.journal })
  | _, _ => (.ok (), stream.stack, ambient)

/-- Finishes the token before: its `after` hook runs, and the current state goes on at the
cursor. -/
def finishPending (lexer : Lexer σ τ) (stream : TokenStream τ) (ambient : Ambient σ) :
    Except LexError Unit × TokenStream τ × Ambient σ :=
  match stream.pending with
  | none => (.ok (), stream, ambient)
  | some pending =>
    let rule := (lexer.rulesOf pending.state)[pending.rule]?
    let (result, stack, ambient) := runAfter rule pending stream ambient
    match result with
    | .error e => (.error e, { stream with pending := none, stack }, ambient)
    | .ok () =>
      (.ok (), { stream with pending := none, stack := stack.setAnchor stream.cursor }, ambient)

/-! ### Pulls -/

/-- The end of one attempt to match: what a pull answers, or that the match was aborted. -/
inductive Attempt (τ : Type) where
  | token (token : τ)
  | failed (error : LexError)
  | aborted

/-- Makes the token of a match that was not aborted. `state` is the state that the match was
made in. -/
def produce (lexer : Lexer σ τ) (rule : Rule σ τ) (matched : MatchContext) (found : Found)
    (state : Nat) (stream : TokenStream τ) (ambient : Ambient σ) :
    Attempt τ × TokenStream τ × Ambient σ :=
  let stream := { stream with cursor := stream.stack.anchor }
  let here := stream.stack.currentName
  match runFetch rule { matched with state := here } stream.cursor ambient with
  | (.error e, ambient) => (.failed e, stream, ambient)
  | (.ok cursor, ambient) =>
    let stream := { stream with cursor }
    let (value, host) :=
      valueOf rule { matched with state := here, position := cursor } ambient.host
    let (kind, host) := kindOf rule matched.matched host
    let ambient := { ambient with host }.note
      (.producedToken kind matched.start cursor (lexer.names.name state))
    let token :=
      lexer.factory { kind, value, start := matched.start, stop := cursor } stream.input
    (.token token,
      { stream with
        lastToken := some token
        pending := some
          { state, rule := found.rule, start := matched.start, matchEnd := found.stop } },
      ambient)

/-- One attempt to match at the anchor of the current state. -/
def attempt (lexer : Lexer σ τ) (stream : TokenStream τ) (ambient : Ambient σ) :
    Attempt τ × TokenStream τ × Ambient σ :=
  let state := stream.stack.current
  let name := stream.stack.currentName
  let start := stream.stack.anchor
  let query : Query σ τ :=
    { compiler := lexer.compiler
      rules := lexer.rulesOf state
      state
      input := stream.input
      offset := start
      lastToken := stream.lastToken }
  match query.resolve ambient with
  | (.error e, ambient) => (.failed (.config e), stream, ambient)
  | (.ok none, ambient) => (.failed (.noMatch start name), stream, ambient)
  | (.ok (some (found, rule)), ambient) =>
    let matched : MatchContext :=
      { input := stream.input, matched := stream.input.slice start found.stop, start }
    let (result, stack, ambient) :=
      runBefore rule { matched with position := stream.cursor }
        (stream.stack.setAnchor found.stop) ambient
    match result with
    | .error e => (.failed e, { stream with stack }, ambient)
    | .ok true =>
      (.aborted, { stream with cursor := start, stack := stack.setAnchor start },
        ambient.note (.matchAborted found.rule start stack.currentName))
    | .ok false => lexer.produce rule matched found state { stream with stack } ambient

/-- Attempts matches until one is not aborted or the input is at its end. -/
def scan (lexer : Lexer σ τ) : (attempts : Nat) → TokenStream τ → Ambient σ →
    Pull τ × TokenStream τ × Ambient σ
  | 0, stream, ambient => (.stalled, stream, ambient)
  | attempts + 1, stream, ambient =>
    if stream.cursor < stream.input.byteLength then
      match lexer.attempt stream ambient with
      | (.token token, stream, ambient) => (.token token, stream, ambient)
      | (.failed e, stream, ambient) => (.failed e, stream, ambient)
      | (.aborted, stream, ambient) => lexer.scan attempts stream ambient
    else (.ended, stream, ambient.note (.reachedEnd stream.cursor))

/-- One step of a run that is not finished. -/
def step (lexer : Lexer σ τ) (attempts : Nat) (stream : TokenStream τ)
    (ambient : Ambient σ) : Pull τ × TokenStream τ × Ambient σ :=
  match stream.startError with
  | some e => (.failed e, { stream with startError := none }, ambient)
  | none =>
    match lexer.finishPending stream ambient with
    | (.error e, stream, ambient) => (.failed e, stream, ambient)
    | (.ok (), stream, ambient) => lexer.scan attempts stream ambient

/-- Pulls the next token. After an error or the end, a run only answers that it has ended. -/
def pull (lexer : Lexer σ τ) (attempts : Nat) (stream : TokenStream τ)
    (ambient : Ambient σ) : Pull τ × TokenStream τ × Ambient σ :=
  if stream.finished then (.ended, stream, ambient)
  else
    match lexer.step attempts stream ambient with
    | (.failed e, stream, ambient) =>
      (.failed e, { stream with finished := true },
        ambient.note (.tokenizationFailed e stream.cursor stream.stack.currentName))
    | (.ended, stream, ambient) => (.ended, { stream with finished := true }, ambient)
    | answer => answer

end Lexer

end ModalLex
