import ModalLex.Lexer
import ModalLex.Script.Hooks

/-!
# Sessions

A session is a lexer of scripted rules with the runs that have been started on it. Its steps start
runs, pull from them in any order, drop them, and ask about them and about the lexer. All runs
share the cache of the lexer and one journal.
-/

namespace ModalLex

open Script

/-! ### Lexers of scripts -/

/-- The description of a lexer whose rules are scripts. -/
structure LexerScript where
  /-- The rules of an entry without a name, which comes first. -/
  flat : Option (List RuleScript) := none
  states : List (String × List RuleScript) := []
  config : LexerConfig := {}
  /-- Whether tokens carry their line instead of their text. -/
  lineTokens : Bool := false
  /-- The units that the scripts of one pull may use. -/
  budget : Nat := 1000

namespace LexerScript

/-- The table of states. -/
def table (script : LexerScript) : StateTable (Rule Ledger AnyToken) :=
  let start : StateTable (Rule Ledger AnyToken) := match script.flat with
    | none => .empty
    | some rules => .flat (rules.map RuleScript.toRule)
  script.states.foldl (fun table state => table.declare state.1 (state.2.map RuleScript.toRule))
    start

/-- How tokens are made. -/
def factory (script : LexerScript) (base : BaseToken) (input : Text) : AnyToken :=
  if script.lineTokens then .lined (.make base input) else .plain (.make base input)

end LexerScript

/-- A lexer with the runs started on it; a dropped run leaves a gap. -/
structure Session where
  lexer : Lexer Ledger AnyToken
  ambient : Ambient Ledger
  streams : Array (Option (TokenStream AnyToken))

/-- Where a run stands. -/
structure Standing where
  position : Nat
  state : String
  depth : Nat

/-- The answer to a pull, where the run stands then, and the hook calls that were made. -/
structure PullReport where
  pull : Pull AnyToken
  standing : Standing
  calls : Array Call

/-- What can be known of a rule. -/
structure RuleReport where
  source : Text
  kind : String
  hasPredicate : Bool
  description : String

/-- What a session can be asked to do. Runs are numbered in the order of their start. -/
inductive SessionStep where
  | start (input : Text) (offset : Nat)
  | next (run : Nat)
  | drain (run limit : Nat) (keep : Option Nat)
  | info (run : Nat)
  | drop (run : Nat)
  | states
  | rules (state : String)
  | config
  | describe

/-- The answer to a step. -/
inductive SessionAnswer where
  | started (run : Nat) (standing : Standing)
  | pulled (report : PullReport)
  | drained (reports : List PullReport)
  /-- The number of pulls and the last few of them. -/
  | drainedTail (pulls : Nat) (reports : List PullReport)
  | info (run : Nat) (standing : Standing)
  | dropped
  | states (names : List String) (base : String)
  | rules (reports : Option (List RuleReport))
  | config (config : LexerConfig)
  | description (text : String)

namespace Session

/-- Makes the lexer of a session. The journal tells what was done, also where it failed. -/
def make (script : LexerScript) : Except ConfigError Session × Journal :=
  match Lexer.make script.table script.config script.factory with
  | (.error e, journal) => (.error e, journal)
  | (.ok (lexer, cache), journal) =>
    let ambient : Ambient Ledger := { cache, host := { budget := script.budget }, journal }
    (.ok { lexer, ambient, streams := #[] }, journal)

/-- Where a run stands. -/
def standing (stream : TokenStream AnyToken) : Standing where
  position := stream.cursor
  state := stream.stack.currentName
  depth := stream.stack.depth

/-- The attempts that a pull is allowed. Every aborted match uses a unit of the budget, and the
scripts fail when it is exceeded, so a pull of scripted rules never stalls. -/
def attempts (ledger : Ledger) : Nat := ledger.budget + 2

/-- Pulls from a run that stands by itself. -/
def pullStream (lexer : Lexer Ledger AnyToken) (stream : TokenStream AnyToken)
    (ambient : Ambient Ledger) : PullReport × TokenStream AnyToken × Ambient Ledger :=
  let ambient := { ambient with host := ambient.host.renew }
  let (pull, stream, ambient) := lexer.pull (attempts ambient.host) stream ambient
  ({ pull, standing := standing stream, calls := ambient.host.calls }, stream, ambient)

/-- Pulls until the end or an error, or until a number of pulls. -/
def drainStream (lexer : Lexer Ledger AnyToken) :
    (limit : Nat) → TokenStream AnyToken → Ambient Ledger → Array PullReport →
      Array PullReport × TokenStream AnyToken × Ambient Ledger
  | 0, stream, ambient, reports => (reports, stream, ambient)
  | limit + 1, stream, ambient, reports =>
    let (report, stream, ambient) := pullStream lexer stream ambient
    let reports := reports.push report
    match report.pull with
    | .token _ => drainStream lexer limit stream ambient reports
    | _ => (reports, stream, ambient)

/-- The run with a number, unless it was dropped. -/
def stream? (session : Session) (run : Nat) : Option (TokenStream AnyToken) :=
  (session.streams[run]?).getD none

/-- Puts a run back. -/
def putStream (session : Session) (run : Nat) (stream : TokenStream AnyToken)
    (ambient : Ambient Ledger) : Session :=
  { session with ambient, streams := session.streams.setIfInBounds run (some stream) }

/-- What can be known of a rule. -/
def ruleReport (rule : Rule Ledger AnyToken) : RuleReport where
  source := rule.pattern.text
  kind := rule.kind.describe
  hasPredicate := rule.test.isSome
  description := rule.describe

/-- Takes one step. -/
def step (session : Session) : SessionStep → SessionAnswer × Session
  | .start input offset =>
    let (stream, event) := session.lexer.tokenizeFrom input offset
    (.started session.streams.size (standing stream),
      { session with
        ambient := session.ambient.note event
        streams := session.streams.push (some stream) })
  | .next run =>
    match session.stream? run with
    | none => (.dropped, session)
    | some stream =>
      let (report, stream, ambient) := pullStream session.lexer stream session.ambient
      (.pulled report, session.putStream run stream ambient)
  | .drain run limit keep =>
    match session.stream? run with
    | none => (.dropped, session)
    | some stream =>
      let (reports, stream, ambient) :=
        drainStream session.lexer limit stream session.ambient #[]
      let answer := match keep with
        | none => SessionAnswer.drained reports.toList
        | some k => .drainedTail reports.size (reports.toList.drop (reports.size - k))
      (answer, session.putStream run stream ambient)
  | .info run =>
    match session.stream? run with
    | none => (.dropped, session)
    | some stream => (.info run (standing stream), session)
  | .drop run => (.dropped, { session with streams := session.streams.setIfInBounds run none })
  | .states => (.states session.lexer.names.names session.lexer.names.baseName, session)
  | .rules state =>
    (.rules ((session.lexer.rulesNamed? state).map fun rules => rules.map ruleReport), session)
  | .config => (.config session.lexer.config, session)
  | .describe =>
    (.description (session.lexer.describe session.ambient.cache), session)

/-- Takes steps in order. -/
def run (session : Session) : List SessionStep → List SessionAnswer × Session
  | [] => ([], session)
  | next :: rest =>
    let (answer, session) := session.step next
    let (answers, session) := session.run rest
    (answer :: answers, session)

end Session

/-! ### All tokens at once -/

/-- Pulls all tokens of a run: the tokens, or the first error. `none` tells that the allowance of
pulls was used up. -/
def collectTokens {σ τ : Type} (lexer : Lexer σ τ) (attempts : Nat) :
    (pulls : Nat) → TokenStream τ → Ambient σ → Array τ → Option (Except LexError (List τ))
  | 0, _, _, _ => none
  | pulls + 1, stream, ambient, tokens =>
    match lexer.pull attempts stream ambient with
    | (.token token, stream, ambient) =>
      collectTokens lexer attempts pulls stream ambient (tokens.push token)
    | (.failed e, _, _) => some (.error e)
    | (.ended, _, _) => some (.ok tokens.toList)
    | (.stalled, _, _) => none

/-- Makes a lexer of some rules with default settings and pulls all tokens of an input. -/
def tokenize {σ τ : Type} (rules : List (Rule σ τ)) (factory : BaseToken → Text → τ) (host : σ)
    (attempts pulls : Nat) (input : Text) : Option (Except LexError (List τ)) :=
  match Lexer.make (.flat rules) {} factory with
  | (.error e, _) => some (.error (.config e))
  | (.ok (lexer, cache), journal) =>
    let (stream, event) := lexer.tokenizeFrom input 0
    let ambient : Ambient σ := { cache, host, journal }
    collectTokens lexer attempts pulls stream (ambient.note event) #[]

end ModalLex
