import ModalLex.Error
import ModalLex.Log.Basic
import ModalLex.Text.Terminal

/-!
# Log events

What a lexer reports while it is made and runs. An event belongs to a stage and has a level, a
message and named fields; how it is written depends on the format. The lexer always keeps its
full journal, and `journalLines` writes the part of it that some settings let through.
-/

namespace ModalLex

/-- One report of a lexer. -/
inductive Event where
  | creatingLexer (states : Nat) (base : String) (eager : Bool)
  | compiledAlternation (state : String) (first rules : Nat) (source : Text)
  | noRulesLeft (state : String) (first : Nat)
  | startingTokenization (length start : Nat)
  | noAlternativeMatched (state : String) (offset first : Nat)
  | predicateRejected (state : String) (rule offset : Nat)
  | resolvedRule (state : String) (rule start stop : Nat)
  | pushedState (state : String) (depth anchor : Nat)
  | poppedState (state : String) (depth anchor : Nat)
  | matchAborted (rule start : Nat) (state : String)
  | producedToken (kind : Text) (start stop : Nat) (state : String)
  | reachedEnd (position : Nat)
  | tokenizationFailed (error : LexError) (position : Nat) (state : String)
deriving DecidableEq, Repr

/-- The events of a lexer in the order of their report. -/
abbrev Journal := Array Event

/-- The value of a field of an event. -/
inductive FieldValue where
  | text (t : Text)
  | nat (n : Nat)
  | bool (b : Bool)
deriving DecidableEq, Repr

/-- A field as shown in a line: texts between quotes. -/
def FieldValue.show : FieldValue → String
  | .text t => t.quoted
  | .nat n => natText n
  | .bool b => boolText b

namespace Event

/-- The stage that an event belongs to. -/
def stage : Event → Stage
  | .compiledAlternation .. | .noRulesLeft .. => .compiler
  | .noAlternativeMatched .. | .predicateRejected .. | .resolvedRule .. => .resolver
  | _ => .engine

/-- The level of an event. -/
def level : Event → LogLevel
  | .creatingLexer .. | .compiledAlternation .. | .startingTokenization ..
  | .pushedState .. | .poppedState .. => .debug
  | .tokenizationFailed .. => .warn
  | _ => .trace

/-- The message of an event. -/
def message : Event → String
  | .creatingLexer .. => "Creating lexer"
  | .compiledAlternation .. => "Compiled alternation"
  | .noRulesLeft .. => "No rules left for suffix alternation"
  | .startingTokenization .. => "Starting tokenization"
  | .noAlternativeMatched .. => "No alternative matched"
  | .predicateRejected .. => "Predicate rejected match, retrying later rules"
  | .resolvedRule .. => "Resolved rule"
  | .pushedState .. => "Pushed state"
  | .poppedState .. => "Popped state"
  | .matchAborted .. => "Match aborted, re-evaluating position"
  | .producedToken .. => "Produced token"
  | .reachedEnd .. => "Reached end of input"
  | .tokenizationFailed error .. => "Tokenization failed: " ++ error.message

/-- The fields of an event. -/
def fields : Event → List (String × FieldValue)
  | .creatingLexer states base eager =>
    [("states", .nat states), ("base", .text base.toList), ("eager", .bool eager)]
  | .compiledAlternation state first rules source =>
    [("state", .text state.toList), ("from", .nat first), ("rules", .nat rules),
      ("source", .text source)]
  | .noRulesLeft state first => [("state", .text state.toList), ("from", .nat first)]
  | .startingTokenization length start => [("len", .nat length), ("start", .nat start)]
  | .noAlternativeMatched state offset first =>
    [("state", .text state.toList), ("at", .nat offset), ("from", .nat first)]
  | .predicateRejected state rule offset =>
    [("state", .text state.toList), ("rule", .nat rule), ("at", .nat offset)]
  | .resolvedRule state rule start stop =>
    [("state", .text state.toList), ("rule", .nat rule), ("start", .nat start),
      ("end", .nat stop)]
  | .pushedState state depth anchor | .poppedState state depth anchor =>
    [("state", .text state.toList), ("depth", .nat depth), ("anchor", .nat anchor)]
  | .matchAborted rule start state =>
    [("rule", .nat rule), ("start", .nat start), ("state", .text state.toList)]
  | .producedToken kind start stop state =>
    [("kind", .text kind), ("start", .nat start), ("end", .nat stop),
      ("state", .text state.toList)]
  | .reachedEnd position => [("position", .nat position)]
  | .tokenizationFailed _ position state =>
    [("position", .nat position), ("state", .text state.toList)]

end Event

/-- One entry of a written log. -/
inductive LogLine where
  | line (text : String)
  | record (level target message : String) (fields : List (String × FieldValue))

/-- The name of a level in a log. -/
def LogLevel.label : LogLevel → String
  | .off => "OFF"
  | .error => "ERROR"
  | .warn => "WARN"
  | .info => "INFO"
  | .debug => "DEBUG"
  | .trace => "TRACE"

/-- A label filled up to five columns from the left. -/
def padLabel (label : String) : String :=
  String.ofList (List.replicate (5 - label.length) ' ') ++ label

/-- An event in a format. A compact line aligns the level and sets the fields behind blanks; a
pretty line sets them behind commas. Lines may go to a terminal, so their messages are defused. -/
def Event.write (format : LogFormat) (event : Event) : LogLine :=
  let label := event.level.label
  let target := event.stage.target
  let message := String.ofList (Text.defuse event.message.toList)
  match format with
  | .compact =>
    .line (padLabel label ++ " " ++ target ++ ": " ++ message ++
      String.join (event.fields.map fun field => " " ++ field.1 ++ "=" ++ field.2.show))
  | .pretty =>
    .line (label ++ " " ++ target ++ ": " ++ message ++
      String.join (event.fields.map fun field => ", " ++ field.1 ++ ": " ++ field.2.show))
  | .json => .record label target event.message event.fields

/-- The lines of a journal that some settings let through. -/
def journalLines (config : LogConfig) (journal : Journal) : List LogLine :=
  let filter := LogFilter.ofConfig config
  (journal.toList.filter fun event => filter.enabled event.stage.target event.level).map
    (Event.write config.format)

end ModalLex
