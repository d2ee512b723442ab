import ModalLex.Rule
import ModalLex.Script.Statement

/-!
# Rules with scripts

A `RuleScript` is a rule whose hooks are scripts; `RuleScript.toRule` makes the rule of it. The
hooks share a `Ledger`, the host state of such rules: the budget of a pull, what is used of it,
and a record of the hook calls in order.
-/

namespace ModalLex.Script

/-! ### Calls -/

/-- What a hook saw when it was entered. -/
structure Entry where
  rule : String
  matched : Text
  start : Nat
  position : Nat
  state : String
  inputLength : Nat

/-- The record of a hook call. -/
inductive Call where
  | test (entry : Entry) (last : Option AnyToken) (result : Bool)
  | kind (rule : String) (matched : Text) (result : Text)
  | value (entry : Entry) (text : Text) (result : Value)
  | before (entry : Entry) (notes : Array Note) (stateAfter : String) (ok : Bool)
  | fetch (entry : Entry) (notes : Array Note) (positionAfter : Nat) (text : Text)
      (restLength : Nat) (ok : Bool)
  | after (entry : Entry) (token : AnyToken) (notes : Array Note) (stateAfter : String)
      (ok : Bool)

/-- The host state of scripted rules. -/
structure Ledger where
  budget : Nat
  used : Nat := 0
  calls : Array Call := #[]

namespace Ledger

/-- A fresh count and record, for the next pull. -/
def renew (ledger : Ledger) : Ledger := { budget := ledger.budget }

/-- Records a call. -/
def record (ledger : Ledger) (call : Call) : Ledger :=
  { ledger with calls := ledger.calls.push call }

end Ledger

/-! ### Dialects -/

/-- The actions that switch states. -/
def performSwitch : Action → Dialogue SwitchAsk SwitchAsk.Reply (Except LexError (List Note))
  | .push name => .ask (.push name) fun reply =>
    match (reply : Except StateError Unit) with
    | .ok () => .done (.ok [])
    | .error e => .done (.error (.state e))
  | .pop => .ask .pop fun reply =>
    match (reply : Except StateError Unit) with
    | .ok () => .done (.ok [])
    | .error e => .done (.error (.state e))
  | _ => .done (.error unsupported)

/-- Carries a dialogue about states into a `before` hook. -/
def liftSwitch {α : Type} :
    Dialogue SwitchAsk SwitchAsk.Reply α → Dialogue BeforeAsk BeforeAsk.Reply α
  | .done a => .done a
  | .ask q next => .ask (.switch q) fun reply => liftSwitch (next reply)

/-- The actions of a `before` hook. -/
def performBefore : Action → Dialogue BeforeAsk BeforeAsk.Reply (Except LexError (List Note))
  | .abort => .ask .abort fun _ => .done (.ok [])
  | action => liftSwitch (performSwitch action)

/-- The name of the current state. -/
def askState : Dialogue SwitchAsk SwitchAsk.Reply String := .ask .currentState .done

/-- The offset of the cursor. -/
def askPosition : Dialogue FetchAsk FetchAsk.Reply Nat := .ask .position .done

/-- Steps over some characters and notes each. -/
def stepNext : (count : Nat) → Array Note →
    Dialogue FetchAsk FetchAsk.Reply (Except LexError (List Note))
  | 0, notes => .done (.ok notes.toList)
  | count + 1, notes =>
    .ask .next fun c => askPosition.bind fun position =>
      stepNext count (notes.push (.next c position))

/-- Moves to an offset and notes the move. -/
def moveTo (offset : Nat) (note : Nat → Note) :
    Dialogue FetchAsk FetchAsk.Reply (Except LexError (List Note)) :=
  .ask (.advanceTo offset) fun reply =>
    match (reply : Except CursorError Unit) with
    | .ok () => askPosition.bind fun position => .done (.ok [note position])
    | .error e => .done (.error (.cursor e))

/-- The greatest offset that can be asked for. -/
def maxOffset : Nat := Nat.pow 2 64 - 1

/-- The actions of a `fetch` hook. -/
def performFetch (input : Text) :
    Action → Dialogue FetchAsk FetchAsk.Reply (Except LexError (List Note))
  | .next count => stepNext count #[]
  | .peek => .ask .peek fun c => askPosition.bind fun position =>
    .done (.ok [.peek c position])
  | .back count => .ask (.back count) fun reply =>
    match (reply : Except CursorError Unit) with
    | .ok () => askPosition.bind fun position => .done (.ok [.back count position])
    | .error e => .done (.error (.cursor e))
  | .advanceTo offset => moveTo offset (.advanceTo offset)
  | .advanceBy bytes => askPosition.bind fun position =>
    moveTo (min (position + bytes) maxOffset) (.advanceBy bytes)
  | .advanceFind needle => askPosition.bind fun position =>
    let distance := Text.find? needle (input.dropBytes position)
    let target := match distance with
      | some d => position + d
      | none => input.byteLength
    moveTo target (.advanceFind distance)
  | _ => .done (.error unsupported)

/-- Facts about a match at a position in a state. -/
def factsOf (c : MatchContext) (position : Nat) (state : String) : Facts where
  input := c.input
  matched := c.matched
  start := c.start
  position := position
  state := state

/-- The dialect of a `before` hook. -/
def beforeDialect (c : BeforeContext) : Dialect BeforeAsk BeforeAsk.Reply where
  observe := (liftSwitch askState).bind fun state =>
    .done (factsOf c.toMatchContext c.position state)
  perform := performBefore

/-- The dialect of an `after` hook. -/
def afterDialect (c : AfterContext AnyToken) : Dialect SwitchAsk SwitchAsk.Reply where
  observe := askState.bind fun state =>
    .done { factsOf c.toMatchContext c.position state with token := some c.token }
  perform := performSwitch

/-- The dialect of a `fetch` hook. -/
def fetchDialect (c : FetchContext) : Dialect FetchAsk FetchAsk.Reply where
  observe := askPosition.bind fun position => .ask .peek fun next =>
    .done { factsOf c.toMatchContext position c.state with
      text := c.input.slice c.start position, next }
  perform := performFetch c.input

/-! ### Rules -/

/-- A rule whose hooks are scripts. The label names the rule in the record of calls. -/
structure RuleScript where
  label : String
  pattern : Pattern
  /-- The kind, if it is not the matched text: always the same, or found from the match. -/
  kind : Option (Text ⊕ KindExpr) := none
  test : Option Cond := none
  value : Option ValueExpr := none
  before : Option (List Stmt) := none
  fetch : Option (List Stmt) := none
  after : Option (List Stmt) := none

namespace RuleScript

/-- What a hook of a rule sees when it is entered. -/
def entry (script : RuleScript) (c : MatchContext) (position : Nat) (state : String) : Entry where
  rule := script.label
  matched := c.matched
  start := c.start
  position := position
  state := state
  inputLength := c.input.byteLength

/-- Whether a hook ended without an error. -/
def succeeded (result : Except LexError Unit) : Bool :=
  match result with
  | .ok () => true
  | .error _ => false

/-- The kind of the tokens of a rule. -/
def toKind (script : RuleScript) : Kind Ledger :=
  match script.kind with
  | none => .matched
  | some (.inl kind) => .literal kind
  | some (.inr e) => .derived fun matched ledger =>
    let kind := e.eval matched
    (kind, ledger.record (.kind script.label matched kind))

/-- Tests a match. -/
def runTest (script : RuleScript) (cond : Cond) (c : TestContext AnyToken) (ledger : Ledger) :
    Bool × Ledger :=
  let result := cond.holds
    { factsOf c.toMatchContext c.start c.state with token := c.lastToken }
  (result, ledger.record
    (.test (script.entry c.toMatchContext c.start c.state) c.lastToken result))

/-- Finds the value of a token. -/
def runValue (script : RuleScript) (e : ValueExpr) (c : ValueContext) (ledger : Ledger) :
    Value × Ledger :=
  let value := e.eval { factsOf c.toMatchContext c.position c.state with text := c.text }
  (value, ledger.record
    (.value (script.entry c.toMatchContext c.position c.state) c.text value))

/-- Runs the script of a `before` hook. -/
def runBefore (script : RuleScript) (block : List Stmt) (c : BeforeContext) (ledger : Ledger) :
    Dialogue BeforeAsk BeforeAsk.Reply (HookEnd Ledger) :=
  (liftSwitch askState).bind fun state =>
    (runBlock (beforeDialect c) ledger.budget block { used := ledger.used }).bind
      fun (result, p) =>
        (liftSwitch askState).bind fun stateAfter =>
          .done (result, { ledger with used := p.used }.record
            (.before (script.entry c.toMatchContext c.position state) p.notes stateAfter
              (succeeded result)))

/-- Runs the script of a `fetch` hook. -/
def runFetch (script : RuleScript) (block : List Stmt) (c : FetchContext) (ledger : Ledger) :
    Dialogue FetchAsk FetchAsk.Reply (HookEnd Ledger) :=
  askPosition.bind fun position =>
    (runBlock (fetchDialect c) ledger.budget block { used := ledger.used }).bind
      fun (result, p) =>
        askPosition.bind fun positionAfter =>
          .done (result, { ledger with used := p.used }.record
            (.fetch (script.entry c.toMatchContext position c.state) p.notes positionAfter
              (c.input.slice c.start positionAfter) (c.input.byteLength - positionAfter)
              (succeeded result)))

/-- Runs the script of an `after` hook. -/
def runAfter (script : RuleScript) (block : List Stmt) (c : AfterContext AnyToken)
    (ledger : Ledger) : Dialogue SwitchAsk SwitchAsk.Reply (HookEnd Ledger) :=
  askState.bind fun state =>
    (runBlock (afterDialect c) ledger.budget block { used := ledger.used }).bind
      fun (result, p) =>
        askState.bind fun stateAfter =>
          .done (result, { ledger with used := p.used }.record
            (.after (script.entry c.toMatchContext c.position state) c.token p.notes stateAfter
              (succeeded result)))

/-- The rule of a script. -/
def toRule (script : RuleScript) : Rule Ledger AnyToken where
  pattern := script.pattern
  kind := script.toKind
  test := script.test.map script.runTest
  value := script.value.map script.runValue
  before := script.before.map script.runBefore
  fetch := script.fetch.map script.runFetch
  after := script.after.map script.runAfter

end RuleScript

end ModalLex.Script
