import ModalLex.Dialogue
import ModalLex.Token
import ModalLex.Window

/-!
# Rules

A rule is a pattern with hooks. Each hook sees the match in a context of its own, and what it can
do beyond looking is what its dialogue can ask for: a `before` or `after` hook can switch states,
a `before` hook can abort the match, a `fetch` hook can move the cursor.

Hooks may also use a state of the host program, of any type `σ`: it is handed to each hook and
comes back with the result. `τ` is the type of the tokens that the lexer emits.
-/

namespace ModalLex

/-- A pattern of a rule: its source, or a source that was compiled beforehand with options of its
own, of which the number of groups is kept. -/
inductive Pattern where
  | source (text : Text)
  | compiled (text : Text) (groups : Nat)
deriving DecidableEq, Repr

namespace Pattern

/-- The source of a pattern. -/
def text : Pattern → Text
  | .source text => text
  | .compiled text _ => text

/-- Compiles a pattern beforehand. -/
def precompile (options : PatternOptions) (text : Text) : Except PatternError Pattern :=
  (Regex.compile options text).map fun regex => .compiled text regex.groups

/-- The number of groups of a pattern. A source is checked by itself, a compiled pattern not
again. -/
def innerGroups : Pattern → Except PatternError Nat
  | .source text => (Regex.compile {} text).map (·.groups)
  | .compiled _ groups => .ok groups

end Pattern

/-! ### Contexts -/

/-- What all hooks of one match can read: the input, the matched text and where it starts. -/
structure MatchContext where
  input : Text
  matched : Text
  start : Nat

/-- What a predicate can read. -/
structure TestContext (τ : Type) extends MatchContext where
  state : String
  lastToken : Option τ

/-- What a `before` hook can read. -/
structure BeforeContext extends MatchContext where
  position : Nat

/-- What a `fetch` hook can read. -/
structure FetchContext extends MatchContext where
  state : String

/-- What a `value` hook can read. -/
structure ValueContext extends MatchContext where
  state : String
  position : Nat

/-- The text of the whole token. -/
def ValueContext.text (c : ValueContext) : Text := c.input.slice c.start c.position

/-- What an `after` hook can read. -/
structure AfterContext (τ : Type) extends MatchContext where
  position : Nat
  token : τ

/-! ### Questions -/

/-- What a hook that switches states can ask for. -/
inductive SwitchAsk where
  | push (name : String)
  | pop
  | currentState

/-- The reply to a question about states. -/
def SwitchAsk.Reply : SwitchAsk → Type
  | .push _ => Except StateError Unit
  | .pop => Except StateError Unit
  | .currentState => String

/-- What a `before` hook can ask for. -/
inductive BeforeAsk where
  | switch (ask : SwitchAsk)
  | abort

/-- The reply to a question of a `before` hook. -/
def BeforeAsk.Reply : BeforeAsk → Type
  | .switch ask => ask.Reply
  | .abort => Unit

/-- What a `fetch` hook can ask for. -/
inductive FetchAsk where
  | peek
  | next
  | back (count : Nat)
  | advanceTo (offset : Nat)
  | position

/-- The reply to a question of a `fetch` hook. -/
def FetchAsk.Reply : FetchAsk → Type
  | .peek => Option Char
  | .next => Option Char
  | .back _ => Except CursorError Unit
  | .advanceTo _ => Except CursorError Unit
  | .position => Nat

/-- The end of a hook: success or an error, and the host's state. -/
abbrev HookEnd (σ : Type) := Except LexError Unit × σ

/-- How the kind of a token is found. -/
inductive Kind (σ : Type) where
  /-- The matched text. -/
  | matched
  /-- Always the same kind. -/
  | literal (kind : Text)
  /-- Found from the matched text. -/
  | derived (derive : Text → σ → Text × σ)

/-- The way a kind is found, as shown in a description. -/
def Kind.describe {σ : Type} : Kind σ → String
  | .matched => "Default"
  | .literal kind => "Literal(" ++ kind.quoted ++ ")"
  | .derived _ => "Derived(..)"

/-- A pattern with hooks. -/
structure Rule (σ τ : Type) where
  pattern : Pattern
  kind : Kind σ := .matched
  test : Option (TestContext τ → σ → Bool × σ) := none
  value : Option (ValueContext → σ → Value × σ) := none
  before : Option (BeforeContext → σ → Dialogue BeforeAsk BeforeAsk.Reply (HookEnd σ)) := none
  fetch : Option (FetchContext → σ → Dialogue FetchAsk FetchAsk.Reply (HookEnd σ)) := none
  after : Option (AfterContext τ → σ → Dialogue SwitchAsk SwitchAsk.Reply (HookEnd σ)) := none

/-- The names of the hooks that a rule has. -/
def Rule.hookNames {σ τ : Type} (rule : Rule σ τ) : List String :=
  [("test", rule.test.isSome), ("value", rule.value.isSome), ("before", rule.before.isSome),
    ("fetch", rule.fetch.isSome), ("after", rule.after.isSome)].filterMap
    fun hook => if hook.2 then some hook.1 else none

/-- A rule, as shown in a description. -/
def Rule.describe {σ τ : Type} (rule : Rule σ τ) : String :=
  "Rule \x7b pattern: " ++ rule.pattern.text.quoted ++ ", type: " ++ rule.kind.describe ++
    ", hooks: [" ++
    ", ".intercalate (rule.hookNames.map fun name => Text.quoted name.toList) ++ "] \x7d"

end ModalLex
