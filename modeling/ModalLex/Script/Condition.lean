import ModalLex.Token

/-!
# Conditions and values

Hooks can be written as small scripts. Their conditions and values look at **facts** about the
match at hand: what is known differs from hook to hook, and what a hook does not know is absent
or empty.
-/

namespace ModalLex.Script

/-- The tokens that scripts see and lexers of scripts emit. -/
inductive AnyToken where
  | plain (token : Token)
  | lined (token : LineToken)
deriving Inhabited

namespace AnyToken

/-- The kind of a token. -/
def kind : AnyToken → Text
  | .plain t => t.kind
  | .lined t => t.kind

/-- The text of a token. -/
def text : AnyToken → Text
  | .plain t => t.text
  | .lined t => t.text

/-- The end of a token. -/
def stop : AnyToken → Nat
  | .plain t => t.stop
  | .lined t => t.stop

/-- The value of a token. -/
def value : AnyToken → Value
  | .plain t => t.value
  | .lined t => t.value

end AnyToken

/-- What a script can know. -/
structure Facts where
  input : Text
  matched : Text
  start : Nat
  position : Nat
  state : String
  /-- The text of the token so far. -/
  text : Text := []
  /-- The character at the cursor. -/
  next : Option Char := none
  token : Option AnyToken := none

/-- The comparisons of numbers. -/
inductive Comparison where
  | lt
  | le
  | eq
  | ne
  | ge
  | gt
deriving DecidableEq, Repr

/-- Whether a comparison holds between two numbers. -/
def Comparison.holds : Comparison → Int → Int → Bool
  | .lt, a, b => decide (a < b)
  | .le, a, b => decide (a ≤ b)
  | .eq, a, b => decide (a = b)
  | .ne, a, b => decide (a ≠ b)
  | .ge, a, b => decide (b ≤ a)
  | .gt, a, b => decide (b < a)

/-- A question about the facts. -/
inductive Cond where
  | const (b : Bool)
  | not (c : Cond)
  | all (cs : List Cond)
  | any (cs : List Cond)
  | matched (s : Text)
  | matchedHas (s : Text)
  | matchedStarts (s : Text)
  | matchedEnds (s : Text)
  | length (op : Comparison) (n : Int)
  | start (op : Comparison) (n : Int)
  | position (op : Comparison) (n : Int)
  | state (name : String)
  | inputHas (s : Text)
  | beforeEnds (s : Text)
  | restStarts (s : Text)
  | text (s : Text)
  | textEnds (s : Text)
  | peek (s : Option Text)
  | peekIn (s : Text)
  | tokenKind (kind : Option Text)
  | tokenText (s : Text)
  | tokenEnd (op : Comparison) (n : Int)
  | tokenValue (s : String)

mutual

/-- Whether a condition holds for some facts. -/
def Cond.holds (f : Facts) : Cond → Bool
  | .const b => b
  | .not c => !c.holds f
  | .all cs => Cond.allHold f cs
  | .any cs => Cond.anyHolds f cs
  | .matched s => decide (f.matched = s)
  | .matchedHas s => Text.contains s f.matched
  | .matchedStarts s => s.isPrefixOf f.matched
  | .matchedEnds s => Text.endsWith s f.matched
  | .length op n => op.holds f.matched.byteLength n
  | .start op n => op.holds f.start n
  | .position op n => op.holds f.position n
  | .state name => decide (f.state = name)
  | .inputHas s => Text.contains s f.input
  | .beforeEnds s => Text.endsWith s (f.input.takeBytes f.start)
  | .restStarts s => s.isPrefixOf (f.input.dropBytes f.position)
  | .text s => decide (f.text = s)
  | .textEnds s => Text.endsWith s f.text
  | .peek s => decide (f.next.map ([·]) = s)
  | .peekIn s => f.next.any fun c => List.elem c s
  | .tokenKind kind => decide (f.token.map (·.kind) = kind)
  | .tokenText s => f.token.any fun t => decide (t.text = s)
  | .tokenEnd op n => f.token.any fun t => op.holds t.stop n
  | .tokenValue s => f.token.any fun t => decide (t.value.display = s)

/-- Whether all of some conditions hold. -/
def Cond.allHold (f : Facts) : List Cond → Bool
  | [] => true
  | c :: cs => c.holds f && Cond.allHold f cs

/-- Whether one of some conditions holds. -/
def Cond.anyHolds (f : Facts) : List Cond → Bool
  | [] => false
  | c :: cs => c.holds f || Cond.anyHolds f cs

end

/-- How a script finds the value of a token. -/
inductive ValueExpr where
  | const (v : Value)
  | text
  | matched
  | state
  | int
  | float
  | bool
  | position
  | start
  | slice (front back : Nat)
  | ifElse (cond : Cond) (yes no : ValueExpr)

/-- The value of a text that spells a truth value. -/
def boolValue (t : Text) : Value :=
  match String.ofList t with
  | "true" => .bool true
  | "false" => .bool false
  | _ => .null

/-- The value that an expression gives for some facts. -/
def ValueExpr.eval (f : Facts) : ValueExpr → Value
  | .const v => v
  | .text => .text f.text
  | .matched => .text f.matched
  | .state => .text f.state.toList
  | .int => ((Decimal.readInt64? f.text).map Value.int).getD .null
  | .float => ((Decimal.read? f.text).map Value.float).getD .null
  | .bool => boolValue f.text
  | .position => .int f.position
  | .start => .int f.start
  | .slice front back => .text ((f.text.drop front).take (f.text.length - front - back))
  | .ifElse cond yes no => if cond.holds f then yes.eval f else no.eval f

/-- How a script finds the kind of a token from the matched text. -/
inductive KindExpr where
  | upper
  | dropFirst
  | reversed
  | length
  | table (entries : List (Text × Text)) (otherwise : Text)

/-- The kind that an expression gives for a matched text. -/
def KindExpr.eval (matched : Text) : KindExpr → Text
  | .upper => matched.map Char.toUpper
  | .dropFirst => matched.drop 1
  | .reversed => matched.reverse
  | .length => (natText matched.byteLength).toList
  | .table entries otherwise => (entries.lookup matched).getD otherwise

end ModalLex.Script
