import ModalLex.Value

/-!
# Tokens

The engine knows a token by its kind, its value and its range of the input, a `BaseToken`. What a
lexer emits is made from that by a **factory**. Two factories are given here: `Token.make` adds
the text of the range, `LineToken.make` the number of the line.
-/

namespace ModalLex

/-- What the engine knows of a token. -/
structure BaseToken where
  kind : Text
  value : Value
  start : Nat
  stop : Nat
deriving Inhabited

/-- A token with its text. -/
structure Token where
  kind : Text
  value : Value
  start : Nat
  stop : Nat
  text : Text
deriving Inhabited

namespace Token

/-- Makes a token with the text of its range. -/
def make (base : BaseToken) (input : Text) : Token where
  kind := base.kind
  value := base.value
  start := base.start
  stop := base.stop
  text := input.slice base.start base.stop

/-- The number of bytes of a token. -/
def byteLength (token : Token) : Nat := token.stop - token.start

/-- Whether a token has no text. -/
def isEmpty (token : Token) : Bool := decide (token.stop ≤ token.start)

/-- A token as JSON. -/
def toJson (token : Token) : Text :=
  '{' :: "\"type\":".toList ++ Json.writeString token.kind ++
    ",\"value\":".toList ++ token.value.toJson ++
    ",\"range\":".toList ++ '{' :: "\"start\":".toList ++ (natText token.start).toList ++
    ",\"end\":".toList ++ (natText token.stop).toList ++ '}' :: ",\"string\":".toList ++
    Json.writeString token.text ++ ['}']

end Token

/-- A token with the number of the line that it starts on. -/
structure LineToken where
  kind : Text
  value : Value
  start : Nat
  stop : Nat
  line : Nat
  text : Text
deriving Inhabited

/-- Makes a token with its line: one more than the line ends before it. -/
def LineToken.make (base : BaseToken) (input : Text) : LineToken where
  kind := base.kind
  value := base.value
  start := base.start
  stop := base.stop
  line := 1 + (input.takeBytes base.start).count '\n'
  text := input.slice base.start base.stop

end ModalLex
