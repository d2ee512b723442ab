import ModalLex.Json.Reader
import ModalLex.Json.Writer
import ModalLex.Text.Quoted

/-!
# Token values

A token carries a value: a text, a number, a truth value or nothing. A value is shown in three
ways, as plain text, as a description that names its kind, and as JSON.
-/

namespace ModalLex

/-- The value of a token. -/
inductive Value where
  | text (t : Text)
  | int (n : Int)
  | float (x : Float)
  | bool (b : Bool)
  | null
deriving Inhabited

/-- How doubles are shown as plain text: never with an exponent, and whole numbers without a
point. -/
def Value.plainLayout : Decimal.Layout where
  positional := none
  wholeEnd := ""
  plus := ""
  nan := "NaN"
  infinite := "inf"
  negativeInfinite := "-inf"
  tie := .up

/-- How doubles are shown in descriptions: with an exponent below `1e-4` and from `1e16` on, and
whole numbers with `.0`. -/
def Value.descriptionLayout : Decimal.Layout where
  positional := some (-4, 15)
  wholeEnd := ".0"
  plus := ""
  nan := "NaN"
  infinite := "inf"
  negativeInfinite := "-inf"
  tie := .up

/-- The text of a truth value. -/
def boolText (b : Bool) : String := if b then "true" else "false"

/-- The decimal text of a natural. -/
def natText (n : Nat) : String := String.ofList (Nat.toDigits 10 n)

/-- The decimal text of an integer. -/
def intText (n : Int) : String :=
  match n with
  | .ofNat n => natText n
  | .negSucc n => "-" ++ natText (n + 1)

namespace Value

/-- The text of a value that is one. -/
def asText? : Value → Option Text
  | .text t => some t
  | _ => none

/-- The integer of a value that is one. -/
def asInt? : Value → Option Int
  | .int n => some n
  | _ => none

/-- A value as plain text. -/
def display : Value → String
  | .text t => String.ofList t
  | .int n => intText n
  | .float x => plainLayout.write x
  | .bool b => boolText b
  | .null => "null"

/-- A description of a value that names its kind. -/
def describe : Value → String
  | .text t => "Text(" ++ t.quoted ++ ")"
  | .int n => "Int(" ++ intText n ++ ")"
  | .float x => "Float(" ++ descriptionLayout.write x ++ ")"
  | .bool b => "Bool(" ++ boolText b ++ ")"
  | .null => "Null"

/-- A value as JSON. -/
def toJson : Value → Text
  | .text t => Json.writeString t
  | .int n => (intText n).toList
  | .float x => (Json.floatLayout.write x).toList
  | .bool b => (boolText b).toList
  | .null => "null".toList

/-- Whether two values are of one kind and equal. Doubles are compared as numbers. -/
def equal : Value → Value → Bool
  | .text a, .text b => decide (a = b)
  | .int a, .int b => decide (a = b)
  | .float a, .float b => a == b
  | .bool a, .bool b => a == b
  | .null, .null => true
  | _, _ => false

end Value

end ModalLex
