import ModalLex.Decimal.Layout

/-!
# Numbers in JSON

A number is an integer if it is written as one and has at most 64 bits, and a double otherwise.

The double is found in two steps, each of which rounds. The digits are read into a
**significand** of at most 64 bits: digits of the whole part that no longer fit only raise the
exponent, digits behind the point that no longer fit are dropped. Then the significand, as a
double, is multiplied with or divided by a power of ten, as a double. The result is near the
number that was written, but it need not be the nearest double.
-/

namespace ModalLex.Json

/-- A number as it was written. -/
structure Number where
  negative : Bool
  whole : List Char
  places : List Char
  exponent : Option Int
deriving Repr

/-- What a number stands for. -/
inductive NumberValue where
  | integer (n : Int)
  | double (x : Float)

/-- Reads digits behind those of a significand as long as the result has at most 64 bits, and
gives the digits that are left. -/
def extendSignificand : (significand : Nat) → (digits : List Char) → Nat × List Char
  | significand, [] => (significand, [])
  | significand, c :: rest =>
    let longer := 10 * significand + (c.toNat - '0'.toNat)
    if longer < Nat.pow 2 64 then extendSignificand longer rest else (significand, c :: rest)

/-- A power of ten as a double. -/
def powerOfTen (exponent : Nat) : Float := Decimal.toFloat false 1 exponent

/-- The greatest exponent of a power of ten that is a double. -/
def maxPower : Nat := 308

/-- Divides a double by a power of ten, in steps if the power is no double. A 64-bit significand
is zero after two steps. -/
def divideByPower : (steps : Nat) → Float → (exponent : Nat) → Float
  | 0, x, _ => x
  | steps + 1, x, exponent =>
    if exponent ≤ maxPower then x / powerOfTen exponent
    else divideByPower steps (x / powerOfTen maxPower) (exponent - maxPower)

/-- Whether a double is infinite. -/
def isInfinite (x : Float) : Bool :=
  match Decimal.Parts.ofFloat x with
  | .infinite _ => true
  | _ => false

/-- The double of a significand and an exponent, unless it is out of range. -/
def scale? (significand : Nat) (exponent : Int) : Option Float :=
  let x := Decimal.toFloat false significand 0
  if significand = 0 then some x
  else if exponent < 0 then some (divideByPower 4 x exponent.natAbs)
  else if maxPower < exponent.natAbs then none
  else
    let product := x * powerOfTen exponent.natAbs
    if isInfinite product then none else some product

/-- What a number stands for, unless it is out of range. A negative zero is a double. -/
def Number.value? (n : Number) : Option NumberValue :=
  let (wholeSignificand, beyond) := extendSignificand 0 n.whole
  let (significand, dropped) := extendSignificand wholeSignificand n.places
  let written := n.places.isEmpty && n.exponent.isNone && beyond.isEmpty
  if written && !n.negative then some (.integer significand)
  else if written && decide (0 < significand ∧ significand ≤ Nat.pow 2 63) then
    some (.integer (-significand))
  else
    let places : Int := n.places.length - dropped.length
    (scale? significand (beyond.length - places + n.exponent.getD 0)).map fun x =>
      .double (if n.negative then -x else x)

/-- How doubles are written in JSON: positional from `1e-5` up to below `1e16`, with `.0` behind
whole numbers and a sign before every exponent. What is not a number is `null`. -/
def floatLayout : Decimal.Layout where
  positional := some (-5, 15)
  wholeEnd := ".0"
  plus := "+"
  nan := "null"
  infinite := "null"
  negativeInfinite := "null"
  tie := .toEven

end ModalLex.Json
