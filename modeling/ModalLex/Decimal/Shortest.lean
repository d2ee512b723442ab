import ModalLex.Decimal.Binary

/-!
# Shortest decimals

The **shortest decimal** of a positive double is the decimal with the fewest digits that lies in
the interval of numbers rounding to that double, and among those the one nearest to it. Where
two are equally near, a `Tie` decides.
-/

namespace ModalLex.Decimal

/-- Which of two equally near decimals is taken. -/
inductive Tie where
  | up
  | toEven
deriving DecidableEq, Repr

/-- The number `coefficient * 10 ^ exponent`. -/
structure Digits where
  coefficient : Nat
  exponent : Int
deriving DecidableEq, Repr

/-- The same number without zeros at the end of its coefficient, of which at most `fuel` are
dropped. -/
def Digits.trim : Nat → Digits → Digits
  | 0, d => d
  | fuel + 1, d =>
    if d.coefficient % 10 = 0 then trim fuel ⟨d.coefficient / 10, d.exponent + 1⟩ else d

/-- The number of decimal digits of a natural. -/
def digitCount (n : Nat) : Nat := (Nat.toDigits 10 n).length

/-- The numerator and denominator of `num / den / 10 ^ e`. -/
def scaleDownTen (num den : Nat) (e : Int) : Nat × Nat :=
  if 0 ≤ e then (num, den * Nat.pow 10 e.toNat) else (num * Nat.pow 10 (-e).toNat, den)

/-- The least exponent `e` with `num / den < 10 ^ e`, for a positive quotient. -/
def magnitude (num den : Nat) : Int :=
  if den ≤ num then digitCount (num / den)
  else
    let guess : Int := -(digitCount (den / num) : Int)
    let below (e : Int) : Bool :=
      let (n, d) := scaleDownTen num den e
      decide (n < d)
    if below guess then guess
    else if below (guess + 1) then guess + 1
    else guess + 2

/-- The interval of numbers that round to `m * 2 ^ q`, as multiples of `2 ^ (q - 2)`: its lower
end, its middle and its upper end. Below a power of two the doubles lie closer. -/
def roundingInterval (m : Nat) (q : Int) : Nat × Nat × Nat :=
  let lower := if m = Nat.pow 2 52 ∧ -1074 < q then 4 * m - 1 else 4 * m - 2
  (lower, 4 * m, 4 * m + 2)

/-- The shortest decimal on a grid of `count` digits, if the grid has one in the interval. The
interval is given in units of `num / den`; its ends belong to it if `closed`. -/
def onGrid? (tie : Tie) (interval : Nat × Nat × Nat) (closed : Bool) (num den : Nat)
    (exponent : Int) : Option Digits :=
  let (lower, middle, upper) := interval
  let (n, d) := scaleDownTen num den exponent
  let floor := middle * n / d
  let inside (c : Nat) : Bool :=
    if closed then decide (lower * n ≤ c * d) && decide (c * d ≤ upper * n)
    else decide (lower * n < c * d) && decide (c * d < upper * n)
  let below := decide (0 < floor) && inside floor
  let above := inside (floor + 1)
  let twice := 2 * (middle * n - floor * d)
  let takeAbove :=
    if twice < d then false
    else if d < twice then true
    else match tie with
      | .up => true
      | .toEven => decide (floor % 2 = 1)
  if below && above then some ⟨if takeAbove then floor + 1 else floor, exponent⟩
  else if below then some ⟨floor, exponent⟩
  else if above then some ⟨floor + 1, exponent⟩
  else none

/-- Tries grids of more and more digits. -/
def shortestFrom (tie : Tie) (interval : Nat × Nat × Nat) (closed : Bool) (num den : Nat)
    (size : Int) : (more : Nat) → (count : Nat) → Digits
  | 0, _ => ⟨0, 0⟩
  | more + 1, count =>
    match onGrid? tie interval closed num den (size - count) with
    | some digits => digits
    | none => shortestFrom tie interval closed num den size more (count + 1)

/-- The shortest decimal of the positive double `m * 2 ^ q`. Seventeen digits always do. -/
def shortest (tie : Tie) (m : Nat) (q : Int) : Digits :=
  let interval := roundingInterval m q
  let (num, den) := scaleDown 1 1 (2 - q)
  let size := magnitude (interval.2.1 * num) den
  (shortestFrom tie interval (m % 2 = 0) num den size 17 1).trim 17

end ModalLex.Decimal
