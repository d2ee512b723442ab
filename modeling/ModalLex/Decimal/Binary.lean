/-!
# Binary floating point in exact arithmetic

A finite double is `m * 2 ^ q` for a natural `m` below `2 ^ 53` and an exponent `q` from `-1074`
on. This module takes a `Float` apart into that form and puts one together from a quotient of
naturals, rounded to the nearest double with ties to the even one. All arithmetic is exact.
-/

namespace ModalLex.Decimal

/-- A double taken apart. -/
inductive Parts where
  | nan
  | infinite (negative : Bool)
  /-- The value `m * 2 ^ q`. -/
  | finite (negative : Bool) (m : Nat) (q : Int)
deriving Repr

/-- Takes a double apart. -/
def Parts.ofFloat (x : Float) : Parts :=
  let bits : Nat := x.toBits.toNat
  let negative := decide (Nat.pow 2 63 ≤ bits)
  let biased : Nat := bits / Nat.pow 2 52 % Nat.pow 2 11
  let fraction : Nat := bits % Nat.pow 2 52
  if biased = 2047 then
    if fraction = 0 then .infinite negative else .nan
  else if biased = 0 then .finite negative fraction (-1074)
  else .finite negative (Nat.pow 2 52 + fraction) ((biased : Int) - 1075)

/-- The quotient `num / den`, rounded to the nearest natural with ties to the even one. -/
def roundQuotient (num den : Nat) : Nat :=
  let floor := num / den
  let twice := 2 * (num % den)
  if twice < den then floor
  else if den < twice then floor + 1
  else if floor % 2 = 0 then floor else floor + 1

/-- The numerator and denominator of `num / den / 2 ^ q`. -/
def scaleDown (num den : Nat) (q : Int) : Nat × Nat :=
  if 0 ≤ q then (num, den * Nat.pow 2 q.toNat) else (num * Nat.pow 2 (-q).toNat, den)

/-- The bits of the double nearest to a positive quotient. -/
def bitsOfQuotient (num den : Nat) : Nat :=
  let guess : Int := (Nat.log2 num : Int) - (Nat.log2 den : Int) - 53
  let (n, d) := scaleDown num den guess
  let q := max (if n / d < Nat.pow 2 53 then guess else guess + 1) (-1074)
  let (n, d) := scaleDown num den q
  let m := roundQuotient n d
  if m < Nat.pow 2 52 then m
  else
    let (m, q) := if m = Nat.pow 2 53 then (Nat.pow 2 52, q + 1) else (m, q)
    let biased := (q + 1075).toNat
    if 2047 ≤ biased then 2047 * Nat.pow 2 52 else biased * Nat.pow 2 52 + (m - Nat.pow 2 52)

/-- The double nearest to `coefficient * 10 ^ exponent`, with the given sign. -/
def toFloat (negative : Bool) (coefficient : Nat) (exponent : Int) : Float :=
  let size : Int := (Nat.toDigits 10 coefficient).length + exponent
  let bits :=
    if coefficient = 0 ∨ size < -400 then 0
    else if 400 < size then 2047 * Nat.pow 2 52
    else if 0 ≤ exponent then bitsOfQuotient (coefficient * Nat.pow 10 exponent.toNat) 1
    else bitsOfQuotient coefficient (Nat.pow 10 (-exponent).toNat)
  Float.ofBits (UInt64.ofNat (if negative then bits + Nat.pow 2 63 else bits))

end ModalLex.Decimal
