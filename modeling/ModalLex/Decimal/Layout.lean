import ModalLex.Decimal.Shortest

/-!
# Writing and reading decimals

A `Layout` holds the decisions of one way to write a double: which magnitudes are written
without an exponent, how a whole number ends, how an exponent is signed, and the texts of the
values that are not numbers. `Layout.write` is the writer that all layouts share, and `read?`
reads what a person may write.
-/

namespace ModalLex.Decimal

/-- The decisions of one way to write a double. -/
structure Layout where
  /-- The exponents of the leading digit that are written without an exponent, if not all. -/
  positional : Option (Int × Int)
  /-- What ends a whole number that is written without an exponent. -/
  wholeEnd : String
  /-- What stands in front of an exponent that is not negative. -/
  plus : String
  nan : String
  infinite : String
  negativeInfinite : String
  tie : Tie

/-- Some zeros. -/
def zeros (n : Nat) : List Char := List.replicate n '0'

/-- A decimal without an exponent. -/
def Layout.writePositional (layout : Layout) (digits : List Char) (exponent : Int) :
    List Char :=
  if 0 ≤ exponent then digits ++ zeros exponent.toNat ++ layout.wholeEnd.toList
  else
    let places := (-exponent).toNat
    let padded := zeros (places + 1 - digits.length) ++ digits
    padded.take (padded.length - places) ++ '.' :: padded.drop (padded.length - places)

/-- A decimal with an exponent. -/
def Layout.writeScientific (layout : Layout) (digits : List Char) (leading : Int) :
    List Char :=
  let mantissa := match digits with
    | first :: second :: rest => first :: '.' :: second :: rest
    | digits => digits
  let sign := if leading < 0 then "-" else layout.plus
  mantissa ++ 'e' :: sign.toList ++ Nat.toDigits 10 leading.natAbs

/-- The text of a double. -/
def Layout.write (layout : Layout) (x : Float) : String :=
  match Parts.ofFloat x with
  | .nan => layout.nan
  | .infinite negative => if negative then layout.negativeInfinite else layout.infinite
  | .finite negative m q =>
    let body :=
      if m = 0 then '0' :: layout.wholeEnd.toList
      else
        let decimal := shortest layout.tie m q
        let digits := Nat.toDigits 10 decimal.coefficient
        let leading := decimal.exponent + digits.length - 1
        let positional := match layout.positional with
          | none => true
          | some (least, greatest) => decide (least ≤ leading) && decide (leading ≤ greatest)
        if positional then layout.writePositional digits decimal.exponent
        else layout.writeScientific digits leading
    String.ofList (if negative then '-' :: body else body)

/-! ### Reading -/

/-- The digits in front and the rest. -/
def spanDigits (t : List Char) : List Char × List Char := t.span Char.isDigit

/-- The value of a list of digits. -/
def digitsValue (digits : List Char) : Nat :=
  digits.foldl (fun n c => 10 * n + (c.toNat - '0'.toNat)) 0

/-- A sign, if there is one, and the rest. -/
def readSign : List Char → Bool × List Char
  | '-' :: rest => (true, rest)
  | '+' :: rest => (false, rest)
  | t => (false, t)

/-- An exponent that goes on to the end, or nothing. -/
def readExponent? : List Char → Option Int
  | [] => some 0
  | c :: rest =>
    if c = 'e' ∨ c = 'E' then
      let (negative, rest) := readSign rest
      if rest.isEmpty || !rest.all Char.isDigit then none
      else
        let n : Int := digitsValue rest
        some (if negative then -n else n)
    else none

/-- Reads a decimal behind its sign: digits with at most one point, then perhaps an exponent. -/
def readUnsigned? (negative : Bool) (t : List Char) : Option Float :=
  let (whole, rest) := spanDigits t
  let (places, rest) := match rest with
    | '.' :: rest => spanDigits rest
    | rest => ([], rest)
  if whole.isEmpty && places.isEmpty then none
  else (readExponent? rest).map fun e =>
    toFloat negative (digitsValue (whole ++ places)) (e - places.length)

/-- Reads a double: a decimal, or a name of a value that is not a number, with a sign. -/
def read? (t : List Char) : Option Float :=
  let (negative, rest) := readSign t
  match String.ofList (rest.map Char.toLower) with
  | "nan" =>
    some (Float.ofBits (UInt64.ofNat
      (0x7FF8 * Nat.pow 2 48 + if negative then Nat.pow 2 63 else 0)))
  | "inf" | "infinity" =>
    some (Float.ofBits (UInt64.ofNat
      (2047 * Nat.pow 2 52 + if negative then Nat.pow 2 63 else 0)))
  | _ => readUnsigned? negative rest

/-- Reads an integer of 64 bits: digits with an optional sign. -/
def readInt64? (t : List Char) : Option Int :=
  let (negative, digits) := readSign t
  if digits.isEmpty || !digits.all Char.isDigit then none
  else
    let n : Int := digitsValue digits
    let n := if negative then -n else n
    let limit : Int := Nat.pow 2 63
    if -limit ≤ n ∧ n < limit then some n else none

end ModalLex.Decimal
