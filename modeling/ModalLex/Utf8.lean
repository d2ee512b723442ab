/-!
# UTF-8 by ranges

An automaton over bytes matches a range of characters through the **byte sequences** of the
range: lists of byte ranges such that the encoded forms of the characters are exactly the texts
that take one byte out of each. A range of characters is cut into pieces until the two ends of
every piece have encoded forms of one length that differ only in a last part, in which the piece
has all values. The sequences come out in ascending order.
-/

namespace ModalLex.Utf8

/-- The encoded form of a code point. -/
def encode (n : Nat) : List Nat :=
  if n < 0x80 then [n]
  else if n < 0x800 then [0xC0 + n / 0x40, 0x80 + n % 0x40]
  else if n < 0x10000 then [0xE0 + n / 0x1000, 0x80 + n / 0x40 % 0x40, 0x80 + n % 0x40]
  else
    [0xF0 + n / 0x40000, 0x80 + n / 0x1000 % 0x40, 0x80 + n / 0x40 % 0x40, 0x80 + n % 0x40]

/-- Takes the surrogates out of a range of code points. -/
def skipSurrogates (lo hi : Nat) : List (Nat × Nat) :=
  if lo < 0xE000 ∧ 0xD7FF < hi then
    [(lo, 0xD7FF), (0xE000, hi)].filter fun r => decide (r.1 ≤ r.2)
  else [(lo, hi)]

/-- Cuts a range behind a code point. -/
def cutBehind (last lo hi : Nat) : List (Nat × Nat) :=
  if lo ≤ last ∧ last < hi then [(lo, last), (last + 1, hi)] else [(lo, hi)]

/-- Cuts off the first part of a range that does not fill its block, where the range goes on into
another block. ASCII is not cut. -/
def alignStart (block lo hi : Nat) : List (Nat × Nat) :=
  if 0x80 ≤ lo ∧ lo / block ≠ hi / block ∧ lo % block ≠ 0 then
    let next := (lo / block + 1) * block
    [(lo, next - 1), (next, hi)]
  else [(lo, hi)]

/-- Cuts off the last part of a range that does not fill its block, where the range begins in
another block. ASCII is not cut. -/
def alignStop (block lo hi : Nat) : List (Nat × Nat) :=
  if 0x80 ≤ lo ∧ lo / block ≠ hi / block ∧ hi % block ≠ block - 1 then
    let first := hi / block * block
    [(lo, first - 1), (first, hi)]
  else [(lo, hi)]

/-- Cuts every range of a list. -/
def cutAll (cut : Nat → Nat → List (Nat × Nat)) (ranges : List (Nat × Nat)) :
    List (Nat × Nat) :=
  ranges.flatMap fun r => cut r.1 r.2

/-- Cuts ranges so that each lies in one block or is made of whole blocks. -/
def align (block : Nat) (ranges : List (Nat × Nat)) : List (Nat × Nat) :=
  cutAll (alignStop block) (cutAll (alignStart block) ranges)

/-- The byte sequences of a range of characters. -/
def sequences (range : Nat × Nat) : List (List (Nat × Nat)) :=
  let ofOneLength :=
    cutAll (cutBehind 0xFFFF) (cutAll (cutBehind 0x7FF) (cutAll (cutBehind 0x7F)
      (skipSurrogates range.1 range.2)))
  (align 0x40000 (align 0x1000 (align 0x40 ofOneLength))).map fun r =>
    (encode r.1).zip (encode r.2)

end ModalLex.Utf8
