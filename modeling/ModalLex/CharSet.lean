/-!
# Sets of characters

A `CharSet` is a list of closed ranges of code points, kept in **normal form**: ascending,
disjoint, and with a gap between neighbours. Every operation is built from two primitives,
inserting one range and taking the complement within the Unicode scalar values; the other
set operations follow by the laws of De Morgan.
-/

namespace ModalLex

/-- A set of characters as ascending, separated ranges of code points. -/
structure CharSet where
  /-- The ranges `(least, greatest)`. -/
  ranges : List (Nat × Nat)
deriving DecidableEq, Repr, Inhabited

namespace CharSet

/-- The greatest code point. -/
def maxCode : Nat := 0x10FFFF

/-- Adds a range to a normal list of ranges, joining it with those that it touches. -/
def insertRange (lo hi : Nat) : List (Nat × Nat) → List (Nat × Nat)
  | [] => [(lo, hi)]
  | (a, b) :: rest =>
    if hi + 1 < a then (lo, hi) :: (a, b) :: rest
    else if b + 1 < lo then (a, b) :: insertRange lo hi rest
    else insertRange (min lo a) (max hi b) rest

/-- The code points from `start` on that no range covers. -/
def gaps (start : Nat) : List (Nat × Nat) → List (Nat × Nat)
  | [] => if start ≤ maxCode then [(start, maxCode)] else []
  | (a, b) :: rest =>
    if start < a then (start, a - 1) :: gaps (b + 1) rest else gaps (b + 1) rest

/-- The set without members. -/
def empty : CharSet := ⟨[]⟩

/-- The set of the given ranges, in any order. -/
def ofRanges (ranges : List (Nat × Nat)) : CharSet :=
  ⟨ranges.foldr (fun r acc => insertRange r.1 r.2 acc) []⟩

/-- The set of the arithmetic progressions `(first, last, step)`. -/
def ofProgressions (progressions : List (Nat × Nat × Nat)) : CharSet :=
  ofRanges <| progressions.flatMap fun (lo, hi, step) =>
    if step ≤ 1 then [(lo, hi)]
    else (List.range ((hi - lo) / step + 1)).map fun i => (lo + i * step, lo + i * step)

/-- The characters between two code points, ends included. -/
def range (lo hi : Nat) : CharSet := ⟨[(lo, hi)]⟩

/-- The set of one character. -/
def singleton (c : Char) : CharSet := range c.toNat c.toNat

/-- Whether a code point is a member. -/
def hasCode (s : CharSet) (n : Nat) : Bool :=
  s.ranges.any fun r => decide (r.1 ≤ n) && decide (n ≤ r.2)

/-- Whether a character is a member. -/
def contains (s : CharSet) (c : Char) : Bool := s.hasCode c.toNat

/-- Whether the set has no member. -/
def isEmpty (s : CharSet) : Bool := s.ranges.isEmpty

/-- Whether every member is an ASCII character. -/
def isAscii (s : CharSet) : Bool := s.ranges.all fun r => decide (r.2 < 0x80)

/-- The only member of a set of one. -/
def single? (s : CharSet) : Option Char :=
  match s.ranges with
  | [(a, b)] => if a = b then some (Char.ofNat a) else none
  | _ => none

/-- The members of either set. -/
def union (s t : CharSet) : CharSet :=
  ⟨s.ranges.foldr (fun r acc => insertRange r.1 r.2 acc) t.ranges⟩

/-- The characters that are not members. Surrogate code points are no characters, so they
are in no complement. -/
def compl (s : CharSet) : CharSet :=
  ⟨gaps 0 (insertRange 0xD800 0xDFFF s.ranges)⟩

/-- The members of both sets. -/
def inter (s t : CharSet) : CharSet := (s.compl.union t.compl).compl

/-- The members of the first set that are not in the second. -/
def diff (s t : CharSet) : CharSet := (s.compl.union t).compl

/-- The members of exactly one of the sets. -/
def symmDiff (s t : CharSet) : CharSet := (s.union t).diff (s.inter t)

end CharSet

end ModalLex
