/-!
# Text and byte offsets

The lexer reads a `Text`, a list of characters, and speaks about places in it by **byte
offsets** into its UTF-8 encoding. This module measures texts in bytes and cuts them at
offsets. An offset that falls inside a character is not a boundary; the cutting functions
are total and round such an offset up to the next boundary.

* `Text.byteLength`: the length of the encoding.
* `Text.dropBytes`, `Text.takeBytes`, `Text.slice`: cutting at offsets.
* `Text.isBoundary`: whether an offset lies between two characters, or at an end.
-/

namespace ModalLex

/-- A text as the list of its characters. -/
abbrev Text := List Char

namespace Text

/-- The number of bytes in the UTF-8 encoding of a text. -/
def byteLength : Text → Nat
  | [] => 0
  | c :: rest => c.utf8Size + byteLength rest

/-- What remains of a text behind its first `n` bytes. -/
def dropBytes : Nat → Text → Text
  | 0, t => t
  | _ + 1, [] => []
  | n + 1, c :: rest => dropBytes (n + 1 - c.utf8Size) rest

/-- The characters that begin within the first `n` bytes of a text. -/
def takeBytes : Nat → Text → Text
  | 0, _ => []
  | _ + 1, [] => []
  | n + 1, c :: rest => c :: takeBytes (n + 1 - c.utf8Size) rest

/-- The part of a text from offset `start` up to offset `stop`. -/
def slice (t : Text) (start stop : Nat) : Text :=
  takeBytes (stop - start) (dropBytes start t)

/-- Whether an offset lies between two characters of the text, or at one of its ends. -/
def isBoundary : Text → Nat → Bool
  | _, 0 => true
  | [], _ + 1 => false
  | c :: rest, n + 1 => decide (c.utf8Size ≤ n + 1) && isBoundary rest (n + 1 - c.utf8Size)

/-- The last character before an offset. -/
def charBefore (t : Text) (offset : Nat) : Option Char :=
  (takeBytes offset t).getLast?

/-- The byte distance to the first occurrence of `needle`, if there is one. -/
def find? (needle : Text) : Text → Option Nat
  | [] => if needle.isEmpty then some 0 else none
  | c :: rest =>
    if needle.isPrefixOf (c :: rest) then some 0
    else (find? needle rest).map (· + c.utf8Size)

/-- Whether `needle` occurs in a text. -/
def contains (needle t : Text) : Bool :=
  (find? needle t).isSome

/-- Whether a text ends with `tail`. -/
def endsWith (tail t : Text) : Bool :=
  tail.isSuffixOf t

end Text

end ModalLex
