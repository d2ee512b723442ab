import ModalLex.Error

/-!
# The fetch window

A hook that extends a token moves a cursor over the rest of the input. The cursor starts where
the match ends and never goes back behind that place, its **boundary**.
-/

namespace ModalLex

/-- A cursor over an input with the place that it cannot go behind. -/
structure Window where
  input : Text
  boundary : Nat
  cursor : Nat
deriving DecidableEq, Repr

namespace Window

/-- The input from the cursor on. -/
def rest (w : Window) : Text := w.input.dropBytes w.cursor

/-- The character at the cursor, if the input goes on. -/
def peek (w : Window) : Option Char := w.rest.head?

/-- Steps over one character. At the end of the input nothing moves. -/
def next (w : Window) : Option Char × Window :=
  match w.peek with
  | none => (none, w)
  | some c => (some c, { w with cursor := w.cursor + c.utf8Size })

/-- Steps back over characters, given in reverse, until `count` have been passed. Going behind
the boundary is refused. -/
def stepBack (boundary : Nat) : (before : Text) → (count target : Nat) → Option Nat
  | _, 0, target => some target
  | [], _ + 1, _ => none
  | c :: before, count + 1, target =>
    if target - c.utf8Size < boundary then none
    else stepBack boundary before count (target - c.utf8Size)

/-- Steps back over some characters. -/
def back (w : Window) (count : Nat) : Except CursorError Window :=
  match stepBack w.boundary (w.input.takeBytes w.cursor).reverse count w.cursor with
  | some target => .ok { w with cursor := target }
  | none => .error (.beforeBoundary w.cursor count w.boundary)

/-- Moves ahead to an offset on a character boundary. -/
def advanceTo (w : Window) (offset : Nat) : Except CursorError Window :=
  if offset < w.cursor then .error (.backwards w.cursor offset)
  else if w.input.byteLength < offset then .error (.outOfBounds offset w.input.byteLength)
  else if !w.input.isBoundary offset then .error (.notCharBoundary offset)
  else .ok { w with cursor := offset }

end Window

end ModalLex
