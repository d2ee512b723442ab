import ModalLex.StateTable

/-!
# State stacks

While a lexer runs it keeps a stack of states above the base state. Every state has an **anchor**,
the offset at which it goes on matching. When the current state changes, the anchor of the state
left is copied to the state entered; the anchors of all others stay as they were.
-/

namespace ModalLex

/-- A stack of states, the current one first, with an anchor for every state. -/
structure StateStack where
  names : StateNames
  stack : List Nat
  anchors : List Nat
deriving DecidableEq, Repr, Inhabited

namespace StateStack

/-- The empty stack with all anchors at one offset. -/
def start (names : StateNames) (offset : Nat) : StateStack where
  names := names
  stack := []
  anchors := List.replicate names.count offset

/-- The current state: the top of the stack, or the base state. -/
def current (s : StateStack) : Nat := s.stack.headD s.names.base

/-- The name of the current state. -/
def currentName (s : StateStack) : String := s.names.name s.current

/-- The number of states on the stack. -/
def depth (s : StateStack) : Nat := s.stack.length

/-- The anchor of a state. -/
def anchorOf (s : StateStack) (state : Nat) : Nat := s.anchors.getD state 0

/-- The anchor of the current state. -/
def anchor (s : StateStack) : Nat := s.anchorOf s.current

/-- Sets the anchor of the current state. -/
def setAnchor (s : StateStack) (offset : Nat) : StateStack :=
  { s with anchors := s.anchors.set s.current offset }

/-- Enters a state that is not the base state. -/
def push (s : StateStack) (name : String) : Except StateError StateStack :=
  if name = s.names.baseName then .error (.pushBase name)
  else match s.names.lookup? name with
    | none => .error (.unknown name)
    | some state => .ok ({ s with stack := state :: s.stack }.setAnchor s.anchor)

/-- Goes back to the state before the current one. -/
def pop (s : StateStack) : Except StateError StateStack :=
  match s.stack with
  | [] => .error .popEmpty
  | _ :: rest => .ok ({ s with stack := rest }.setAnchor s.anchor)

end StateStack

end ModalLex
