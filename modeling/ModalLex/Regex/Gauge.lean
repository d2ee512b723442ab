import ModalLex.CharSet
import ModalLex.Utf8
import Std.Data.HashMap

/-!
# Building automata for their size

A pattern may be refused because the automata for it would take too much room. To know the room,
automata are built **for their size only**: a `Gauge` counts the states and the bytes that states
keep outside, and building stops when the room is used up. States are known by their numbers, in
the order in which they are added.

Sets of characters become automata over bytes that share equal parts. What has been built is
looked up in a `Memo`, a table with a fixed number of slots in which a new entry takes the place
of an old one with the same slot. So a part is shared as long as its entry is there, and built
again when it is not; the numbers of the states decide which entries share a slot.
-/

namespace ModalLex.Regex

/-- The states of an automaton and the bytes that they keep outside. -/
structure Gauge where
  states : Nat
  outside : Nat
deriving DecidableEq, Repr

namespace Gauge

/-- The gauge of nothing. -/
def zero : Gauge := ⟨0, 0⟩

/-- The room that an automaton takes, in bytes. -/
def bytes (g : Gauge) : Nat := 32 * g.states + g.outside

/-- The room that an automaton may take: ten mebibytes. -/
def maxBytes : Nat := 10 * Nat.pow 2 20

end Gauge

/-- Builds a part of an automaton, unless the room is used up. -/
abbrev Build := StateT Gauge Option

/-- The bytes of a transition on a range of bytes. -/
def transitionBytes : Nat := 8

/-- The bytes of a link from a branching state. -/
def linkBytes : Nat := 4

/-- Adds some states and some bytes outside, and gives the number of the first state. -/
def grow (states outside : Nat) : Build Nat := fun g =>
  let grown : Gauge := ⟨g.states + states, g.outside + outside⟩
  if grown.bytes ≤ Gauge.maxBytes then some (g.states, grown) else none

/-- Adds a state. -/
def addState : Build Nat := grow 1 0

/-- Adds some links to branching states. -/
def addLinks (count : Nat) : Build Unit := do
  let _ ← grow 0 (linkBytes * count)

/-! ### Sharing -/

/-- What has been built, by slots. -/
structure Memo (κ : Type) where
  slots : Std.HashMap Nat (κ × Nat)

namespace Memo

variable {κ : Type}

/-- The memo without entries. -/
def empty : Memo κ := ⟨∅⟩

/-- The state that was built for a key, if the slot still holds it. -/
def find? [BEq κ] (memo : Memo κ) (slot : Nat) (key : κ) : Option Nat :=
  match memo.slots[slot]? with
  | some (held, state) => if held == key then some state else none
  | none => none

/-- Puts an entry into its slot. -/
def put (memo : Memo κ) (slot : Nat) (key : κ) (state : Nat) : Memo κ :=
  ⟨memo.slots.insert slot (key, state)⟩

end Memo

/-- A hash of some words of 64 bits, from a seed: each is mixed in by an exclusive or, which is
then spread by a multiplication. -/
def hashWords (words : List Nat) : UInt64 :=
  words.foldl (fun h w => (h ^^^ w.toUInt64) * 1099511628211) 14695981039346656037

/-- Builds what a key stands for, unless the memo still has it. -/
def share {κ : Type} [BEq κ] (slots : Nat) (words : κ → List Nat) (outside : κ → Nat) (key : κ) :
    StateT (Memo κ) Build Nat := do
  let slot := (hashWords (words key)).toNat % slots
  match (← get).find? slot key with
  | some state => return state
  | none =>
    let state ← grow 1 (outside key)
    modify fun memo => memo.put slot key state
    return state

/-! ### Sets read forwards -/

/-- A state that goes on by ranges of bytes: rows `(least, greatest, next state)`. -/
abbrev Fork := List (Nat × Nat × Nat)

/-- The state of a fork. -/
def shareFork (fork : Fork) : StateT (Memo Fork) Build Nat :=
  share 10000 (fun fork => fork.flatMap fun (lo, hi, next) => [lo, hi, next])
    (fun fork => transitionBytes * fork.length) fork

/-- Groups neighbouring byte sequences by their first range. -/
def groupFirst (sequences : List (List (Nat × Nat))) :
    List ((Nat × Nat) × List (List (Nat × Nat))) :=
  sequences.foldr (fun sequence groups =>
    match sequence, groups with
    | [], groups => groups
    | r :: tail, (s, tails) :: groups =>
      if r = s then (s, tail :: tails) :: groups else (r, [tail]) :: (s, tails) :: groups
    | r :: tail, [] => [(r, [tail])]) []

/-- The state from which some byte sequences, none longer than `depth`, lead to the target. The
states behind it are built first. -/
def forkState (target : Nat) : (depth : Nat) → List (List (Nat × Nat)) →
    StateT (Memo Fork) Build Nat
  | 0, _ => pure target
  | depth + 1, sequences => do
    let fork ← (groupFirst sequences).mapM fun (r, tails) => do
      let next ← if tails.all List.isEmpty then pure target else forkState target depth tails
      return (r.1, r.2, next)
    shareFork fork

/-! ### Sets read backwards -/

/-- The state that takes a byte of a range and goes on to a state, as the row
`(next state, least, greatest)`. -/
def shareStep (step : Nat × Nat × Nat) : StateT (Memo (Nat × Nat × Nat)) Build Nat :=
  share 1000 (fun (next, lo, hi) => [next, lo, hi]) (fun _ => 0) step

/-- The state from which the bytes of a sequence, read backwards, lead to the target. -/
def stepState (target : Nat) (sequence : List (Nat × Nat)) :
    StateT (Memo (Nat × Nat × Nat)) Build Nat :=
  sequence.foldlM (fun next r => shareStep (next, r.1, r.2)) target

/-! ### Sets -/

/-- The directions in which an automaton can read. -/
inductive Direction where
  | forward
  | backward
deriving DecidableEq, Repr

/-- Builds the automaton of a set of characters. A set of ASCII characters is one fork; a set that
is read backwards has a branch for every byte sequence. -/
def buildSet (direction : Direction) (s : CharSet) : Build Unit := do
  if s.isAscii then
    let _ ← grow 2 (transitionBytes * s.ranges.length)
  else
    let sequences := s.ranges.flatMap Utf8.sequences
    match direction with
    | .forward =>
      let target ← addState
      let _ ← (forkState target 4 sequences).run' Memo.empty
    | .backward =>
      let _ ← addState
      let target ← addState
      addLinks sequences.length
      let _ ← (sequences.forM fun sequence => discard (stepState target sequence)).run' Memo.empty

end ModalLex.Regex
