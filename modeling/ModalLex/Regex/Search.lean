import ModalLex.Regex.Program
import ModalLex.Unicode.Word

/-!
# Running matcher programs

A program is run on a text from a fixed offset, all its threads in step, one character at a
time. The threads at one offset are ordered by preference; a thread is dropped when a preferred
one has been at the same address at that offset, and when a thread accepts, those behind it are
dropped. The match that remains is the **preferred** one: it is what trying the branches in
order, with backtracking, would find first.

A thread keeps the slots that it saved as a list, latest first.
-/

namespace ModalLex.Regex

/-- Whether an optional character is a word character. -/
def isWordChar (ascii : Bool) : Option Char → Bool
  | none => false
  | some c => if ascii then Unicode.asciiWord.contains c else Unicode.word.contains c

/-- Whether a place lies between the given characters, where `none` is an end of the text. -/
def Look.holds (place : Look) (before after : Option Char) : Bool :=
  match place with
  | .textStart => before.isNone
  | .textEnd => after.isNone
  | .lineStart => before.isNone || before == some '\n'
  | .lineEnd => after.isNone || after == some '\n'
  | .crlfStart =>
    before.isNone || before == some '\n' || (before == some '\r' && after != some '\n')
  | .crlfEnd =>
    after.isNone || after == some '\r' || (after == some '\n' && before != some '\r')
  | .wordBoundary ascii => isWordChar ascii before != isWordChar ascii after
  | .notWordBoundary ascii => isWordChar ascii before == isWordChar ascii after
  | .wordStart ascii => !isWordChar ascii before && isWordChar ascii after
  | .wordEnd ascii => isWordChar ascii before && !isWordChar ascii after
  | .wordStartHalf ascii => !isWordChar ascii before
  | .wordEndHalf ascii => !isWordChar ascii after

/-- A thread: the address it stands at and the slots it has saved, latest first. -/
structure Thread where
  address : Nat
  saved : List (Nat × Nat)
deriving Repr

/-- Where a run stands: the characters around the offset and the offset. -/
structure Spot where
  before : Option Char
  after : Option Char
  offset : Nat

/-- Follows threads in order of preference until each consumes or accepts. `seen` has a bit for
every address that was visited at this offset; `found` holds the resting threads in reverse. -/
def follow (program : Program) (spot : Spot) :
    Nat → List Thread → (seen : Nat) → (found : List Thread) → List Thread
  | 0, _, _, found => found.reverse
  | _ + 1, [], _, found => found.reverse
  | fuel + 1, thread :: waiting, seen, found =>
    if seen.testBit thread.address then follow program spot fuel waiting seen found
    else
      let seen := seen ||| (1 <<< thread.address)
      match program[thread.address]? with
      | none => follow program spot fuel waiting seen found
      | some (.jump target) =>
        follow program spot fuel (⟨target, thread.saved⟩ :: waiting) seen found
      | some (.split first second) =>
        follow program spot fuel
          (⟨first, thread.saved⟩ :: ⟨second, thread.saved⟩ :: waiting) seen found
      | some (.save slot) =>
        follow program spot fuel
          (⟨thread.address + 1, (slot, spot.offset) :: thread.saved⟩ :: waiting) seen found
      | some (.look place) =>
        if place.holds spot.before spot.after then
          follow program spot fuel (⟨thread.address + 1, thread.saved⟩ :: waiting) seen found
        else follow program spot fuel waiting seen found
      | some (.char _) | some (.set _) | some .accept =>
        follow program spot fuel waiting seen (thread :: found)

/-- The resting threads that some threads lead to. Every address is opened at most once, and
opening one adds at most two threads. -/
def closure (program : Program) (spot : Spot) (threads : List Thread) : List Thread :=
  follow program spot (threads.length + 2 * program.size + 1) threads 0 []

/-- Whether a thread accepts. -/
def Thread.accepts (program : Program) (thread : Thread) : Bool :=
  match program[thread.address]? with
  | some .accept => true
  | _ => false

/-- Lets a thread consume a character. -/
def Thread.consume? (program : Program) (c : Char) (thread : Thread) : Option Thread :=
  match program[thread.address]? with
  | some (.char d) => if c = d then some ⟨thread.address + 1, thread.saved⟩ else none
  | some (.set s) => if s.contains c then some ⟨thread.address + 1, thread.saved⟩ else none
  | _ => none

/-- Runs threads over the rest of a text and keeps the preferred match found so far, given by
the slots that it saved. -/
def runThreads (program : Program) :
    Text → Option Char → Nat → List Thread → Option (List (Nat × Nat)) →
      Option (List (Nat × Nat))
  | rest, before, offset, threads, best =>
    let resting := closure program ⟨before, rest.head?, offset⟩ threads
    let best := ((resting.find? (Thread.accepts program)).map (·.saved)).or best
    let live := resting.takeWhile fun thread => !thread.accepts program
    match rest with
    | [] => best
    | c :: rest =>
      match live.filterMap (Thread.consume? program c) with
      | [] => best
      | threads => runThreads program rest (some c) (offset + c.utf8Size) threads best

/-- The slots saved by the preferred match of a program that starts at an offset. The text before
the offset is looked at, but not matched. -/
def searchAt (program : Program) (input : Text) (offset : Nat) :
    Option (List (Nat × Nat)) :=
  runThreads program (input.dropBytes offset) (input.charBefore offset) offset [⟨0, []⟩] none

/-- The span of a group in the slots saved by a match, if the group took part. -/
def groupSpan? (saved : List (Nat × Nat)) (group : Nat) : Option (Nat × Nat) :=
  match saved.lookup (2 * group), saved.lookup (2 * group + 1) with
  | some start, some stop => some (start, stop)
  | _, _ => none

end ModalLex.Regex
