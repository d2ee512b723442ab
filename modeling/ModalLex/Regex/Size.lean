import ModalLex.Regex.Expr
import ModalLex.Regex.Gauge

/-!
# The size of patterns

A pattern needs two automata over bytes: one that reads forwards and records groups, and one that
reads backwards and does not. `Expr.fits` tells whether both have room; they are built as in
`ModalLex.Regex.Gauge`, part by part.

A part has an **exit**, the state that is linked to what comes next. Where that state branches,
the link takes room, and where it does not, it is part of the state.
-/

namespace ModalLex.Regex

/-- What a part ends in: whether the state at its exit branches. -/
abbrev Exit := Bool

/-- Links an exit to what comes next. -/
def Exit.join (exit : Exit) : Build Unit := addLinks exit.toNat

/-- Repeats a step that takes the exit of the one before. -/
def repeatStep (step : Exit → Build Exit) : (count : Nat) → Exit → Build Exit
  | 0, exit => pure exit
  | count + 1, exit => fun g =>
    match step exit g with
    | none => none
    | some (exit, g) => repeatStep step count exit g

/-- Some copies of a part in a row. No copies are one empty state. -/
def buildCopies (one : Build Exit) : (count : Nat) → Build Exit
  | 0 => do
    let _ ← addState
    return false
  | count + 1 => do
    let exit ← one
    repeatStep (fun exit => do exit.join; one) count exit

/-- Any number of copies of a part, but at least some. `moves` tells that every match of the part
has a character; otherwise the loop is entered through a state of its own. -/
def buildLoop (one : Build Exit) (moves : Bool) : (least : Nat) → Build Exit
  | 0 =>
    if moves then do
      let _ ← addState
      addLinks 1
      (← one).join
      return true
    else do
      (← one).join
      let _ ← grow 3 (4 * linkBytes)
      return false
  | 1 => do
    (← one).join
    let _ ← grow 1 linkBytes
    return true
  | least + 2 => do
    (← buildCopies one (least + 1)).join
    (← one).join
    let _ ← grow 1 linkBytes
    return true

/-- Between `least` and `least + more` copies of a part, where `more` is not zero. Every copy
beyond the least has a state in front that can leave. -/
def buildBetween (one : Build Exit) (least more : Nat) : Build Exit := do
  let exit ← buildCopies one least
  let _ ← addState
  let exit ← repeatStep (fun exit => do
    let _ ← grow 1 (2 * linkBytes)
    exit.join
    one) more exit
  exit.join
  return false

/-- A part or nothing. -/
def buildOptional (one : Build Exit) : Build Exit := do
  let _ ← grow 1 (2 * linkBytes)
  (← one).join
  let _ ← addState
  return false

/-! ### Texts side by side -/

/-- Cuts a list of texts at every empty one. -/
def cutAtEmpty : List (List Nat) → List (List (List Nat))
  | [] => [[]]
  | [] :: rest => [] :: cutAtEmpty rest
  | text :: rest =>
    match cutAtEmpty rest with
    | [] => [[text]]
    | chunk :: chunks => (text :: chunk) :: chunks

/-- The parts of a list of texts between those that are empty. Of empty texts at the start only
one counts. -/
def textChunks : List (List Nat) → List (List (List Nat))
  | [] :: rest => cutAtEmpty ([] :: rest.dropWhile List.isEmpty)
  | texts => cutAtEmpty texts

/-- Builds the tree of some texts, none longer than `depth` and not all empty. At every place, the
texts up to one that ends there share their first bytes. -/
def buildTree : (depth : Nat) → List (List Nat) → Build Unit
  | 0, _ => pure ()
  | depth + 1, texts => do
    let chunks := textChunks texts
    chunks.forM fun chunk => do
      let firsts := (chunk.filterMap List.head?).eraseDups
      firsts.forM fun first => do
        let tails := chunk.filterMap fun text =>
          match text with
          | byte :: tail => if byte = first then some tail else none
          | [] => none
        if !tails.all List.isEmpty then buildTree depth tails
      match firsts.length with
      | 0 => pure ()
      | 1 => discard (grow 1 linkBytes)
      | count => discard (grow 1 (linkBytes + transitionBytes * count))
    discard (grow 1 (linkBytes * (chunks.length - 1)))

/-- The bytes of a text in the order in which they are read. -/
def readBytes (direction : Direction) (chars : Text) : List Nat :=
  let bytes := chars.flatMap fun c => Utf8.encode c.toNat
  match direction with
  | .forward => bytes
  | .backward => bytes.reverse

/-- Builds an alternation of texts. -/
def buildTexts (direction : Direction) (texts : List Text) : Build Exit := do
  let _ ← addState
  let texts := texts.map (readBytes direction)
  buildTree (texts.foldl (fun depth text => max depth text.length) 0) texts
  return false

namespace Expr

/-- The text of an expression that matches just one. -/
def text? : Expr → Option Text
  | .text chars => some chars
  | _ => none

mutual

/-- Whether a set without members stands in an expression. -/
def hasEmptySet : Expr → Bool
  | .set s => s.isEmpty
  | .group _ body => body.hasEmptySet
  | .concat items => anyEmptySet items
  | .alternation branches => anyEmptySet branches
  | .repetition _ _ _ body => body.hasEmptySet
  | _ => false

/-- Whether a set without members stands in one of some expressions. -/
def anyEmptySet : List Expr → Bool
  | [] => false
  | e :: rest => e.hasEmptySet || anyEmptySet rest

end

mutual

/-- Whether every match of an expression begins at a place. -/
def beginsAt (place : Look) : Expr → Bool
  | .look here => decide (here = place)
  | .group _ body => body.beginsAt place
  | .concat items => seqBeginsAt place items
  | .alternation branches => allBeginAt place branches
  | .repetition lo _ _ body => decide (0 < lo) && body.beginsAt place
  | _ => false

/-- Whether every match of some expressions in a row begins at a place. -/
def seqBeginsAt (place : Look) : List Expr → Bool
  | [] => false
  | e :: rest => e.beginsAt place || (e.matchesOnlyEmpty && seqBeginsAt place rest)

/-- Whether every match of any of some expressions begins at a place. -/
def allBeginAt (place : Look) : List Expr → Bool
  | [] => true
  | e :: rest => e.beginsAt place && allBeginAt place rest

end

mutual

/-- Whether every match of an expression ends at a place. -/
def endsAt (place : Look) : Expr → Bool
  | .look here => decide (here = place)
  | .group _ body => body.endsAt place
  | .concat items => seqEndsAt place items
  | .alternation branches => allEndAt place branches
  | .repetition lo _ _ body => decide (0 < lo) && body.endsAt place
  | _ => false

/-- Whether every match of some expressions in a row ends at a place. -/
def seqEndsAt (place : Look) : List Expr → Bool
  | [] => false
  | e :: rest => seqEndsAt place rest || (allMatchOnlyEmpty rest && e.endsAt place)

/-- Whether every match of any of some expressions ends at a place. -/
def allEndAt (place : Look) : List Expr → Bool
  | [] => true
  | e :: rest => e.endsAt place && allEndAt place rest

end

mutual

/-- Builds the automaton of an expression. -/
def build (direction : Direction) : Expr → Build Exit
  | .empty => do
    let _ ← addState
    return false
  | .text chars => do
    let _ ← grow (Text.byteLength chars) 0
    return false
  | .set s => do
    buildSet direction s
    return false
  | .look _ => do
    let _ ← addState
    return false
  | .group _ body =>
    match direction with
    | .backward => body.build direction
    | .forward => do
      let _ ← addState
      (← body.build direction).join
      let _ ← addState
      return false
  | .concat items => return (← buildSeq direction items).getD false
  | .alternation branches =>
    match branches.mapM text? with
    | some texts => buildTexts direction texts
    | none => do
      buildBranches direction 0 branches
      return false
  | .repetition lo hi _ body =>
    let one := body.build direction
    match hi with
    | none => buildLoop one (body.consumes && !body.hasEmptySet) lo
    | some hi =>
      if lo = 0 ∧ hi = 1 then buildOptional one
      else if lo = hi then buildCopies one lo
      else buildBetween one lo (hi - lo)

/-- Builds some expressions in a row, in the order in which they are read. -/
def buildSeq (direction : Direction) : List Expr → Build (Option Exit)
  | [] => return none
  | e :: rest =>
    match direction with
    | .forward => do
      let exit ← e.build direction
      match ← buildSeq direction rest with
      | none => return some exit
      | some last => do
        exit.join
        return some last
    | .backward => do
      if let some exit ← buildSeq direction rest then exit.join
      return some (← e.build direction)

/-- Builds the branches of an alternation. The states that join them are added behind the second
branch. -/
def buildBranches (direction : Direction) : (before : Nat) → List Expr → Build Unit
  | _, [] => return ()
  | before, e :: rest => do
    (← e.build direction).join
    addLinks 1
    if before = 1 then discard (grow 2 0)
    buildBranches direction (before + 1) rest

end

/-- Builds the loop over bytes in front of an automaton, or a single state where matches only
begin at one place. -/
def buildFront (anchored : Bool) : Build Unit :=
  discard (if anchored then addState else grow 3 (transitionBytes + 2 * linkBytes))

/-- Builds the automaton that reads forwards, with a group around the whole. -/
def buildForward (e : Expr) : Build Unit := do
  buildFront (e.beginsAt .textStart)
  let _ ← addState
  (← e.build .forward).join
  discard (grow 2 0)

/-- Builds the automaton that reads backwards. -/
def buildBackward (e : Expr) : Build Unit := do
  buildFront (e.endsAt .textEnd)
  (← e.build .backward).join
  discard addState

/-- Whether there is room for the automata of an expression. -/
def fits (e : Expr) : Bool :=
  (e.buildForward Gauge.zero).isSome && (e.buildBackward Gauge.zero).isSome

end Expr

end ModalLex.Regex
