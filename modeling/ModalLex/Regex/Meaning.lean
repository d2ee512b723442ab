import ModalLex.Regex.Expr
import ModalLex.Regex.Property
import ModalLex.Unicode.CaseFold

/-!
# What a pattern means

`Tree.toExpr?` turns a parsed pattern into the expression it stands for. The flags in force,
the **modes**, are threaded through the tree from left to right: a flag lasts to the end of the
group that it was set in, across the branches of an alternation, and the end of a group brings
back the modes from before the group.

A pattern that could match a part of a character has no meaning. This can only be asked for
where characters are not Unicode, by a byte or a complement that leaves ASCII.
-/

namespace ModalLex.Regex

/-- The flags in force at a place of a pattern. Verbose mode only concerns reading. -/
structure Modes where
  caseInsensitive : Bool := false
  multiLine : Bool := false
  dotAll : Bool := false
  swapGreed : Bool := false
  unicode : Bool := true
  crlf : Bool := false
deriving DecidableEq, Repr

/-- Sets one flag. -/
def Modes.set (modes : Modes) (flag : Flag) (on : Bool) : Modes :=
  match flag with
  | .caseInsensitive => { modes with caseInsensitive := on }
  | .multiLine => { modes with multiLine := on }
  | .dotAll => { modes with dotAll := on }
  | .swapGreed => { modes with swapGreed := on }
  | .unicode => { modes with unicode := on }
  | .crlf => { modes with crlf := on }
  | .verbose => modes

/-- Sets the flags of a list. -/
def Modes.apply (modes : Modes) (change : FlagChange) : Modes :=
  change.foldl (fun modes item => modes.set item.1 item.2) modes

/-! ### Classes -/

/-- The members of a named ASCII class. -/
def AsciiClass.members : AsciiClass → CharSet
  | .alnum => ⟨[(0x30, 0x39), (0x41, 0x5A), (0x61, 0x7A)]⟩
  | .alpha => ⟨[(0x41, 0x5A), (0x61, 0x7A)]⟩
  | .ascii => ⟨[(0x00, 0x7F)]⟩
  | .blank => ⟨[(0x09, 0x09), (0x20, 0x20)]⟩
  | .cntrl => ⟨[(0x00, 0x1F), (0x7F, 0x7F)]⟩
  | .digit => ⟨[(0x30, 0x39)]⟩
  | .graph => ⟨[(0x21, 0x7E)]⟩
  | .lower => ⟨[(0x61, 0x7A)]⟩
  | .print => ⟨[(0x20, 0x7E)]⟩
  | .punct => ⟨[(0x21, 0x2F), (0x3A, 0x40), (0x5B, 0x60), (0x7B, 0x7E)]⟩
  | .space => ⟨[(0x09, 0x0D), (0x20, 0x20)]⟩
  | .upper => ⟨[(0x41, 0x5A)]⟩
  | .word => Unicode.asciiWord
  | .xdigit => ⟨[(0x30, 0x39), (0x41, 0x46), (0x61, 0x66)]⟩

/-- The members of a shorthand class. -/
def Shorthand.members (unicode : Bool) : Shorthand → CharSet
  | .digit => if unicode then Unicode.digit else AsciiClass.digit.members
  | .space => if unicode then Unicode.whiteSpace else AsciiClass.space.members
  | .word => if unicode then Unicode.word else Unicode.asciiWord

namespace Modes

/-- Adds case variants where case does not matter. -/
def fold (modes : Modes) (s : CharSet) : CharSet :=
  if !modes.caseInsensitive then s
  else if modes.unicode then s.foldCase
  else s.foldAsciiCase

/-- A set as written, closed under case variants and then perhaps complemented. -/
def finish (modes : Modes) (negated : Bool) (s : CharSet) : CharSet :=
  let folded := modes.fold s
  if negated then folded.compl else folded

/-- Refuses a set that leaves ASCII where characters are not Unicode. -/
def guardSet (modes : Modes) (s : CharSet) : Option CharSet :=
  if modes.unicode || s.isAscii then some s else none

/-- Refuses a byte that is no character by itself. -/
def guardLiteral (modes : Modes) (l : Literal) : Option Char :=
  if !modes.unicode && l.isByte && decide (0x80 ≤ l.char.toNat) then none else some l.char

/-- The character of a class member. -/
def classChar (modes : Modes) (l : Literal) : Option Char :=
  if modes.unicode || decide (l.char.toNat < 0x80) then some l.char else none

/-- The members of a shorthand class, or of its complement. -/
def shorthandSet (modes : Modes) (kind : Shorthand) (negated : Bool) : Option CharSet :=
  let s := kind.members modes.unicode
  modes.guardSet (if negated then s.compl else s)

/-- The characters with a property, or without it. -/
def propertySet (modes : Modes) (name : Text) (negated : Bool) : Option CharSet :=
  if modes.unicode then
    (property? name).map fun (s, inverted) => modes.finish (negated != inverted) s
  else none

end Modes

mutual

/-- The set that a part of a bracketed class stands for. -/
def ClassItem.toSet? (modes : Modes) : ClassItem → Option CharSet
  | .empty => some .empty
  | .literal l => (modes.classChar l).map .singleton
  | .range lo hi => do
    let lo ← modes.classChar lo
    let hi ← modes.classChar hi
    return .range lo.toNat hi.toNat
  | .ascii kind negated => modes.guardSet (modes.finish negated kind.members)
  | .shorthand kind negated => modes.shorthandSet kind negated
  | .property name negated => modes.propertySet name negated
  | .bracketed negated body => do
    let s ← body.toSet? modes
    modes.guardSet (modes.finish negated s)
  | .union items => ClassItem.unionSet? modes items
  | .binary op left right => do
    let left := modes.fold (← left.toSet? modes)
    let right := modes.fold (← right.toSet? modes)
    return match op with
      | .inter => left.inter right
      | .diff => left.diff right
      | .symmDiff => left.symmDiff right

/-- The set that several parts stand for together. -/
def ClassItem.unionSet? (modes : Modes) : List ClassItem → Option CharSet
  | [] => some .empty
  | item :: rest => do
    let s ← item.toSet? modes
    let t ← ClassItem.unionSet? modes rest
    return s.union t

end

/-! ### Trees -/

/-- The place that an assertion asks for. -/
def Modes.place (modes : Modes) : Assertion → Look
  | .lineStart => if !modes.multiLine then .textStart
    else if modes.crlf then .crlfStart else .lineStart
  | .lineEnd => if !modes.multiLine then .textEnd
    else if modes.crlf then .crlfEnd else .lineEnd
  | .textStart => .textStart
  | .textEnd => .textEnd
  | .wordBoundary => .wordBoundary !modes.unicode
  | .notWordBoundary => .notWordBoundary !modes.unicode
  | .wordStart => .wordStart !modes.unicode
  | .wordEnd => .wordEnd !modes.unicode
  | .wordStartHalf => .wordStartHalf !modes.unicode
  | .wordEndHalf => .wordEndHalf !modes.unicode

/-- One character, in every case where case does not matter. -/
def Modes.charExpr (modes : Modes) (c : Char) : Expr :=
  if modes.unicode || decide (c.toNat < 0x80) then .ofSet (modes.fold (.singleton c))
  else .text [c]

/-- Any character, as far as line ends are included. -/
def Modes.dotExpr (modes : Modes) : Option Expr :=
  if !modes.unicode then none
  else some <| .ofSet <|
    if modes.dotAll then CharSet.empty.compl
    else if modes.crlf then (CharSet.mk [(0x0A, 0x0A), (0x0D, 0x0D)]).compl
    else (CharSet.singleton '\n').compl

mutual

/-- The expression of a tree, with the modes in force behind it. -/
def Tree.toExpr? (modes : Modes) : Tree → Option (Expr × Modes)
  | .empty => some (.empty, modes)
  | .flags change => some (.empty, modes.apply change)
  | .literal l => (modes.guardLiteral l).map fun c => (modes.charExpr c, modes)
  | .dot => modes.dotExpr.map fun e => (e, modes)
  | .assertion a => some (.look (modes.place a), modes)
  | .shorthand kind negated =>
    (modes.shorthandSet kind negated).map fun s => (.ofSet s, modes)
  | .property name negated => (modes.propertySet name negated).map fun s => (.ofSet s, modes)
  | .bracketed negated body => do
    let s ← body.toSet? modes
    let s ← modes.guardSet (modes.finish negated s)
    return (.ofSet s, modes)
  | .repetition lo hi greedy body => do
    let (e, modes) ← body.toExpr? modes
    return (.rep lo hi (greedy != modes.swapGreed) e, modes)
  | .group index change body => do
    let (e, _) ← body.toExpr? (modes.apply change)
    match index with
    | some n => return (.group n e, modes)
    | none => return (e, modes)
  | .alternation branches => do
    let (es, modes) ← Tree.toExprs? modes branches
    return (.alt es, modes)
  | .concat items => do
    let (es, modes) ← Tree.toExprs? modes items
    return (.seq es, modes)

/-- The expressions of some trees, each under the modes that the one before leaves. -/
def Tree.toExprs? (modes : Modes) : List Tree → Option (List Expr × Modes)
  | [] => some ([], modes)
  | tree :: rest => do
    let (e, modes) ← tree.toExpr? modes
    let (es, modes) ← Tree.toExprs? modes rest
    return (e :: es, modes)

end

end ModalLex.Regex
