import ModalLex.Text.Basic

/-!
# Pattern trees

The tree of a parsed pattern, before any flag has been applied. Flags, classes and escapes
appear as they were written; what they mean is decided in `ModalLex.Regex.Expr`.
-/

namespace ModalLex.Regex

/-- The flags that a pattern can switch. -/
inductive Flag where
  | caseInsensitive
  | multiLine
  | dotAll
  | swapGreed
  | unicode
  | crlf
  | verbose
deriving DecidableEq, Repr

/-- The flag that a letter stands for. -/
def Flag.ofChar? : Char → Option Flag
  | 'i' => some .caseInsensitive
  | 'm' => some .multiLine
  | 's' => some .dotAll
  | 'U' => some .swapGreed
  | 'u' => some .unicode
  | 'R' => some .crlf
  | 'x' => some .verbose
  | _ => none

/-- A list of flags, each with the state that it is switched to. -/
abbrev FlagChange := List (Flag × Bool)

/-- The state that a list of flags gives to one flag, if it names it. -/
def FlagChange.state? (change : FlagChange) (flag : Flag) : Option Bool :=
  (change.find? fun item => item.1 = flag).map (·.2)

/-- A character as written, with a mark on the two-digit form that stands for a byte where
characters are not Unicode. -/
structure Literal where
  char : Char
  isByte : Bool
deriving DecidableEq, Repr

/-- The places that an assertion can ask for. -/
inductive Assertion where
  | lineStart
  | lineEnd
  | textStart
  | textEnd
  | wordBoundary
  | notWordBoundary
  | wordStart
  | wordEnd
  | wordStartHalf
  | wordEndHalf
deriving DecidableEq, Repr

/-- The classes that a single escaped letter names. -/
inductive Shorthand where
  | digit
  | space
  | word
deriving DecidableEq, Repr

/-- The named classes of ASCII characters that a bracketed class can hold. -/
inductive AsciiClass where
  | alnum
  | alpha
  | ascii
  | blank
  | cntrl
  | digit
  | graph
  | lower
  | print
  | punct
  | space
  | upper
  | word
  | xdigit
deriving DecidableEq, Repr

/-- The class of a name. -/
def AsciiClass.ofName? (name : Text) : Option AsciiClass :=
  match String.ofList name with
  | "alnum" => some .alnum
  | "alpha" => some .alpha
  | "ascii" => some .ascii
  | "blank" => some .blank
  | "cntrl" => some .cntrl
  | "digit" => some .digit
  | "graph" => some .graph
  | "lower" => some .lower
  | "print" => some .print
  | "punct" => some .punct
  | "space" => some .space
  | "upper" => some .upper
  | "word" => some .word
  | "xdigit" => some .xdigit
  | _ => none

/-- The binary operators of bracketed classes. -/
inductive SetOp where
  | inter
  | diff
  | symmDiff
deriving DecidableEq, Repr

/-- What can stand inside a bracketed class. -/
inductive ClassItem where
  | empty
  | literal (l : Literal)
  | range (lo hi : Literal)
  | ascii (kind : AsciiClass) (negated : Bool)
  | shorthand (kind : Shorthand) (negated : Bool)
  | property (name : Text) (negated : Bool)
  | bracketed (negated : Bool) (body : ClassItem)
  | union (items : List ClassItem)
  | binary (op : SetOp) (left right : ClassItem)
deriving Repr

/-- A parsed pattern. -/
inductive Tree where
  | empty
  | flags (change : FlagChange)
  | literal (l : Literal)
  | dot
  | assertion (a : Assertion)
  | shorthand (kind : Shorthand) (negated : Bool)
  | property (name : Text) (negated : Bool)
  | bracketed (negated : Bool) (body : ClassItem)
  | repetition (lo : Nat) (hi : Option Nat) (greedy : Bool) (body : Tree)
  | group (index : Option Nat) (change : FlagChange) (body : Tree)
  | alternation (branches : List Tree)
  | concat (items : List Tree)
deriving Repr

/-- A list of class items as one item. -/
def ClassItem.ofList : List ClassItem → ClassItem
  | [] => .empty
  | [item] => item
  | items => .union items

/-- A list of neighbouring trees as one tree. -/
def Tree.ofItems : List Tree → Tree
  | [] => .empty
  | [item] => item
  | items => .concat items

/-- A list of branches as one tree. -/
def Tree.ofBranches : List Tree → Tree
  | [branch] => branch
  | branches => .alternation branches

mutual

/-- How deep brackets, unions and operators nest in a class. -/
def ClassItem.depth : ClassItem → Nat
  | .bracketed _ body => body.depth + 1
  | .union items => ClassItem.depthList items + 1
  | .binary _ left right => max left.depth right.depth + 1
  | _ => 0

/-- The greatest depth among the items of a class. -/
def ClassItem.depthList : List ClassItem → Nat
  | [] => 0
  | item :: rest => max item.depth (ClassItem.depthList rest)

end

mutual

/-- How deep a tree nests. Groups, repetitions, alternations, concatenations and brackets
count one level each; what stands alone counts none. -/
def Tree.depth : Tree → Nat
  | .bracketed _ body => body.depth + 1
  | .repetition _ _ _ body => body.depth + 1
  | .group _ _ body => body.depth + 1
  | .alternation branches => Tree.depthList branches + 1
  | .concat items => Tree.depthList items + 1
  | _ => 0

/-- The greatest depth among some trees. -/
def Tree.depthList : List Tree → Nat
  | [] => 0
  | item :: rest => max item.depth (Tree.depthList rest)

end

end ModalLex.Regex
