import ModalLex.Regex.Tree
import ModalLex.CharSet

/-!
# Regular expressions

The expressions that the matcher runs. The constructors of the type are used through the
**smart constructors** `ofSet`, `seq`, `alt` and `rep`, which keep expressions in a simple form:
no empty parts, nothing nested that can be flat, neighbouring characters joined into one text,
branches that share their first parts factored, and repetitions that can only be empty or
single written as such. A repetition of zero copies is the empty expression, whatever its body
was, and the groups of that body are gone with it.
-/

namespace ModalLex.Regex

/-- The places that an expression can ask for. Where a place depends on what a word character
is, `ascii` tells that only ASCII characters are. -/
inductive Look where
  | textStart
  | textEnd
  | lineStart
  | lineEnd
  | crlfStart
  | crlfEnd
  | wordBoundary (ascii : Bool)
  | notWordBoundary (ascii : Bool)
  | wordStart (ascii : Bool)
  | wordEnd (ascii : Bool)
  | wordStartHalf (ascii : Bool)
  | wordEndHalf (ascii : Bool)
deriving DecidableEq, Repr

/-- A regular expression with numbered groups. -/
inductive Expr where
  | empty
  | text (chars : Text)
  | set (s : CharSet)
  | look (place : Look)
  | group (index : Nat) (body : Expr)
  | concat (items : List Expr)
  | alternation (branches : List Expr)
  | repetition (lo : Nat) (hi : Option Nat) (greedy : Bool) (body : Expr)
deriving Inhabited, Repr

namespace Expr

mutual

/-- Whether two expressions are the same. -/
def same : Expr → Expr → Bool
  | .empty, .empty => true
  | .text a, .text b => decide (a = b)
  | .set a, .set b => decide (a = b)
  | .look a, .look b => decide (a = b)
  | .group i a, .group j b => decide (i = j) && same a b
  | .concat a, .concat b => sameList a b
  | .alternation a, .alternation b => sameList a b
  | .repetition lo hi greedy a, .repetition lo' hi' greedy' b =>
    decide (lo = lo' ∧ hi = hi' ∧ greedy = greedy') && same a b
  | _, _ => false

/-- Whether two lists of expressions are the same. -/
def sameList : List Expr → List Expr → Bool
  | [], [] => true
  | a :: as, b :: bs => same a b && sameList as bs
  | _, _ => false

end

mutual

/-- The number of nodes of an expression. -/
def nodes : Expr → Nat
  | .group _ body => body.nodes + 1
  | .concat items => nodesList items + 1
  | .alternation branches => nodesList branches + 1
  | .repetition _ _ _ body => body.nodes + 1
  | _ => 1

/-- The number of nodes of some expressions together. -/
def nodesList : List Expr → Nat
  | [] => 0
  | e :: rest => e.nodes + nodesList rest

end

mutual

/-- Whether an expression can match nothing but the empty text. -/
def matchesOnlyEmpty : Expr → Bool
  | .empty => true
  | .text chars => chars.isEmpty
  | .set _ => false
  | .look _ => true
  | .group _ body => body.matchesOnlyEmpty
  | .concat items => allMatchOnlyEmpty items
  | .alternation branches => allMatchOnlyEmpty branches
  | .repetition _ hi _ body => hi.isSome && body.matchesOnlyEmpty

/-- Whether none of some expressions can match a character. -/
def allMatchOnlyEmpty : List Expr → Bool
  | [] => true
  | e :: rest => e.matchesOnlyEmpty && allMatchOnlyEmpty rest

end

mutual

/-- Whether every match of an expression has at least one character. -/
def consumes : Expr → Bool
  | .empty => false
  | .text chars => !chars.isEmpty
  | .set _ => true
  | .look _ => false
  | .group _ body => body.consumes
  | .concat items => anyConsumes items
  | .alternation branches => allConsume branches
  | .repetition lo _ _ body => decide (0 < lo) && body.consumes

/-- Whether one of some expressions has at least one character in every match. -/
def anyConsumes : List Expr → Bool
  | [] => false
  | e :: rest => e.consumes || anyConsumes rest

/-- Whether all of some expressions have at least one character in every match. -/
def allConsume : List Expr → Bool
  | [] => true
  | e :: rest => e.consumes && allConsume rest

end

mutual

/-- The greatest number of a group in an expression, and zero if there is none. -/
def maxGroup : Expr → Nat
  | .group index body => max index body.maxGroup
  | .concat items => maxGroupList items
  | .alternation branches => maxGroupList branches
  | .repetition _ _ _ body => body.maxGroup
  | _ => 0

/-- The greatest number of a group in some expressions. -/
def maxGroupList : List Expr → Nat
  | [] => 0
  | e :: rest => max e.maxGroup (maxGroupList rest)

end

/-! ### Smart constructors -/

/-- Matches one character of a set; a set of one is a text. -/
def ofSet (s : CharSet) : Expr :=
  match s.single? with
  | some c => .text [c]
  | none => .set s

/-- The parts that an expression adds to a concatenation. -/
def parts : Expr → List Expr
  | .empty => []
  | .concat items => items
  | e => [e]

/-- Joins neighbouring texts. -/
def joinTexts : List Expr → List Expr
  | [] => []
  | e :: rest =>
    match e, joinTexts rest with
    | .text a, .text b :: joined => .text (a ++ b) :: joined
    | e, joined => e :: joined

/-- Matches some expressions one behind the other. -/
def seq (items : List Expr) : Expr :=
  match joinTexts (items.flatMap parts) with
  | [] => .empty
  | [e] => e
  | items => .concat items

/-- The branches that an expression adds to an alternation. -/
def choices : Expr → List Expr
  | .alternation branches => branches
  | e => [e]

/-- The character of a text of one. -/
def singleChar? : Expr → Option Char
  | .text [c] => some c
  | _ => none

/-- The set of an expression that matches one character of it. -/
def charSet? : Expr → Option CharSet
  | .set s => some s
  | _ => none

/-- The parts of a concatenation. -/
def concatParts? : Expr → Option (List Expr)
  | .concat items => some items
  | _ => none

/-- The number of leading parts that two lists share. -/
def sharedLength : List Expr → List Expr → Nat
  | a :: as, b :: bs => if same a b then sharedLength as bs + 1 else 0
  | _, _ => 0

/-- The number of leading parts that all branches share, where all are concatenations. -/
def sharedByAll : List (List Expr) → Nat
  | [] => 0
  | first :: rest => rest.foldl (fun n parts => min n (sharedLength first parts)) first.length

/-- Matches the first of some expressions that leads to a match. Single characters and sets
become one set, and branches that share their first parts are factored. -/
def altWithin : Nat → List Expr → Expr
  | 0, branches => .alternation branches
  | fuel + 1, branches =>
    match branches.flatMap choices with
    | [] => .set .empty
    | [e] => e
    | branches =>
      match branches.mapM singleChar?, branches.mapM charSet?, branches.mapM concatParts? with
      | some chars, _, _ => ofSet (.ofRanges (chars.map fun c => (c.toNat, c.toNat)))
      | none, some sets, _ => ofSet (sets.foldl CharSet.union .empty)
      | none, none, some lists =>
        match sharedByAll lists with
        | 0 => .alternation branches
        | n + 1 =>
          seq ((lists.headD []).take (n + 1) ++
            [altWithin fuel (lists.map fun parts => seq (parts.drop (n + 1)))])
      | none, none, none => .alternation branches

/-- Matches the first of some expressions that leads to a match. -/
def alt (branches : List Expr) : Expr := altWithin (nodesList branches + 1) branches

/-- Matches an expression between `lo` and `hi` times. -/
def rep (lo : Nat) (hi : Option Nat) (greedy : Bool) (body : Expr) : Expr :=
  let (lo, hi) :=
    if body.matchesOnlyEmpty then (min lo 1, some (min (hi.getD 1) 1)) else (lo, hi)
  match lo, hi with
  | 0, some 0 => .empty
  | 1, some 1 => body
  | lo, hi => .repetition lo hi greedy body

end Expr

end ModalLex.Regex
