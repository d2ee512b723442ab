import ModalLex.Regex.Basic
import ModalLex.Regex.Search

/-!
# Alternations

The rules of a state, or those from some rule on, are matched together by one pattern, in which
the source of every rule stands in a group of its own: `(?:(p0)|(p1)|...)`. The number of a rule's
group follows from the numbers of groups inside the patterns before it. A match belongs to the
first rule whose group took part in it.
-/

namespace ModalLex

/-- What an alternation needs of a rule: the source of its pattern and the number of groups
inside it. -/
structure Part where
  source : Text
  groups : Nat
deriving DecidableEq, Repr

/-- A match of a rule: the number of the rule and the span of its group. -/
structure Found where
  rule : Nat
  start : Nat
  stop : Nat
deriving DecidableEq, Repr

/-- One pattern for the rules from `first` on. -/
structure Alternation where
  source : Text
  program : Regex.Program
  groups : List Nat
  first : Nat
deriving Inhabited

namespace Alternation

/-- The sources, each in parentheses, with bars between them. -/
def branches : List Part → Text
  | [] => []
  | [part] => '(' :: part.source ++ [')']
  | part :: rest => '(' :: part.source ++ ')' :: '|' :: branches rest

/-- The pattern of an alternation. -/
def spliced (parts : List Part) : Text :=
  ['(', '?', ':'] ++ branches parts ++ [')']

/-- The numbers of the rules' groups: each pattern moves those behind it by its own group and the
groups inside. -/
def groupNumbers (next : Nat) : List Part → List Nat
  | [] => []
  | part :: rest => next :: groupNumbers (next + 1 + part.groups) rest

/-- Builds the alternation of some rules, of which the first has the number `first`. -/
def build (parts : List Part) (first : Nat) : Except PatternError Alternation :=
  let source := spliced parts
  (Regex.compile {} source).map fun regex =>
    { source, program := regex.program, groups := groupNumbers 1 parts, first }

/-- The number of rules of an alternation. -/
def ruleCount (a : Alternation) : Nat := a.groups.length

/-- The first of the groups that took part in a match, as a match of its rule. -/
def reported (saved : List (Nat × Nat)) : (rule : Nat) → (groups : List Nat) → Option Found
  | _, [] => none
  | rule, group :: rest =>
    match Regex.groupSpan? saved group with
    | some (start, stop) => some ⟨rule, start, stop⟩
    | none => reported saved (rule + 1) rest

/-- The match of an alternation at an offset of an input. -/
def matchAt (a : Alternation) (input : Text) (offset : Nat) : Option Found :=
  match Regex.searchAt a.program input offset with
  | none => none
  | some saved => reported saved a.first a.groups

end Alternation

end ModalLex
