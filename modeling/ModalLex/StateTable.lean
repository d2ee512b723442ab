import ModalLex.Error

/-!
# State tables

A table lists states with their rules in the order of their declaration; an entry without a name
is the base state. Resolving a table gives every state a number: its place in the table. The names
are kept twice, as a list by number and as a map to the numbers; both grow entry by entry.
-/

namespace ModalLex

/-- States with their rules, as declared. -/
structure StateTable (ρ : Type) where
  entries : List (Option String × List ρ)

/-- A map from names to the numbers of states. -/
structure NameIndex where
  entries : List (String × Nat)
deriving DecidableEq, Repr, Inhabited

namespace NameIndex

/-- The map without names. -/
def empty : NameIndex := ⟨[]⟩

/-- The number a name is mapped to. -/
def find? (index : NameIndex) (name : String) : Option Nat := index.entries.lookup name

/-- Maps a name to a number. The answer comes with the number the name was mapped to before. -/
def insert (index : NameIndex) (name : String) (state : Nat) : Option Nat × NameIndex :=
  (index.find? name, ⟨(name, state) :: index.entries⟩)

end NameIndex

/-- The names of the states by number, their numbers by name, and the number of the base state. -/
structure StateNames where
  names : List String
  index : NameIndex
  base : Nat
deriving DecidableEq, Repr, Inhabited

namespace StateNames

/-- The number of the state with a name. -/
def lookup? (states : StateNames) (name : String) : Option Nat := states.index.find? name

/-- The name of the state with a number. -/
def name (states : StateNames) (state : Nat) : String := states.names.getD state ""

/-- The name of the base state. -/
def baseName (states : StateNames) : String := states.name states.base

/-- The number of states. -/
def count (states : StateNames) : Nat := states.names.length

end StateNames

/-- What is known of the states that have a number: their names, their numbers by name, and their
rules. -/
structure Numbering (ρ : Type) where
  names : List String
  index : NameIndex
  rules : List (List ρ)

namespace Numbering

variable {ρ : Type}

/-- No state has a number. -/
def empty : Numbering ρ := ⟨[], .empty, []⟩

/-- Gives the next number to a state. The name must not have a number yet. -/
def declare (numbered : Numbering ρ) (name : String) (rules : List ρ) :
    Except ConfigError (Numbering ρ) :=
  let (before, index) := numbered.index.insert name numbered.names.length
  if before.isSome then .error (.duplicateState name)
  else .ok ⟨numbered.names ++ [name], index, numbered.rules ++ [rules]⟩

/-- Gives the next numbers to the states of some entries, one after the other; the base name stands
for a missing one. The first name that has a number already ends it. -/
def declareAll (base : String) :
    List (Option String × List ρ) → Numbering ρ → Except ConfigError (Numbering ρ)
  | [], numbered => .ok numbered
  | (name, rules) :: entries, numbered =>
    match numbered.declare (name.getD base) rules with
    | .error e => .error e
    | .ok numbered => declareAll base entries numbered

end Numbering

namespace StateTable

variable {ρ : Type}

/-- The table without states. -/
def empty : StateTable ρ := ⟨[]⟩

/-- The table of one state, the base state. -/
def flat (rules : List ρ) : StateTable ρ := ⟨[(none, rules)]⟩

/-- Declares one more state. -/
def declare (table : StateTable ρ) (name : String) (rules : List ρ) : StateTable ρ :=
  ⟨table.entries ++ [(some name, rules)]⟩

/-- The number of entries. -/
def size (table : StateTable ρ) : Nat := table.entries.length

/-- Whether there are no entries. -/
def isEmpty (table : StateTable ρ) : Bool := table.entries.isEmpty

/-- Numbers the states. Every name has to be declared once, and the base name has to be among
them. -/
def resolve (table : StateTable ρ) (base : String) :
    Except ConfigError (StateNames × List (List ρ)) :=
  match Numbering.declareAll base table.entries .empty with
  | .error e => .error e
  | .ok numbered =>
    match numbered.index.find? base with
    | none => .error (.missingBaseState base)
    | some state => .ok (⟨numbered.names, numbered.index, state⟩, numbered.rules)

end StateTable

end ModalLex
