import ModalLex.Alternation.Basic
import ModalLex.Log.Event
import ModalLex.Rule
import ModalLex.StateTable

/-!
# The cache of alternations

A lexer builds an alternation when it is first asked for and keeps it. The cache belongs to the
lexer and is shared by all its runs; it is a value that is passed in and comes out with at most
one more entry. An alternation that cannot be built leaves it unchanged.
-/

namespace ModalLex

/-- The alternations built so far, by state and first rule. -/
structure AlternationCache where
  entries : List ((Nat × Nat) × Alternation)
deriving Inhabited

namespace AlternationCache

/-- The cache without entries. -/
def empty : AlternationCache := ⟨[]⟩

/-- The alternation of a state from a rule on, if it has been built. -/
def find? (cache : AlternationCache) (state first : Nat) : Option Alternation :=
  cache.entries.lookup (state, first)

/-- Keeps an alternation. -/
def insert (cache : AlternationCache) (state first : Nat) (a : Alternation) :
    AlternationCache :=
  ⟨((state, first), a) :: cache.entries⟩

/-- The number of alternations built so far. -/
def count (cache : AlternationCache) : Nat := cache.entries.length

end AlternationCache

/-- What alternations are built from: the names of the states, and the parts of their rules. -/
structure Compiler where
  names : StateNames
  parts : List (List Part)
deriving Inhabited

namespace Compiler

/-- Checks the pattern of a rule by itself. -/
def checkRule {σ τ : Type} (rule : Rule σ τ) : Except ConfigError Part :=
  match rule.pattern.innerGroups with
  | .ok groups => .ok ⟨rule.pattern.text, groups⟩
  | .error cause => .error (.pattern cause)

/-- Checks all patterns, state by state and rule by rule. -/
def ofRules {σ τ : Type} (names : StateNames) (rules : List (List (Rule σ τ))) :
    Except ConfigError Compiler :=
  (rules.mapM fun (stateRules : List (Rule σ τ)) => stateRules.mapM checkRule).map
    fun parts => ⟨names, parts⟩

/-- The parts of a state. -/
def partsOf (compiler : Compiler) (state : Nat) : List Part := compiler.parts.getD state []

/-- The alternation of a state from a rule on, if there are rules left. It is taken from the cache
or built and kept; the events tell what was done. -/
def alternation (compiler : Compiler) (cache : AlternationCache) (state first : Nat) :
    Except ConfigError (Option Alternation) × AlternationCache × List Event :=
  let name := compiler.names.name state
  match (compiler.partsOf state).drop first with
  | [] => (.ok none, cache, [.noRulesLeft name first])
  | parts =>
    match cache.find? state first with
    | some a => (.ok (some a), cache, [])
    | none =>
      match Alternation.build parts first with
      | .error cause => (.error (.pattern cause), cache, [])
      | .ok a =>
        (.ok (some a), cache.insert state first a,
          [.compiledAlternation name first a.ruleCount a.source])

/-- Builds the full alternations of some states, and stops at the first that cannot be built. -/
def compileStates (compiler : Compiler) :
    List Nat → AlternationCache → Journal →
      Except ConfigError Unit × AlternationCache × Journal
  | [], cache, journal => (.ok (), cache, journal)
  | state :: rest, cache, journal =>
    let (result, cache, events) := compiler.alternation cache state 0
    let journal := journal ++ events.toArray
    match result with
    | .error e => (.error e, cache, journal)
    | .ok _ => compileStates compiler rest cache journal

/-- Builds the full alternations of all states in order. -/
def compileAll (compiler : Compiler) (cache : AlternationCache) (journal : Journal) :
    Except ConfigError Unit × AlternationCache × Journal :=
  compiler.compileStates (List.range compiler.parts.length) cache journal

end Compiler

end ModalLex
