import ModalLex.Alternation.Cache

/-!
# Resolving a match

At an offset exactly one rule of the current state wins: the first whose pattern matches and whose
predicate, if it has one, accepts. A rejected match is followed by another attempt at the same
offset with the rules behind the rejected one, so the attempts are at most one more than the
rules.
-/

namespace ModalLex

/-- What a run changes besides its own state: the cache of the lexer, the state of the host, and
the journal. -/
structure Ambient (σ : Type) where
  cache : AlternationCache
  host : σ
  journal : Journal

/-- Adds an event to the journal. -/
def Ambient.note {σ : Type} (ambient : Ambient σ) (event : Event) : Ambient σ :=
  { ambient with journal := ambient.journal.push event }

/-- Where and for which state a match is resolved. -/
structure Query (σ τ : Type) where
  compiler : Compiler
  rules : List (Rule σ τ)
  state : Nat
  input : Text
  offset : Nat
  lastToken : Option τ

namespace Query

variable {σ τ : Type}

/-- The name of the state. -/
def stateName (q : Query σ τ) : String := q.compiler.names.name q.state

/-- What the predicate of a rule reads for a match. -/
def testContext (q : Query σ τ) (found : Found) : TestContext τ where
  input := q.input
  matched := q.input.slice found.start found.stop
  start := found.start
  state := q.stateName
  lastToken := q.lastToken

/-- Whether a rule accepts a match. -/
def accepts (q : Query σ τ) (rule : Rule σ τ) (found : Found) (host : σ) : Bool × σ :=
  match rule.test with
  | none => (true, host)
  | some test => test (q.testContext found) host

/-- The alternation from a rule on, with the cache and the journal kept. -/
def alternation (q : Query σ τ) (first : Nat) (ambient : Ambient σ) :
    Except ConfigError (Option Alternation) × Ambient σ :=
  let (result, cache, events) := q.compiler.alternation ambient.cache q.state first
  (result, { ambient with cache, journal := ambient.journal ++ events.toArray })

/-- Tries the rules from `first` on, with an allowance of attempts. -/
def resolveFrom (q : Query σ τ) : (attempts : Nat) → (first : Nat) → Ambient σ →
    Except ConfigError (Option (Found × Rule σ τ)) × Ambient σ
  | 0, _, ambient => (.ok none, ambient)
  | attempts + 1, first, ambient =>
    match q.alternation first ambient with
    | (.error e, ambient) => (.error e, ambient)
    | (.ok none, ambient) => (.ok none, ambient)
    | (.ok (some a), ambient) =>
      match a.matchAt q.input q.offset with
      | none => (.ok none, ambient.note (.noAlternativeMatched q.stateName q.offset first))
      | some found =>
        match q.rules[found.rule]? with
        | none => (.ok none, ambient)
        | some rule =>
          let (accepted, host) := q.accepts rule found ambient.host
          let ambient := { ambient with host }
          if accepted then
            (.ok (some (found, rule)),
              ambient.note (.resolvedRule q.stateName found.rule found.start found.stop))
          else
            q.resolveFrom attempts (found.rule + 1)
              (ambient.note (.predicateRejected q.stateName found.rule q.offset))

/-- The winning rule and its match. -/
def resolve (q : Query σ τ) (ambient : Ambient σ) :
    Except ConfigError (Option (Found × Rule σ τ)) × Ambient σ :=
  q.resolveFrom (q.rules.length + 1) 0 ambient

end Query

end ModalLex
