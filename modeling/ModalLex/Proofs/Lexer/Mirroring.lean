import Mathlib.Data.List.Forall2
import ModalLex.Proofs.Lexer.Interleaving
import ModalLex.Proofs.Lexer.Resuming

/-!
# One Lexer Mirrors Another

Two lexers are compared run by run. Their states may have different numbers: the first is read
through a **renaming** of numbers, under which names, and what hooks ask for by name, stay the
same (`StateNames.Renamed`). What the two have to share beyond that is how a match is resolved in
states that correspond (`Mirrors`), and there the first may be **lost**: with an error of some
kind its run gives up, and of the run of the second nothing is said from there on. Without such
errors the two cannot be told apart.

The comparison is made on the engine without anchors, where a state has nothing but its place on
the stack, and carried over to the engine with anchors.

## Main results

* `Mirrors.attempt`, `Mirrors.pull`: one attempt and one pull end alike, or the first is lost.
* `Mirrors.reports`: **up to its loss a run is mirrored report by report**.
* `Mirrors.carryOut`: lexers of which none is ever lost keep the same log, whatever is done with
  them.
-/

namespace ModalLex

variable {σ τ : Type}

/-! ### Names and stacks -/

/-- Every state of the one table corresponds to a state of the other with the same name, and the
base state to the base state. -/
structure StateNames.Renamed (names names' : StateNames) (rename : Nat → Nat) : Prop where
  resolved : names.Resolved
  resolved' : names'.Resolved
  rename_lt : ∀ state < names.count, rename state < names'.count
  base_eq : names'.base = rename names.base
  name_eq : ∀ state < names.count, names'.name (rename state) = names.name state
  lookup?_eq : ∀ name, names'.lookup? name = (names.lookup? name).map rename

/-- The base states have the same name. -/
theorem StateNames.Renamed.baseName_eq {names names' : StateNames} {rename : Nat → Nat}
    (h : names.Renamed names' rename) : names'.baseName = names.baseName := by
  rw [baseName, baseName, h.base_eq, h.name_eq _ h.resolved.base_lt]

/-- Every state corresponds to itself. -/
theorem StateNames.Renamed.refl {names : StateNames} (h : names.Resolved) :
    names.Renamed names id :=
  ⟨h, h, fun _ hlt => hlt, rfl, fun _ _ => rfl, fun _ => (congrFun Option.map_id _).symm⟩

namespace Bare

/-- A stack in the numbers of another table. -/
def Stack.renamed (s : Stack) (names' : StateNames) (rename : Nat → Nat) : Stack :=
  ⟨names', s.stack.map rename⟩

/-- A stack of states of a table. -/
structure Stack.Within (names : StateNames) (s : Stack) : Prop where
  names_eq : s.names = names
  stack_lt : ∀ state ∈ s.stack, state < names.count

namespace Stack

variable {names names' : StateNames} {rename : Nat → Nat} {s t : Stack}

/-- The current state is one of the table. -/
theorem Within.current_lt (hs : s.Within names) (h : names.Renamed names' rename) :
    s.current < names.count := by
  obtain ⟨table, stack⟩ := s
  obtain ⟨rfl, hlt⟩ := hs
  cases stack with
  | nil => exact h.resolved.base_lt
  | cons state rest => exact hlt state (by simp)

/-- The current state corresponds to the current state. -/
theorem Within.current_renamed (hs : s.Within names) (h : names.Renamed names' rename) :
    (s.renamed names' rename).current = rename s.current := by
  obtain ⟨table, stack⟩ := s
  obtain ⟨rfl, -⟩ := hs
  cases stack with
  | nil => exact h.base_eq
  | cons state rest => rfl

/-- Where states are called by name no difference shows. -/
theorem Within.currentName_renamed (hs : s.Within names) (h : names.Renamed names' rename) :
    (s.renamed names' rename).currentName = s.currentName := by
  rw [currentName, hs.current_renamed h, currentName, hs.names_eq]
  exact h.name_eq _ (hs.current_lt h)

/-- A stack in other numbers is as deep. -/
theorem depth_renamed (s : Stack) (names' : StateNames) (rename : Nat → Nat) :
    (s.renamed names' rename).depth = s.depth := List.length_map _

/-- What is entered by name is entered in both tables, or in neither. -/
theorem Within.push_renamed (hs : s.Within names) (h : names.Renamed names' rename)
    (name : String) :
    (s.renamed names' rename).push name = (s.push name).map (·.renamed names' rename) := by
  rw [push, push, hs.names_eq]
  simp only [renamed, h.baseName_eq]
  split
  · rfl
  · rw [h.lookup?_eq]
    cases names.lookup? name <;> rfl

/-- What is left is left in both tables, or in neither. -/
theorem pop_renamed (s : Stack) (names' : StateNames) (rename : Nat → Nat) :
    (s.renamed names' rename).pop = s.pop.map (·.renamed names' rename) := by
  obtain ⟨table, stack⟩ := s
  cases stack <;> rfl

/-- Entering a state leads to a state of the table. -/
theorem Within.push (hs : s.Within names) (hnames : names.Resolved) {name : String}
    (hpush : s.push name = .ok t) : t.Within names := by
  rw [Stack.push, hs.names_eq] at hpush
  split at hpush
  · exact absurd hpush (by simp)
  · cases hstate : names.lookup? name with
    | none => exact absurd hpush (by simp [hstate])
    | some state =>
        rw [hstate] at hpush
        obtain rfl := Except.ok.inj hpush
        exact ⟨rfl, List.forall_mem_cons.mpr ⟨StateNames.lookup?_lt hnames hstate, hs.stack_lt⟩⟩

/-- Leaving a state leads to one that was entered before. -/
theorem Within.pop (hs : s.Within names) (hpop : s.pop = .ok t) : t.Within names := by
  obtain ⟨table, stack⟩ := s
  cases stack with
  | nil => exact absurd hpop (by simp [Stack.pop])
  | cons state rest =>
      obtain rfl := Except.ok.inj hpop
      exact ⟨hs.names_eq, fun other hmem => hs.stack_lt other (List.mem_cons_of_mem _ hmem)⟩

end Stack

/-- What a hook works on in the one table, and in the other. -/
structure Switching.Renamed (names names' : StateNames) (rename : Nat → Nat)
    (s t : Switching) : Prop where
  within : s.stack.Within names
  stack_eq : t.stack = s.stack.renamed names' rename
  aborted_eq : s.aborted = t.aborted

variable {names names' : StateNames} {rename : Nat → Nat}

/-- **A hook that asks about states gets the same answers**, since it calls states by name. -/
theorem answerSwitch_renamed (h : names.Renamed names' rename) (ask : SwitchAsk)
    (s t : Switching) (hst : Switching.Renamed names names' rename s t) :
    (answerSwitch ask s).1 = (answerSwitch ask t).1 ∧
      Switching.Renamed names names' rename (answerSwitch ask s).2 (answerSwitch ask t).2 := by
  obtain ⟨hwithin, hstack, haborted⟩ := hst
  cases ask with
  | push name =>
      rw [answerSwitch, answerSwitch, hstack, hwithin.push_renamed h]
      cases hpush : s.stack.push name with
      | error e => exact ⟨rfl, hwithin, hstack, haborted⟩
      | ok stack => exact ⟨rfl, hwithin.push h.resolved hpush, rfl, haborted⟩
  | pop =>
      rw [answerSwitch, answerSwitch, hstack, Stack.pop_renamed]
      cases hpop : s.stack.pop with
      | error e => exact ⟨rfl, hwithin, hstack, haborted⟩
      | ok stack => exact ⟨rfl, hwithin.pop hpop, rfl, haborted⟩
  | currentState =>
      rw [answerSwitch, answerSwitch, hstack, hwithin.currentName_renamed h]
      exact ⟨rfl, hwithin, hstack, haborted⟩

/-- A hook before a match gets the same answers. -/
theorem answerBefore_renamed (h : names.Renamed names' rename) (ask : BeforeAsk)
    (s t : Switching) (hst : Switching.Renamed names names' rename s t) :
    (answerBefore ask s).1 = (answerBefore ask t).1 ∧
      Switching.Renamed names names' rename (answerBefore ask s).2 (answerBefore ask t).2 := by
  cases ask with
  | switch ask => exact answerSwitch_renamed h ask s t hst
  | abort => exact ⟨rfl, hst.within, hst.stack_eq, rfl⟩

end Bare

/-! ### Lexers -/

/-- The ambient of a lexer and that of another: the host is the same, and each cache is coherent
for its own lexer. -/
structure Ambient.Between (compiler compiler' : Compiler) (a b : Ambient σ) : Prop where
  host_eq : a.host = b.host
  left : compiler.Coherent a.cache
  right : compiler'.Coherent b.cache

/-- A hook that runs in both lexers leaves the same host in both. -/
theorem Ambient.Between.withHost {compiler compiler' : Compiler} {a b : Ambient σ}
    (h : a.Between compiler compiler' b) (host : σ) (j j' : Journal) :
    ({ a with host, journal := j } : Ambient σ).Between compiler compiler'
      { b with host, journal := j' } :=
  ⟨rfl, h.left, h.right⟩

/-- What is noted in the journals is not compared. -/
theorem Ambient.Between.note {compiler compiler' : Compiler} {a b : Ambient σ}
    (h : a.Between compiler compiler' b) (event event' : Event) :
    (a.note event).Between compiler compiler' (b.note event') :=
  ⟨h.host_eq, h.left, h.right⟩

/-- Two lexers end something alike, or the first is lost in it. -/
inductive Ambient.Mirrored (compiler compiler' : Compiler) {α : Type} (gone : α → Prop) :
    α × Ambient σ → α × Ambient σ → Prop
  | alike (answer : α) {a b : Ambient σ} :
      a.Between compiler compiler' b → Mirrored compiler compiler' gone (answer, a) (answer, b)
  | lost (answer : α) (a : Ambient σ) (ended : α × Ambient σ) :
      gone answer → Mirrored compiler compiler' gone (answer, a) ended

/-- Two lexers end something alike, each with a stack or a stream that is related to that of the
other, or the first is lost in it. -/
inductive Ambient.MirroredOn (compiler compiler' : Compiler) {α β : Type} (related : β → β → Prop)
    (gone : α → Prop) : α × β × Ambient σ → α × β × Ambient σ → Prop
  | alike (answer : α) {left right : β} {a b : Ambient σ} :
      related left right → a.Between compiler compiler' b →
      MirroredOn compiler compiler' related gone (answer, left, a) (answer, right, b)
  | lost (answer : α) (left : β) (a : Ambient σ) (ended : α × β × Ambient σ) :
      gone answer → MirroredOn compiler compiler' related gone (answer, left, a) ended

/-! ### Resolving -/

namespace Compiler

variable {compiler : Compiler}

/-- What is wrong with an alternation is what is wrong with the pattern of the rules that are
left. -/
theorem alternationAnew_eq_error_iff {state first : Nat} {e : ConfigError} :
    compiler.alternationAnew state first = .error e ↔
      (compiler.partsOf state).drop first ≠ [] ∧ ∃ cause,
        Alternation.build ((compiler.partsOf state).drop first) first = .error cause ∧
          e = .pattern cause := by
  rw [alternationAnew]
  split
  · next hnil => simp [hnil]
  · next hne =>
      split
      · next cause hbuild =>
          constructor
          · intro herror
            exact ⟨hne, cause, hbuild, (Except.error.inj herror).symm⟩
          · rintro ⟨-, cause', hbuild', rfl⟩
            rw [Except.error.inj (hbuild.symm.trans hbuild')]
      · next a hbuild =>
          simp only [hbuild, reduceCtorEq, false_and, exists_false, and_false]

/-- Only patterns can be wrong with an alternation. -/
theorem alternationAnew_error {state first : Nat} {e : ConfigError}
    (h : compiler.alternationAnew state first = .error e) : ∃ cause, e = .pattern cause := by
  obtain ⟨-, cause, -, rfl⟩ := alternationAnew_eq_error_iff.mp h
  exact ⟨cause, rfl⟩

/-- An alternation that is built anew is built of the rules that are left, and some are. -/
theorem alternationAnew_ok {state first : Nat} {a : Alternation}
    (h : compiler.alternationAnew state first = .ok (some a)) :
    (compiler.partsOf state).drop first ≠ [] ∧
      Alternation.build ((compiler.partsOf state).drop first) first = .ok a := by
  rw [← alternation_eq (coherent_empty compiler)] at h
  exact alternation_ok (coherent_empty compiler) h

/-- There is no alternation only where no rules are left. -/
theorem alternationAnew_ok_none {state first : Nat}
    (h : compiler.alternationAnew state first = .ok none) :
    (compiler.partsOf state).drop first = [] := by
  rw [alternationAnew] at h
  split at h
  · next hnil => exact hnil
  · split at h <;> exact absurd h (by simp)

end Compiler

namespace Query

/-- What the rules from `first` on match: a match or nothing, unless their alternation cannot be
built. -/
def matchFrom (q : Query σ τ) (first : Nat) : Except ConfigError (Option Found) :=
  match q.compiler.alternationAnew q.state first with
  | .error e => .error e
  | .ok none => .ok none
  | .ok (some a) => .ok (a.matchAt q.input q.offset)

/-- The error that a search ends in, unless it finds something. -/
def error? {α : Type} (q : Query σ τ) : Except ConfigError (Option α) → Option LexError
  | .error e => some (.config e)
  | .ok none => some (.noMatch q.offset q.stateName)
  | .ok (some _) => none

/-- A search **mirrors** another one: from every rule on it matches the same and leads to the same
rule, unless the other ends in an error with which it is lost. It may go on for longer where
an end without a match is a loss. -/
structure Mirrored (lost : LexError → Prop) (q q' : Query σ τ) : Prop where
  input_eq : q'.input = q.input
  offset_eq : q'.offset = q.offset
  lastToken_eq : q'.lastToken = q.lastToken
  stateName_eq : q'.stateName = q.stateName
  length : q'.rules.length = q.rules.length ∨
    q.rules.length ≤ q'.rules.length ∧ lost (.noMatch q.offset q.stateName)
  matchFrom : ∀ first, q'.matchFrom first = q.matchFrom first ∨
    ∃ e ∈ q.error? (q.matchFrom first), lost e
  rule_eq : ∀ first found, q.matchFrom first = .ok (some found) →
    q'.rules[found.rule]? = q.rules[found.rule]?

/-- What is wrong with a search is what is wrong with the alternation of its rules. -/
theorem matchFrom_error {q : Query σ τ} {first : Nat} {e : ConfigError}
    (h : q.matchFrom first = .error e) : q.compiler.alternationAnew q.state first = .error e := by
  rw [matchFrom] at h
  cases hanew : q.compiler.alternationAnew q.state first with
  | error e' =>
      rw [hanew] at h
      exact congrArg Except.error (Except.error.inj h)
  | ok a? => cases a? <;> exact absurd h (by simp [hanew])

/-- One round of a search, under a cache that is coherent. -/
theorem resolveFrom_succ (q : Query σ τ) {a : Ambient σ} (h : q.compiler.Coherent a.cache)
    (attempts first : Nat) :
    ∃ a' : Ambient σ, a'.host = a.host ∧ q.compiler.Coherent a'.cache ∧
      q.resolveFrom (attempts + 1) first a =
        match q.matchFrom first with
        | .error e => (.error e, a')
        | .ok none => (.ok none, a')
        | .ok (some found) =>
          match q.rules[found.rule]? with
          | none => (.ok none, a')
          | some rule =>
            let (accepted, host) := q.accepts rule found a.host
            if accepted then
              (.ok (some (found, rule)), ({ a' with host } : Ambient σ).note
                (.resolvedRule q.stateName found.rule found.start found.stop))
            else
              q.resolveFrom attempts (found.rule + 1) (({ a' with host } : Ambient σ).note
                (.predicateRejected q.stateName found.rule q.offset)) := by
  have hanew := Compiler.alternation_eq h q.state first
  have hcoherent := Compiler.alternation_coherent h q.state first
  rw [resolveFrom, matchFrom, ← hanew, alternation]
  generalize q.compiler.alternation a.cache q.state first = answer at hcoherent
  obtain ⟨result, cache, events⟩ := answer
  cases result with
  | error e => exact ⟨⟨cache, a.host, _⟩, rfl, hcoherent, rfl⟩
  | ok a? =>
      cases a? with
      | none => exact ⟨⟨cache, a.host, _⟩, rfl, hcoherent, rfl⟩
      | some alternation =>
          dsimp only
          cases alternation.matchAt q.input q.offset with
          | none => exact ⟨⟨cache, a.host, _⟩, rfl, hcoherent, rfl⟩
          | some found => exact ⟨⟨cache, a.host, _⟩, rfl, hcoherent, rfl⟩

/-- What a search ends in is mirrored, or the search is lost. -/
theorem Mirrored.resolveFrom {lost : LexError → Prop} {q q' : Query σ τ} (h : q.Mirrored lost q')
    {a b : Ambient σ} (hab : a.Between q.compiler q'.compiler b) {attempts attempts' : Nat}
    (hattempts : attempts' = attempts ∨
      attempts ≤ attempts' ∧ lost (.noMatch q.offset q.stateName)) (first : Nat) :
    Ambient.Mirrored q.compiler q'.compiler (fun answer => ∃ e ∈ q.error? answer, lost e)
      (q.resolveFrom attempts first a) (q'.resolveFrom attempts' first b) := by
  induction attempts generalizing attempts' first a b with
  | zero =>
      -- A search with more rules may go on here, but the first has ended without a match.
      rcases hattempts with rfl | ⟨-, hlost⟩
      · exact .alike _ hab
      · exact .lost _ _ _ ⟨_, rfl, hlost⟩
  | succ attempts ih =>
      obtain ⟨attempts', rfl⟩ : ∃ n, attempts' = n + 1 := ⟨attempts' - 1, by omega⟩
      have hrest : attempts' = attempts ∨
          attempts ≤ attempts' ∧ lost (.noMatch q.offset q.stateName) := by
        rcases hattempts with heq | ⟨hle, hlost⟩
        · exact .inl (by omega)
        · exact .inr ⟨by omega, hlost⟩
      obtain ⟨a', hhost, hleft, hround⟩ := q.resolveFrom_succ hab.left attempts first
      obtain ⟨b', hhost', hright, hround'⟩ := q'.resolveFrom_succ hab.right attempts' first
      have hab' : a'.Between q.compiler q'.compiler b' :=
        ⟨(hhost.trans hab.host_eq).trans hhost'.symm, hleft, hright⟩
      rw [hround, hround']
      rcases h.matchFrom first with hsame | ⟨e, he, hlost⟩
      · have hrule := h.rule_eq first
        rw [hsame]
        generalize q.matchFrom first = result at hrule
        cases result with
        | error e => exact .alike _ hab'
        | ok found? =>
            cases found? with
            | none => exact .alike _ hab'
            | some found =>
                dsimp only
                rw [hrule found rfl]
                cases q.rules[found.rule]? with
                | none => exact .alike _ hab'
                | some rule =>
                    have haccepts : q'.accepts rule found b.host = q.accepts rule found a.host := by
                      simp only [accepts, testContext, h.input_eq, h.lastToken_eq, h.stateName_eq,
                        hab.host_eq]
                    dsimp only
                    rw [haccepts]
                    split
                    · exact .alike _ ((hab'.withHost _ _ _).note _ _)
                    · exact ih ((hab'.withHost _ _ _).note _ _) hrest _
      · generalize q.matchFrom first = result at he
        cases result with
        | error cause => exact .lost _ _ _ ⟨e, he, hlost⟩
        | ok found? =>
            cases found? with
            | none => exact .lost _ _ _ ⟨e, he, hlost⟩
            | some found => exact absurd he (by simp [error?])

/-- **A search that is mirrored** ends alike, or it is lost. -/
theorem Mirrored.resolve {lost : LexError → Prop} {q q' : Query σ τ} (h : q.Mirrored lost q')
    {a b : Ambient σ} (hab : a.Between q.compiler q'.compiler b) :
    Ambient.Mirrored q.compiler q'.compiler (fun answer => ∃ e ∈ q.error? answer, lost e)
      (q.resolve a) (q'.resolve b) := by
  refine h.resolveFrom hab ?_ 0
  rcases h.length with heq | ⟨hle, hlost⟩
  · exact .inl (by omega)
  · exact .inr ⟨by omega, hlost⟩

end Query

/-! ### Lexers that mirror lexers -/

namespace Lexer

/-- The search for a match in a state of a lexer. -/
def queryIn (lexer : Lexer σ τ) (state : Nat) (input : Text) (offset : Nat)
    (lastToken : Option τ) : Query σ τ where
  compiler := lexer.compiler
  rules := lexer.rulesOf state
  state
  input
  offset
  lastToken

/-- A lexer **mirrors** another one, of which `rename` renames the states: searches in states
that correspond are mirrored. -/
structure Mirrors (lexer lexer' : Lexer σ τ) (rename : Nat → Nat) (lost : LexError → Prop) :
    Prop where
  names : lexer.names.Renamed lexer'.names rename
  factory_eq : lexer'.factory = lexer.factory
  query : ∀ state < lexer.names.count, ∀ input offset lastToken,
    (lexer.queryIn state input offset lastToken).Mirrored lost
      (lexer'.queryIn (rename state) input offset lastToken)

end Lexer

/-! ### One attempt -/

namespace Bare

variable {lexer lexer' : Lexer σ τ} {rename : Nat → Nat} {a b : Ambient σ}

/-- A stream in the numbers of another lexer. -/
def Stream.renamed (s : Stream τ) (names' : StateNames) (rename : Nat → Nat) : Stream τ :=
  { s with
    stack := s.stack.renamed names' rename
    pending := s.pending.map fun p => { p with state := rename p.state } }

/-- A stream that means the same for two lexers: its stack is one of the first, and the rule of
the token before is the same in both. -/
structure Stream.Shared (lexer lexer' : Lexer σ τ) (rename : Nat → Nat) (s : Stream τ) :
    Prop where
  stack : s.stack.Within lexer.names
  rule_eq : ∀ p ∈ s.pending,
    (lexer'.rulesOf (rename p.state))[p.rule]? = (lexer.rulesOf p.state)[p.rule]?

/-- A stream of the one lexer, and the stream of the other that stands where it stands. -/
inductive Stream.Mirrored (lexer lexer' : Lexer σ τ) (rename : Nat → Nat) :
    Stream τ → Stream τ → Prop
  | intro {s : Stream τ} : s.Shared lexer lexer' rename →
      Mirrored lexer lexer' rename s (s.renamed lexer'.names rename)

/-- A stack of the one lexer, and the stack of the other with the same states. -/
inductive Stack.Mirrored (names names' : StateNames) (rename : Nat → Nat) : Stack → Stack → Prop
  | intro {s : Stack} : s.Within names → Mirrored names names' rename s (s.renamed names' rename)

/-- A hook before a match ends alike in both lexers. -/
theorem runBefore_mirrored {compiler compiler' : Compiler} {names names' : StateNames}
    (h : names.Renamed names' rename) (hab : a.Between compiler compiler' b) (rule : Rule σ τ)
    (context : BeforeContext) {stack : Stack} (hs : stack.Within names) :
    Ambient.MirroredOn compiler compiler' (Stack.Mirrored names names' rename) (fun _ => False)
      (runBefore rule context stack a)
      (runBefore rule context (stack.renamed names' rename) b) := by
  unfold runBefore
  cases rule.before with
  | none => exact .alike _ (.intro hs) hab
  | some hook =>
      obtain ⟨hend, hstack⟩ := Dialogue.run_related (Switching.Renamed names names' rename)
        (answerBefore_renamed h) (hook context b.host) (s := ⟨stack, a.journal, false⟩)
        (t := ⟨stack.renamed names' rename, b.journal, false⟩) ⟨hs, rfl, rfl⟩
      simp only [hab.host_eq, hend, hstack.stack_eq, hstack.aborted_eq]
      exact .alike _ (.intro hstack.within) (hab.withHost _ _ _)

/-- A hook after a token ends alike, whatever number its rule has. -/
theorem runAfter_mirrored {compiler compiler' : Compiler} {names names' : StateNames}
    (h : names.Renamed names' rename) (hab : a.Between compiler compiler' b)
    (rule : Option (Rule σ τ)) {p q : Pending} (hstart : q.start = p.start)
    (hend : q.matchEnd = p.matchEnd) {s : Stream τ} (hs : s.stack.Within names) :
    Ambient.MirroredOn compiler compiler' (Stack.Mirrored names names' rename) (fun _ => False)
      (runAfter rule p s a) (runAfter rule q (s.renamed names' rename) b) := by
  unfold runAfter
  simp only [Stream.renamed, hstart, hend]
  cases rule.bind (·.after) with
  | none => exact .alike _ (.intro hs) hab
  | some hook =>
      cases s.lastToken with
      | none => exact .alike _ (.intro hs) hab
      | some token =>
          obtain ⟨hend, hstack⟩ := Dialogue.run_related (Switching.Renamed names names' rename)
            (answerSwitch_renamed h)
            (hook
              { input := s.input
                matched := s.input.slice p.start p.matchEnd
                start := p.start
                position := s.cursor
                token } b.host)
            (s := ⟨s.stack, a.journal, false⟩)
            (t := ⟨s.stack.renamed names' rename, b.journal, false⟩) ⟨hs, rfl, rfl⟩
          simp only [hab.host_eq, hend, hstack.stack_eq]
          exact .alike _ (.intro hstack.within) (hab.withHost _ _ _)

/-- A hook that extends a token ends alike: it knows no states. -/
theorem runFetch_mirrored {compiler compiler' : Compiler} (hab : a.Between compiler compiler' b)
    (rule : Rule σ τ) (context : FetchContext) (cursor : Nat) :
    Ambient.Mirrored compiler compiler' (fun _ => False) (Lexer.runFetch rule context cursor a)
      (Lexer.runFetch rule context cursor b) := by
  unfold Lexer.runFetch
  cases rule.fetch with
  | none => exact .alike _ hab
  | some hook =>
      dsimp only
      rw [hab.host_eq]
      exact .alike _ (hab.withHost _ _ _)

end Bare

/-- The attempts of a lexer that is lost. -/
def Lexer.Attempt.Lost (lost : LexError → Prop) (out : Lexer.Attempt τ) : Prop :=
  ∃ e, out = .failed e ∧ lost e

/-- The answers of a lexer that is lost. -/
def Pull.Lost (lost : LexError → Prop) (answer : Pull τ) : Prop :=
  ∃ e, answer = .failed e ∧ lost e

namespace Lexer.Mirrors

open Bare (Stream)

variable {lexer lexer' : Lexer σ τ} {rename : Nat → Nat} {lost : LexError → Prop}
  {a b : Ambient σ}

/-- The end of a token is mirrored: rules that correspond have the same hook. -/
theorem finishPending (h : Mirrors lexer lexer' rename lost) {s : Stream τ}
    (hs : s.Shared lexer lexer' rename) (hab : a.Between lexer.compiler lexer'.compiler b) :
    Ambient.MirroredOn lexer.compiler lexer'.compiler (Stream.Mirrored lexer lexer' rename)
      (fun _ => False) (Bare.finishPending lexer s a)
      (Bare.finishPending lexer' (s.renamed lexer'.names rename) b) := by
  unfold Bare.finishPending
  have hpending : (s.renamed lexer'.names rename).pending =
    s.pending.map fun p => { p with state := rename p.state } := rfl
  rw [hpending]
  cases hp : s.pending with
  | none =>
      exact .alike _ (.intro hs) hab
  | some p =>
      have hafter := Bare.runAfter_mirrored h.names hab (lexer.rulesOf p.state)[p.rule]?
        (p := p) (q := { p with state := rename p.state }) rfl rfl hs.stack
      simp only [Option.map_some, hs.rule_eq p hp]
      generalize Bare.runAfter _ p s a = x at hafter
      generalize Bare.runAfter _ { p with state := rename p.state } _ b = y at hafter
      cases hafter with
      | alike answer hstack hab =>
          obtain ⟨hstack⟩ := hstack
          exact .alike _ (.intro ⟨hstack, by simp⟩) hab
      | lost answer left a ended hgone => exact hgone.elim

/-- A match that was not aborted becomes the same token, or fails alike. -/
theorem produce (h : Mirrors lexer lexer' rename lost) {s : Stream τ}
    (hs : s.Shared lexer lexer' rename) (hab : a.Between lexer.compiler lexer'.compiler b)
    (rule : Rule σ τ) (matched : MatchContext) (found : Found) (state : Nat)
    (hrule : (lexer'.rulesOf (rename state))[found.rule]? =
      (lexer.rulesOf state)[found.rule]?) :
    Ambient.MirroredOn lexer.compiler lexer'.compiler (Stream.Mirrored lexer lexer' rename)
      (Attempt.Lost lost) (Bare.produce lexer rule matched found state s a)
      (Bare.produce lexer' rule matched found (rename state) (s.renamed lexer'.names rename)
        b) := by
  have hname : (s.renamed lexer'.names rename).stack.currentName = s.stack.currentName :=
    hs.stack.currentName_renamed h.names
  have hcursor : (s.renamed lexer'.names rename).cursor = s.cursor := rfl
  have hinput : (s.renamed lexer'.names rename).input = s.input := rfl
  have hfetch := Bare.runFetch_mirrored hab rule { matched with state := s.stack.currentName }
    s.cursor
  unfold Bare.produce
  dsimp only
  rw [hname, hcursor, hinput, h.factory_eq]
  generalize runFetch rule _ _ a = x at hfetch
  generalize runFetch rule _ _ b = y at hfetch
  cases hfetch with
  | lost result a ended hgone => exact hgone.elim
  | alike result hab =>
      cases result with
      | error e => exact .alike _ (.intro hs) hab
      | ok cursor =>
          dsimp only
          rw [hab.host_eq]
          refine .alike _ (.intro ⟨hs.stack, ?_⟩) (hab.withHost _ _ _)
          intro p hp
          obtain rfl := Option.some.inj hp
          exact hrule

/-- **One attempt** ends alike for both lexers, or the first is lost. -/
theorem attempt (h : Mirrors lexer lexer' rename lost) {s : Stream τ}
    (hs : s.Shared lexer lexer' rename) (hab : a.Between lexer.compiler lexer'.compiler b) :
    Ambient.MirroredOn lexer.compiler lexer'.compiler (Stream.Mirrored lexer lexer' rename)
      (Attempt.Lost lost) (Bare.attempt lexer s a)
      (Bare.attempt lexer' (s.renamed lexer'.names rename) b) := by
  have hcurrent : (s.renamed lexer'.names rename).stack.current = rename s.stack.current :=
    hs.stack.current_renamed h.names
  have hname : (s.renamed lexer'.names rename).stack.currentName = s.stack.currentName :=
    hs.stack.currentName_renamed h.names
  have hown : s.stack.currentName =
      (lexer.queryIn s.stack.current s.input s.cursor s.lastToken).stateName := by
    rw [Bare.Stack.currentName, hs.stack.names_eq]
    rfl
  have hresolve := (h.query _ (hs.stack.current_lt h.names) s.input s.cursor s.lastToken).resolve
    hab
  -- Each resolution names a rule of its own table, so the two tables have it in the same place.
  have hleft : ∀ {found rule a'}, (lexer.queryIn s.stack.current s.input s.cursor
      s.lastToken).resolve a = (.ok (some (found, rule)), a') →
      (lexer.rulesOf s.stack.current)[found.rule]? = some rule :=
    fun hq => (Query.resolveFrom_some hq).2
  have hright : ∀ {found rule b'}, (lexer'.queryIn (rename s.stack.current) s.input s.cursor
      s.lastToken).resolve b = (.ok (some (found, rule)), b') →
      (lexer'.rulesOf (rename s.stack.current))[found.rule]? = some rule :=
    fun hq => (Query.resolveFrom_some hq).2
  unfold Bare.attempt
  dsimp only
  rw [hcurrent, hname]
  dsimp only [queryIn, Bare.Stream.renamed] at hresolve hleft hright ⊢
  generalize Query.resolve _ a = x at hresolve hleft
  generalize Query.resolve _ b = y at hresolve hright
  cases hresolve with
  | lost answer a' ended hgone =>
      obtain ⟨e, herror, hlost⟩ := hgone
      cases answer with
      | error cause =>
          obtain rfl := Option.some.inj herror
          exact .lost _ _ _ _ ⟨_, rfl, hlost⟩
      | ok found? =>
          cases found? with
          | none =>
              obtain rfl := Option.some.inj herror
              exact .lost _ _ _ _ ⟨_, rfl, hown ▸ hlost⟩
          | some p => exact absurd herror (by simp [Query.error?])
  | alike answer hab =>
      cases answer with
      | error e => exact .alike _ (.intro hs) hab
      | ok found? =>
          cases found? with
          | none => exact .alike _ (.intro hs) hab
          | some p =>
              obtain ⟨found, rule⟩ := p
              have hbefore := Bare.runBefore_mirrored h.names hab rule
                { input := s.input
                  matched := s.input.slice s.cursor found.stop
                  start := s.cursor
                  position := s.cursor } hs.stack
              dsimp only
              generalize Bare.runBefore rule _ s.stack _ = x at hbefore
              generalize Bare.runBefore rule _ (s.stack.renamed _ _) _ = y at hbefore
              cases hbefore with
              | lost answer left a ended hgone => exact hgone.elim
              | alike result hstack hab =>
                  obtain ⟨hstack⟩ := hstack
                  cases result with
                  | error e => exact .alike _ (.intro ⟨hstack, hs.rule_eq⟩) hab
                  | ok aborted =>
                      cases aborted with
                      | true => exact .alike _ (.intro ⟨hstack, hs.rule_eq⟩) (hab.note _ _)
                      | false =>
                          exact h.produce (s := { s with stack := _, cursor := found.stop })
                            ⟨hstack, hs.rule_eq⟩ hab rule _ found _
                            ((hright rfl).trans (hleft rfl).symm)

/-- The searches for a token end alike, or the first lexer is lost. -/
theorem scan (h : Mirrors lexer lexer' rename lost) (attempts : Nat) {s : Stream τ}
    (hs : s.Shared lexer lexer' rename) (hab : a.Between lexer.compiler lexer'.compiler b) :
    Ambient.MirroredOn lexer.compiler lexer'.compiler (Stream.Mirrored lexer lexer' rename)
      (Pull.Lost lost) (Bare.scan lexer attempts s a)
      (Bare.scan lexer' attempts (s.renamed lexer'.names rename) b) := by
  induction attempts generalizing s a b with
  | zero => exact .alike _ (.intro hs) hab
  | succ attempts ih =>
      have hattempt := h.attempt hs hab
      have hinput : (s.renamed lexer'.names rename).input = s.input := rfl
      have hcursor : (s.renamed lexer'.names rename).cursor = s.cursor := rfl
      rw [Bare.scan, Bare.scan, hinput, hcursor]
      by_cases hgoes : s.cursor < s.input.byteLength
      · rw [if_pos hgoes, if_pos hgoes]
        generalize Bare.attempt lexer s a = x at hattempt
        generalize Bare.attempt lexer' _ b = y at hattempt
        cases hattempt with
        | lost out s' a' ended hgone =>
            obtain ⟨e, rfl, hlost⟩ := hgone
            exact .lost _ _ _ _ ⟨e, rfl, hlost⟩
        | alike out hstream hab =>
            obtain ⟨hs⟩ := hstream
            cases out with
            | token t => exact .alike _ (.intro hs) hab
            | failed e => exact .alike _ (.intro hs) hab
            | aborted => exact ih hs hab
      · rw [if_neg hgoes, if_neg hgoes]
        exact .alike _ (.intro hs) (hab.note _ _)

/-- **A step is mirrored**, by the end of the token before and the search. -/
theorem step (h : Mirrors lexer lexer' rename lost) (attempts : Nat) {s : Stream τ}
    (hs : s.Shared lexer lexer' rename) (hab : a.Between lexer.compiler lexer'.compiler b) :
    Ambient.MirroredOn lexer.compiler lexer'.compiler (Stream.Mirrored lexer lexer' rename)
      (Pull.Lost lost) (Bare.step lexer attempts s a)
      (Bare.step lexer' attempts (s.renamed lexer'.names rename) b) := by
  have herror : (s.renamed lexer'.names rename).startError = s.startError := rfl
  rw [Bare.step, Bare.step, herror]
  cases s.startError with
  | some e => exact .alike _ (.intro ⟨hs.stack, hs.rule_eq⟩) hab
  | none =>
      have hfinish := h.finishPending hs hab
      dsimp only
      generalize Bare.finishPending lexer s a = x at hfinish
      generalize Bare.finishPending lexer' _ b = y at hfinish
      cases hfinish with
      | lost answer left a ended hgone => exact hgone.elim
      | alike result hstream hab =>
          obtain ⟨hs⟩ := hstream
          cases result with
          | error e => exact .alike _ (.intro hs) hab
          | ok => exact h.scan attempts hs hab

/-- **A pull is mirrored**, in the engine without anchors. -/
theorem pull_bare (h : Mirrors lexer lexer' rename lost) (attempts : Nat) {s : Stream τ}
    (hs : s.Shared lexer lexer' rename) (hab : a.Between lexer.compiler lexer'.compiler b) :
    Ambient.MirroredOn lexer.compiler lexer'.compiler (Stream.Mirrored lexer lexer' rename)
      (Pull.Lost lost) (Bare.pull lexer attempts s a)
      (Bare.pull lexer' attempts (s.renamed lexer'.names rename) b) := by
  have hfinished : (s.renamed lexer'.names rename).finished = s.finished := rfl
  have hstep := h.step attempts hs hab
  rw [Bare.pull, Bare.pull, hfinished]
  cases s.finished with
  | true => exact .alike _ (.intro hs) hab
  | false =>
      simp only [Bool.false_eq_true, if_false]
      generalize Bare.step lexer attempts s a = x at hstep
      generalize Bare.step lexer' attempts _ b = y at hstep
      cases hstep with
      | lost answer s' a' ended hgone =>
          obtain ⟨e, rfl, hlost⟩ := hgone
          exact .lost _ _ _ _ ⟨e, rfl, hlost⟩
      | alike answer hstream hab =>
          obtain ⟨hs⟩ := hstream
          cases answer with
          | token t => exact .alike _ (.intro hs) hab
          | failed e => exact .alike _ (.intro ⟨hs.stack, hs.rule_eq⟩) (hab.note _ _)
          | ended => exact .alike _ (.intro ⟨hs.stack, hs.rule_eq⟩) hab
          | stalled => exact .alike _ (.intro hs) hab

end Lexer.Mirrors

/-! ### The engine with anchors -/

/-- Streams of two lexers that stand at the same place between pulls. -/
structure TokenStream.Mirrored (lexer lexer' : Lexer σ τ) (rename : Nat → Nat)
    (s t : TokenStream τ) : Prop where
  left : Lexer.Rested lexer s
  right : Lexer.Rested lexer' t
  bare : Bare.Stream.Mirrored lexer lexer' rename s.bare t.bare

namespace Lexer.Mirrors

variable {lexer lexer' : Lexer σ τ} {rename : Nat → Nat} {lost : LexError → Prop}
  {s t : TokenStream τ} {a b : Ambient σ}

/-- Runs over the same input start at the same place. -/
theorem start (h : Mirrors lexer lexer' rename lost) (input : Text) (offset : Nat) :
    TokenStream.Mirrored lexer lexer' rename (lexer.tokenizeFrom input offset).1
      (lexer'.tokenizeFrom input offset).1 := by
  refine ⟨tokenizeFrom_rested h.names.resolved input offset,
    tokenizeFrom_rested h.names.resolved' input offset, ?_⟩
  exact .intro (s := (lexer.tokenizeFrom input offset).1.bare)
    ⟨⟨rfl, by simp [tokenizeFrom, TokenStream.bare, StateStack.bare, StateStack.start]⟩,
      by simp [tokenizeFrom, TokenStream.bare]⟩

/-- **One pull** ends alike for both lexers, or the first is lost. -/
theorem pull (h : Mirrors lexer lexer' rename lost) (attempts : Nat)
    (hst : TokenStream.Mirrored lexer lexer' rename s t)
    (hab : a.Between lexer.compiler lexer'.compiler b) :
    Ambient.MirroredOn lexer.compiler lexer'.compiler (TokenStream.Mirrored lexer lexer' rename)
      (Pull.Lost lost) (lexer.pull attempts s a) (lexer'.pull attempts t b) := by
  obtain ⟨-, hs', -⟩ := hst.left.pulled attempts a
  obtain ⟨-, ht', -⟩ := hst.right.pulled attempts b
  have hbare : a.bare.Between lexer.compiler lexer'.compiler b.bare :=
    ⟨hab.host_eq, hab.left, hab.right⟩
  have hpull : Ambient.MirroredOn lexer.compiler lexer'.compiler
      (Bare.Stream.Mirrored lexer lexer' rename) (Pull.Lost lost)
      (Bare.pull lexer attempts s.bare a.bare) (Bare.pull lexer' attempts t.bare b.bare) := by
    have hstreams := hst.bare
    generalize s.bare = left at hstreams
    generalize t.bare = right at hstreams
    obtain ⟨hshared⟩ := hstreams
    exact h.pull_bare attempts hshared hbare
  rw [hst.left.pull_bare, hst.right.pull_bare] at hpull
  generalize lexer.pull attempts s a = x at hs' hpull
  generalize lexer'.pull attempts t b = y at ht' hpull
  obtain ⟨answer, s', a'⟩ := x
  obtain ⟨answer', t', b'⟩ := y
  cases hpull with
  | alike _ hstreams hab => exact .alike _ ⟨hs', ht', hstreams⟩ ⟨hab.host_eq, hab.left, hab.right⟩
  | lost _ _ _ _ hgone => exact .lost _ _ _ _ hgone

/-- What is seen of two pulls that end alike is the same. -/
theorem report_eq (h : Mirrors lexer lexer' rename lost)
    (hst : TokenStream.Mirrored lexer lexer' rename s t)
    (hab : a.Between lexer.compiler lexer'.compiler b) (answer : Pull τ) :
    report (answer, s, a) = report (answer, t, b) := by
  have hstack : t.stack.bare = s.stack.bare.renamed lexer'.names rename ∧
      s.stack.bare.Within lexer.names ∧ t.cursor = s.cursor := by
    have hstreams := hst.bare
    have hs : s.stack.bare = s.bare.stack ∧ s.cursor = s.bare.cursor := ⟨rfl, rfl⟩
    have ht : t.stack.bare = t.bare.stack ∧ t.cursor = t.bare.cursor := ⟨rfl, rfl⟩
    rw [hs.1, hs.2, ht.1, ht.2]
    generalize s.bare = left at hstreams
    generalize t.bare = right at hstreams
    obtain ⟨hshared⟩ := hstreams
    exact ⟨rfl, hshared.stack, rfl⟩
  obtain ⟨hrenamed, hwithin, hcursor⟩ := hstack
  have hname : t.stack.currentName = s.stack.currentName := by
    rw [← StateStack.bare_currentName, hrenamed, hwithin.currentName_renamed h.names,
      StateStack.bare_currentName]
  have hdepth : t.stack.depth = s.stack.depth := by
    have hdepth := Bare.Stack.depth_renamed s.stack.bare lexer'.names rename
    rw [← hrenamed] at hdepth
    exact hdepth
  simp only [report, hname, hdepth, hcursor, hab.host_eq]

/-! ### Runs -/

/-- **Up to its loss a run is mirrored** report by report: what a run of the first lexer reports
before it is lost, the same run of the second reports too. -/
theorem reports (h : Mirrors lexer lexer' rename lost) {goesOn : Report σ τ → Bool}
    (hlost : ∀ r, Pull.Lost lost r.answer → goesOn r = false) (allowances : List Nat)
    (hst : TokenStream.Mirrored lexer lexer' rename s t)
    (hab : a.Between lexer.compiler lexer'.compiler b) :
    (lexer.reports allowances s a).takeWhile goesOn <+: lexer'.reports allowances t b := by
  induction allowances generalizing s t a b with
  | nil => exact List.nil_prefix
  | cons attempts allowances ih =>
      have hpull := h.pull attempts hst hab
      rw [Lexer.reports, Lexer.reports]
      generalize lexer.pull attempts s a = x at hpull
      generalize lexer'.pull attempts t b = y at hpull
      cases hpull with
      | alike answer hst hab =>
          rw [h.report_eq hst hab answer, List.takeWhile_cons]
          split
          · exact List.cons_prefix_cons.mpr ⟨rfl, ih hst hab⟩
          · exact List.nil_prefix
      | lost answer s' a' ended hgone =>
          rw [List.takeWhile_cons_of_neg]
          · exact List.nil_prefix
          · simp [hlost (report (answer, s', a')) hgone]

end Lexer.Mirrors

/-! ### Lexers in use -/

namespace Lexer

/-- A run that is open on the one lexer, and the run of the other that stands where it stands. -/
structure OpenRun.Mirrored (lexer lexer' : Lexer σ τ) (rename : Nat → Nat)
    (opened opened' : OpenRun σ τ) : Prop where
  stream : TokenStream.Mirrored lexer lexer' rename opened.stream opened'.stream
  host_eq : opened.host = opened'.host

/-- Two lexers in use whose runs stand at the same places. -/
structure InUse.Mirrored (lexer lexer' : Lexer σ τ) (rename : Nat → Nat) (s t : InUse σ τ) :
    Prop where
  left : lexer.compiler.Coherent s.cache
  right : lexer'.compiler.Coherent t.cache
  runs : List.Forall₂ (Option.Rel (OpenRun.Mirrored lexer lexer' rename)) s.runs t.runs

namespace Mirrors

variable {lexer lexer' : Lexer σ τ} {rename : Nat → Nat} {s t : InUse σ τ}

/-- Runs that are open correspond. -/
theorem run?_mirrored (h : InUse.Mirrored lexer lexer' rename s t) (run : Nat) :
    Option.Rel (OpenRun.Mirrored lexer lexer' rename) (s.run? run) (t.run? run) := by
  obtain ⟨-, -, hruns⟩ := h
  rw [InUse.run?, InUse.run?]
  generalize s.runs = left at hruns
  generalize t.runs = right at hruns
  induction hruns generalizing run with
  | nil => exact .none
  | cons hrun _ ih =>
      cases run with
      | zero => exact hrun
      | succ run => exact ih run

/-- Lists that correspond do so after a change at the same place. -/
theorem set_mirrored {α β : Type} {related : α → β → Prop} {left : List α} {right : List β}
    (h : List.Forall₂ related left right) {x : α} {y : β} (hxy : related x y) (i : Nat) :
    List.Forall₂ related (left.set i x) (right.set i y) := by
  induction h generalizing i with
  | nil => exact .nil
  | cons hhead htail ih =>
      cases i with
      | zero => exact .cons hxy htail
      | succ i => exact .cons hhead (ih i)

/-- One thing is done alike with both lexers. -/
theorem act (h : Mirrors lexer lexer' rename fun _ => False)
    (hst : InUse.Mirrored lexer lexer' rename s t) (action : Action σ) :
    (lexer.act s action).1 = (lexer'.act t action).1 ∧
      InUse.Mirrored lexer lexer' rename (lexer.act s action).2 (lexer'.act t action).2 := by
  cases action with
  | start input offset host =>
      exact ⟨rfl, hst.left, hst.right, List.rel_append hst.runs
        (.cons (.some ⟨h.start input offset, rfl⟩) .nil)⟩
  | abandon run => exact ⟨rfl, hst.left, hst.right, set_mirrored hst.runs .none run⟩
  | pull run attempts =>
      have hrun := run?_mirrored hst run
      rw [Lexer.act, Lexer.act]
      generalize s.run? run = opened at hrun
      generalize t.run? run = opened' at hrun
      cases hrun with
      | none => exact ⟨rfl, hst⟩
      | @some opened opened' hopened =>
          obtain ⟨stream, host⟩ := opened
          obtain ⟨stream', host'⟩ := opened'
          obtain ⟨hstream, hhost⟩ := hopened
          have hpull := h.pull (a := ⟨s.cache, host, s.journal⟩) (b := ⟨t.cache, host', t.journal⟩)
            attempts hstream ⟨hhost, hst.left, hst.right⟩
          dsimp only
          generalize lexer.pull attempts stream _ = x at hpull
          generalize lexer'.pull attempts stream' _ = y at hpull
          cases hpull with
          | alike answer hstream hab =>
              rw [h.report_eq hstream hab]
              exact ⟨rfl, hab.left, hab.right,
                set_mirrored hst.runs (.some ⟨hstream, hab.host_eq⟩) run⟩
          | lost answer _ _ ended hgone =>
              obtain ⟨e, -, hfalse⟩ := hgone
              exact hfalse.elim

/-- **Lexers of which none is ever lost keep the same log**, whatever is done with them. -/
theorem carryOut (h : Mirrors lexer lexer' rename fun _ => False)
    (hst : InUse.Mirrored lexer lexer' rename s t) (actions : List (Action σ)) :
    (lexer.carryOut actions s).1 = (lexer'.carryOut actions t).1 := by
  induction actions generalizing s t with
  | nil => rfl
  | cons action actions ih =>
      obtain ⟨hentry, hnext⟩ := h.act hst action
      rw [Lexer.carryOut, Lexer.carryOut]
      dsimp only
      rw [hentry, ih hnext]

end Mirrors

end Lexer

end ModalLex
