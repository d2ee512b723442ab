import ModalLex.Proofs.Lexer.Mirroring

/-!
# Compiling Early or Late

A lexer that compiles eagerly builds the full alternation of every state when it is made, a lazy
one builds what it needs while it runs. Making a lexer is split here into what does not depend on
this setting (`assemble`) and the search for the first state whose full alternation cannot be
built (`Compiler.unbuilt?`), which only an eager lexer makes.

What is found when the lexer is made is what would be found later, since a coherent cache hands
out what would be built anew. So an eager lexer and a lazy one of the same table cannot be told
apart by their runs, and where only the lazy one can be made, a run of it fails as soon as it comes
to a state whose full alternation cannot be built.

## Main results

* `make_ok_iff`, `make_error_iff`: when a lexer can be made, and what is wrong otherwise.
* `pull_of_tries`: a pull that tries a state that cannot be built fails with its error.
* `eager_agrees_with_lazy`: **eager and lazy compilation agree**.
-/

namespace ModalLex

/-! ### Full alternations -/

namespace Compiler

/-- The parts of a state are those of its checked rules. -/
theorem mapM_partsOf {σ τ : Type} {names : StateNames} {rules : List (List (Rule σ τ))}
    {compiler : Compiler} (h : ofRules names rules = .ok compiler) (state : Nat) :
    (rules.getD state []).mapM checkRule = .ok (compiler.partsOf state) := by
  obtain ⟨hlength, hstates⟩ := mapM_ok (ofRules_ok h).2
  rw [partsOf, List.getD_eq_getElem?_getD, List.getD_eq_getElem?_getD]
  cases hstate : rules[state]? with
  | none =>
      have hnone : compiler.parts[state]? = none := by
        rw [List.getElem?_eq_none_iff, hlength]
        exact List.getElem?_eq_none_iff.mp hstate
      rw [hnone]
      rfl
  | some stateRules =>
      obtain ⟨parts, hparts, hmap⟩ := hstates state stateRules hstate
      rw [hparts]
      exact hmap

/-- Only the states have parts. -/
theorem lt_of_partsOf_ne_nil {compiler : Compiler} {state : Nat}
    (h : compiler.partsOf state ≠ []) : state < compiler.parts.length := by
  by_contra hle
  rw [partsOf, List.getD_eq_getElem?_getD, List.getElem?_eq_none (Nat.le_of_not_lt hle)] at h
  exact h rfl

/-- What is wrong with the full alternation of a state, if it cannot be built. -/
def fullError? (compiler : Compiler) (state : Nat) : Option ConfigError :=
  match compiler.alternationAnew state 0 with
  | .error e => some e
  | .ok _ => none

/-- What is wrong with the first state whose full alternation cannot be built. -/
def unbuilt? (compiler : Compiler) : Option ConfigError :=
  (List.range compiler.parts.length).findSome? compiler.fullError?

variable {compiler : Compiler} {cache : AlternationCache}

theorem fullError?_eq_some_iff {state : Nat} {e : ConfigError} :
    compiler.fullError? state = some e ↔ compiler.alternationAnew state 0 = .error e := by
  rw [fullError?]
  cases compiler.alternationAnew state 0 <;> simp

/-- Building full alternations one after the other ends at the first that cannot be built. -/
theorem compileStates_eq (h : compiler.Coherent cache) (states : List Nat) (journal : Journal) :
    (compiler.compileStates states cache journal).1 =
      match states.findSome? compiler.fullError? with
      | some e => .error e
      | none => .ok () := by
  induction states generalizing cache journal with
  | nil => rfl
  | cons state states ih =>
      have hnext := alternation_coherent h state 0
      rw [compileStates, List.findSome?_cons, fullError?, ← alternation_eq h]
      dsimp only
      generalize compiler.alternation cache state 0 = answer at hnext
      obtain ⟨result, cache', events⟩ := answer
      cases result with
      | error e => rfl
      | ok a? => exact ih hnext _

/-- Compiling everything from an empty cache fails with the error of the first state that cannot be
built, and succeeds if there is none. -/
theorem compileAll_eq (compiler : Compiler) (journal : Journal) :
    (compiler.compileAll .empty journal).1 =
      match compiler.unbuilt? with
      | some e => .error e
      | none => .ok () :=
  compileStates_eq (coherent_empty compiler) _ journal

theorem fullError?_eq_none_iff {state : Nat} :
    compiler.fullError? state = none ↔ ∃ a?, compiler.alternationAnew state 0 = .ok a? := by
  rw [fullError?]
  cases compiler.alternationAnew state 0 <;> simp

/-- Nothing is unbuilt if every state can be built. -/
theorem unbuilt?_eq_none_iff : compiler.unbuilt? = none ↔
    ∀ state < compiler.parts.length, ∃ a?, compiler.alternationAnew state 0 = .ok a? := by
  simp only [unbuilt?, List.findSome?_eq_none_iff, List.mem_range, fullError?_eq_none_iff]

/-- The error that is found is that of the first state whose full alternation cannot be built. -/
theorem exists_of_unbuilt? {e : ConfigError} (h : compiler.unbuilt? = some e) :
    ∃ state < compiler.parts.length, compiler.alternationAnew state 0 = .error e ∧
      ∀ earlier < state, ∃ a?, compiler.alternationAnew earlier 0 = .ok a? := by
  obtain ⟨before, state, rest, hrange, herror, hbefore⟩ := List.findSome?_eq_some_iff.mp h
  have hstate : (List.range compiler.parts.length)[before.length]? = some state := by
    rw [hrange, List.getElem?_append_right (Nat.le_refl _), Nat.sub_self, List.getElem?_cons_zero]
  obtain ⟨hlt, hnumber⟩ := List.getElem?_eq_some_iff.mp hstate
  rw [List.length_range] at hlt
  rw [List.getElem_range] at hnumber
  subst hnumber
  refine ⟨before.length, hlt, fullError?_eq_some_iff.mp herror, ?_⟩
  intro earlier hearlier
  have hmem : before[earlier]? = some earlier := by
    rw [← List.getElem?_append_left hearlier, ← hrange, List.getElem?_range (by omega)]
  exact fullError?_eq_none_iff.mp (hbefore earlier (List.mem_of_getElem? hmem))

end Compiler

namespace Lexer

variable {σ τ : Type}

/-! ### Making a lexer -/

/-- The lexer of a table before any alternation is built. -/
def assemble (table : StateTable (Rule σ τ)) (config : LexerConfig)
    (factory : BaseToken → Text → τ) : Except ConfigError (Lexer σ τ) :=
  match table.resolve config.baseState with
  | .error e => .error e
  | .ok (names, rules) =>
    (Compiler.ofRules names rules).map fun compiler => { config, compiler, rules, factory }

variable {table : StateTable (Rule σ τ)} {config : LexerConfig} {factory : BaseToken → Text → τ}
  {lexer : Lexer σ τ}

/-- What an assembled lexer consists of. -/
theorem assemble_ok_iff : assemble table config factory = .ok lexer ↔
    table.resolve config.baseState = .ok (lexer.names, lexer.rules) ∧
      Compiler.ofRules lexer.names lexer.rules = .ok lexer.compiler ∧ lexer.config = config ∧
      lexer.factory = factory := by
  rw [assemble]
  constructor
  · intro h
    split at h
    · exact absurd h (by simp)
    · next names rules hresolve =>
        cases hcompiler : Compiler.ofRules names rules with
        | error e => exact absurd h (by simp [hcompiler, Except.map])
        | ok compiler =>
            rw [hcompiler] at h
            obtain rfl := Except.ok.inj h
            obtain ⟨rfl, -⟩ := Compiler.ofRules_ok hcompiler
            exact ⟨hresolve, hcompiler, rfl, rfl⟩
  · rintro ⟨hresolve, hcompiler, rfl, rfl⟩
    rw [hresolve]
    simp only [hcompiler, Except.map]

/-- What making a lexer comes to, but for its cache and the journal. -/
theorem make_eq (table : StateTable (Rule σ τ)) (config : LexerConfig)
    (factory : BaseToken → Text → τ) :
    (make table config factory).1.map Prod.fst =
      match assemble table config factory with
      | .error e => .error e
      | .ok lexer =>
        match if config.eagerCompile then lexer.compiler.unbuilt? else none with
        | some e => .error e
        | none => .ok lexer := by
  rw [make, assemble]
  dsimp only
  cases table.resolve config.baseState with
  | error e => rfl
  | ok resolved =>
      obtain ⟨names, rules⟩ := resolved
      dsimp only
      cases Compiler.ofRules names rules with
      | error e => rfl
      | ok compiler =>
          simp only [Except.map]
          cases config.eagerCompile with
          | false => rfl
          | true =>
              have hall := compiler.compileAll_eq
                #[Event.creatingLexer table.size config.baseState true]
              simp only [if_true]
              generalize compiler.compileAll .empty _ = answer at hall
              obtain ⟨result, cache, journal⟩ := answer
              dsimp only at hall
              subst hall
              cases compiler.unbuilt? <;> rfl

/-- When a lexer can be made. -/
theorem make_ok_iff :
    (∃ cache journal, make table config factory = (.ok (lexer, cache), journal)) ↔
      assemble table config factory = .ok lexer ∧
        (config.eagerCompile = true → lexer.compiler.unbuilt? = none) := by
  have hmake := make_eq table config factory
  constructor
  · rintro ⟨cache, journal, h⟩
    rw [h] at hmake
    cases hassemble : assemble table config factory with
    | error e => simp [hassemble, Except.map] at hmake
    | ok assembled =>
        rw [hassemble] at hmake
        dsimp only [Except.map] at hmake
        split at hmake
        · exact absurd hmake (by simp)
        · next hunbuilt =>
            obtain rfl := Except.ok.inj hmake
            exact ⟨rfl, fun heager => by simpa [heager] using hunbuilt⟩
  · rintro ⟨hassemble, hunbuilt⟩
    have hnone : (if config.eagerCompile then lexer.compiler.unbuilt? else none) = none := by
      split
      · next heager => exact hunbuilt heager
      · rfl
    rw [hassemble] at hmake
    simp only [hnone] at hmake
    generalize make table config factory = answer at hmake
    obtain ⟨result, journal⟩ := answer
    cases result with
    | error e => exact absurd hmake (by simp [Except.map])
    | ok made =>
        obtain ⟨made, cache⟩ := made
        obtain rfl := Except.ok.inj hmake
        exact ⟨cache, journal, rfl⟩

/-- What is wrong when a lexer cannot be made. -/
theorem make_error_iff {e : ConfigError} :
    (∃ journal, make table config factory = (.error e, journal)) ↔
      assemble table config factory = .error e ∨
        ∃ lexer, assemble table config factory = .ok lexer ∧ config.eagerCompile = true ∧
          lexer.compiler.unbuilt? = some e := by
  have hmake := make_eq table config factory
  have hiff : (∃ journal, make table config factory = (.error e, journal)) ↔
      (make table config factory).1.map Prod.fst = .error e := by
    generalize make table config factory = answer
    obtain ⟨result, journal⟩ := answer
    cases result <;> simp [Except.map]
  rw [hiff, hmake]
  cases assemble table config factory with
  | error e' => simp
  | ok lexer =>
      cases config.eagerCompile with
      | false => simp
      | true => cases hunbuilt : lexer.compiler.unbuilt? <;> simp [hunbuilt]

/-- The lexer that is assembled does not depend on when it compiles. -/
theorem assemble_eagerCompile (table : StateTable (Rule σ τ)) (config : LexerConfig)
    (factory : BaseToken → Text → τ) (eager : Bool) :
    assemble table { config with eagerCompile := eager } factory =
      (assemble table config factory).map fun lexer =>
        { lexer with config := { config with eagerCompile := eager } } := by
  rw [assemble, assemble]
  cases table.resolve config.baseState with
  | error e => rfl
  | ok resolved =>
      obtain ⟨names, rules⟩ := resolved
      dsimp only
      cases Compiler.ofRules names rules <;> rfl

/-- A lexer mirrors itself, whatever its settings are. -/
theorem mirrors_config (hnames : lexer.names.Resolved) (config : LexerConfig) :
    Mirrors lexer { lexer with config } id fun _ => False where
  names := .refl hnames
  factory_eq := rfl
  query _ _ _ _ _ := ⟨rfl, rfl, rfl, rfl, .inl rfl, fun _ => .inl rfl, fun _ _ _ => rfl⟩

/-! ### States that cannot be built -/

/-- The streams at which a search attempts a match: the first, and behind every aborted match the
next. -/
inductive Tries (lexer : Lexer σ τ) :
    (attempts : Nat) → TokenStream τ → Ambient σ → TokenStream τ → Prop
  | first {attempts : Nat} {stream : TokenStream τ} {ambient : Ambient σ} :
      stream.cursor < stream.input.byteLength → Tries lexer (attempts + 1) stream ambient stream
  | next {attempts : Nat} {stream stream' tried : TokenStream τ} {ambient ambient' : Ambient σ} :
      stream.cursor < stream.input.byteLength →
      lexer.attempt stream ambient = (.aborted, stream', ambient') →
      Tries lexer attempts stream' ambient' tried → Tries lexer (attempts + 1) stream ambient tried

/-- The streams at which a pull attempts a match: those of the search that begins when the token
before is finished. -/
def PullTries (lexer : Lexer σ τ) (attempts : Nat) (stream : TokenStream τ) (ambient : Ambient σ)
    (tried : TokenStream τ) : Prop :=
  stream.finished = false ∧ stream.startError = none ∧
    ∃ stream' ambient', lexer.finishPending stream ambient = (.ok (), stream', ambient') ∧
      lexer.Tries attempts stream' ambient' tried

variable {stream tried : TokenStream τ} {ambient : Ambient σ}

/-- An attempt in a state whose full alternation cannot be built fails with its error. -/
theorem attempt_of_unbuilt {e : ConfigError} (h : lexer.compiler.Coherent ambient.cache)
    (herror : lexer.compiler.alternationAnew stream.stack.current 0 = .error e) :
    (lexer.attempt stream ambient).1 = .failed (.config e) := by
  have hresult : ((lexer.query stream).alternation 0 ambient).1 = .error e :=
    (Compiler.alternation_eq h _ _).trans herror
  generalize halternation : (lexer.query stream).alternation 0 ambient = answer at hresult
  obtain ⟨result, ambient₁⟩ := answer
  obtain rfl : result = .error e := hresult
  have hresolve : (lexer.query stream).resolve ambient = (.error e, ambient₁) :=
    (Query.Runs.unbuilt halternation).eq
  rw [(AttemptRuns.unbuilt hresolve).eq]

/-- A search that tries a state that cannot be built fails there. -/
theorem scan_of_tries {attempts : Nat} {e : ConfigError}
    (h : lexer.compiler.Coherent ambient.cache) (htries : lexer.Tries attempts stream ambient tried)
    (herror : lexer.compiler.alternationAnew tried.stack.current 0 = .error e) :
    (lexer.scan attempts stream ambient).1 = .failed (.config e) := by
  induction htries with
  | @first attempts stream ambient hgoes =>
      have hfailed := attempt_of_unbuilt h herror
      generalize hattempt : lexer.attempt stream ambient = answer at hfailed
      obtain ⟨out, stream', ambient'⟩ := answer
      obtain rfl : out = .failed (.config e) := hfailed
      rw [(ScanRuns.failed hgoes (attemptRuns_iff.mpr hattempt)).eq]
  | @next attempts stream stream' tried ambient ambient' hgoes hattempt _ ih =>
      have hruns := attemptRuns_iff.mpr hattempt
      rw [(ScanRuns.again hgoes hruns (lexer.scan_runs attempts stream' ambient')).eq]
      exact ih (hruns.coherent h) herror

/-- **A pull that tries a state that cannot be built** fails with the error of its full
alternation. -/
theorem pull_of_tries {attempts : Nat} {e : ConfigError}
    (h : lexer.compiler.Coherent ambient.cache)
    (htries : lexer.PullTries attempts stream ambient tried)
    (herror : lexer.compiler.alternationAnew tried.stack.current 0 = .error e) :
    (lexer.pull attempts stream ambient).1 = .failed (.config e) := by
  obtain ⟨hopen, hstart, stream', ambient', hfinish, htries⟩ := htries
  have hruns := finishRuns_iff.mpr hfinish
  rw [(PullRuns.searched hopen hstart hruns (lexer.scan_runs attempts stream' ambient')).eq,
    close_answer]
  exact scan_of_tries (hruns.cache_eq ▸ h) htries herror

/-! ### Eager and lazy -/

/-- **Eager and lazy compilation agree.**

A lexer that can be made eagerly can be made lazily, and whatever is done with the two, they keep
the same log: the same answers, positions, states, depths and hosts of all runs. What is wrong
with a table when the lexer is lazy is wrong with it when it is eager. And where only the lazy
lexer can be made, the eager one fails with the error of the first state, in the order of
declaration, whose full alternation cannot be built, while every pull of the lazy one that attempts
a match in any such state fails with the error of that state. -/
theorem eager_agrees_with_lazy (table : StateTable (Rule σ τ)) (config : LexerConfig)
    (factory : BaseToken → Text → τ) :
    (∀ eager cache journal,
      make table { config with eagerCompile := true } factory = (.ok (eager, cache), journal) →
        ∃ lazy cache' journal',
          make table { config with eagerCompile := false } factory =
              (.ok (lazy, cache'), journal') ∧
            ∀ actions : List (Action σ),
              (eager.carryOut actions ⟨cache, journal, []⟩).1 =
                (lazy.carryOut actions ⟨cache', journal', []⟩).1) ∧
    (∀ e journal,
      make table { config with eagerCompile := false } factory = (.error e, journal) →
        ∃ journal', make table { config with eagerCompile := true } factory =
          (.error e, journal')) ∧
    ∀ lazy cache journal e journal',
      make table { config with eagerCompile := false } factory = (.ok (lazy, cache), journal) →
      make table { config with eagerCompile := true } factory = (.error e, journal') →
        (∃ state < lazy.names.count,
          lazy.compiler.alternationAnew state 0 = .error e ∧ (∃ cause, e = .pattern cause) ∧
            ∀ earlier < state, ∃ a?, lazy.compiler.alternationAnew earlier 0 = .ok a?) ∧
        ∀ state e', lazy.compiler.alternationAnew state 0 = .error e' →
          (∃ cause, e' = .pattern cause) ∧
            ∀ attempts stream ambient tried, lazy.compiler.Coherent ambient.cache →
              lazy.PullTries attempts stream ambient tried → tried.stack.current = state →
                (lazy.pull attempts stream ambient).1 = .failed (.config e') := by
  refine ⟨?_, ?_, ?_⟩
  · intro eager cache journal hmake
    obtain ⟨hassemble, -⟩ := make_ok_iff.mp ⟨cache, journal, hmake⟩
    obtain ⟨hnames, -, -, -, hcoherent⟩ := make_ok hmake
    have hlazy : assemble table { config with eagerCompile := false } factory =
        .ok { eager with config := { config with eagerCompile := false } } := by
      have hconfig := assemble_eagerCompile table { config with eagerCompile := true } factory false
      rw [hassemble] at hconfig
      exact hconfig
    obtain ⟨cache', journal', hmake'⟩ := make_ok_iff.mpr ⟨hlazy, by simp⟩
    obtain ⟨-, -, -, -, hcoherent'⟩ := make_ok hmake'
    exact ⟨_, cache', journal', hmake', fun actions =>
      (mirrors_config hnames _).carryOut ⟨hcoherent, hcoherent', .nil⟩ actions⟩
  · intro e journal hmake
    refine make_error_iff.mpr (.inl ?_)
    rcases make_error_iff.mp ⟨journal, hmake⟩ with herror | ⟨lexer, -, heager, -⟩
    · have hconfig := assemble_eagerCompile table { config with eagerCompile := false } factory true
      rw [herror] at hconfig
      exact hconfig
    · exact absurd heager (by simp)
  · intro lazy cache journal e journal' hmake hmake'
    have hwell := make_wellMade hmake
    obtain ⟨hassemble, -⟩ := make_ok_iff.mp ⟨cache, journal, hmake⟩
    refine ⟨?_, ?_⟩
    · have hconfig := assemble_eagerCompile table { config with eagerCompile := false } factory true
      rw [hassemble] at hconfig
      rcases make_error_iff.mp ⟨journal', hmake'⟩ with herror | ⟨eager, heager, -, hunbuilt⟩
      · exact absurd (hconfig.symm.trans herror) (by simp [Except.map])
      · obtain rfl := Except.ok.inj (heager.symm.trans hconfig)
        obtain ⟨state, hlt, herror, hearlier⟩ := Compiler.exists_of_unbuilt? hunbuilt
        exact ⟨state, hwell.parts_length ▸ hlt, herror, Compiler.alternationAnew_error herror,
          hearlier⟩
    · intro state e' herror
      refine ⟨Compiler.alternationAnew_error herror, ?_⟩
      rintro attempts stream ambient tried hcoherent htries rfl
      exact pull_of_tries hcoherent htries herror

/-- Both ways of compiling give the same tokens of brackets, and find the same wrong with a table
without states. The two patterns of `twins` cannot be built together, so the eager lexer cannot be
made, and a pull of the lazy one fails in that state. -/
theorem eager_agrees_with_lazy_twins :
    (∃ (eager lazy : Lexer Unit Token) (cache cache' : AlternationCache)
      (journal journal' : Journal),
      make bracketTable { eagerCompile := true } Token.make = (.ok (eager, cache), journal) ∧
        make bracketTable { eagerCompile := false } Token.make = (.ok (lazy, cache'), journal') ∧
        (eager.carryOut [.start ['(', ')'] 0 (), .pull 0 1, .pull 0 1]
            ⟨cache, journal, []⟩).1.map (fun entry => entry.2.depth) = [1, 0] ∧
        (eager.carryOut [.start ['(', ')'] 0 (), .pull 0 1, .pull 0 1] ⟨cache, journal, []⟩).1 =
          (lazy.carryOut [.start ['(', ')'] 0 (), .pull 0 1, .pull 0 1]
            ⟨cache', journal', []⟩).1) ∧
    (∃ journal, make (StateTable.empty : StateTable (Rule Unit Token)) { eagerCompile := true }
      Token.make = (.error (.missingBaseState "start"), journal)) ∧
    ∃ (lazy : Lexer Unit Token) (cache : AlternationCache) (journal journal' : Journal)
      (e : ConfigError) (state : Nat),
      make twinTable { eagerCompile := false } Token.make = (.ok (lazy, cache), journal) ∧
        make twinTable { eagerCompile := true } Token.make = (.error e, journal') ∧
        state < lazy.names.count ∧
        (lazy.pull 1 ⟨['a'], 0, ⟨lazy.names, [state], [0, 0]⟩, none, none, none, false⟩
          ⟨cache, (), journal⟩).1 = .failed (.config e) := by
  refine ⟨?_, ?_, ?_⟩
  · have hrun : (match make bracketTable { eagerCompile := true } Token.make with
        | (.ok (eager, cache), journal) => decide
            ((eager.carryOut [.start ['(', ')'] 0 (), .pull 0 1, .pull 0 1]
              ⟨cache, journal, []⟩).1.map (fun entry => entry.2.depth) = [1, 0])
        | (.error _, _) => false) = true := by
      decide +kernel
    split at hrun
    · next eager cache journal hmake =>
        obtain ⟨lazy, cache', journal', hmake', hlog⟩ :=
          (eager_agrees_with_lazy bracketTable {} Token.make).1 eager cache journal hmake
        exact ⟨eager, lazy, cache, cache', journal, journal', hmake, hmake',
          of_decide_eq_true hrun, hlog _⟩
    · exact absurd hrun (by simp)
  · exact (eager_agrees_with_lazy StateTable.empty {} Token.make).2.1 _ _ rfl
  · have hlazy : (make twinTable { eagerCompile := false } Token.make).1.isOk = true := by
      decide +kernel
    have heager : (make twinTable { eagerCompile := true } Token.make).1.isOk = false := by
      decide +kernel
    cases hmake : make twinTable { eagerCompile := false } Token.make with
    | mk result journal =>
        cases result with
        | error e => exact absurd hlazy (by simp [hmake, Except.isOk, Except.toBool])
        | ok made =>
            obtain ⟨lazy, cache⟩ := made
            cases hmake' : make twinTable { eagerCompile := true } Token.make with
            | mk result' journal' =>
                cases result' with
                | ok made => exact absurd heager (by simp [hmake', Except.isOk, Except.toBool])
                | error e =>
                    obtain ⟨-, -, -, -, hcoherent⟩ := make_ok hmake
                    obtain ⟨⟨state, hlt, herror, -⟩, hpulls⟩ :=
                      (eager_agrees_with_lazy twinTable {} Token.make).2.2 lazy cache journal e
                        journal' hmake hmake'
                    refine ⟨lazy, cache, journal, journal', e, state, rfl, rfl, hlt, ?_⟩
                    exact (hpulls state e herror).2 1 _ _ _ hcoherent
                      ⟨rfl, rfl, _, _, rfl, .first (show 0 < 1 by decide)⟩ rfl

end Lexer

end ModalLex
