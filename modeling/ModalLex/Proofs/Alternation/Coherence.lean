import ModalLex.Proofs.Lexer.Attempt

/-!
# The Cache Tells the Truth

A cache is **coherent** with a compiler when every alternation in it is the one that would be
built for its state and first rule. The only place that changes a cache is
`Compiler.alternation`, which keeps it coherent, so the cache of a lexer is coherent when the
lexer has been made and after every pull. An alternation that is handed out may then be taken to
be freshly built (`Compiler.alternation_ok`).

## Main results

* `Compiler.alternation_coherent`, `Query.resolve_coherent`, `Lexer.pull_coherent`: handing out
  an alternation, resolving a match and pulling a token keep the cache coherent.
* `Lexer.make_ok`: a lexer that could be made starts with a coherent cache and a list of rules for
  each state.
-/

namespace ModalLex

/-- What is mapped without an error has the same length, and each element its own image. -/
theorem mapM_ok {ε α β : Type} {f : α → Except ε β} {l : List α} {images : List β}
    (h : l.mapM f = .ok images) :
    images.length = l.length ∧
      ∀ (i : Nat) a, l[i]? = some a → ∃ b, images[i]? = some b ∧ f a = .ok b := by
  induction l generalizing images with
  | nil =>
      obtain rfl := Except.ok.inj h
      exact ⟨rfl, by simp⟩
  | cons a l ih =>
      rw [List.mapM_cons] at h
      cases ha : f a with
      | error e => exact absurd h (by rw [ha]; simp [bind, Except.bind])
      | ok b =>
          cases hl : l.mapM f with
          | error e => exact absurd h (by rw [ha, hl]; simp [bind, Except.bind])
          | ok rest =>
              rw [ha, hl] at h
              obtain rfl := Except.ok.inj h
              obtain ⟨hlength, hrest⟩ := ih hl
              refine ⟨by simp [hlength], ?_⟩
              intro i c hi
              cases i with
              | zero =>
                  obtain rfl := Option.some.inj hi
                  exact ⟨b, rfl, ha⟩
              | succ i => exact hrest i c hi
/-- Every alternation in the cache is the one that would be built. -/
def Compiler.Coherent (compiler : Compiler) (cache : AlternationCache) : Prop :=
  ∀ state first a, cache.find? state first = some a →
    Alternation.build ((compiler.partsOf state).drop first) first = .ok a

namespace Compiler

variable {compiler : Compiler} {cache : AlternationCache}

/-- A cache without entries is coherent. -/
theorem coherent_empty (compiler : Compiler) : compiler.Coherent .empty := by
  intro state first a h
  exact absurd h (by simp [AlternationCache.find?, AlternationCache.empty])

/-- Keeping an alternation that was built keeps a cache coherent. -/
theorem Coherent.insert (h : compiler.Coherent cache) {state first : Nat} {a : Alternation}
    (ha : Alternation.build ((compiler.partsOf state).drop first) first = .ok a) :
    compiler.Coherent (cache.insert state first a) := by
  intro state' first' a' hfind
  rw [AlternationCache.find?, AlternationCache.insert, List.lookup_cons] at hfind
  split at hfind
  · next hkey =>
      obtain ⟨rfl, rfl⟩ := Prod.mk.inj (eq_of_beq hkey)
      obtain rfl := Option.some.inj hfind
      exact ha
  · exact h _ _ _ hfind

/-- An alternation that is handed out is the one that is built for the rules that are left, and
some are. -/
theorem alternation_ok (h : compiler.Coherent cache) {state first : Nat} {a : Alternation}
    (ha : (compiler.alternation cache state first).1 = .ok (some a)) :
    (compiler.partsOf state).drop first ≠ [] ∧
      Alternation.build ((compiler.partsOf state).drop first) first = .ok a := by
  have hruns := compiler.alternation_runs cache state first
  generalize compiler.alternation cache state first = out at hruns ha
  cases hruns with
  | exhausted => cases ha
  | cached hparts hfind =>
      obtain rfl := Option.some.inj (Except.ok.inj ha)
      exact ⟨hparts, h _ _ _ hfind⟩
  | unbuilt => cases ha
  | built hparts _ hbuild =>
      obtain rfl := Option.some.inj (Except.ok.inj ha)
      exact ⟨hparts, hbuild⟩

/-- Handing out an alternation keeps the cache coherent. -/
theorem alternation_coherent (h : compiler.Coherent cache) (state first : Nat) :
    compiler.Coherent (compiler.alternation cache state first).2.1 := by
  have hruns := compiler.alternation_runs cache state first
  generalize compiler.alternation cache state first = out at hruns ⊢
  cases hruns with
  | exhausted | cached | unbuilt => exact h
  | built _ _ hbuild => exact h.insert hbuild

/-- Building full alternations keeps the cache coherent. -/
theorem compileStates_coherent (states : List Nat) (h : compiler.Coherent cache)
    (journal : Journal) : compiler.Coherent (compiler.compileStates states cache journal).2.1 := by
  induction states generalizing cache journal with
  | nil => exact h
  | cons state states ih =>
      rw [compileStates]
      have hnext := alternation_coherent h state 0
      dsimp only
      split
      · exact hnext
      · exact ih hnext _

/-- A compiler keeps the names, and its parts are those of the checked rules. -/
theorem ofRules_ok {σ τ : Type} {names : StateNames} {rules : List (List (Rule σ τ))}
    (h : ofRules names rules = .ok compiler) :
    compiler.names = names ∧
      rules.mapM (fun stateRules => stateRules.mapM checkRule) = .ok compiler.parts := by
  rw [ofRules] at h
  cases hparts : rules.mapM (fun stateRules => stateRules.mapM checkRule) with
  | error e => exact absurd h (by rw [hparts]; simp [Except.map])
  | ok parts =>
      rw [hparts] at h
      obtain rfl := Except.ok.inj h
      exact ⟨rfl, rfl⟩

/-- A compiler has parts for every state, and in every state a part for each rule. -/
theorem ofRules_parts {σ τ : Type} {names : StateNames} {rules : List (List (Rule σ τ))}
    (h : ofRules names rules = .ok compiler) :
    compiler.parts.length = rules.length ∧
      ∀ state, (compiler.partsOf state).length = (rules.getD state []).length := by
  obtain ⟨hlength, hstates⟩ := mapM_ok (ofRules_ok h).2
  refine ⟨hlength, ?_⟩
  intro state
  rw [partsOf, List.getD_eq_getElem?_getD, List.getD_eq_getElem?_getD]
  cases hstate : rules[state]? with
  | none =>
      have hnone : compiler.parts[state]? = none := by
        rw [List.getElem?_eq_none_iff, hlength]
        exact List.getElem?_eq_none_iff.mp hstate
      rw [hnone]
      rfl
  | some stateRules =>
      obtain ⟨parts, hparts, hmap⟩ := hstates state stateRules hstate
      rw [hparts]
      exact (mapM_ok hmap).1

end Compiler

variable {σ τ : Type}

/-! ### Resolving -/

/-- Handing out an alternation keeps the cache coherent. -/
theorem Query.alternation_coherent {q : Query σ τ} {first : Nat} {ambient ambient' : Ambient σ}
    {result : Except ConfigError (Option Alternation)} (h : q.compiler.Coherent ambient.cache)
    (halternation : q.alternation first ambient = (result, ambient')) :
    q.compiler.Coherent ambient'.cache := by
  obtain rfl : (q.alternation first ambient).2 = ambient' := by rw [halternation]
  exact Compiler.alternation_coherent h q.state first

/-- Resolving keeps the cache coherent, by induction on its course. -/
theorem Query.Runs.coherent {q : Query σ τ} {attempts first : Nat} {ambient : Ambient σ}
    {out : Except ConfigError (Option (Found × Rule σ τ)) × Ambient σ}
    (hruns : q.Runs attempts first ambient out) (h : q.compiler.Coherent ambient.cache) :
    q.compiler.Coherent out.2.cache := by
  induction hruns with
  | spent => exact h
  | unbuilt hq => exact alternation_coherent h hq
  | exhausted hq => exact alternation_coherent h hq
  | unmatched hq => exact (alternation_coherent h hq :)
  | unowned hq => exact alternation_coherent h hq
  | accepted hq => exact (alternation_coherent h hq :)
  | rejected hq _ _ _ _ ih => exact ih (alternation_coherent h hq :)

/-- Resolving a match keeps the cache coherent. -/
theorem Query.resolve_coherent {q : Query σ τ} {ambient : Ambient σ}
    (h : q.compiler.Coherent ambient.cache) :
    q.compiler.Coherent (q.resolve ambient).2.cache :=
  (q.resolveFrom_runs _ _ ambient).coherent h

namespace Lexer

/-! ### Pulling -/

/-- A hook before a match cannot reach the cache. -/
theorem runBefore_cache {rule : Rule σ τ} {context : BeforeContext} {stack left : StateStack}
    {ambient ambient' : Ambient σ} {result : Except LexError Bool}
    (h : runBefore rule context stack ambient = (result, left, ambient')) :
    ambient'.cache = ambient.cache := by
  obtain rfl : (runBefore rule context stack ambient).2.2 = ambient' := by rw [h]
  rw [runBefore]
  split <;> rfl

/-- Nor can a hook that extends a token. -/
theorem runFetch_cache {rule : Rule σ τ} {context : FetchContext} {cursor : Nat}
    {ambient ambient' : Ambient σ} {result : Except LexError Nat}
    (h : runFetch rule context cursor ambient = (result, ambient')) :
    ambient'.cache = ambient.cache := by
  obtain rfl : (runFetch rule context cursor ambient).2 = ambient' := by rw [h]
  rw [runFetch]
  split <;> rfl

/-- Nor can a hook after a token. -/
theorem runAfter_cache {rule : Option (Rule σ τ)} {pending : Pending} {stream : TokenStream τ}
    {left : StateStack} {ambient ambient' : Ambient σ} {result : Except LexError Unit}
    (h : runAfter rule pending stream ambient = (result, left, ambient')) :
    ambient'.cache = ambient.cache := by
  obtain rfl : (runAfter rule pending stream ambient).2.2 = ambient' := by rw [h]
  rw [runAfter]
  split <;> rfl

/-- So the end of a token leaves the cache as it was. -/
theorem FinishRuns.cache_eq {lexer : Lexer σ τ} {stream : TokenStream τ} {ambient : Ambient σ}
    {out : Except LexError Unit × TokenStream τ × Ambient σ}
    (h : FinishRuns lexer stream ambient out) : out.2.2.cache = ambient.cache := by
  cases h with
  | idle => rfl
  | afterFailed _ hafter => exact runAfter_cache hafter
  | finished _ hafter => exact runAfter_cache hafter

/-- Finishing a token leaves the cache as it was. -/
theorem finishPending_cache (lexer : Lexer σ τ) (stream : TokenStream τ) (ambient : Ambient σ) :
    (lexer.finishPending stream ambient).2.2.cache = ambient.cache :=
  (lexer.finishPending_runs stream ambient).cache_eq

section Runs

variable {lexer : Lexer σ τ} {stream : TokenStream τ} {ambient : Ambient σ}

/-- An attempt keeps the cache coherent: only its search changes it. -/
theorem AttemptRuns.coherent {out : Attempt τ × TokenStream τ × Ambient σ}
    (hruns : AttemptRuns lexer stream ambient out) (h : lexer.compiler.Coherent ambient.cache) :
    lexer.compiler.Coherent out.2.2.cache := by
  have hresolve : lexer.compiler.Coherent ((lexer.query stream).resolve ambient).2.cache :=
    (lexer.query stream).resolve_coherent h
  cases hruns with
  | unbuilt hq => rw [hq] at hresolve; exact hresolve
  | unmatched hq => rw [hq] at hresolve; exact hresolve
  | beforeFailed hq hbefore =>
      rw [hq] at hresolve
      exact runBefore_cache hbefore ▸ hresolve
  | aborted hq hbefore =>
      rw [hq] at hresolve
      exact runBefore_cache hbefore ▸ hresolve
  | fetchFailed hq hbefore hfetch =>
      rw [hq] at hresolve
      exact ((runFetch_cache hfetch).trans (runBefore_cache hbefore)) ▸ hresolve
  | token hq hbefore hfetch =>
      rw [hq] at hresolve
      exact ((runFetch_cache hfetch).trans (runBefore_cache hbefore)) ▸ hresolve

/-- A search keeps the cache coherent, by induction on its course. -/
theorem ScanRuns.coherent {attempts : Nat} {out : Pull τ × TokenStream τ × Ambient σ}
    (hruns : ScanRuns lexer attempts stream ambient out)
    (h : lexer.compiler.Coherent ambient.cache) : lexer.compiler.Coherent out.2.2.cache := by
  induction hruns with
  | stalled => exact h
  | ended => exact h
  | token _ hattempt => exact hattempt.coherent h
  | failed _ hattempt => exact hattempt.coherent h
  | again _ hattempt _ ih => exact ih (hattempt.coherent h)

/-- **A pull keeps the cache coherent.** -/
theorem PullRuns.coherent {attempts : Nat} {out : Pull τ × TokenStream τ × Ambient σ}
    (hruns : PullRuns lexer attempts stream ambient out)
    (h : lexer.compiler.Coherent ambient.cache) : lexer.compiler.Coherent out.2.2.cache := by
  cases hruns with
  | closed => exact h
  | misplaced => exact h
  | unfinished _ _ hfinish => exact hfinish.cache_eq ▸ h
  | searched _ _ hfinish hscan =>
      rw [close_cache]
      exact hscan.coherent (hfinish.cache_eq ▸ h)

end Runs

/-- Pulling a token keeps the cache coherent. -/
theorem pull_coherent {lexer : Lexer σ τ} (attempts : Nat) (stream : TokenStream τ)
    {ambient : Ambient σ} (h : lexer.compiler.Coherent ambient.cache) :
    lexer.compiler.Coherent (lexer.pull attempts stream ambient).2.2.cache :=
  (lexer.pull_runs attempts stream ambient).coherent h

/-! ### Making a lexer -/

/-- What is known of a lexer that could be made: its names are those of a resolved table, it has a
list of rules for each state, and its cache is coherent. -/
theorem make_ok {table : StateTable (Rule σ τ)} {config : LexerConfig}
    {factory : BaseToken → Text → τ} {lexer : Lexer σ τ} {cache : AlternationCache}
    {journal : Journal}
    (h : Lexer.make table config factory = (.ok (lexer, cache), journal)) :
    lexer.names.Resolved ∧ lexer.rules.length = lexer.names.count ∧
      lexer.factory = factory ∧ Compiler.ofRules lexer.names lexer.rules = .ok lexer.compiler ∧
      lexer.compiler.Coherent cache := by
  rw [make] at h
  dsimp only at h
  split at h
  · exact absurd h (by simp)
  · next names rules hresolve =>
      obtain ⟨-, -, hnames, -⟩ := StateTable.resolve_ok hresolve
      have hrules := StateTable.length_of_resolve hresolve
      split at h
      · exact absurd h (by simp)
      · next compiler hcompiler =>
          obtain ⟨rfl, -⟩ := Compiler.ofRules_ok hcompiler
          split at h
          · have hall : compiler.Coherent (compiler.compileAll .empty #[Event.creatingLexer
                table.size config.baseState config.eagerCompile]).2.1 :=
              Compiler.compileStates_coherent _ (Compiler.coherent_empty compiler) _
            split at h
            · exact absurd h (by simp)
            · next hcompile =>
                rw [hcompile] at hall
                simp only [Prod.mk.injEq, Except.ok.injEq] at h
                obtain ⟨⟨rfl, rfl⟩, -⟩ := h
                exact ⟨hnames, hrules, rfl, hcompiler, hall⟩
          · simp only [Prod.mk.injEq, Except.ok.injEq] at h
            obtain ⟨⟨rfl, rfl⟩, -⟩ := h
            exact ⟨hnames, hrules, rfl, hcompiler, Compiler.coherent_empty compiler⟩

/-- A lexer as it is made: its names are those of a resolved table, and it has a list of rules for
each state and a part for each rule. -/
structure WellMade (lexer : Lexer σ τ) : Prop where
  resolved : lexer.names.Resolved
  rules_length : lexer.rules.length = lexer.names.count
  parts_length : lexer.compiler.parts.length = lexer.names.count
  partsOf_length : ∀ state,
    (lexer.compiler.partsOf state).length = (lexer.rulesOf state).length

/-- **A lexer that is made is well made.** -/
theorem make_wellMade {table : StateTable (Rule σ τ)} {config : LexerConfig}
    {factory : BaseToken → Text → τ} {lexer : Lexer σ τ} {cache : AlternationCache}
    {journal : Journal}
    (h : Lexer.make table config factory = (.ok (lexer, cache), journal)) : WellMade lexer := by
  obtain ⟨hnames, hrules, -, hcompiler, -⟩ := make_ok h
  obtain ⟨hparts, hpartsOf⟩ := Compiler.ofRules_parts hcompiler
  exact ⟨hnames, hrules, hparts.trans hrules, hpartsOf⟩

/-- A lexer has the rules of its table. -/
theorem make_rules {table : StateTable (Rule σ τ)} {config : LexerConfig}
    {factory : BaseToken → Text → τ} {lexer : Lexer σ τ} {cache : AlternationCache}
    {journal : Journal} (h : Lexer.make table config factory = (.ok (lexer, cache), journal)) :
    lexer.rules = table.entries.map (·.2) := by
  rw [make] at h
  dsimp only at h
  split at h
  · exact absurd h (by simp)
  · next names rules hresolve =>
      obtain ⟨-, hrules, -, -⟩ := StateTable.resolve_ok hresolve
      split at h
      · exact absurd h (by simp)
      · split at h
        · split at h
          · exact absurd h (by simp)
          · simp only [Prod.mk.injEq, Except.ok.injEq] at h
            obtain ⟨⟨rfl, -⟩, -⟩ := h
            exact hrules
        · simp only [Prod.mk.injEq, Except.ok.injEq] at h
          obtain ⟨⟨rfl, -⟩, -⟩ := h
          exact hrules

end Lexer

end ModalLex
