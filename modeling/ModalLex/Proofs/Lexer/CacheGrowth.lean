import ModalLex.Proofs.Lexer.DeclarationOrder
import ModalLex.Proofs.Lexer.Interleaving

/-!
# How the Cache Grows

Every alternation is built at most once, and only when it is needed. The cache is shared by all
runs of a lexer, and the journal tells what was built; so both are watched together: between any
two moments some entries were **added** in front of the others, and just these are announced in the
journal, in the order in which they were added (`Grows`). An entry is added only where there was
none, and only if it could be built; so all keys differ, and nothing that is in the cache is ever
touched again.

What can be asked for is seen in `Query.resolveFrom`: the full alternation, and then only what is
behind a rule whose predicate has rejected (`Lexer.Requested`).

## Main results

* `Compiler.alternation_grows`: handing out an alternation adds at most that one.
* `Lexer.PullRuns.grows`, `Lexer.carryOut_grows`: so do pulls, and whatever is done with a lexer.
* `Lexer.alternations_built_once`: **each alternation is built at most once and only when needed.**
-/

namespace ModalLex

variable {σ τ : Type}

/-- Whether an event announces an alternation that was built. -/
def Event.isCompiled : Event → Bool
  | .compiledAlternation .. => true
  | _ => false

/-- The name of the state and the first rule of the alternation that an event announces. -/
def Event.compiledFor? : Event → Option (String × Nat)
  | .compiledAlternation state first _ _ => some (state, first)
  | _ => none

namespace AlternationCache

/-- The keys of the entries: states and first rules. -/
def keys (cache : AlternationCache) : List (Nat × Nat) := cache.entries.map (·.1)

/-- Nothing is found exactly where there is no entry with the key. -/
theorem find?_eq_none_iff {cache : AlternationCache} {state first : Nat} :
    cache.find? state first = none ↔ (state, first) ∉ cache.keys := by
  rw [find?, List.lookup_eq_none_iff, keys, List.mem_map]
  constructor
  · rintro h ⟨entry, hentry, hkey⟩
    exact absurd (h entry hentry) (by simp [hkey])
  · intro h entry hentry
    exact bne_iff_ne.mpr fun hkey => h ⟨entry, hentry, hkey.symm⟩

/-- What is found stands in the cache under its key. -/
theorem mem_of_find? {cache : AlternationCache} {state first : Nat} {a : Alternation}
    (h : cache.find? state first = some a) : ((state, first), a) ∈ cache.entries := by
  obtain ⟨before, behind, hentries, -⟩ := List.lookup_eq_some_iff.mp h
  rw [hentries]
  simp

/-- Where all keys differ, what stands in the cache is found under its key. -/
theorem find?_of_mem {cache : AlternationCache} (h : cache.keys.Nodup) {state first : Nat}
    {a : Alternation} (hmem : ((state, first), a) ∈ cache.entries) :
    cache.find? state first = some a := by
  obtain ⟨before, behind, hentries⟩ := List.append_of_mem hmem
  rw [keys, hentries, List.map_append, List.map_cons] at h
  refine List.lookup_eq_some_iff.mpr ⟨before, behind, hentries, ?_⟩
  intro entry hentry
  refine bne_iff_ne.mpr fun hkey => ?_
  exact (List.nodup_append.mp h).2.2 entry.1 (List.mem_map_of_mem hentry) (state, first)
    List.mem_cons_self hkey.symm

end AlternationCache

namespace Compiler

/-- What the journal tells of an entry of the cache. -/
def announced (compiler : Compiler) (entry : (Nat × Nat) × Alternation) : Event :=
  .compiledAlternation (compiler.names.name entry.1.1) entry.1.2 entry.2.ruleCount entry.2.source

/-- An entry that was asked for, and that is what is built from the rules that are left. -/
structure Built (compiler : Compiler) (requested : Nat → Nat → Prop)
    (entry : (Nat × Nat) × Alternation) : Prop where
  rules_left : (compiler.partsOf entry.1.1).drop entry.1.2 ≠ []
  build_eq : Alternation.build ((compiler.partsOf entry.1.1).drop entry.1.2) entry.1.2 =
    .ok entry.2
  requested : requested entry.1.1 entry.1.2

/-- An alternation is built only of a state that has rules, so the state exists. -/
theorem Built.state_lt {compiler : Compiler} {requested : Nat → Nat → Prop}
    {entry : (Nat × Nat) × Alternation} (h : compiler.Built requested entry) :
    entry.1.1 < compiler.parts.length := by
  refine lt_of_partsOf_ne_nil fun hnil => h.rules_left ?_
  rw [hnil, List.drop_nil]

/-- What happens to a cache and to the journal between two moments: entries are added, with new
keys, and announced in their order. -/
structure Grows (compiler : Compiler) (requested : Nat → Nat → Prop) (cache : AlternationCache)
    (journal : Journal) (cache' : AlternationCache) (journal' : Journal) : Prop where
  added : ∃ (entries : List ((Nat × Nat) × Alternation)) (events : List Event),
    cache'.entries = entries.reverse ++ cache.entries ∧
    journal'.toList = journal.toList ++ events ∧
    events.filter Event.isCompiled = entries.map compiler.announced ∧
    ∀ entry ∈ entries, compiler.Built requested entry
  nodup : cache.keys.Nodup → cache'.keys.Nodup

variable {compiler : Compiler} {requested : Nat → Nat → Prop}
  {cache cache₁ cache₂ : AlternationCache} {journal journal₁ journal₂ : Journal}

namespace Grows

/-- The same cache, and a journal in which nothing more is announced. -/
theorem of_quiet (events : List Event) (hjournal : journal₁.toList = journal.toList ++ events)
    (hevents : events.filter Event.isCompiled = []) :
    Grows compiler requested cache journal cache journal₁ :=
  ⟨⟨[], events, rfl, hjournal, hevents, by simp⟩, id⟩

/-- In no time nothing is added. -/
theorem refl : Grows compiler requested cache journal cache journal :=
  of_quiet [] (by simp) rfl

/-- What is added in two stretches of time is added in both together. -/
theorem trans (h : Grows compiler requested cache journal cache₁ journal₁)
    (h' : Grows compiler requested cache₁ journal₁ cache₂ journal₂) :
    Grows compiler requested cache journal cache₂ journal₂ := by
  obtain ⟨⟨entries, events, hentries, hjournal, hannounced, hbuilt⟩, hnodup⟩ := h
  obtain ⟨⟨entries', events', hentries', hjournal', hannounced', hbuilt'⟩, hnodup'⟩ := h'
  refine ⟨⟨entries ++ entries', events ++ events', ?_, ?_, ?_, ?_⟩, hnodup' ∘ hnodup⟩
  · rw [hentries', hentries, List.reverse_append, List.append_assoc]
  · rw [hjournal', hjournal, List.append_assoc]
  · rw [List.filter_append, hannounced, hannounced', List.map_append]
  · exact List.forall_mem_append.mpr ⟨hbuilt, hbuilt'⟩

/-- One more event that announces nothing. -/
theorem note (h : Grows compiler requested cache journal cache₁ journal₁) {event : Event}
    (hevent : event.isCompiled = false) :
    Grows compiler requested cache journal cache₁ (journal₁.push event) :=
  h.trans (of_quiet [event] Array.toList_push (by simp [hevent]))

end Grows

/-- **Handing out an alternation** adds it if it was not there and could be built, and announces
it; else nothing is added. -/
theorem alternation_grows (compiler : Compiler) (cache : AlternationCache) (journal : Journal)
    {state first : Nat} (h : requested state first) :
    Grows compiler requested cache journal (compiler.alternation cache state first).2.1
      (journal ++ (compiler.alternation cache state first).2.2.toArray) := by
  have hruns := compiler.alternation_runs cache state first
  generalize compiler.alternation cache state first = out at hruns ⊢
  cases hruns with
  | exhausted => exact .of_quiet [.noRulesLeft (compiler.names.name state) first] (by simp) rfl
  | cached => exact .of_quiet [] (by simp) rfl
  | unbuilt => exact .of_quiet [] (by simp) rfl
  | @built a hparts hfind hbuild =>
      refine ⟨⟨[((state, first), a)], [compiler.announced ((state, first), a)], rfl, by
        simp [announced], rfl, ?_⟩, ?_⟩
      · intro entry hentry
        obtain rfl := List.mem_singleton.mp hentry
        exact ⟨hparts, hbuild, h⟩
      · intro hnodup
        exact List.nodup_cons.mpr ⟨AlternationCache.find?_eq_none_iff.mp hfind, hnodup⟩

/-- An alternation that cannot be handed out leaves the cache as it is and announces nothing. -/
theorem alternation_failed {state first : Nat} {e : ConfigError}
    (h : (compiler.alternation cache state first).1 = .error e) :
    (compiler.alternation cache state first).2 = (cache, []) := by
  have hruns := compiler.alternation_runs cache state first
  generalize compiler.alternation cache state first = out at hruns h ⊢
  cases hruns with
  | exhausted | cached | built => cases h
  | unbuilt => rfl

/-- An alternation that cannot be built is not in the cache, and asking for it changes nothing. -/
theorem alternation_of_error (hcoherent : compiler.Coherent cache) {state first : Nat}
    {e : ConfigError} (h : compiler.alternationAnew state first = .error e) :
    cache.find? state first = none ∧
      compiler.alternation cache state first = (.error e, cache, []) := by
  have hfailed : (compiler.alternation cache state first).1 = .error e :=
    (alternation_eq hcoherent state first).trans h
  refine ⟨?_, Prod.ext hfailed (alternation_failed hfailed)⟩
  cases hfind : cache.find? state first with
  | none => rfl
  | some a =>
      obtain ⟨-, cause, hcause, -⟩ := alternationAnew_eq_error_iff.mp h
      exact absurd ((hcoherent state first a hfind).symm.trans hcause) (by simp)

/-- Building full alternations adds full alternations. -/
theorem compileStates_grows (states : List Nat) (h : ∀ state ∈ states, requested state 0)
    (cache : AlternationCache) (journal : Journal) :
    Grows compiler requested cache journal (compiler.compileStates states cache journal).2.1
      (compiler.compileStates states cache journal).2.2 := by
  induction states generalizing cache journal with
  | nil => exact .refl
  | cons state states ih =>
      have hnext := compiler.alternation_grows cache journal (h state (by simp))
      rw [compileStates]
      dsimp only
      split
      · exact hnext
      · exact hnext.trans (ih (fun other hother => h other (List.mem_cons_of_mem _ hother)) _ _)

end Compiler

/-! ### The search for a match -/

namespace Query

variable {q : Query σ τ} {requested : Nat → Nat → Prop}

/-- Only a predicate rejects. -/
theorem test_of_accepts_eq_false {rule : Rule σ τ} {found : Found} {host : σ}
    (h : (q.accepts rule found host).1 = false) : rule.test.isSome = true := by
  rw [accepts] at h
  cases htest : rule.test with
  | none => simp [htest] at h
  | some test => rfl

/-- Asking for an alternation while a match is resolved adds at most that one, if it may be asked
for. -/
theorem alternation_grows {first : Nat} {ambient ambient' : Ambient σ}
    {result : Except ConfigError (Option Alternation)} (hfirst : requested q.state first)
    (h : q.alternation first ambient = (result, ambient')) :
    q.compiler.Grows requested ambient.cache ambient.journal ambient'.cache ambient'.journal := by
  have hnext : q.compiler.Grows requested ambient.cache ambient.journal
      (q.alternation first ambient).2.cache (q.alternation first ambient).2.journal :=
    q.compiler.alternation_grows ambient.cache ambient.journal hfirst
  rwa [h] at hnext

/-- **Resolving asks only for what it may ask for**, by induction on its course: at first the full
alternation, then what is behind a rule whose predicate has rejected. -/
theorem Runs.grows {attempts first : Nat} {ambient : Ambient σ}
    {out : Except ConfigError (Option (Found × Rule σ τ)) × Ambient σ}
    (hruns : q.Runs attempts first ambient out) (hfirst : requested q.state first)
    (hbehind : ∀ (index : Nat) (rule : Rule σ τ), q.rules[index]? = some rule →
      rule.test.isSome = true → requested q.state (index + 1)) :
    q.compiler.Grows requested ambient.cache ambient.journal out.2.cache out.2.journal := by
  induction hruns with
  | spent => exact .refl
  | unbuilt hq => exact alternation_grows hfirst hq
  | exhausted hq => exact alternation_grows hfirst hq
  | unmatched hq => exact (alternation_grows hfirst hq).note rfl
  | unowned hq => exact alternation_grows hfirst hq
  | accepted hq => exact (alternation_grows hfirst hq).note rfl
  | rejected hq _ hrule haccepts _ ih =>
      have htest := test_of_accepts_eq_false (congrArg Prod.fst haccepts)
      exact ((alternation_grows hfirst hq).note rfl).trans (ih (hbehind _ _ hrule htest))

end Query

namespace Lexer

/-- What a lexer can ask its cache for: the full alternation of a state, and what is behind a rule
with a predicate. -/
def Requested (lexer : Lexer σ τ) (state first : Nat) : Prop :=
  first = 0 ∨ ∃ rule, (lexer.rulesOf state)[first - 1]? = some rule ∧ rule.test.isSome = true

/-- What happens to the cache and to the journal between two ambients of a lexer. -/
def Grows (lexer : Lexer σ τ) (a b : Ambient σ) : Prop :=
  lexer.compiler.Grows lexer.Requested a.cache a.journal b.cache b.journal

variable {lexer : Lexer σ τ}

/-- So the search of an attempt adds only what the lexer may be asked for. -/
theorem resolve_grows {stream : TokenStream τ} {ambient ambient' : Ambient σ}
    {answer : Except ConfigError (Option (Found × Rule σ τ))}
    (h : (lexer.query stream).resolve ambient = (answer, ambient')) :
    lexer.Grows ambient ambient' :=
  (Query.runs_iff.mpr h).grows (.inl rfl) fun _ rule hrule htest => .inr ⟨rule, hrule, htest⟩

/-! ### Hooks -/

/-- A journal that goes on from another and announces nothing more. -/
def Unannounced (journal : Journal) (s : Switching) : Prop :=
  ∃ events, s.journal.toList = journal.toList ++ events ∧ events.filter Event.isCompiled = []

/-- Switching states announces no alternation. -/
theorem answerSwitch_unannounced {journal : Journal} (ask : SwitchAsk) (s : Switching)
    (h : Unannounced journal s) : Unannounced journal (answerSwitch ask s).2 := by
  obtain ⟨events, hjournal, hevents⟩ := h
  have hpush {event : Event} (hevent : event.isCompiled = false) :
      (s.journal.push event).toList = journal.toList ++ (events ++ [event]) ∧
        (events ++ [event]).filter Event.isCompiled = [] := by
    rw [Array.toList_push, hjournal, List.append_assoc, List.filter_append, hevents]
    exact ⟨rfl, by simp [hevent]⟩
  cases ask with
  | push name =>
      rw [answerSwitch]
      split
      · exact ⟨events, hjournal, hevents⟩
      · exact ⟨_, hpush rfl⟩
  | pop =>
      rw [answerSwitch]
      split
      · exact ⟨events, hjournal, hevents⟩
      · exact ⟨_, hpush rfl⟩
  | currentState => exact ⟨events, hjournal, hevents⟩

/-- Nothing that a hook asks before a match does. -/
theorem answerBefore_unannounced {journal : Journal} (ask : BeforeAsk) (s : Switching)
    (h : Unannounced journal s) : Unannounced journal (answerBefore ask s).2 := by
  cases ask with
  | switch ask => exact answerSwitch_unannounced ask s h
  | abort => exact h

/-- A hook before a match leaves the cache alone. -/
theorem runBefore_grows {rule : Rule σ τ} {context : BeforeContext} {stack left : StateStack}
    {ambient ambient' : Ambient σ} {result : Except LexError Bool}
    (h : runBefore rule context stack ambient = (result, left, ambient')) :
    lexer.Grows ambient ambient' := by
  obtain rfl : (runBefore rule context stack ambient).2.2 = ambient' := congrArg (·.2.2) h
  rw [runBefore]
  split
  · exact .refl
  · next hook _ =>
      obtain ⟨events, hjournal, hevents⟩ := Dialogue.run_kept (Unannounced ambient.journal)
        answerBefore_unannounced (hook context ambient.host)
        (s := ⟨stack, ambient.journal, false⟩) ⟨[], by simp, rfl⟩
      exact .of_quiet events hjournal hevents

/-- A hook after a token leaves the cache alone. -/
theorem runAfter_grows {rule : Option (Rule σ τ)} {pending : Pending} {stream : TokenStream τ}
    {ambient ambient' : Ambient σ} {result : Except LexError Unit} {left : StateStack}
    (h : runAfter rule pending stream ambient = (result, left, ambient')) :
    lexer.Grows ambient ambient' := by
  obtain rfl : (runAfter rule pending stream ambient).2.2 = ambient' := congrArg (·.2.2) h
  rw [runAfter]
  split
  · next hook token _ _ =>
      dsimp only
      obtain ⟨events, hjournal, hevents⟩ := Dialogue.run_kept (Unannounced ambient.journal)
        answerSwitch_unannounced
        (hook { input := stream.input
                matched := stream.input.slice pending.start pending.matchEnd
                start := pending.start
                position := stream.cursor
                token } ambient.host)
        (s := ⟨stream.stack, ambient.journal, false⟩) ⟨[], by simp, rfl⟩
      exact .of_quiet events hjournal hevents
  · exact .refl

/-- A hook that extends a token leaves cache and journal alone. -/
theorem runFetch_grows {rule : Rule σ τ} {context : FetchContext} {cursor : Nat}
    {ambient ambient' : Ambient σ} {result : Except LexError Nat}
    (h : runFetch rule context cursor ambient = (result, ambient')) :
    lexer.Grows ambient ambient' := by
  obtain rfl : (runFetch rule context cursor ambient).2 = ambient' := congrArg (·.2) h
  rw [runFetch]
  split
  · exact .refl
  · exact .refl

/-! ### Pulls -/

variable {stream : TokenStream τ} {ambient : Ambient σ}

/-- The end of a token leaves the cache alone, whatever its hook does. -/
theorem FinishRuns.grows {out : Except LexError Unit × TokenStream τ × Ambient σ}
    (hruns : FinishRuns lexer stream ambient out) : lexer.Grows ambient out.2.2 := by
  cases hruns with
  | idle => exact .refl
  | afterFailed _ hafter => exact runAfter_grows hafter
  | finished _ hafter => exact runAfter_grows hafter

/-- An attempt adds what its search adds. -/
theorem AttemptRuns.grows {out : Attempt τ × TokenStream τ × Ambient σ}
    (hruns : AttemptRuns lexer stream ambient out) : lexer.Grows ambient out.2.2 := by
  cases hruns with
  | unbuilt hresolve => exact resolve_grows hresolve
  | unmatched hresolve => exact resolve_grows hresolve
  | beforeFailed hresolve hbefore =>
      exact Compiler.Grows.trans (resolve_grows hresolve) (runBefore_grows hbefore)
  | aborted hresolve hbefore =>
      exact Compiler.Grows.note
        (Compiler.Grows.trans (resolve_grows hresolve) (runBefore_grows hbefore)) rfl
  | fetchFailed hresolve hbefore hfetch =>
      exact Compiler.Grows.trans
        (Compiler.Grows.trans (resolve_grows hresolve) (runBefore_grows hbefore))
        (runFetch_grows hfetch)
  | token hresolve hbefore hfetch =>
      have hfetched := Compiler.Grows.trans
        (Compiler.Grows.trans (resolve_grows hresolve) (runBefore_grows hbefore))
        (runFetch_grows hfetch)
      exact hfetched.note rfl

/-- A search adds what its attempts add, by induction on its course. -/
theorem ScanRuns.grows {attempts : Nat} {out : Pull τ × TokenStream τ × Ambient σ}
    (hruns : ScanRuns lexer attempts stream ambient out) : lexer.Grows ambient out.2.2 := by
  induction hruns with
  | stalled => exact .refl
  | ended => exact Compiler.Grows.refl.note rfl
  | token _ hattempt => exact hattempt.grows
  | failed _ hattempt => exact hattempt.grows
  | again _ hattempt _ ih => exact Compiler.Grows.trans hattempt.grows ih

/-- Closing a run announces nothing. -/
theorem grows_close {out : Pull τ × TokenStream τ × Ambient σ}
    (h : lexer.Grows ambient out.2.2) : lexer.Grows ambient (close out).2.2 := by
  obtain ⟨answer, stream, ambient'⟩ := out
  cases answer with
  | failed e => exact Compiler.Grows.note h rfl
  | token | ended | stalled => exact h

/-- **One pull** adds to the cache what it has to build, and announces it. -/
theorem PullRuns.grows {attempts : Nat} {out : Pull τ × TokenStream τ × Ambient σ}
    (hruns : PullRuns lexer attempts stream ambient out) : lexer.Grows ambient out.2.2 := by
  cases hruns with
  | closed => exact .refl
  | misplaced => exact grows_close .refl
  | unfinished _ _ hfinish => exact grows_close hfinish.grows
  | searched _ _ hfinish hscan =>
      exact grows_close (Compiler.Grows.trans hfinish.grows hscan.grows)

/-! ### Lexers in use -/

/-- What happens to the cache and to the journal that all runs of a lexer share. -/
def InUse.Grows (lexer : Lexer σ τ) (s t : InUse σ τ) : Prop :=
  lexer.compiler.Grows lexer.Requested s.cache s.journal t.cache t.journal

/-- **Whatever is done with a lexer** adds at most what a pull adds. -/
theorem act_grows (lexer : Lexer σ τ) (s : InUse σ τ) (action : Action σ) :
    s.Grows lexer (lexer.act s action).2 := by
  cases action with
  | start input offset host => exact Compiler.Grows.refl.note rfl
  | pull run attempts =>
      rw [act]
      split
      · exact .refl
      · next stream host _ =>
          exact (lexer.pull_runs attempts stream ⟨s.cache, host, s.journal⟩).grows
  | abandon run => exact .refl

/-- **Whatever is done with a lexer** adds to its cache what has to be built, and announces it. -/
theorem carryOut_grows (lexer : Lexer σ τ) (actions : List (Action σ)) (s : InUse σ τ) :
    s.Grows lexer (lexer.carryOut actions s).2 := by
  induction actions generalizing s with
  | nil => exact .refl
  | cons action actions ih => exact (lexer.act_grows s action).trans (ih _)

/-! ### From the make on -/

variable {table : StateTable (Rule σ τ)} {config : LexerConfig} {factory : BaseToken → Text → τ}
  {cache : AlternationCache} {journal : Journal}

/-- Making a lexer adds full alternations to an empty cache, if it is eager. -/
theorem make_grows (hmake : make table config factory = (.ok (lexer, cache), journal)) :
    lexer.compiler.Grows lexer.Requested .empty #[] cache journal := by
  have hcreating : lexer.compiler.Grows lexer.Requested .empty #[] .empty
      #[Event.creatingLexer table.size config.baseState config.eagerCompile] :=
    .of_quiet [.creatingLexer table.size config.baseState config.eagerCompile] rfl rfl
  have hall (compiler : Compiler) (rules : List (List (Rule σ τ))) (journal : Journal) :
      compiler.Grows (Lexer.Requested { config, compiler, rules, factory }) .empty journal
        (compiler.compileAll .empty journal).2.1 (compiler.compileAll .empty journal).2.2 :=
    compiler.compileStates_grows _ (fun _ _ => .inl rfl) .empty journal
  rw [make] at hmake
  dsimp only at hmake
  split at hmake
  · exact absurd hmake (by simp)
  · next names rules _ =>
      split at hmake
      · exact absurd hmake (by simp)
      · next compiler _ =>
          split at hmake
          · have hgrows := hall compiler rules
              #[Event.creatingLexer table.size config.baseState config.eagerCompile]
            split at hmake
            · exact absurd hmake (by simp)
            · next hcompile =>
                rw [hcompile] at hgrows
                simp only [Prod.mk.injEq, Except.ok.injEq] at hmake
                obtain ⟨⟨rfl, rfl⟩, rfl⟩ := hmake
                exact hcreating.trans hgrows
          · simp only [Prod.mk.injEq, Except.ok.injEq] at hmake
            obtain ⟨⟨rfl, rfl⟩, rfl⟩ := hmake
            exact hcreating

/-- The names of the states of a lexer tell them apart. -/
theorem make_name_inj (hmake : make table config factory = (.ok (lexer, cache), journal))
    {state state' : Nat} (h : state < lexer.names.count) (h' : state' < lexer.names.count)
    (hname : lexer.names.name state = lexer.names.name state') : state = state' := by
  obtain ⟨hassemble, -⟩ := make_ok_iff.mp ⟨cache, journal, hmake⟩
  obtain ⟨hresolve, -⟩ := assemble_ok_iff.mp hassemble
  obtain ⟨-, -, hresolved, -⟩ := StateTable.resolve_ok hresolve
  have hlookup := (StateNames.lookup?_eq_some_iff hresolved).mpr ⟨h, hname⟩
  have hlookup' := (StateNames.lookup?_eq_some_iff hresolved).mpr ⟨h', rfl⟩
  exact Option.some.inj (hlookup.symm.trans hlookup')

/-- What is mapped without an error is mapped without an error from any place on. -/
theorem mapM_drop {ε α β : Type} {f : α → Except ε β} {l : List α} {images : List β}
    (h : l.mapM f = .ok images) (n : Nat) : (l.drop n).mapM f = .ok (images.drop n) := by
  induction l generalizing images n with
  | nil =>
      obtain rfl := Except.ok.inj h
      simp [pure, Except.pure]
  | cons a l ih =>
      cases n with
      | zero => exact h
      | succ n =>
          rw [List.mapM_cons] at h
          cases ha : f a with
          | error e => exact absurd h (by rw [ha]; simp [bind, Except.bind])
          | ok b =>
              cases hl : l.mapM f with
              | error e => exact absurd h (by rw [ha, hl]; simp [bind, Except.bind])
              | ok rest =>
                  rw [ha, hl] at h
                  obtain rfl := Except.ok.inj h
                  exact ih hl n

/-- What a journal announces of some entries are their keys, with the names of the states. -/
theorem filterMap_compiledFor? {compiler : Compiler} {events : List Event}
    {entries : List ((Nat × Nat) × Alternation)}
    (h : events.filter Event.isCompiled = entries.map compiler.announced) :
    events.filterMap Event.compiledFor? =
      (entries.map (·.1)).map fun key => (compiler.names.name key.1, key.2) := by
  have hfilter : events.filterMap Event.compiledFor? =
      (events.filter Event.isCompiled).filterMap Event.compiledFor? := by
    rw [List.filterMap_filter]
    refine List.filterMap_congr fun event _ => ?_
    cases event <;> rfl
  rw [hfilter, h, List.filterMap_map, List.map_map]
  exact congrFun List.filterMap_eq_map entries

/-- Keys that differ still differ when states are called by their names. -/
theorem nodup_names (hmake : make table config factory = (.ok (lexer, cache), journal))
    {keys : List (Nat × Nat)} (hlt : ∀ key ∈ keys, key.1 < lexer.names.count) (h : keys.Nodup) :
    (keys.map fun key => (lexer.names.name key.1, key.2)).Nodup := by
  refine List.Nodup.map_on ?_ h
  intro key hkey key' hkey' hsame
  obtain ⟨hname, hfirst⟩ := Prod.mk.inj hsame
  exact Prod.ext (make_name_inj hmake (hlt key hkey) (hlt key' hkey') hname) hfirst

/-- **Each alternation is built at most once and only when needed.** Whatever has been done with a
lexer since it was made (`used`), as many alternations are in its cache as the journal has announced
since the make began, no two of them for the same state and first rule. What is in the cache stays
there unchanged whatever is done next (`next`), it is what would be built anew from the rules of
its state that are left, and it stands for all rules of the state or for those behind a rule with a
predicate. An alternation that cannot be built is not in the cache, and asking for it once more
changes nothing and announces nothing. -/
theorem alternations_built_once
    (hmake : make table config factory = (.ok (lexer, cache), journal))
    (earlier later : List (Action σ)) {used next : InUse σ τ}
    (hused : (lexer.carryOut earlier ⟨cache, journal, []⟩).2 = used)
    (hnext : (lexer.carryOut later used).2 = next) :
    used.cache.count = used.journal.toList.countP Event.isCompiled ∧
      (used.journal.toList.filterMap Event.compiledFor?).Nodup ∧
      (∀ state first a, used.cache.find? state first = some a →
        next.cache.find? state first = some a ∧
          (∃ parts, ((lexer.rulesOf state).drop first).mapM Compiler.checkRule = .ok parts ∧
            Alternation.build parts first = .ok a) ∧
          (first = 0 ∨
            ∃ rule, (lexer.rulesOf state)[first - 1]? = some rule ∧ rule.test.isSome = true)) ∧
      ∀ state first e, lexer.compiler.alternationAnew state first = .error e →
        used.cache.find? state first = none ∧
          lexer.compiler.alternation used.cache state first = (.error e, used.cache, []) := by
  have hgrows := (make_grows hmake).trans (lexer.carryOut_grows earlier ⟨cache, journal, []⟩)
  have hlater := lexer.carryOut_grows later used
  rw [hused] at hgrows
  rw [hnext] at hlater
  obtain ⟨-, -, -, hcompiler, hcoherent⟩ := make_ok hmake
  have hcoherent := carryOut_coherent (s := ⟨cache, journal, []⟩) hcoherent earlier
  rw [hused] at hcoherent
  have hnodup : used.cache.keys.Nodup := hgrows.nodup List.nodup_nil
  obtain ⟨⟨entries, events, hentries, hjournal, hannounced, hbuilt⟩, -⟩ := hgrows
  rw [show AlternationCache.empty.entries = [] from rfl, List.append_nil] at hentries
  rw [show (#[] : Journal).toList = [] from rfl, List.nil_append] at hjournal
  refine ⟨?_, ?_, ?_, ?_⟩
  · rw [AlternationCache.count, hentries, List.length_reverse, hjournal,
      List.countP_eq_length_filter, hannounced, List.length_map]
  · rw [hjournal, filterMap_compiledFor? hannounced]
    rw [AlternationCache.keys, hentries, List.map_reverse, List.nodup_reverse] at hnodup
    refine nodup_names hmake (fun key hkey => ?_) hnodup
    obtain ⟨entry, hentry, rfl⟩ := List.mem_map.mp hkey
    exact (make_wellMade hmake).parts_length ▸ (hbuilt entry hentry).state_lt
  · intro state first a hfind
    have hmem := AlternationCache.mem_of_find? hfind
    obtain ⟨⟨entries', -, hentries', -⟩, hnodup'⟩ := hlater
    have hentry := hbuilt ((state, first), a) (by simpa [hentries] using hmem)
    refine ⟨AlternationCache.find?_of_mem (hnodup' hnodup) ?_, ⟨_, ?_, hentry.build_eq⟩,
      hentry.requested⟩
    · rw [hentries']
      exact List.mem_append_right _ hmem
    · exact mapM_drop (Compiler.mapM_partsOf hcompiler state) first
  · exact fun state first e => Compiler.alternation_of_error hcoherent

/-- Letters, of which the first `a` is always rejected; behind a `b` the state `twins` is entered,
whose two patterns name their groups alike and cannot be built together. -/
def rejectTable : StateTable (Rule Unit Token) :=
  (StateTable.flat
    [{ pattern := .source ['a'], test := some fun _ host => (false, host) },
      { pattern := .source ['a'] },
      { pattern := .source ['b']
        after := some fun _ host => .ask (.push "twins") fun _ => .done (.ok (), host) }]).declare
    "twins"
    [{ pattern := .source "(?P<x>a)".toList }, { pattern := .source "(?P<x>b)".toList }]

/-- Two runs that take turns over `aba` and `ba` on a lexer without eager compilation. Both ask for
the full alternation of the base state, and the first for what is behind its first rule; each is
built once. Both come to the state `twins`, whose alternation is never built. -/
theorem alternations_built_once_reject :
    ∃ (lexer : Lexer Unit Token) (used next : InUse Unit Token) (e : ConfigError),
      used.runs.length = 2 ∧
        used.journal.toList.filterMap Event.compiledFor? = [("start", 0), ("start", 1)] ∧
        used.cache.count = used.journal.toList.countP Event.isCompiled ∧
        lexer.compiler.alternationAnew 1 0 = .error e ∧
        lexer.compiler.alternation used.cache 1 0 = (.error e, used.cache, []) ∧
        ∀ state first a, used.cache.find? state first = some a →
          next.cache.find? state first = some a := by
  have hrun : (match make rejectTable { eagerCompile := false } Token.make with
      | (.ok (lexer, cache), journal) =>
        let used := (lexer.carryOut
          [.start ['a', 'b', 'a'] 0 (), .start ['b', 'a'] 0 (), .pull 0 1, .pull 1 1, .pull 0 1,
            .pull 1 1] ⟨cache, journal, []⟩).2
        decide (used.runs.length = 2 ∧
          used.journal.toList.filterMap Event.compiledFor? = [("start", 0), ("start", 1)] ∧
          (lexer.compiler.fullError? 1).isSome = true)
      | (.error _, _) => false) = true := by
    decide +kernel
  split at hrun
  · next lexer cache journal hmake =>
      obtain ⟨hruns, hannounced, herror⟩ := of_decide_eq_true hrun
      obtain ⟨e, herror⟩ := Option.isSome_iff_exists.mp herror
      rw [Compiler.fullError?_eq_some_iff] at herror
      obtain ⟨hcount, -, hkept, hunbuilt⟩ := alternations_built_once hmake
        [.start ['a', 'b', 'a'] 0 (), .start ['b', 'a'] 0 (), .pull 0 1, .pull 1 1, .pull 0 1,
          .pull 1 1] [.pull 0 1] rfl rfl
      exact ⟨lexer, _, _, e, hruns, hannounced, hcount, herror, (hunbuilt 1 0 e herror).2,
        fun state first a h => (hkept state first a h).1⟩
  · exact absurd hrun (by simp)

end Lexer

end ModalLex
