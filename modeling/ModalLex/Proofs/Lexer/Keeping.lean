import ModalLex.Proofs.Lexer.Aborting
import ModalLex.Proofs.Lexer.Mirroring

/-!
# What a Pull Keeps of the Host

The state of the host is only changed by predicates and hooks. So a property of it that each of
them **keeps** is kept by a whole pull, whatever the pull comes to. Hooks have to keep it whatever
they are given. A predicate is only called for matches that a search finds, and only where the pull
stands; so it has to keep the property for these matches alone (`Lexer.Keeps`).

The use that is made of this is with the lexer that records its hooks, whose host holds the list of
calls: what is true of each call that can be made is true of all calls of a pull.

## Main results

* `Query.Runs.keeps`, `AttemptRuns.keeps`, `ScanRuns.keeps`: what one resolution, one attempt and
  one search for a token keep.
* `PullRuns.keeps`: **what every predicate and every hook keeps, a pull keeps.**
* `Rested.forall_calls`: what is true of each call that can be made is true of all calls of a pull.
-/

namespace ModalLex

variable {σ τ : Type} {kept : σ → Prop}

/-! ### Hooks that keep a property -/

open Lexer in
/-- A rule whose hooks keep a property of the host, whatever they are given. -/
structure Rule.HooksKeep (rule : Rule σ τ) (kept : σ → Prop) : Prop where
  before : ∀ context stack ambient, kept ambient.host →
    kept (runBefore rule context stack ambient).2.2.host
  fetch : ∀ context cursor ambient, kept ambient.host →
    kept (runFetch rule context cursor ambient).2.host
  value : ∀ context host, kept host → kept (valueOf rule context host).2
  kind : ∀ matched host, kept host → kept (kindOf rule matched host).2
  after : ∀ pending stream ambient, kept ambient.host →
    kept (runAfter (some rule) pending stream ambient).2.2.host

/-- A query whose predicates keep a property of the host, for every match that is found. -/
def Query.TestsKeep (q : Query σ τ) (kept : σ → Prop) : Prop :=
  ∀ first found rule host, q.matchFrom first = .ok (some found) →
    q.rules[found.rule]? = some rule → kept host → kept (q.accepts rule found host).2

/-- A lexer whose predicates and hooks keep a property of the host, where a pull stands at an
offset of an input. -/
structure Lexer.Keeps (lexer : Lexer σ τ) (input : Text) (offset : Nat) (kept : σ → Prop) :
    Prop where
  tests : ∀ state lastToken, (lexer.queryIn state input offset lastToken).TestsKeep kept
  hooks : ∀ state, ∀ rule ∈ lexer.rulesOf state, rule.HooksKeep kept

namespace Rule.HooksKeep

variable {rule : Rule σ τ}

/-- A hook before a match keeps the property. -/
theorem of_runBefore {context : BeforeContext} {stack left : StateStack}
    {ambient ambient' : Ambient σ} {result : Except LexError Bool} (h : rule.HooksKeep kept)
    (hkept : kept ambient.host)
    (hrun : Lexer.runBefore rule context stack ambient = (result, left, ambient')) :
    kept ambient'.host := by
  have hnext := h.before context stack ambient hkept
  rwa [hrun] at hnext

/-- A hook that extends a token keeps the property. -/
theorem of_runFetch {context : FetchContext} {cursor : Nat} {ambient ambient' : Ambient σ}
    {result : Except LexError Nat} (h : rule.HooksKeep kept) (hkept : kept ambient.host)
    (hrun : Lexer.runFetch rule context cursor ambient = (result, ambient')) :
    kept ambient'.host := by
  have hnext := h.fetch context cursor ambient hkept
  rwa [hrun] at hnext

/-- A hook that gives a value keeps the property. -/
theorem of_valueOf {context : ValueContext} {value : Value} {host host' : σ}
    (h : rule.HooksKeep kept) (hkept : kept host)
    (hrun : Lexer.valueOf rule context host = (value, host')) : kept host' := by
  have hnext := h.value context host hkept
  rwa [hrun] at hnext

/-- A hook that gives a kind keeps the property. -/
theorem of_kindOf {matched kind : Text} {host host' : σ} (h : rule.HooksKeep kept)
    (hkept : kept host) (hrun : Lexer.kindOf rule matched host = (kind, host')) : kept host' := by
  have hnext := h.kind matched host hkept
  rwa [hrun] at hnext

end Rule.HooksKeep

/-- The hook after a token keeps the property, or there is none. -/
theorem Lexer.Keeps.of_runAfter {lexer : Lexer σ τ} {input : Text} {offset : Nat} {p : Pending}
    {stream : TokenStream τ} {ambient ambient' : Ambient σ} {result : Except LexError Unit}
    {left : StateStack} (h : lexer.Keeps input offset kept) (hkept : kept ambient.host)
    (hrun : runAfter (lexer.rulesOf p.state)[p.rule]? p stream ambient =
      (result, left, ambient')) : kept ambient'.host := by
  cases hrule : (lexer.rulesOf p.state)[p.rule]? with
  | none =>
      rw [hrule] at hrun
      cases hrun
      exact hkept
  | some rule =>
      have hnext := (h.hooks _ rule (List.mem_of_getElem? hrule)).after p stream ambient hkept
      rw [hrule] at hrun
      rwa [hrun] at hnext

/-! ### One pull -/

/-- What an alternation matches that a coherent cache hands out. -/
theorem Query.matchFrom_eq {q : Query σ τ} {first : Nat} {ambient ambient' : Ambient σ}
    {a : Alternation} (h : q.compiler.Coherent ambient.cache)
    (hq : q.alternation first ambient = (.ok (some a), ambient')) :
    q.matchFrom first = .ok (a.matchAt q.input q.offset) := by
  have hanew : q.compiler.alternationAnew q.state first = .ok (some a) :=
    (Compiler.alternation_eq h _ _).symm.trans (congrArg Prod.fst hq)
  rw [matchFrom, hanew]

/-- What the predicates keep, a resolution keeps. -/
theorem Query.Runs.keeps {q : Query σ τ} {attempts first : Nat} {ambient : Ambient σ}
    {out : Except ConfigError (Option (Found × Rule σ τ)) × Ambient σ}
    (hruns : q.Runs attempts first ambient out) (h : q.TestsKeep kept)
    (hcoherent : q.compiler.Coherent ambient.cache) (hkept : kept ambient.host) :
    kept out.2.host := by
  have hasked {first : Nat} {ambient ambient' : Ambient σ} {a : Alternation} {found : Found}
      {rule : Rule σ τ} {accepted : Bool} {host : σ}
      (hcoherent : q.compiler.Coherent ambient.cache) (hkept : kept ambient.host)
      (hq : q.alternation first ambient = (.ok (some a), ambient'))
      (hmatch : a.matchAt q.input q.offset = some found) (hrule : q.rules[found.rule]? = some rule)
      (haccepts : q.accepts rule found ambient'.host = (accepted, host)) : kept host := by
    have hnext := h first found rule ambient'.host
      ((matchFrom_eq hcoherent hq).trans (congrArg _ hmatch)) hrule (alternation_host hq ▸ hkept)
    rw [haccepts] at hnext
    exact hnext
  induction hruns with
  | spent => exact hkept
  | unbuilt hq => exact alternation_host hq ▸ hkept
  | exhausted hq => exact alternation_host hq ▸ hkept
  | unmatched hq => exact alternation_host hq ▸ hkept
  | unowned hq => exact alternation_host hq ▸ hkept
  | accepted hq hmatch hrule haccepts => exact hasked hcoherent hkept hq hmatch hrule haccepts
  | rejected hq hmatch hrule haccepts _ ih =>
      exact ih (alternation_coherent hcoherent hq :)
        (hasked hcoherent hkept hq hmatch hrule haccepts)

namespace Lexer

variable {lexer : Lexer σ τ} {stream : TokenStream τ} {ambient : Ambient σ}

/-- **An attempt keeps the property**: its predicates do, and so does each hook up to the first
that fails. -/
theorem AttemptRuns.keeps {out : Attempt τ × TokenStream τ × Ambient σ}
    (hruns : AttemptRuns lexer stream ambient out) (hready : Ready lexer stream)
    (h : lexer.Keeps stream.input stream.cursor kept)
    (hcoherent : lexer.compiler.Coherent ambient.cache) (hkept : kept ambient.host) :
    kept out.2.2.host := by
  have htests := h.tests stream.stack.current stream.lastToken
  rw [← hready.anchor_eq] at htests
  have hresolve {answer : Except ConfigError (Option (Found × Rule σ τ))} {ambient₁ : Ambient σ}
      (hq : (lexer.query stream).resolve ambient = (answer, ambient₁)) : kept ambient₁.host :=
    (Query.runs_iff.mpr hq).keeps htests hcoherent hkept
  have hhooks {found : Found} {rule : Rule σ τ} {ambient₁ : Ambient σ}
      (hq : (lexer.query stream).resolve ambient = (.ok (some (found, rule)), ambient₁)) :
      rule.HooksKeep kept :=
    h.hooks _ rule (List.mem_of_getElem? (Query.resolveFrom_some hq).2)
  cases hruns with
  | unbuilt hq => exact hresolve hq
  | unmatched hq => exact hresolve hq
  | beforeFailed hq hbefore => exact (hhooks hq).of_runBefore (hresolve hq) hbefore
  | aborted hq hbefore => exact ((hhooks hq).of_runBefore (hresolve hq) hbefore :)
  | fetchFailed hq hbefore hfetch =>
      exact (hhooks hq).of_runFetch ((hhooks hq).of_runBefore (hresolve hq) hbefore) hfetch
  | token hq hbefore hfetch hvalue hkind =>
      have hfetched := (hhooks hq).of_runFetch
        ((hhooks hq).of_runBefore (hresolve hq) hbefore) hfetch
      exact (hhooks hq).of_kindOf ((hhooks hq).of_valueOf hfetched hvalue) hkind

/-- A search keeps the property, by induction on its course: after an aborted match the cursor is
where it was. -/
theorem ScanRuns.keeps {attempts : Nat} {out : Pull τ × TokenStream τ × Ambient σ}
    (hruns : ScanRuns lexer attempts stream ambient out) (hready : Ready lexer stream)
    (h : lexer.Keeps stream.input stream.cursor kept)
    (hcoherent : lexer.compiler.Coherent ambient.cache) (hkept : kept ambient.host) :
    kept out.2.2.host := by
  induction hruns with
  | stalled => exact hkept
  | ended => exact hkept
  | token _ hattempt => exact hattempt.keeps hready h hcoherent hkept
  | failed _ hattempt => exact hattempt.keeps hready h hcoherent hkept
  | again _ hattempt _ ih =>
      -- The next attempt is made at the same place.
      obtain ⟨hready', hcursor, hinput⟩ := hready.aborted hattempt
      have hkept₁ := hattempt.keeps hready h hcoherent hkept
      rw [← hinput, ← hcursor] at h
      exact ih hready' h (hattempt.coherent hcoherent) hkept₁

/-- The end of a token keeps the property. -/
theorem FinishRuns.keeps {out : Except LexError Unit × TokenStream τ × Ambient σ}
    (hruns : FinishRuns lexer stream ambient out) {input : Text} {offset : Nat}
    (h : lexer.Keeps input offset kept) (hkept : kept ambient.host) : kept out.2.2.host := by
  cases hruns with
  | idle => exact hkept
  | afterFailed _ hafter => exact h.of_runAfter hkept hafter
  | finished _ hafter => exact h.of_runAfter hkept hafter

/-- **What every predicate and every hook keeps, a pull keeps.** -/
theorem PullRuns.keeps {attempts : Nat} {out : Pull τ × TokenStream τ × Ambient σ}
    (hruns : PullRuns lexer attempts stream ambient out) (hrested : Rested lexer stream)
    (h : lexer.Keeps stream.input stream.cursor kept)
    (hcoherent : lexer.compiler.Coherent ambient.cache) (hkept : kept ambient.host) :
    kept out.2.2.host := by
  cases hruns with
  | closed => exact hkept
  | misplaced => exact hkept
  | unfinished _ _ hfinish => exact hfinish.keeps h hkept
  | searched hopen _ hfinish hscan =>
      obtain ⟨hinput, hcursor, -, -, hready⟩ := hrested.finishRuns hopen hfinish
      have hkept₁ := hfinish.keeps h hkept
      rw [close_host]
      rw [← hinput, ← hcursor] at h
      exact hscan.keeps (hready rfl) h (hfinish.cache_eq ▸ hcoherent) hkept₁

end Lexer

/-! ### Calls -/

/-- Whether a call is one of a predicate. -/
def HookEvent.isTest : HookEvent τ → Bool
  | .test _ _ => true
  | _ => false

variable {good : HookCall τ → Prop}

/-- What is true of each and of one more is true of all. -/
theorem forall_mem_concat {α : Type} {p : α → Prop} {l : List α} {a : α} (hl : ∀ x ∈ l, p x)
    (ha : p a) : ∀ x ∈ l ++ [a], p x :=
  List.forall_mem_append.mpr ⟨hl, by simpa using ha⟩

/-- A recorded hook adds its own call to the record, and nothing else. -/
theorem forall_mem_recordedHook {Ask : Type} {Reply : Ask → Type} {κ γ : Type}
    {answer : (q : Ask) → γ → Reply q × γ}
    {made : κ → List ((q : Ask) × Reply q) → Except LexError Unit → HookCall τ}
    {hook : κ → σ → Dialogue Ask Reply (HookEnd σ)} {context : κ}
    {host : σ × List (HookCall τ)} {s : γ} (hkept : ∀ call ∈ host.2, good call)
    (hmade : ∀ talk result, good (made context talk result)) :
    ∀ call ∈ ((recordedHook made hook context host).run answer s).1.2.2, good call := by
  rw [recordedHook, Dialogue.run_bind]
  exact forall_mem_concat hkept (hmade _ _)

/-- What is true of every call that a query can make of its predicates, recorded predicates keep
true of the record. -/
theorem Query.recorded_testsKeep {q : Query σ τ}
    (h : ∀ first found accepted, q.matchFrom first = .ok (some found) →
      good ⟨q.state, found.rule, .test (q.testContext found) accepted⟩) :
    q.recorded.TestsKeep fun host => ∀ call ∈ host.2, good call := by
  intro first found rule host hmatch hrule hkept
  rw [recorded_rules, Option.map_eq_some_iff] at hrule
  obtain ⟨rule, -, rfl⟩ := hrule
  rw [accepts_called rfl, testCalls]
  split
  · exact forall_mem_concat hkept (h first found _ hmatch)
  · rwa [List.append_nil]

/-- What is true of every call of a hook, recorded hooks keep true of the record. -/
theorem Rule.recorded_hooksKeep (h : ∀ call : HookCall τ, call.event.isTest = false → good call)
    (rule : Rule σ τ) (state index : Nat) :
    (rule.recorded state index).HooksKeep fun host => ∀ call ∈ host.2, good call where
  before context stack ambient hkept := by
    unfold Lexer.runBefore Rule.recorded
    cases rule.before with
    | none => exact hkept
    | some hook => exact forall_mem_recordedHook hkept fun talk result => h _ rfl
  fetch context cursor ambient hkept := by
    unfold Lexer.runFetch Rule.recorded
    cases rule.fetch with
    | none => exact hkept
    | some hook => exact forall_mem_recordedHook hkept fun talk result => h _ rfl
  value context host hkept := by
    unfold Lexer.valueOf Rule.recorded
    cases rule.value with
    | none => exact hkept
    | some hook => exact forall_mem_concat hkept (h _ rfl)
  kind matched host hkept := by
    unfold Lexer.kindOf Rule.recorded Kind.recorded
    cases rule.kind with
    | matched => exact hkept
    | literal kind => exact hkept
    | derived derive => exact forall_mem_concat hkept (h _ rfl)
  after pending stream ambient hkept := by
    unfold Lexer.runAfter Rule.recorded
    dsimp only [Option.bind_some]
    cases rule.after with
    | none => exact hkept
    | some hook =>
        cases stream.lastToken with
        | none => exact hkept
        | some token => exact forall_mem_recordedHook hkept fun talk result => h _ rfl

namespace Lexer

variable {lexer : Lexer σ τ} {stream : TokenStream τ} {ambient : Ambient σ}

/-- Recording calls changes no stream. -/
theorem rested_recorded (h : Rested lexer stream) : Rested lexer.recorded stream := by
  refine ⟨⟨h.valid, h.names_eq, h.cursor_isBoundary, h.anchors_isBoundary, ?_⟩, h.synced⟩
  intro p hp
  obtain ⟨hstate, hrule, hstart, hend, hle, hbefore, hanchor⟩ := h.pending_fits p hp
  refine ⟨hstate, ?_, hstart, hend, hle, hbefore, hanchor⟩
  rwa [recorded_rulesOf, List.length_mapIdx]

/-- Recording calls changes what is asked only in its rules. -/
theorem recorded_queryIn (lexer : Lexer σ τ) (state : Nat) (input : Text) (offset : Nat)
    (lastToken : Option τ) : lexer.recorded.queryIn state input offset lastToken =
      (lexer.queryIn state input offset lastToken).recorded := by
  rw [queryIn, recorded_rulesOf]
  rfl

/-- **What is true of each call that can be made is true of all calls of a pull**: of each call of a
predicate for a match that is found where the pull stands, and of each call of a hook. -/
theorem Rested.forall_calls (hrested : Rested lexer stream)
    (htests : ∀ state lastToken first found accepted,
      (lexer.queryIn state stream.input stream.cursor lastToken).matchFrom first =
        .ok (some found) →
      good ⟨state, found.rule,
        .test ((lexer.queryIn state stream.input stream.cursor lastToken).testContext found)
          accepted⟩)
    (hhooks : ∀ call : HookCall τ, call.event.isTest = false → good call)
    (hcoherent : lexer.compiler.Coherent ambient.cache) (attempts : Nat) :
    ∀ call ∈ lexer.calls attempts stream ambient, good call := by
  have hkeeps : lexer.recorded.Keeps stream.input stream.cursor
      fun host => ∀ call ∈ host.2, good call := by
    refine ⟨fun state lastToken => ?_, fun state rule hrule => ?_⟩
    · rw [recorded_queryIn]
      exact Query.recorded_testsKeep (htests state lastToken)
    · rw [recorded_rulesOf] at hrule
      obtain ⟨index, hlt, rfl⟩ := List.mem_mapIdx.mp hrule
      exact Rule.recorded_hooksKeep hhooks _ state index
  have hrecorded : lexer.recorded.compiler.Coherent ambient.cache := hcoherent
  exact (lexer.recorded.pull_runs attempts stream _).keeps (rested_recorded hrested) hkeeps
    hrecorded (by simp)

end Lexer

end ModalLex
