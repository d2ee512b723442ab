import ModalLex.Proofs.Lexer.Keeping
import ModalLex.Proofs.Lexer.Lifecycle
import ModalLex.Proofs.Lexer.Precedence

/-!
# One Match for Predicates and Hooks

Two places say what a match is. The predicate of a rule is shown the span of the group that the
match was reported by; the hooks behind it are shown what lies between the place where the search
began and the end of that span. The two are the same if the group that is reported is the one that
**wraps** the pattern of the rule, since that group begins with the search.

The number of a wrapper is not read off the spliced pattern but counted from the patterns before
it. So it is the right one where the spliced pattern is read as the alternation of the wrappers,
and the groups of the patterns before have been counted. Else a group inside a pattern may stand for
the wrapper of another rule, and the predicate of that rule is shown a part of the match only.

What is said here of runs is said of the list of all calls: in front of each call of a hook, the
predicate that was called last is the one that has accepted the match of the hook. An `after` hook
is called in another pull than the predicate of its match, so the match that is pending carries this
from one pull to the next (`Backed`).

## Main results

* `Alternation.reported_begin`, `Lexer.Wrapped.start_eq`: a match that is reported by a wrapper
  begins with the search.
* `AttemptCalls.agreeing`, `ScanCalls.agreeing`, `PullCalls.agreeing`: the calls of one attempt, of
  one search for a token and of one pull.
* `predicates_and_hooks_share_match`: **predicates and hooks are shown the same match**.
* `swallowed_wrapper_splits_match`: behind a comment that is not closed they are not.
-/

namespace ModalLex

open Regex

/-! ### Wrappers -/

namespace Alternation

/-- **What is reported by a wrapper begins with the search**: it does if the groups of the patterns
before its rule have been counted. -/
theorem reported_begin {input : Text} {offset : Nat} (hoffset : input.isBoundary offset = true)
    {parts : List Part} (h : ∀ part ∈ parts, (expr? {} part.source).isSome) {w rule : Nat}
    {saved : List (Nat × Nat)} {found : Found}
    (hslots : firstSlots input offset w parts = some saved)
    (hreported : reported saved rule (groupNumbers w parts) = some found)
    (hcounted : ∀ part ∈ parts.take (found.rule - rule), Counted part) :
    found.start = offset := by
  induction parts generalizing w rule with
  | nil => exact absurd hslots (by simp [firstSlots, numbered])
  | cons part rest ih =>
      obtain ⟨hpart, hrest⟩ := List.forall_mem_cons.mp h
      rw [groupNumbers, reported] at hreported
      cases hmatch : matchAlone? part.source input offset with
      | some span =>
          obtain ⟨saved', hsaved, hspan⟩ := firstSlots_of_some hmatch w rest
          obtain rfl := Option.some.inj (hslots.symm.trans hsaved)
          have hmoved := groupSpan?_moveSlots saved' w 0
          rw [Nat.zero_add, hspan] at hmoved
          rw [hmoved] at hreported
          obtain rfl := Option.some.inj hreported
          exact matchAlone?_begin hoffset hmatch
      | none =>
          rw [firstSlots_of_none hoffset hpart hmatch] at hslots
          rw [groupSpan?_firstSlots hslots (by omega)] at hreported
          dsimp only at hreported
          obtain ⟨i, -, -, hrule, -⟩ := reported_some hreported
          rw [show found.rule - rule = found.rule - (rule + 1) + 1 by omega,
            List.take_succ_cons] at hcounted
          obtain ⟨hcount, hcounted⟩ := List.forall_mem_cons.mp hcounted
          rw [hcount] at hreported
          exact ih hrest hslots hreported hcounted

end Alternation

variable {σ τ : Type}

/-- A rule of a state is **wrapped**: the patterns of the state can be read by themselves, all
alternations of them that can be built are read as those of their groups, and the groups of the
patterns before the rule have been counted. -/
structure Lexer.Wrapped (lexer : Lexer σ τ) (state index : Nat) : Prop where
  readable : ∀ part ∈ lexer.compiler.partsOf state, (expr? {} part.source).isSome
  readApart : ∀ first a, lexer.compiler.alternationAnew state first = .ok (some a) →
    Alternation.ReadApart ((lexer.compiler.partsOf state).drop first)
  counted : ∀ part ∈ (lexer.compiler.partsOf state).take index, Alternation.Counted part

namespace Lexer

variable {lexer : Lexer σ τ} {state index : Nat} {input : Text} {offset : Nat}
  {lastToken : Option τ}

/-- **The match of a rule that is wrapped begins with the search.** -/
theorem Wrapped.start_eq (h : lexer.Wrapped state index)
    (hoffset : input.isBoundary offset = true) {first : Nat} {found : Found}
    (hrule : found.rule = index)
    (hmatch : (lexer.queryIn state input offset lastToken).matchFrom first = .ok (some found)) :
    found.start = offset := by
  subst hrule
  rw [Query.matchFrom] at hmatch
  dsimp only [queryIn] at hmatch
  split at hmatch
  · exact absurd hmatch (by simp)
  · exact absurd hmatch (by simp)
  · next a hanew =>
      obtain ⟨hne, hbuild⟩ := Compiler.alternationAnew_ok hanew
      have hreadable : ∀ part ∈ (lexer.compiler.partsOf state).drop first,
          (expr? {} part.source).isSome :=
        fun part hpart => h.readable part (List.mem_of_mem_drop hpart)
      rw [Alternation.matchAt_eq_of_readApart hne hbuild (h.readApart first a hanew) hreadable,
        Except.ok.injEq] at hmatch
      obtain ⟨saved, hslots, hreported⟩ := Option.bind_eq_some_iff.mp hmatch
      refine Alternation.reported_begin hoffset hreadable hslots hreported fun part hpart => ?_
      rw [← List.drop_take] at hpart
      exact h.counted part (List.mem_of_mem_drop hpart)

/-- Where the patterns are self-contained, a rule is wrapped as soon as the groups of the patterns
before it have been counted. -/
theorem SelfContained.wrapped (h : lexer.SelfContained)
    (hcounted : ∀ part ∈ (lexer.compiler.partsOf state).take index, Alternation.Counted part) :
    lexer.Wrapped state index where
  readable := (h.partsOf state).expr_isSome
  readApart first a hanew := h.readsApart state first a hanew
  counted := hcounted

/-- A call begins at an offset, if it is one of the predicate of a rule. -/
def TestBegins (state index offset : Nat) (call : HookCall τ) : Prop :=
  ∀ context accepted, call = ⟨state, index, .test context accepted⟩ → context.start = offset

/-- All calls of the predicate of a rule that is wrapped begin where the pull stands. -/
theorem Rested.tests_begin {stream : TokenStream τ} (hrested : Rested lexer stream)
    (hwrapped : lexer.Wrapped state index) {ambient : Ambient σ}
    (hcoherent : lexer.compiler.Coherent ambient.cache) (attempts : Nat) :
    ∀ call ∈ lexer.calls attempts stream ambient, TestBegins state index stream.cursor call := by
  refine hrested.forall_calls ?_ ?_ hcoherent attempts
  · intro state' lastToken first found accepted hmatch context accepted' hcall
    obtain ⟨rfl, hrule, hevent⟩ := HookCall.mk.inj hcall
    obtain ⟨rfl, -⟩ := HookEvent.test.inj hevent
    exact hwrapped.start_eq hrested.cursor_isBoundary hrule hmatch
  · rintro call hhook context accepted rfl
    exact absurd hhook (by simp [HookEvent.isTest])

end Lexer

/-! ### What calls show -/

/-- What a call shows of a match: where it starts, unless only its kind is asked for, and its
text. -/
def HookEvent.shown : HookEvent τ → Option Nat × Text
  | .test context _ => (some context.start, context.matched)
  | .before context _ _ => (some context.start, context.matched)
  | .fetch context _ _ => (some context.start, context.matched)
  | .value context => (some context.start, context.matched)
  | .kind matched => (none, matched)
  | .after context _ _ => (some context.start, context.matched)

/-- A call shows nothing but a match. -/
def HookEvent.Shows (event : HookEvent τ) (m : MatchContext) : Prop :=
  (∀ start ∈ event.shown.1, start = m.start) ∧ event.shown.2 = m.matched

/-- The call of a predicate that comes last. -/
def lastTest? (calls : List (HookCall τ)) : Option (HookCall τ) :=
  (calls.filter (·.event.isTest)).getLast?

/-- Hooks are no predicates, so the last predicate stays the last. -/
theorem lastTest?_append_of_hooks {calls hooks : List (HookCall τ)}
    (h : ∀ call ∈ hooks, call.event.isTest = false) :
    lastTest? (calls ++ hooks) = lastTest? calls := by
  have hnone : hooks.filter (·.event.isTest) = [] :=
    List.filter_eq_nil_iff.mpr fun call hcall => by simp [h call hcall]
  rw [lastTest?, List.filter_append, hnone, List.append_nil, lastTest?]

/-- A predicate that is called now is the last. -/
theorem lastTest?_concat {calls : List (HookCall τ)} {call : HookCall τ}
    (h : call.event.isTest = true) : lastTest? (calls ++ [call]) = some call := by
  have hkept : [call].filter (·.event.isTest) = [call] := by simp [h]
  rw [lastTest?, List.filter_append, hkept, List.getLast?_concat]

/-- A call of a hook of the rule of a match that shows the match. -/
structure Pending.Owns (p : Pending) (input : Text) (call : HookCall τ) : Prop where
  state_eq : call.state = p.state
  rule_eq : call.rule = p.rule
  isTest_eq : call.event.isTest = false
  shows : call.event.Shows (p.context input)

/-- A call with the start and the text of the match is one of its own. -/
theorem Pending.owns_call {p : Pending} {input : Text} {event : HookEvent τ}
    (htest : event.isTest = false)
    (hshown : event.shown = (some p.start, input.slice p.start p.matchEnd)) :
    p.Owns input (p.call event) :=
  ⟨rfl, rfl, htest, by simp [HookEvent.Shows, Pending.call, Pending.context, hshown]⟩

section Owned

variable {p : Pending} {input : Text}

/-- A hook that is called at most once makes only calls of its own if this one is. -/
theorem HookCalled.owned {Ask : Type} {Reply : Ask → Type} {η : Type}
    {event : List ((q : Ask) × Reply q) → Except LexError Unit → HookEvent τ} {hook : Option η}
    {talk : List ((q : Ask) × Reply q)} {calls : List (HookCall τ)}
    {result : Except LexError Unit} (h : HookCalled p event hook talk calls result)
    (hown : p.Owns input (p.call (event talk result))) : ∀ call ∈ calls, p.Owns input call := by
  cases h with
  | absent => simp
  | called => simpa using hown

/-- The hook that gives a value is shown the match. -/
theorem Rule.owned_valueCalls (rule : Rule σ τ) (state : String) (stop : Nat) :
    ∀ call ∈ rule.valueCalls (τ := τ) p { p.context input with state, position := stop },
      p.Owns input call := by
  rw [valueCalls]
  split
  · exact List.forall_mem_singleton.mpr (Pending.owns_call rfl rfl)
  · simp

/-- The hook that gives a kind is shown its text. -/
theorem Rule.owned_kindCalls (rule : Rule σ τ) :
    ∀ call ∈ rule.kindCalls (τ := τ) p (p.context input).matched, p.Owns input call := by
  rw [kindCalls]
  split
  · exact List.forall_mem_singleton.mpr
      ⟨rfl, rfl, rfl, by simp [HookEvent.Shows, HookEvent.shown, Pending.call]⟩
  · simp

end Owned

/-! ### Calls that agree -/

/-- In calls behind a log, every hook of a rule is shown the match that was accepted last: the
predicate that was called last is that of the rule, it has accepted, and it was shown the start and
the text that the hook is shown. -/
def Agreeing (state index : Nat) (log calls : List (HookCall τ)) : Prop :=
  ∀ earlier call later, calls = earlier ++ call :: later →
    call.state = state → call.rule = index → call.event.isTest = false →
    ∃ context, lastTest? (log ++ earlier) = some ⟨state, index, .test context true⟩ ∧
      call.event.Shows context.toMatchContext

/-- A match is **backed** by a log: if it is a match of the rule, the predicate that was called last
is that of the rule, it has accepted, and it was shown the match. -/
def Backed (state index : Nat) (input : Text) (log : List (HookCall τ)) (p : Pending) : Prop :=
  p.state = state → p.rule = index →
    ∃ context, lastTest? log = some ⟨state, index, .test context true⟩ ∧
      context.toMatchContext = p.context input

/-- If a match is pending, it is backed by a log. -/
def PendingBacked (state index : Nat) (input : Text) (log : List (HookCall τ))
    (pending : Option Pending) : Prop :=
  ∀ p ∈ pending, Backed state index input log p

section Agreeing

variable {state index : Nat} {input : Text} {log calls calls' : List (HookCall τ)} {p : Pending}

/-- Where nothing is pending nothing has to be backed. -/
@[simp] theorem pendingBacked_none : PendingBacked state index input log none := by
  simp [PendingBacked]

/-- A match that is backed may be pending. -/
theorem Backed.pendingBacked (h : Backed state index input log p) :
    PendingBacked state index input log (some p) := by
  simpa [PendingBacked] using h

/-- Behind every log the empty list of calls agrees. -/
theorem agreeing_nil : Agreeing state index log [] := by
  intro earlier call later hsplit
  exact absurd hsplit (by simp)

/-- Calls that agree behind a log, and calls that agree behind both, agree together. -/
theorem Agreeing.append (h : Agreeing state index log calls)
    (h' : Agreeing state index (log ++ calls) calls') :
    Agreeing state index log (calls ++ calls') := by
  intro earlier call later hsplit hstate hindex hhook
  rcases List.append_eq_append_iff.mp hsplit with ⟨between, rfl, hbehind⟩ | ⟨between, rfl, hbehind⟩
  · rw [← List.append_assoc]
    exact h' between call later hbehind hstate hindex hhook
  · cases between with
    | nil =>
        rw [List.append_nil] at h'
        have hnext := h' [] call later hbehind.symm hstate hindex hhook
        rwa [List.append_nil] at hnext
    | cons first between =>
        obtain ⟨rfl, rfl⟩ := List.cons.inj hbehind
        exact h earlier call between rfl hstate hindex hhook

/-- Nothing is asked of calls of predicates. -/
theorem agreeing_of_tests (h : ∀ call ∈ calls, call.event.isTest = true) :
    Agreeing state index log calls := by
  rintro earlier call later rfl - - hhook
  exact absurd ((h call (by simp)).symm.trans hhook) (by simp)

/-- The hooks of a match that is backed agree, and it stays backed behind them. -/
theorem Backed.owned (h : Backed state index input log p)
    (hown : ∀ call ∈ calls, p.Owns input call) :
    Agreeing state index log calls ∧ Backed state index input (log ++ calls) p := by
  have hlast {earlier : List (HookCall τ)} (hsub : ∀ call ∈ earlier, p.Owns input call) :
      lastTest? (log ++ earlier) = lastTest? log :=
    lastTest?_append_of_hooks fun call hcall => (hsub call hcall).isTest_eq
  constructor
  · rintro earlier call later rfl hstate hindex -
    obtain ⟨hearlier, hcall⟩ := List.forall_mem_append.mp hown
    obtain ⟨hcall, -⟩ := List.forall_mem_cons.mp hcall
    obtain ⟨context, hcontext, hsame⟩ :=
      h (hcall.state_eq.symm.trans hstate) (hcall.rule_eq.symm.trans hindex)
    exact ⟨context, (hlast hearlier).trans hcontext, hsame ▸ hcall.shows⟩
  · rw [Backed, hlast hown]
    exact h

end Agreeing

namespace Lexer

variable {lexer : Lexer σ τ} {state index : Nat} {stream stream' : TokenStream τ}
  {ambient ambient' : Ambient σ} {log calls : List (HookCall τ)}

/-- The rule of a state with a number has a predicate. -/
def HasTest (lexer : Lexer σ τ) (state index : Nat) : Prop :=
  ∃ rule, (lexer.rulesOf state)[index]? = some rule ∧ rule.test.isSome = true

instance (lexer : Lexer σ τ) (state index : Nat) : Decidable (lexer.HasTest state index) :=
  decidable_of_iff (((lexer.rulesOf state)[index]?.any fun rule => rule.test.isSome) = true)
    (Option.any_eq_true _ _)

/-- A match that has been accepted is backed by the calls of its resolution. -/
theorem backed_of_resolved (htest : lexer.HasTest state index) {tests : List (HookCall τ)}
    {found : Found} {rule : Rule σ τ}
    (hresolved :
      (lexer.query stream).Resolved ambient tests (.ok (some (found, rule)), ambient'))
    (hbegins : ∀ call ∈ tests, TestBegins state index stream.cursor call)
    (log : List (HookCall τ)) :
    Backed state index stream.input (log ++ tests) (stream.due found) := by
  rintro rfl rfl
  obtain ⟨hrule, rejected, rfl⟩ := hresolved.calls_of_accepted rfl
  obtain ⟨rule', hrule', htest⟩ := htest
  obtain rfl := Option.some.inj (hrule'.symm.trans hrule)
  rw [Query.testCalls, if_pos htest] at hbegins ⊢
  have hstart := hbegins _ (List.mem_append_right _ (List.mem_singleton.mpr rfl)) _ _ rfl
  refine ⟨(lexer.query stream).testContext found, ?_, ?_⟩
  · rw [← List.append_assoc]
    exact lastTest?_concat rfl
  · have hstart : found.start = stream.cursor := hstart
    simp [Query.testContext, Pending.context, TokenStream.due, query, hstart]

/-- A resolution calls nothing but predicates. -/
theorem isTest_of_resolved {q : Query σ τ}
    {out : Except ConfigError (Option (Found × Rule σ τ)) × Ambient σ}
    (h : q.Resolved ambient calls out) : ∀ call ∈ calls, call.event.isTest = true := by
  intro call hcall
  obtain ⟨found, accepted, hevent⟩ := h.event_eq hcall
  rw [hevent]
  rfl

/-- The calls of a match up to the end of its `before` hook: those of the resolution, and one that
the match owns. -/
theorem BeforeCalls.parts {found : Found} {rule : Rule σ τ}
    {out : Except LexError Bool × StateStack × Ambient σ}
    (h : BeforeCalls lexer stream ambient found rule calls out) :
    ∃ tests own ambient₁, calls = tests ++ own ∧
      (lexer.query stream).Resolved ambient tests (.ok (some (found, rule)), ambient₁) ∧
      ∀ call ∈ own, (stream.due found).Owns stream.input call := by
  obtain ⟨tests, before, _, _, ambient₁, hresolved, hbefore, rfl, -⟩ := h.cases
  exact ⟨tests, before, ambient₁, rfl, hresolved, hbefore.owned (Pending.owns_call rfl rfl)⟩

/-- The calls of an attempt: those of the resolution, and if a match is accepted, those that the
match owns. -/
theorem AttemptCalls.parts {out : Attempt τ × TokenStream τ × Ambient σ}
    (h : AttemptCalls lexer stream ambient calls out) :
    (∃ ended, (lexer.query stream).Resolved ambient calls ended ∧
        out.2.1.pending = stream.pending) ∨
      ∃ tests own found rule ambient₁, calls = tests ++ own ∧
        (lexer.query stream).Resolved ambient tests (.ok (some (found, rule)), ambient₁) ∧
        (∀ call ∈ own, (stream.due found).Owns stream.input call) ∧
        (out.2.1.pending = stream.pending ∨ out.2.1.pending = some (stream.due found)) := by
  cases h with
  | unbuilt hresolved => exact .inl ⟨_, hresolved, rfl⟩
  | unmatched hresolved => exact .inl ⟨_, hresolved, rfl⟩
  | beforeFailed hbefore =>
      obtain ⟨tests, own, _, rfl, hresolved, hown⟩ := hbefore.parts
      exact .inr ⟨tests, own, _, _, _, rfl, hresolved, hown, .inl rfl⟩
  | aborted hbefore =>
      obtain ⟨tests, own, _, rfl, hresolved, hown⟩ := hbefore.parts
      exact .inr ⟨tests, own, _, _, _, rfl, hresolved, hown, .inl rfl⟩
  | fetchFailed hbefore _ hfetch =>
      obtain ⟨tests, own, _, rfl, hresolved, hown⟩ := hbefore.parts
      exact .inr ⟨tests, _, _, _, _, List.append_assoc _ _ _, hresolved,
        List.forall_mem_append.mpr ⟨hown, hfetch.owned (Pending.owns_call rfl rfl)⟩, .inl rfl⟩
  | token hbefore _ hfetch =>
      obtain ⟨tests, own, _, rfl, hresolved, hown⟩ := hbefore.parts
      refine .inr ⟨tests, _, _, _, _, List.append_assoc _ _ _, hresolved, ?_, .inr rfl⟩
      simp only [List.forall_mem_append]
      exact ⟨hown, ⟨hfetch.owned (Pending.owns_call rfl rfl), Rule.owned_valueCalls _ _ _⟩,
        Rule.owned_kindCalls _⟩

/-- **The calls of one attempt agree**, and if a token is made, its match is backed by them. -/
theorem AttemptCalls.agreeing {out : Attempt τ × TokenStream τ × Ambient σ}
    (h : AttemptCalls lexer stream ambient calls out)
    (htest : lexer.HasTest state index) (hnone : stream.pending = none)
    (hbegins : ∀ call ∈ calls, TestBegins state index stream.cursor call)
    (log : List (HookCall τ)) :
    Agreeing state index log calls ∧
      PendingBacked state index stream.input (log ++ calls) out.2.1.pending := by
  rcases h.parts with ⟨ended, hresolved, hpending⟩ |
    ⟨tests, own, found, rule, ambient₁, rfl, hresolved, hown, hpending⟩
  · rw [hpending, hnone]
    exact ⟨agreeing_of_tests (isTest_of_resolved hresolved), pendingBacked_none⟩
  · have hbacked := backed_of_resolved htest hresolved (List.forall_mem_append.mp hbegins).1 log
    obtain ⟨hagrees, hbehind⟩ := hbacked.owned hown
    rw [List.append_assoc] at hbehind
    refine ⟨(agreeing_of_tests (isTest_of_resolved hresolved)).append hagrees, ?_⟩
    rcases hpending with hsame | hdue
    · rw [hsame, hnone]
      exact pendingBacked_none
    · rw [hdue]
      exact hbehind.pendingBacked

/-- **The calls of one search agree**, by induction on its attempts. -/
theorem ScanCalls.agreeing {attempts : Nat} {out : Pull τ × TokenStream τ × Ambient σ}
    (h : ScanCalls lexer attempts stream ambient calls out)
    (htest : lexer.HasTest state index) (hnone : stream.pending = none)
    (hbegins : ∀ call ∈ calls, TestBegins state index stream.cursor call)
    (log : List (HookCall τ)) :
    Agreeing state index log calls ∧
      PendingBacked state index stream.input (log ++ calls) out.2.1.pending := by
  induction h generalizing log with
  | stalled => exact ⟨agreeing_nil, hnone ▸ pendingBacked_none⟩
  | ended => exact ⟨agreeing_nil, hnone ▸ pendingBacked_none⟩
  | token _ hattempt => exact hattempt.agreeing htest hnone hbegins log
  | failed _ hattempt => exact hattempt.agreeing htest hnone hbegins log
  | @again _ _ _ _ _ calls later _ _ hattempt _ ih =>
      obtain ⟨hbegins, hbeginsLater⟩ := List.forall_mem_append.mp hbegins
      obtain ⟨hagrees, -⟩ := hattempt.agreeing htest hnone hbegins log
      -- An aborted attempt leaves the next one at the same place.
      obtain ⟨stack, rfl⟩ := hattempt.eq_of_aborted
      obtain ⟨hagreesLater, hbacked⟩ := ih hnone hbeginsLater (log ++ calls)
      rw [List.append_assoc] at hbacked
      exact ⟨hagrees.append hagreesLater, hbacked⟩

/-- The call of the `after` hook agrees where the match that is pending is backed. -/
theorem AfterCalls.agreeing {out : Except LexError Unit × TokenStream τ × Ambient σ}
    (h : AfterCalls lexer stream ambient calls out)
    (hbacked : PendingBacked state index stream.input log stream.pending) :
    Agreeing state index log calls := by
  cases h with
  | settled => exact agreeing_nil
  | due hpending _ _ _ hcalled _ =>
      exact ((hbacked _ hpending).owned (hcalled.owned (Pending.owns_call rfl rfl))).1

/-- **The calls of one pull agree** where the match that is pending is backed, and the match that
the pull leaves pending is backed again. -/
theorem PullCalls.agreeing {attempts : Nat} {out : Pull τ × TokenStream τ × Ambient σ}
    (h : PullCalls lexer attempts stream ambient calls out) (htest : lexer.HasTest state index)
    (hbegins : ∀ call ∈ calls, TestBegins state index stream.cursor call)
    (hbacked : PendingBacked state index stream.input log stream.pending) :
    Agreeing state index log calls ∧
      PendingBacked state index stream.input (log ++ calls) out.2.1.pending := by
  cases h with
  | finished => exact ⟨agreeing_nil, by rwa [List.append_nil]⟩
  | refused => exact ⟨agreeing_nil, by rwa [List.append_nil]⟩
  | afterFailed _ _ hafter =>
      obtain ⟨stack, hstream⟩ := hafter.eq_settled
      rw [close_left, hstream]
      exact ⟨hafter.agreeing hbacked, pendingBacked_none⟩
  | @searched after _ stream₁ _ _ _ _ hafter hscan =>
      obtain ⟨-, hbegins⟩ := List.forall_mem_append.mp hbegins
      have hagreesAfter := hafter.agreeing hbacked
      obtain ⟨stack, hstream⟩ := hafter.eq_settled
      obtain rfl : stream₁ = _ := hstream
      obtain ⟨hagrees, hbacked'⟩ := hscan.agreeing htest rfl hbegins (log ++ after)
      rw [List.append_assoc] at hbacked'
      rw [close_left]
      exact ⟨hagreesAfter.append hagrees, hbacked'⟩

/-! ### Runs -/

/-- What is done between two pulls keeps the cache of a compiler coherent. -/
def Turn.KeepsCoherent (compiler : Compiler) (turn : Turn σ) : Prop :=
  ∀ host cache, compiler.Coherent cache → compiler.Coherent (turn.meanwhile host cache).2

/-- **The predicate and the hooks of a rule share their matches** in the pulls of a run. -/
structure MatchShared (lexer : Lexer σ τ) (input : Text) (state index : Nat)
    (pulls : List (Observed τ)) : Prop where
  /-- In front of every call of a hook of the rule, the predicate that was called last is that of
  the rule; it has accepted, and it was shown the start and the text that the hook is shown. -/
  hooks : Agreeing state index [] (pulls.flatMap (·.calls))
  /-- A token starts where the predicate was shown a match in the pull that emits the token. -/
  tokens : ∀ pull ∈ pulls, ∀ token, pull.answer = .token token →
    ∃ base : BaseToken, token = lexer.factory base input ∧
      ∀ context accepted, ⟨state, index, .test context accepted⟩ ∈ pull.calls →
        context.start = base.start

/-- The pulls of a run agree, from a stream whose pending match is backed. -/
theorem Rested.history_agreeing (hrested : Rested lexer stream) (hkept : KeepsToken stream)
    (htest : lexer.HasTest state index) (hwrapped : lexer.Wrapped state index)
    (hbacked : PendingBacked state index stream.input log stream.pending)
    {turns : List (Turn σ)} (hturns : ∀ turn ∈ turns, turn.KeepsCoherent lexer.compiler)
    {ambient : Ambient σ} (hcoherent : lexer.compiler.Coherent ambient.cache) :
    Agreeing state index log ((lexer.history turns stream ambient).flatMap (·.calls)) := by
  induction turns generalizing stream log ambient with
  | nil => exact agreeing_nil
  | cons turn turns ih =>
      obtain ⟨hturn, hturns⟩ := List.forall_mem_cons.mp hturns
      have hbegin : lexer.compiler.Coherent (turn.begin ambient).cache := hturn _ _ hcoherent
      have hcalls := hrested.pull_calls hkept turn.attempts (turn.begin ambient)
      have hbegins := hrested.tests_begin hwrapped hbegin turn.attempts
      obtain ⟨hinput, hrested', -⟩ := hrested.pulled turn.attempts (turn.begin ambient)
      obtain ⟨hagrees, hbacked'⟩ := hcalls.agreeing htest hbegins hbacked
      rw [← hinput] at hbacked'
      rw [history, List.flatMap_cons]
      exact hagrees.append
        (ih hrested' (hcalls.keepsToken hkept) hbacked' hturns (pull_coherent _ _ hbegin))

/-- A pull that emits a token emits it where the pull stands, and there the predicate was shown all
its matches. -/
theorem Rested.pull_token (hrested : Rested lexer stream) (hwrapped : lexer.Wrapped state index)
    {ambient : Ambient σ} (hcoherent : lexer.compiler.Coherent ambient.cache) {attempts : Nat}
    {token : τ} (htoken : (lexer.pull attempts stream ambient).1 = .token token) :
    ∃ base : BaseToken, token = lexer.factory base stream.input ∧
      ∀ context accepted,
        ⟨state, index, .test context accepted⟩ ∈ lexer.calls attempts stream ambient →
          context.start = base.start := by
  have hbegins := hrested.tests_begin hwrapped hcoherent attempts
  obtain ⟨hopen, -⟩ := pull_eq_token.mp (Prod.ext htoken rfl)
  obtain ⟨-, -, -, hpulled⟩ := hrested.pulled attempts ambient
  obtain ⟨hpulled, -⟩ := hpulled hopen
  rw [htoken] at hpulled
  cases hpulled with
  | @token base _ _ _ hstart _ _ =>
      refine ⟨base, rfl, fun context accepted hcall => ?_⟩
      exact (hbegins _ hcall context accepted rfl).trans hstart.symm

/-- Every pull of a run is one of a rested stream over the same input, with a cache that is
coherent. -/
theorem Rested.of_mem_history (hrested : Rested lexer stream) {turns : List (Turn σ)}
    (hturns : ∀ turn ∈ turns, turn.KeepsCoherent lexer.compiler) {ambient : Ambient σ}
    (hcoherent : lexer.compiler.Coherent ambient.cache) {pull : Observed τ}
    (hpull : pull ∈ lexer.history turns stream ambient) :
    ∃ s attempts a, Rested lexer s ∧ s.input = stream.input ∧
      lexer.compiler.Coherent a.cache ∧
      pull = ⟨(lexer.pull attempts s a).1, lexer.calls attempts s a,
        (lexer.pull attempts s a).2.1⟩ := by
  induction turns generalizing stream ambient with
  | nil => exact absurd hpull (by simp [history])
  | cons turn turns ih =>
      obtain ⟨hturn, hturns⟩ := List.forall_mem_cons.mp hturns
      have hbegin : lexer.compiler.Coherent (turn.begin ambient).cache := hturn _ _ hcoherent
      obtain ⟨hinput, hrested', -⟩ := hrested.pulled turn.attempts (turn.begin ambient)
      rw [history] at hpull
      rcases List.mem_cons.mp hpull with rfl | hlater
      · exact ⟨stream, turn.attempts, turn.begin ambient, hrested, rfl, hbegin, rfl⟩
      · obtain ⟨s, attempts, a, hs, hsame, ha, heq⟩ :=
          ih hrested' hturns (pull_coherent _ _ hbegin) hlater
        exact ⟨s, attempts, a, hs, hsame.trans hinput, ha, heq⟩

/-- **Predicates and hooks are shown the same match.** Let a lexer have been made, and let a rule of
it have a predicate and be wrapped. Then over all runs, at any input and from any offset, and
whatever hooks, consumers and other runs do: whenever a hook of the rule is called, the predicate
of the rule has accepted the match of the hook, and it was shown the same start and the same text
as `before`, `fetch`, `value` and `after`, and the same text as what finds the kind; and the token
starts where the predicate was shown the match. -/
theorem predicates_and_hooks_share_match {table : StateTable (Rule σ τ)} {config : LexerConfig}
    {factory : BaseToken → Text → τ} {cache : AlternationCache} {journal : Journal}
    (hmake : Lexer.make table config factory = (.ok (lexer, cache), journal))
    (htest : lexer.HasTest state index) (hwrapped : lexer.Wrapped state index) (input : Text)
    (start : Nat) {turns : List (Turn σ)}
    (hturns : ∀ turn ∈ turns, turn.KeepsCoherent lexer.compiler) {ambient : Ambient σ}
    (hcoherent : lexer.compiler.Coherent ambient.cache) :
    MatchShared lexer input state index
      (lexer.history turns (lexer.tokenizeFrom input start).1 ambient) := by
  obtain ⟨hnames, -⟩ := make_ok hmake
  have hrested := tokenizeFrom_rested hnames input start
  have hkept := keepsToken_start lexer input start
  refine ⟨hrested.history_agreeing hkept htest hwrapped pendingBacked_none hturns hcoherent, ?_⟩
  intro pull hpull token htoken
  obtain ⟨s, attempts, a, hs, hinput, ha, rfl⟩ :=
    hrested.of_mem_history hturns hcoherent hpull
  obtain ⟨base, hnames, hstarts⟩ := hs.pull_token hwrapped ha htoken
  exact ⟨base, hnames.trans (congrArg (lexer.factory base) hinput), hstarts⟩

/-- A pattern with a group, and behind it a rule that has a predicate and every hook. -/
def keywordTable : StateTable (Rule Unit Token) :=
  StateTable.flat
    [{ pattern := .source "(x)y".toList },
      { pattern := .source "d(e)".toList
        kind := .derived fun matched host => (matched, host)
        test := some fun context host => (context.matched.length == 2, host)
        value := some fun context host => (.text context.text, host)
        before := some fun _ host => .done (.ok (), host)
        fetch := some fun _ host => .ask .next fun _ => .done (.ok (), host)
        after := some fun _ host => .done (.ok (), host) }]

/-- What the calls of two pulls over `def` show: all of them begin at 0 and show `de`, though the
token goes on to the `f`. -/
theorem predicates_and_hooks_share_match_keyword :
    ∃ (lexer : Lexer Unit Token) (turns : List (Turn Unit)) (ambient : Ambient Unit),
      ((lexer.history turns (lexer.tokenizeFrom ['d', 'e', 'f'] 0).1 ambient).flatMap
          (·.calls)).map (fun call => (callLabel call, call.event.shown)) =
        [((0, 1, "test"), some 0, ['d', 'e']), ((0, 1, "before"), some 0, ['d', 'e']),
          ((0, 1, "fetch"), some 0, ['d', 'e']), ((0, 1, "value"), some 0, ['d', 'e']),
          ((0, 1, "kind"), none, ['d', 'e']), ((0, 1, "after"), some 0, ['d', 'e'])] ∧
        MatchShared lexer ['d', 'e', 'f'] 0 1
          (lexer.history turns (lexer.tokenizeFrom ['d', 'e', 'f'] 0).1 ambient) := by
  have hrun : (match Lexer.make keywordTable {} Token.make with
      | (.ok (lexer, cache), _) => decide
          (((lexer.history (List.replicate 2 ⟨Prod.mk, 1⟩)
              (lexer.tokenizeFrom ['d', 'e', 'f'] 0).1 ⟨cache, (), #[]⟩).flatMap (·.calls)).map
              (fun call => (callLabel call, call.event.shown)) =
            [((0, 1, "test"), some 0, ['d', 'e']), ((0, 1, "before"), some 0, ['d', 'e']),
              ((0, 1, "fetch"), some 0, ['d', 'e']), ((0, 1, "value"), some 0, ['d', 'e']),
              ((0, 1, "kind"), none, ['d', 'e']), ((0, 1, "after"), some 0, ['d', 'e'])] ∧
            lexer.HasTest 0 1 ∧ lexer.SelfContained ∧
            ∀ part ∈ (lexer.compiler.partsOf 0).take 1, Alternation.Counted part)
      | (.error _, _) => false) = true := by
    decide +kernel
  split at hrun
  · next lexer cache journal hmake =>
      obtain ⟨hcalls, htest, hcontained, hcounted⟩ := of_decide_eq_true hrun
      obtain ⟨-, -, -, -, hcoherent⟩ := make_ok hmake
      have hturns : ∀ turn ∈ List.replicate 2 (⟨Prod.mk, 1⟩ : Turn Unit),
          turn.KeepsCoherent lexer.compiler := by
        intro turn hturn
        obtain rfl := List.eq_of_mem_replicate hturn
        exact fun _ _ h => h
      exact ⟨lexer, _, ⟨cache, (), #[]⟩, hcalls,
        predicates_and_hooks_share_match hmake htest (hcontained.wrapped hcounted)
          ['d', 'e', 'f'] 0 hturns hcoherent⟩
  · exact absurd hrun (by simp)

/-- A pattern that ends in a comment, one that ends the comment with its line and has a group, and a
rule with a predicate. -/
def swallowedTable : StateTable (Rule Unit Token) :=
  StateTable.flat
    [{ pattern := .source "(?x)a#".toList },
      { pattern := .source "b\n|(c)q".toList },
      { pattern := .source "d(e)".toList
        test := some fun _ host => (true, host)
        before := some fun _ host => .done (.ok (), host) }]

/-- Where a wrapper is swallowed by a comment, the number of the wrapper behind it is that of a
group inside its pattern. So the predicate is shown `e` at 1, the `before` hook of the same match
`de` at 0, and the token has the range from 0 to 2. -/
theorem swallowed_wrapper_splits_match :
    ∃ (lexer : Lexer Unit Token) (cache : AlternationCache) (journal : Journal)
      (pulls : List (Observed Token)),
      Lexer.make swallowedTable {} Token.make = (.ok (lexer, cache), journal) ∧
        lexer.HasTest 0 2 ∧
        pulls = lexer.history [⟨Prod.mk, 1⟩] (lexer.tokenizeFrom ['d', 'e'] 0).1
          ⟨cache, (), journal⟩ ∧
        (pulls.flatMap (·.calls)).map
            (fun call => (call.state, call.rule, call.event.isTest, call.event.shown)) =
          [(0, 2, true, some 1, ['e']), (0, 2, false, some 0, ['d', 'e'])] ∧
        pulls.map (fun pull => pull.answer.token?.map fun token => (token.start, token.stop)) =
          [some (0, 2)] ∧
        ¬ MatchShared lexer ['d', 'e'] 0 2 pulls := by
  have hrun : (match Lexer.make swallowedTable {} Token.make with
      | (.ok (lexer, cache), journal) =>
        let pulls := lexer.history [⟨Prod.mk, 1⟩] (lexer.tokenizeFrom ['d', 'e'] 0).1
          ⟨cache, (), journal⟩
        decide (lexer.HasTest 0 2 ∧
          (pulls.flatMap (·.calls)).map
              (fun call => (call.state, call.rule, call.event.isTest, call.event.shown)) =
            [(0, 2, true, some 1, ['e']), (0, 2, false, some 0, ['d', 'e'])] ∧
          pulls.map (fun pull => pull.answer.token?.map fun token => (token.start, token.stop)) =
            [some (0, 2)])
      | (.error _, _) => false) = true := by
    decide +kernel
  split at hrun
  · next lexer cache journal hmake =>
      obtain ⟨htest, hcalls, htokens⟩ := of_decide_eq_true hrun
      refine ⟨lexer, cache, journal, _, hmake, htest, rfl, hcalls, htokens, fun hshared => ?_⟩
      obtain ⟨test, rest, hsplit, htestCall, hrest⟩ := List.map_eq_cons_iff.mp hcalls
      obtain ⟨hook, rest, rfl, hhookCall, hnil⟩ := List.map_eq_cons_iff.mp hrest
      obtain rfl := List.map_eq_nil_iff.mp hnil
      simp only [Prod.mk.injEq] at htestCall hhookCall
      obtain ⟨-, -, -, htestShown⟩ := htestCall
      obtain ⟨hstate, hrule, hhook, hhookShown⟩ := hhookCall
      obtain ⟨context, hlast, hstart, -⟩ := hshared.hooks [test] hook [] hsplit hstate hrule hhook
      obtain ⟨hmem, -⟩ := List.mem_filter.mp (List.mem_of_getLast? hlast)
      obtain rfl := List.mem_singleton.mp hmem
      have hone : context.start = 1 := Option.some.inj (congrArg Prod.fst htestShown)
      have hzero : 0 = context.start := hstart 0 (congrArg Prod.fst hhookShown)
      omega
  · exact absurd hrun (by simp)

end Lexer

end ModalLex
