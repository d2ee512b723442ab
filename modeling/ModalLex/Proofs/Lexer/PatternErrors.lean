import ModalLex.Proofs.Alternation.Suffixes
import ModalLex.Proofs.Lexer.Extension
import ModalLex.Proofs.Lexer.Failure

/-!
# Pattern Errors of the Engine

An eager lexer has built the full alternation of every state when it is made. Behind a rejected
rule it asks for an alternation of fewer rules, which is then spliced anew. If that one cannot be
built the pull fails, although no hook has failed: all calls of the pull have succeeded, and the
error is one of the engine.

Where the patterns of every state are self-contained, only the size of such an alternation can be
wrong (`Alternation.build_drop_error_iff`). Where a pattern ends in a comment this fails: what a
full alternation takes for a comment may be patterns that cannot stand together.

## Main results

* `Reaches.engine_error`: a pull that fails with an error of the engine has asked for an
  alternation that cannot be built.
* `eager_errors_surface`: **eager lexers fail for want of a pattern only by its size.**
* `eager_errors_hide`: **a lexer whose error does not surface.**
-/

namespace ModalLex

variable {σ τ : Type}

namespace Compiler

variable {compiler : Compiler}

/-- Where all full alternations can be built, the pattern of all rules of a state can. -/
theorem exists_build (h : compiler.unbuilt? = none) {state : Nat}
    (hne : compiler.partsOf state ≠ []) :
    ∃ a, Alternation.build (compiler.partsOf state) 0 = .ok a := by
  obtain ⟨a?, hfull⟩ := unbuilt?_eq_none_iff.mp h state (lt_of_partsOf_ne_nil hne)
  cases a? with
  | none => exact absurd (alternationAnew_ok_none hfull) hne
  | some a => exact ⟨a, (alternationAnew_ok hfull).2⟩

end Compiler

/-! ### Resolving -/

/-- A resolution that fails has asked for an alternation that cannot be built. -/
theorem Query.Runs.error {q : Query σ τ} {attempts first : Nat} {ambient : Ambient σ}
    {out : Except ConfigError (Option (Found × Rule σ τ)) × Ambient σ} {e : ConfigError}
    (hruns : q.Runs attempts first ambient out) (h : q.compiler.Coherent ambient.cache)
    (herror : out.1 = .error e) :
    ∃ first', q.compiler.alternationAnew q.state first' = .error e := by
  induction hruns with
  | spent | exhausted | unmatched | unowned | accepted => cases herror
  | unbuilt hq =>
      obtain rfl := Except.error.inj herror
      exact ⟨_, (Compiler.alternation_eq h _ _).symm.trans (congrArg Prod.fst hq)⟩
  | rejected hq _ _ _ _ ih => exact ih (alternation_coherent h hq :) herror

/-! ### Hooks that fail -/

/-- Of calls that have succeeded, those behind the first have succeeded too. -/
theorem Succeeded.later {record earlier first later calls : List (HookCall τ)} (h : Succeeded calls)
    (hcalls : record = earlier ++ calls) (hlater : record = earlier ++ first ++ later) :
    Succeeded later := by
  rw [List.append_assoc] at hlater
  rw [List.append_cancel_left (hcalls.symm.trans hlater), succeeded_append] at h
  exact h.2

namespace Lexer

variable {lexer : Lexer σ τ} {stream stream' : TokenStream τ} {calls : List (HookCall τ)}

/-- A hook that fails is seen among the calls. -/
theorem not_succeeded_of_error {Ask : Type} {Reply : Ask → Type} {η : Type} {p : Pending}
    {event : List ((q : Ask) × Reply q) → Except LexError Unit → HookEvent τ} {hook : Option η}
    {talk : List ((q : Ask) × Reply q)} {e : LexError}
    (h : HookCalled p event hook talk calls (.error e))
    (hevent : (event talk (.error e)).error? = some e) : ¬ Succeeded calls := by
  intro hsucceeded
  rw [h.eq_of_error] at hsucceeded
  exact absurd (hsucceeded _ (List.mem_singleton_self _)) (by simp [Pending.call, hevent])

/-- A `before` hook that fails is seen among the calls. -/
theorem BeforeCalls.not_succeeded {ambient ambient' : Ambient σ} {found : Found} {rule : Rule σ τ}
    {stack : StateStack} {e : LexError}
    (h : BeforeCalls lexer stream ambient found rule calls (.error e, stack, ambient')) :
    ¬ Succeeded calls := by
  obtain ⟨tests, before, talk, result, _, -, hcalled, rfl, houtcome⟩ := h.cases
  cases result with
  | ok => exact absurd houtcome (by simp [Except.map])
  | error e' =>
      exact fun hsucceeded =>
        not_succeeded_of_error hcalled rfl (succeeded_append.mp hsucceeded).2

/-- An `after` hook that fails is seen among the calls. -/
theorem AfterCalls.not_succeeded {ambient ambient' : Ambient σ} {e : LexError}
    (h : AfterCalls lexer stream ambient calls (.error e, stream', ambient')) :
    ¬ Succeeded calls := by
  cases h with
  | due _ _ _ _ hcalled _ => exact not_succeeded_of_error hcalled rfl

/-! ### Errors of the engine -/

/-- A lexer that cannot build an alternation of some state. -/
def FailsToBuild (lexer : Lexer σ τ) (e : ConfigError) : Prop :=
  ∃ state first, lexer.compiler.alternationAnew state first = .error e

variable {ambient : Ambient (σ × List (HookCall τ))} {e : ConfigError}

/-- An attempt that fails with an error of the engine has asked for an alternation that cannot be
built. -/
theorem AttemptRuns.engine_error
    {out : Attempt τ × TokenStream τ × Ambient (σ × List (HookCall τ))}
    (hruns : AttemptRuns lexer.recorded stream ambient out) (h : Ready lexer stream)
    (hcoherent : lexer.compiler.Coherent ambient.cache) (hfailed : out.1 = .failed (.config e))
    (hrecord : out.2.2.host.2 = ambient.host.2 ++ calls) (hsucceeded : Succeeded calls) :
    lexer.FailsToBuild e := by
  -- Where a hook fails, its call is the last one of the attempt.
  cases hruns with
  | unbuilt hq =>
      obtain rfl := LexError.config.inj (Attempt.failed.inj hfailed)
      obtain ⟨first, hfirst⟩ := (Query.runs_iff.mpr hq).error hcoherent rfl
      exact ⟨_, first, hfirst⟩
  | unmatched => cases hfailed
  | beforeFailed hq hbefore =>
      obtain ⟨_, before, -, hdone, hbeforeRecord, -⟩ := h.before_calls hq hbefore
      obtain rfl := List.append_cancel_left (hrecord.symm.trans hbeforeRecord)
      exact absurd hsucceeded hdone.not_succeeded
  | aborted => cases hfailed
  | fetchFailed hq hbefore hfetch =>
      obtain ⟨rule, before, rfl, -, hbeforeRecord, -⟩ := h.before_calls hq hbefore
      obtain ⟨talk, fetch, -, hcalled, hfetchRecord⟩ := runFetch_called (stream.due _) hfetch
      rw [hbeforeRecord] at hfetchRecord
      exact absurd (hsucceeded.later hrecord hfetchRecord) (not_succeeded_of_error hcalled rfl)
  | token => cases hfailed

/-- A search that fails with an error of the engine has asked for an alternation that cannot be
built. -/
theorem ScanRuns.engine_error {attempts : Nat}
    {out : Pull τ × TokenStream τ × Ambient (σ × List (HookCall τ))}
    (hruns : ScanRuns lexer.recorded attempts stream ambient out) (h : Ready lexer stream)
    (hcoherent : lexer.compiler.Coherent ambient.cache) (hfailed : out.1 = .failed (.config e))
    (hrecord : out.2.2.host.2 = ambient.host.2 ++ calls) (hsucceeded : Succeeded calls) :
    lexer.FailsToBuild e := by
  induction hruns generalizing calls with
  | stalled | ended | token => cases hfailed
  | failed _ hattempt =>
      obtain rfl := Pull.failed.inj hfailed
      exact hattempt.engine_error h hcoherent rfl hrecord hsucceeded
  | again _ hattempt hscan ih =>
      -- What the later attempts call stands behind the calls of the first.
      have hready := (h.aborted hattempt.unrecorded).1
      obtain ⟨first, -, hfirst⟩ := hattempt.calls h
      obtain ⟨later, -, hlater⟩ := hscan.calls hready
      exact ih hready (hattempt.coherent hcoherent) hfailed hlater
        (hsucceeded.later hrecord (hlater.trans (congrArg (· ++ later) hfirst)))

/-- A pull that fails with an error of the engine has asked for an alternation that cannot be
built. -/
theorem PullRuns.engine_error {attempts : Nat}
    {out : Pull τ × TokenStream τ × Ambient (σ × List (HookCall τ))}
    (hruns : PullRuns lexer.recorded attempts stream ambient out) (h : Rested lexer stream)
    (hkept : KeepsToken stream) (herror : stream.startError = none)
    (hcoherent : lexer.compiler.Coherent ambient.cache) (hfailed : out.1 = .failed (.config e))
    (hrecord : out.2.2.host.2 = ambient.host.2 ++ calls) (hsucceeded : Succeeded calls) :
    lexer.FailsToBuild e := by
  cases hruns with
  | closed => cases hfailed
  | misplaced _ herror' => exact absurd (herror.symm.trans herror') (by simp)
  | unfinished _ _ hfinish =>
      obtain ⟨after, hafter, hafterRecord⟩ := hfinish.calls h.toSound hkept
      obtain rfl := List.append_cancel_left (hrecord.symm.trans hafterRecord)
      exact absurd hsucceeded hafter.not_succeeded
  | searched hopen _ hfinish hscan =>
      obtain ⟨after, -, hafterRecord⟩ := hfinish.calls h.toSound hkept
      obtain ⟨-, -, -, -, hready⟩ := h.finishRuns hopen hfinish.unrecorded
      obtain ⟨later, -, hlater⟩ := hscan.calls (hready rfl)
      rw [close_answer] at hfailed
      rw [close_host] at hrecord
      exact hscan.engine_error (hready rfl) (hfinish.cache_eq ▸ hcoherent) hfailed hlater
        (hsucceeded.later hrecord (hlater.trans (congrArg (· ++ later) hafterRecord)))

/-- **A pull of a run that fails with an error of the engine**, none of its hooks having failed,
has asked for an alternation that cannot be built. -/
theorem Reaches.engine_error (hnames : lexer.names.Resolved) {input : Text}
    {start : Nat} {items : List (Pull τ)} (h : Reaches lexer input start items stream)
    {attempts : Nat} {ambient : Ambient σ} (hcoherent : lexer.compiler.Coherent ambient.cache)
    (hfailed : (lexer.pull attempts stream ambient).1 = .failed (.config e))
    (hsucceeded : Succeeded (lexer.calls attempts stream ambient)) : lexer.FailsToBuild e := by
  have hsame : lexer.pull attempts stream ambient = _ := lexer.recorded_pull stream
    ⟨ambient.cache, (ambient.host, []), ambient.journal⟩ attempts
  cases hstart : input.isBoundary start with
  | true =>
      rw [hsame] at hfailed
      exact (lexer.recorded.pull_runs attempts stream _).engine_error (h.rested hnames).2
        (h.keepsToken hnames) (h.startError_eq_none hnames hstart) (hcoherent :) hfailed
        (List.nil_append _).symm hsucceeded
  | false =>
      -- The only error of a run that is refused is one of its offset.
      obtain ⟨error, herror⟩ := startError?_eq_some hstart
      rcases (h.refused herror).2 with ⟨-, hopen, hrefused⟩ | ⟨hfinished, -⟩
      · rw [Lexer.pull, step, hopen, hrefused] at hfailed
        exact absurd hfailed (by simp)
      · rw [Lexer.pull, if_pos hfinished] at hfailed
        exact absurd hfailed (by simp)

/-! ### Eager lexers -/

/-- What can be wrong with the alternations of an eager lexer whose patterns are self-contained. -/
theorem alternationAnew_error_iff (hbuilt : lexer.compiler.unbuilt? = none)
    (hcontained : lexer.SelfContained) (state first : Nat) (e : ConfigError) :
    lexer.compiler.alternationAnew state first = .error e ↔
      e = .pattern .tooLarge ∧
        Alternation.Oversize ((lexer.compiler.partsOf state).drop first) := by
  rw [Compiler.alternationAnew_eq_error_iff]
  by_cases hfirst : first < (lexer.compiler.partsOf state).length
  · have hpos : 0 < (lexer.compiler.partsOf state).length := by omega
    obtain ⟨a, hbuild⟩ := Compiler.exists_build hbuilt (List.ne_nil_of_length_pos hpos)
    have hne : (lexer.compiler.partsOf state).drop first ≠ [] :=
      mt List.drop_eq_nil_iff.mp (Nat.not_le_of_lt hfirst)
    simp only [Alternation.build_drop_error_iff hbuild (hcontained.partsOf state) hfirst]
    constructor
    · rintro ⟨-, cause, ⟨rfl, hoversize⟩, rfl⟩
      exact ⟨rfl, hoversize⟩
    · rintro ⟨rfl, hoversize⟩
      exact ⟨hne, _, ⟨rfl, hoversize⟩, rfl⟩
  · rw [List.drop_eq_nil_of_le (by omega)]
    simp [Alternation.not_oversize_nil]

/-- **Errors of patterns surface when an eager lexer is made**, but for sizes. Let the patterns of
every state be such that each can be read alone, without options, and none but the last ends in
a comment. Then an alternation of the rules from some rule on fails to build exactly if its
program would be too large. So a pull in which no hook has failed, of any run over any input, fails
with an error of a pattern only if the error is this one and some alternation behind a first rule is
too large. -/
theorem eager_errors_surface {table : StateTable (Rule σ τ)} {config : LexerConfig}
    {factory : BaseToken → Text → τ} {cache : AlternationCache} {journal : Journal}
    (hmake : make table config factory = (.ok (lexer, cache), journal))
    (heager : config.eagerCompile = true) (hcontained : lexer.SelfContained) :
    (∀ state first e, lexer.compiler.alternationAnew state first = .error e ↔
      e = .pattern .tooLarge ∧
        Alternation.Oversize ((lexer.compiler.partsOf state).drop first)) ∧
    ∀ input start items stream, Reaches lexer input start items stream →
      ∀ attempts ambient, lexer.compiler.Coherent ambient.cache →
        ∀ e, (lexer.pull attempts stream ambient).1 = .failed (.config e) →
          Succeeded (lexer.calls attempts stream ambient) →
          e = .pattern .tooLarge ∧ ∃ state first, 0 < first ∧
            Alternation.Oversize ((lexer.compiler.partsOf state).drop first) := by
  obtain ⟨-, hunbuilt⟩ := make_ok_iff.mp ⟨cache, journal, hmake⟩
  have hbuilt := hunbuilt heager
  have hiff := alternationAnew_error_iff hbuilt hcontained
  refine ⟨hiff, fun input start items stream hreach attempts ambient hcoherent e hfailed
    hsucceeded => ?_⟩
  obtain ⟨state, first, herror⟩ :=
    hreach.engine_error (make_wellMade hmake).resolved hcoherent hfailed hsucceeded
  obtain ⟨rfl, hoversize⟩ := (hiff state first e).mp herror
  refine ⟨rfl, state, first, Nat.pos_of_ne_zero ?_, hoversize⟩
  rintro rfl
  obtain ⟨hne, cause, herror, -⟩ := Compiler.alternationAnew_eq_error_iff.mp herror
  obtain ⟨a, hbuild⟩ := Compiler.exists_build hbuilt hne
  exact absurd (hbuild.symm.trans herror) (by simp)

/-- Words of which one is reserved, with a comment that is ended by a line. -/
def wordTable : StateTable (Rule Unit Token) :=
  StateTable.flat
    [{ pattern := .source "(?P<reserved>if)".toList, test := some fun _ host => (false, host) },
      { pattern := .source "(?x) (?P<word> [a-z]+ ) # (\n".toList }]

/-- No pull over `if` can fail for want of a pattern, and the first makes a token of the second
rule. -/
theorem eager_errors_surface_words :
    ∃ (lexer : Lexer Unit Token) (cache : AlternationCache) (journal : Journal),
      make wordTable { eagerCompile := true } Token.make = (.ok (lexer, cache), journal) ∧
        lexer.SelfContained ∧
        ((lexer.pull 1 (lexer.tokenizeFrom ['i', 'f'] 0).1 ⟨cache, (), journal⟩).1.token?).map
          (·.stop) = some 2 ∧
        ∀ attempts ambient, lexer.compiler.Coherent ambient.cache → ∀ e,
          (lexer.pull attempts (lexer.tokenizeFrom ['i', 'f'] 0).1 ambient).1 =
            .failed (.config e) →
          ¬ Succeeded (lexer.calls attempts (lexer.tokenizeFrom ['i', 'f'] 0).1 ambient) := by
  have hrun : (match make wordTable { eagerCompile := true } Token.make with
      | (.ok (lexer, cache), journal) => decide
          (lexer.SelfContained ∧
          (∀ state < lexer.compiler.parts.length, ∀ first < (lexer.compiler.partsOf state).length,
            (lexer.compiler.alternationAnew state first).isOk = true) ∧
          ((lexer.pull 1 (lexer.tokenizeFrom ['i', 'f'] 0).1 ⟨cache, (), journal⟩).1.token?).map
            (·.stop) = some 2)
      | (.error _, _) => false) = true := by
    decide +kernel
  split at hrun
  · next lexer cache journal hmake =>
      obtain ⟨hcontained, hbuilt, htoken⟩ := of_decide_eq_true hrun
      refine ⟨lexer, cache, journal, hmake, hcontained, htoken, ?_⟩
      intro attempts ambient hcoherent e hfailed hsucceeded
      obtain ⟨hiff, hpulls⟩ := eager_errors_surface hmake rfl hcontained
      obtain ⟨-, state, first, -, hoversize⟩ :=
        hpulls _ _ _ _ .start attempts ambient hcoherent e hfailed hsucceeded
      obtain ⟨a?, hok⟩ := buildsAll_of_lt hbuilt state first
      have herror := (hiff state first _).mpr ⟨rfl, hoversize⟩
      exact absurd (hok.symm.trans herror) (by simp)
  · exact absurd hrun (by simp)

/-- A pattern that ends in a comment, and two behind it that write the same name. -/
def hiddenTable : StateTable (Rule Unit Token) :=
  StateTable.flat
    [{ pattern := .source "(?x)a#".toList, test := some fun _ host => (false, host) },
      { pattern := .source "(?P<n>b)\n".toList },
      { pattern := .source "(?P<n>c)".toList }]

/-- **A lexer whose error does not surface**: every pattern can be read alone, and so can the full
alternation, where the comment takes the first of the two names. When the first rule is rejected,
the other two cannot stand together. -/
theorem eager_errors_hide :
    ∃ (lexer : Lexer Unit Token) (cache : AlternationCache) (journal : Journal),
      make hiddenTable { eagerCompile := true } Token.make = (.ok (lexer, cache), journal) ∧
        (∀ parts ∈ lexer.compiler.parts, ∀ part ∈ parts, (Regex.expr? {} part.source).isSome) ∧
        (lexer.pull 1 (lexer.tokenizeFrom ['a'] 0).1 ⟨cache, (), journal⟩).1.error? =
          some (.config (.pattern (.unreadable "(?:((?P<n>b)\n)|((?P<n>c)))".toList))) ∧
        Succeeded (lexer.calls 1 (lexer.tokenizeFrom ['a'] 0).1 ⟨cache, (), journal⟩) := by
  have hrun : (match make hiddenTable { eagerCompile := true } Token.make with
      | (.ok (lexer, cache), journal) => decide
          ((∀ parts ∈ lexer.compiler.parts, ∀ part ∈ parts,
            (Regex.expr? {} part.source).isSome) ∧
          (lexer.pull 1 (lexer.tokenizeFrom ['a'] 0).1 ⟨cache, (), journal⟩).1.error? =
            some (.config (.pattern (.unreadable "(?:((?P<n>b)\n)|((?P<n>c)))".toList))) ∧
          ∀ call ∈ lexer.calls 1 (lexer.tokenizeFrom ['a'] 0).1 ⟨cache, (), journal⟩,
            call.event.error? = none)
      | (.error _, _) => false) = true := by
    decide +kernel
  split at hrun
  · next lexer cache journal hmake =>
      obtain ⟨hread, herror, hsucceeded⟩ := of_decide_eq_true hrun
      exact ⟨lexer, cache, journal, hmake, hread, herror, hsucceeded⟩
  · exact absurd hrun (by simp)

end Lexer

end ModalLex
