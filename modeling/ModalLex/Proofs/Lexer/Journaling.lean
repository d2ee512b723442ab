import Mathlib.Data.List.Forall2
import ModalLex.Proofs.Lexer.Lifecycle
import ModalLex.Proofs.Lexer.Replay

/-!
# The Journal Is Faithful

What a consumer knows of a run can be read off the journal: the tokens it was handed, the states
on the stack, and how the run has ended.

The journal is written by the engine, by the hooks' switches, and by the search for a match, in
the middle of attempts that may be aborted, and for the `after` hook of a token only when the next
one is asked for. `Journaled` keeps the account of any such stretch; here it is carried through one
attempt, one search, one pull and one run. A pull leaves at most one mark (`Pull.Marked`), that of
its answer; and a run that is finished leaves none.

## Main results

* `AttemptRuns.journaled`, `ScanRuns.journaled`: the account of an attempt and of a search.
* `Rested.pull_journaled`: the account of one pull.
* `journal_is_faithful`: **the journal is faithful**, after every pull.
-/

namespace ModalLex

/-! ### The log -/

/-- No target of a stage begins with that of another. -/
theorem Stage.isPrefixOf_target (stage other : Stage) :
    stage.target.toList.isPrefixOf other.target.toList = decide (stage = other) := by
  cases stage <;> cases other <;> decide +kernel

/-- The filter of some settings asks every stage for its own level. -/
theorem LogFilter.levelFor_ofConfig (config : LogConfig) (stage : Stage) :
    (LogFilter.ofConfig config).levelFor stage.target = config.levelFor stage := by
  have hfitting : (LogFilter.ofConfig config).directives.filter
      (fun directive => directive.1.toList.isPrefixOf stage.target.toList) =
      [(stage.target, config.levelFor stage)] := by
    simp only [ofConfig, List.filter_map, Function.comp_def, Stage.isPrefixOf_target]
    cases stage <;> rfl
  rw [levelFor, hfitting]
  rfl

/-- With all levels enabled, the log is the journal. -/
theorem journalLines_of_trace {config : LogConfig} (h : ∀ stage, config.levelFor stage = .trace)
    (journal : Journal) :
    journalLines config journal = journal.toList.map (Event.write config.format) := by
  have hall : ∀ event ∈ journal.toList,
      (LogFilter.ofConfig config).enabled event.stage.target event.level = true := by
    intro event _
    rw [LogFilter.enabled, LogFilter.levelFor_ofConfig, h]
    cases event <;> rfl
  unfold journalLines
  dsimp only
  rw [List.filter_eq_self.mpr hall]

/-! ### Attempts -/

variable {σ τ : Type}

namespace Lexer

/-- The mark that a search leaves in the journal. The token is that of its event, and `state` is
the state that its match was made in. -/
inductive Marked (lexer : Lexer σ τ) (input : Text) (state : String) :
    Pull τ → List Event → Prop
  | token {base : BaseToken} :
      Marked lexer input state (.token (lexer.factory base input))
        [.producedToken base.kind base.start base.stop state]
  | failed {e : LexError} : Marked lexer input state (.failed e) []
  | ended {position : Nat} : Marked lexer input state .ended [.reachedEnd position]
  | stalled : Marked lexer input state .stalled []

variable {lexer : Lexer σ τ} {stream : TokenStream τ}

/-- The match of a token ends where its `matchEnd` says. -/
theorem matchEnd_context {p : Pending} {input : Text} (hstart : input.isBoundary p.start = true)
    (hend : input.isBoundary p.matchEnd = true) (hle : p.start ≤ p.matchEnd) :
    (p.context input).matchEnd = p.matchEnd := by
  obtain ⟨front, middle, back, rfl, hfront, hmiddle⟩ :=
    Text.exists_split_of_isBoundary hstart hend hle
  rw [MatchContext.matchEnd, Pending.context, ← hmiddle, ← hfront, Text.slice_append]

variable {ambient ambient₁ ambient₂ : Ambient (σ × List (HookCall τ))}

/-- The account of the resolution of an attempt. -/
theorem query_journaled (base : String) (place : List String)
    {answer : Except ConfigError (Option (Found × Rule (σ × List (HookCall τ)) τ))}
    (hq : (lexer.recorded.query stream).resolve ambient = (answer, ambient₁)) :
    Journaled base place place [] ambient ambient₁ := by
  rw [recorded_query] at hq
  exact (Query.runs_iff.mpr hq).journaled base place

/-- The account of an attempt up to the end of its `before` hook. -/
theorem Ready.before_journaled (h : Ready lexer stream) {found : Found}
    {rule : Rule (σ × List (HookCall τ)) τ} {stack : StateStack} {result : Except LexError Bool}
    (hq : (lexer.recorded.query stream).resolve ambient = (.ok (some (found, rule)), ambient₁))
    (hbefore : runBefore rule { stream.matchContext found with position := stream.cursor }
      (stream.stack.setAnchor found.stop) ambient₁ = (result, stack, ambient₂)) :
    (∃ rule' : Rule σ τ, rule = rule'.recorded stream.stack.current found.rule) ∧
      Journaled lexer.names.baseName stream.stack.place stack.place [] ambient ambient₂ := by
  obtain ⟨rule', -, rfl, -, -, -, hle, hstop⟩ := h.before_calls hq hbefore
  refine ⟨⟨rule', rfl⟩, ?_⟩
  rw [h.matchContext_eq] at hbefore
  have hend : ((stream.due found).context stream.input).matchEnd = found.stop :=
    matchEnd_context h.cursor_isBoundary hstop hle
  have hjournal := runBefore_journaled (h.valid.setAnchor found.stop)
    ((h.valid.anchor_setAnchor _).trans hend.symm) hbefore
  rw [show (stream.stack.setAnchor found.stop).names = lexer.names from h.names_eq] at hjournal
  exact (query_journaled _ _ hq).trans hjournal

/-- **The account of one attempt.** -/
theorem AttemptRuns.journaled (h : Ready lexer stream)
    {out : Attempt τ × TokenStream τ × Ambient (σ × List (HookCall τ))}
    (hruns : AttemptRuns lexer.recorded stream ambient out) :
    ∃ marks, lexer.Marked stream.input stream.stack.currentName out.1.toPull marks ∧
      Journaled lexer.names.baseName stream.stack.place out.2.1.stack.place marks ambient
        out.2.2 := by
  cases hruns with
  | unbuilt hq => exact ⟨[], .failed, query_journaled _ _ hq⟩
  | unmatched hq => exact ⟨[], .failed, query_journaled _ _ hq⟩
  | beforeFailed hq hbefore => exact ⟨[], .failed, (h.before_journaled hq hbefore).2⟩
  | aborted hq hbefore => exact ⟨[], .stalled, (h.before_journaled hq hbefore).2.note rfl⟩
  | fetchFailed hq hbefore hfetch =>
      obtain ⟨⟨rule, rfl⟩, hjournal⟩ := h.before_journaled hq hbefore
      exact ⟨[], .failed, hjournal.trans (runFetch_journaled _ _ hfetch)⟩
  | token hq hbefore hfetch hvalue hkind =>
      obtain ⟨⟨rule, rfl⟩, hjournal⟩ := h.before_journaled hq hbefore
      have hname : stream.stack.currentName = lexer.names.name stream.stack.current := by
        rw [StateStack.currentName, h.names_eq]
      have hmade := (hjournal.trans (runFetch_journaled _ _ hfetch)).trans
        (kindOf_journaled _ _ hvalue hkind)
      rw [hname]
      exact ⟨_, .token, hmade.note rfl⟩

/-! ### Searches -/

/-- The stream that the last attempt of a search was made from. -/
def lastTried (lexer : Lexer σ τ) : (attempts : Nat) → TokenStream τ → Ambient σ → TokenStream τ
  | 0, stream, _ => stream
  | attempts + 1, stream, ambient =>
    if stream.cursor < stream.input.byteLength then
      match lexer.attempt stream ambient with
      | (.aborted, stream, ambient) => lexer.lastTried attempts stream ambient
      | _ => stream
    else stream

/-- **The account of one search.** The token is made in the state that is current when its last
attempt begins. -/
theorem ScanRuns.journaled (h : Ready lexer stream) {attempts : Nat}
    {out : Pull τ × TokenStream τ × Ambient (σ × List (HookCall τ))}
    (hruns : ScanRuns lexer.recorded attempts stream ambient out) :
    ∃ marks,
      lexer.Marked stream.input
        (lexer.lastTried attempts stream ambient.unrecorded).stack.currentName out.1 marks ∧
      Journaled lexer.names.baseName stream.stack.place out.2.1.stack.place marks ambient
        out.2.2 := by
  induction hruns with
  | @stalled stream ambient => exact ⟨[], .stalled, .refl _ _ ambient⟩
  | @ended _ stream ambient hends =>
      exact ⟨_, .ended, (Journaled.refl _ _ ambient).note rfl⟩
  | token hgoes hattempt =>
      rw [lastTried, if_pos hgoes, hattempt.unrecorded.eq]
      exact hattempt.journaled h
  | failed hgoes hattempt =>
      rw [lastTried, if_pos hgoes, hattempt.unrecorded.eq]
      exact hattempt.journaled h
  | again hgoes hattempt _ ih =>
      obtain ⟨hready, -, hinput⟩ := h.aborted hattempt.unrecorded
      obtain ⟨_, hmarked, hjournal⟩ := hattempt.journaled h
      obtain ⟨marks, hmarked', hjournal'⟩ := ih hready
      rw [hinput] at hmarked'
      rw [lastTried, if_pos hgoes, hattempt.unrecorded.eq]
      cases hmarked with
      | stalled => exact ⟨_, hmarked', hjournal.trans hjournal'⟩

/-! ### Pulls -/

/-- **The account of the `after` hook** of the token before. -/
theorem FinishRuns.journaled (h : Sound lexer stream)
    {out : Except LexError Unit × TokenStream τ × Ambient (σ × List (HookCall τ))}
    (hruns : FinishRuns lexer.recorded stream ambient out) :
    Journaled lexer.names.baseName stream.stack.place out.2.1.stack.place [] ambient out.2.2 := by
  have hjournal {p : Pending} {ended : Except LexError Unit × StateStack × Ambient _}
      (hpending : stream.pending = some p)
      (hafter : runAfter (lexer.recorded.rulesOf p.state)[p.rule]? p stream ambient = ended) :
      Journaled lexer.names.baseName stream.stack.place ended.2.1.place [] ambient ended.2.2 := by
    have hfits := h.pending_fits p hpending
    have hend := matchEnd_context hfits.start_isBoundary hfits.matchEnd_isBoundary hfits.start_le
    rw [recorded_rulesOf, List.getElem?_mapIdx, List.getElem?_eq_getElem hfits.rule_lt,
      Option.map_some] at hafter
    rw [← h.names_eq]
    exact runAfter_journaled h.valid (hfits.anchor_eq.trans hend.symm) hafter
  cases hruns with
  | idle => exact .refl _ _ ambient
  | afterFailed hpending hafter => exact hjournal hpending hafter
  | finished hpending hafter => exact hjournal hpending hafter

/-- The stream that the last attempt of a pull was made from. -/
def pullTried (lexer : Lexer σ τ) (attempts : Nat) (stream : TokenStream τ)
    (ambient : Ambient σ) : TokenStream τ :=
  let before := lexer.finishPending stream ambient
  lexer.lastTried attempts before.2.1 before.2.2

/-- The mark of an error, with the place and the state that the run is left in. -/
def failureMarks (ended : Pull τ × TokenStream τ × Ambient σ) : List Event :=
  match ended.1 with
  | .failed e => [.tokenizationFailed e ended.2.1.cursor ended.2.1.stack.currentName]
  | _ => []

/-- The account of an answer is that of its search, and what is noted of an error. -/
theorem journaled_close {base : String} {place : List String} {marks : List Event}
    {out : Pull τ × TokenStream τ × Ambient (σ × List (HookCall τ))}
    (h : Journaled base place out.2.1.stack.place marks ambient out.2.2) :
    Journaled base place (close out).2.1.stack.place (marks ++ failureMarks (close out)) ambient
      (close out).2.2 := by
  obtain ⟨answer, stream, ambient'⟩ := out
  cases answer with
  | token t => simpa [failureMarks, close] using h
  | failed e => exact h.note rfl
  | ended => simpa [failureMarks, close] using h
  | stalled => simpa [failureMarks, close] using h

/-- The account of one pull of a run that is not finished, on the record of calls before. -/
theorem PullRuns.journaled (h : Rested lexer stream) (hopen : stream.finished = false)
    {attempts : Nat} {out : Pull τ × TokenStream τ × Ambient (σ × List (HookCall τ))}
    (hruns : PullRuns lexer.recorded attempts stream ambient out) :
    ∃ marks,
      lexer.Marked stream.input
        (lexer.pullTried attempts stream ambient.unrecorded).stack.currentName out.1 marks ∧
      Journaled lexer.names.baseName stream.stack.place out.2.1.stack.place
        (marks ++ failureMarks out) ambient out.2.2 := by
  cases hruns with
  | closed hclosed => exact absurd (hopen.symm.trans hclosed) (by simp)
  | misplaced => exact ⟨[], .failed, (Journaled.refl _ _ ambient).note rfl⟩
  | unfinished _ _ hfinish => exact ⟨[], .failed, (hfinish.journaled h.toSound).note rfl⟩
  | searched _ _ hfinish hscan =>
      obtain ⟨hinput, -, -, -, hready⟩ := h.finishRuns hopen hfinish.unrecorded
      obtain ⟨marks, hmarked, hjournal⟩ := hscan.journaled (hready rfl)
      rw [pullTried, hfinish.unrecorded.eq, close_answer]
      rw [hinput] at hmarked
      exact ⟨marks, hmarked, journaled_close ((hfinish.journaled h.toSound).trans hjournal)⟩

/-- **The account of one pull** of a run that is not finished. -/
theorem Rested.pull_journaled (h : Rested lexer stream) (hopen : stream.finished = false)
    (attempts : Nat) (ambient : Ambient σ) :
    ∃ events marks,
      (lexer.pull attempts stream ambient).2.2.journal.toList = ambient.journal.toList ++ events ∧
      replay lexer.names.baseName stream.stack.place events =
        some (lexer.pull attempts stream ambient).2.1.stack.place ∧
      events.filterMap Event.switch? =
        (lexer.calls attempts stream ambient).flatMap HookCall.switches ∧
      events.filter Event.isMark = marks ++ failureMarks (lexer.pull attempts stream ambient) ∧
      lexer.Marked stream.input (lexer.pullTried attempts stream ambient).stack.currentName
        (lexer.pull attempts stream ambient).1 marks := by
  obtain ⟨marks, hmarked, events, calls, hjournal, hrecord, hreplay, hswitches, hmarks⟩ :=
    (lexer.recorded.pull_runs attempts stream
      ⟨ambient.cache, (ambient.host, []), ambient.journal⟩).journaled h hopen
  have hsame : lexer.pull attempts stream ambient = _ := lexer.recorded_pull stream
    ⟨ambient.cache, (ambient.host, []), ambient.journal⟩ attempts
  rw [hsame, Lexer.calls, hrecord]
  exact ⟨events, marks, hjournal, hreplay, hswitches, hmarks, hmarked⟩

end Lexer

/-! ### Runs -/

/-- Whether an answer is an error. -/
def Pull.isFailed : Pull τ → Bool
  | .failed _ => true
  | _ => false

/-- Whether an answer is the end. -/
def Pull.isEnded : Pull τ → Bool
  | .ended => true
  | _ => false

/-- Whether an event tells of a token. -/
def Event.isProduced : Event → Bool
  | .producedToken .. => true
  | _ => false

/-- Whether an event tells of an error. -/
def Event.isFailure : Event → Bool
  | .tokenizationFailed .. => true
  | _ => false

/-- Whether an event tells of the end. -/
def Event.isEnd : Event → Bool
  | .reachedEnd .. => true
  | _ => false

/-- The event of a token is a mark. -/
theorem Event.isMark_of_isProduced {event : Event} (h : event.isProduced = true) :
    event.isMark = true := by
  cases event with
  | producedToken => rfl
  | _ => exact absurd h Bool.false_ne_true

/-- The event of a failure is a mark. -/
theorem Event.isMark_of_isFailure {event : Event} (h : event.isFailure = true) :
    event.isMark = true := by
  cases event with
  | tokenizationFailed => rfl
  | _ => exact absurd h Bool.false_ne_true

/-- The event of the end is a mark. -/
theorem Event.isMark_of_isEnd {event : Event} (h : event.isEnd = true) :
    event.isMark = true := by
  cases event with
  | reachedEnd => rfl
  | _ => exact absurd h Bool.false_ne_true

namespace Lexer

/-- A pull as its consumer and the hooks know it: its answer, the calls that it made, and the name
of the state that it made its last attempt in. -/
structure Chronicled (τ : Type) where
  answer : Pull τ
  calls : List (HookCall τ)
  madeIn : String

/-- The pulls of a run in its turns. -/
def chronicle (lexer : Lexer σ τ) :
    List (Turn σ) → TokenStream τ → Ambient σ → List (Chronicled τ)
  | [], _, _ => []
  | turn :: turns, stream, ambient =>
    let ended := lexer.pull turn.attempts stream (turn.begin ambient)
    { answer := ended.1
      calls := lexer.calls turn.attempts stream (turn.begin ambient)
      madeIn := (lexer.pullTried turn.attempts stream (turn.begin ambient)).stack.currentName } ::
      lexer.chronicle turns ended.2.1 ended.2.2

/-- What a run leaves behind its turns. -/
def outcome (lexer : Lexer σ τ) :
    List (Turn σ) → TokenStream τ → Ambient σ → TokenStream τ × Ambient σ
  | [], stream, ambient => (stream, ambient)
  | turn :: turns, stream, ambient =>
    let ended := lexer.pull turn.attempts stream (turn.begin ambient)
    lexer.outcome turns ended.2.1 ended.2.2

/-- An event that tells of the token that a pull has returned: its kind, its start and its end, and
the state that its match was made in. -/
def TellsToken (lexer : Lexer σ τ) (input : Text) (pull : Chronicled τ) (event : Event) : Prop :=
  ∃ base : BaseToken, pull.answer = .token (lexer.factory base input) ∧
    event = .producedToken base.kind base.start base.stop pull.madeIn

/-- Events from which it can be read off what a run has done in some pulls, from a stack with the
states `place` on. -/
structure Faithful (lexer : Lexer σ τ) (input : Text) (place : List String)
    (pulls : List (Chronicled τ)) (stack : StateStack) (events : List Event) : Prop where
  /-- The events of tokens correspond to the tokens returned, one to one and in order. -/
  tokens : List.Forall₂ (lexer.TellsToken input)
    (pulls.filter fun pull => pull.answer.token?.isSome) (events.filter Event.isProduced)
  /-- Replaying the switches leads to the stack, and all their depths are right. -/
  replayed : replay lexer.names.baseName place events = some stack.place
  /-- The switches are those that hooks were granted, with the end of the match of the hook. -/
  switches : events.filterMap Event.switch? =
    pulls.flatMap fun pull => pull.calls.flatMap HookCall.switches
  /-- There is one event of an error if an error was returned, and else none. -/
  failures : events.countP Event.isFailure =
    if pulls.any fun pull => pull.answer.isFailed then 1 else 0
  /-- There is one event of the end if the run has ended without an error, and else none. -/
  ends : events.countP Event.isEnd =
    if (pulls.any fun pull => pull.answer.isEnded) &&
      !pulls.any fun pull => pull.answer.isFailed then 1 else 0

variable {lexer : Lexer σ τ} {stream : TokenStream τ}

/-- The calls of a pull of a finished run. -/
theorem calls_of_finished (h : stream.finished = true) (attempts : Nat) (ambient : Ambient σ) :
    lexer.calls attempts stream ambient = [] := by
  rw [calls, pull, if_pos h]

/-- A run that is finished goes on answering that it has ended, and nothing else happens. -/
theorem chronicle_of_finished (h : stream.finished = true) (turns : List (Turn σ))
    (ambient : Ambient σ) :
    (∀ pull ∈ lexer.chronicle turns stream ambient, pull.answer = .ended ∧ pull.calls = []) ∧
      (lexer.outcome turns stream ambient).1 = stream ∧
      (lexer.outcome turns stream ambient).2.journal = ambient.journal := by
  induction turns generalizing ambient with
  | nil => exact ⟨by simp [chronicle], rfl, rfl⟩
  | cons turn turns ih =>
      have hpull : lexer.pull turn.attempts stream (turn.begin ambient) =
          (.ended, stream, turn.begin ambient) := by
        rw [pull, if_pos h]
      obtain ⟨hpulls, hstream, hjournal⟩ := ih (turn.begin ambient)
      rw [chronicle, outcome, hpull]
      refine ⟨?_, hstream, hjournal⟩
      rw [List.forall_mem_cons]
      exact ⟨⟨rfl, calls_of_finished h _ _⟩, hpulls⟩

/-- Events of a kind that is marked can be looked for among the marks. -/
theorem filter_of_isMark {events : List Event} {p : Event → Bool}
    (h : ∀ event, p event = true → event.isMark = true) :
    events.filter p = (events.filter Event.isMark).filter p := by
  rw [List.filter_filter]
  refine List.filter_congr fun event _ => ?_
  cases hp : p event with
  | false => rfl
  | true => simp [h event hp]

/-- **The journal of one pull is faithful**, if the run is not finished. -/
theorem Rested.pull_faithful (h : Rested lexer stream) (hopen : stream.finished = false)
    (attempts : Nat) (ambient : Ambient σ) :
    ∃ events,
      (lexer.pull attempts stream ambient).2.2.journal.toList = ambient.journal.toList ++ events ∧
      Faithful lexer stream.input stream.stack.place
        [{ answer := (lexer.pull attempts stream ambient).1
           calls := lexer.calls attempts stream ambient
           madeIn := (lexer.pullTried attempts stream ambient).stack.currentName }]
        (lexer.pull attempts stream ambient).2.1.stack events := by
  obtain ⟨events, marks, hjournal, hreplay, hswitches, hmarks, hmarked⟩ :=
    h.pull_journaled hopen attempts ambient
  have hfilter {p : Event → Bool} (hp : ∀ event, p event = true → event.isMark = true) :
      events.filter p = marks.filter p ++
        (failureMarks (lexer.pull attempts stream ambient)).filter p := by
    rw [filter_of_isMark hp, hmarks, List.filter_append]
  refine ⟨events, hjournal, ?_, hreplay, by simpa using hswitches, ?_, ?_⟩
  · rw [hfilter fun _ => Event.isMark_of_isProduced]
    generalize lexer.pull attempts stream ambient = ended at hmarked
    obtain ⟨answer, stream', ambient'⟩ := ended
    cases hmarked with
    | token => exact .cons ⟨_, rfl, rfl⟩ .nil
    | failed => exact .nil
    | ended => exact .nil
    | stalled => exact .nil
  · rw [List.countP_eq_length_filter,
      hfilter fun _ => Event.isMark_of_isFailure]
    generalize lexer.pull attempts stream ambient = ended at hmarked
    obtain ⟨answer, stream', ambient'⟩ := ended
    cases hmarked <;> rfl
  · rw [List.countP_eq_length_filter,
      hfilter fun _ => Event.isMark_of_isEnd]
    generalize lexer.pull attempts stream ambient = ended at hmarked
    obtain ⟨answer, stream', ambient'⟩ := ended
    cases hmarked <;> rfl

variable {input : Text} {place : List String} {pull : Chronicled τ} {pulls : List (Chronicled τ)}
  {stack stack' : StateStack} {events events' : List Event}

/-- Behind a pull that has not closed the run, its journal goes on. -/
theorem Faithful.cons_open (h : Faithful lexer input place [pull] stack events)
    (hopen : pull.answer.closes = false)
    (h' : Faithful lexer input stack.place pulls stack' events') :
    Faithful lexer input place (pull :: pulls) stack' (events ++ events') := by
  have hanswer : pull.answer.isFailed = false ∧ pull.answer.isEnded = false := by
    cases hpull : pull.answer <;> simp_all [Pull.closes, Pull.isFailed, Pull.isEnded]
  have hfailures := h.failures
  have hends := h.ends
  simp only [List.any_cons, List.any_nil, hanswer, Bool.or_false, Bool.false_and,
    Bool.false_eq_true, if_false] at hfailures hends
  refine ⟨?_, replay_append h.replayed h'.replayed, ?_, ?_, ?_⟩
  · rw [← List.singleton_append, List.filter_append, List.filter_append]
    exact List.rel_append h.tokens h'.tokens
  · rw [List.filterMap_append, h.switches, h'.switches]
    simp
  · rw [List.countP_append, hfailures, h'.failures, Nat.zero_add, List.any_cons, hanswer.1,
      Bool.false_or]
  · rw [List.countP_append, hends, h'.ends, Nat.zero_add, List.any_cons, List.any_cons, hanswer.1,
      hanswer.2, Bool.false_or, Bool.false_or]

/-- Behind a pull that has closed the run, nothing is added to the journal. -/
theorem Faithful.cons_closed (h : Faithful lexer input place [pull] stack events)
    (hclosed : pull.answer.closes = true)
    (hrest : ∀ later ∈ pulls, later.answer = .ended ∧ later.calls = []) :
    Faithful lexer input place (pull :: pulls) stack events := by
  have htokens : pulls.filter (fun pull => pull.answer.token?.isSome) = [] :=
    List.filter_eq_nil_iff.mpr fun later hlater => by simp [(hrest later hlater).1, Pull.token?]
  have hswitches : pulls.flatMap (fun pull => pull.calls.flatMap HookCall.switches) = [] :=
    List.flatMap_eq_nil_iff.mpr fun later hlater => by simp [(hrest later hlater).2]
  have hfailed : pulls.any (fun pull => pull.answer.isFailed) = false :=
    List.any_eq_false.mpr fun later hlater => by simp [(hrest later hlater).1, Pull.isFailed]
  refine ⟨?_, h.replayed, ?_, ?_, ?_⟩
  · rw [← List.singleton_append, List.filter_append, htokens, List.append_nil]
    exact h.tokens
  · rw [h.switches, List.flatMap_cons, List.flatMap_cons, hswitches, List.flatMap_nil]
  · rw [h.failures, List.any_cons, List.any_cons, hfailed, List.any_nil]
  · have hanswer : pull.answer.isFailed = true ∨ pull.answer.isEnded = true := by
      cases hpull : pull.answer <;> simp_all [Pull.closes, Pull.isFailed, Pull.isEnded]
    rw [h.ends]
    simp only [List.any_cons, List.any_nil, hfailed]
    rcases hanswer with hfailed | hended
    · simp [hfailed]
    · simp [hended]

/-- A pull closes an open run exactly if it fails or comes to the end. -/
theorem Rested.finished_eq_closes (h : Rested lexer stream) (hopen : stream.finished = false)
    (attempts : Nat) (ambient : Ambient σ) :
    (lexer.pull attempts stream ambient).2.1.finished =
      (lexer.pull attempts stream ambient).1.closes := by
  obtain ⟨-, -, -, hgoes⟩ := h.pulled attempts ambient
  obtain ⟨-, hiff⟩ := hgoes hopen
  cases hanswer : (lexer.pull attempts stream ambient).1 with
  | token t => exact hiff.mpr (by simp [hanswer])
  | failed e => exact eq_true_of_ne_false fun h => (hiff.mp h).2 e hanswer
  | ended => exact eq_true_of_ne_false fun h => (hiff.mp h).1 hanswer
  | stalled => exact hiff.mpr (by simp [hanswer])

/-- **The journal of a run is faithful**, from any stream on that is not finished. -/
theorem Rested.run_faithful (h : Rested lexer stream) (hopen : stream.finished = false)
    (turns : List (Turn σ)) (ambient : Ambient σ) :
    ∃ events,
      (lexer.outcome turns stream ambient).2.journal.toList = ambient.journal.toList ++ events ∧
      Faithful lexer stream.input stream.stack.place (lexer.chronicle turns stream ambient)
        (lexer.outcome turns stream ambient).1.stack events := by
  induction turns generalizing stream ambient with
  | nil => exact ⟨[], by simp [outcome], .nil, rfl, rfl, rfl, rfl⟩
  | cons turn turns ih =>
      obtain ⟨events, hjournal, hpull⟩ := h.pull_faithful hopen turn.attempts (turn.begin ambient)
      obtain ⟨hinput, hrested, -⟩ := h.pulled turn.attempts (turn.begin ambient)
      have hcloses := h.finished_eq_closes hopen turn.attempts (turn.begin ambient)
      rw [chronicle, outcome]
      cases hclosed : (lexer.pull turn.attempts stream (turn.begin ambient)).1.closes with
      | true =>
          obtain ⟨hrest, hstream, hsame⟩ := chronicle_of_finished (hcloses.trans hclosed) turns
            (lexer.pull turn.attempts stream (turn.begin ambient)).2.2
          rw [hstream, hsame]
          exact ⟨events, hjournal, hpull.cons_closed hclosed hrest⟩
      | false =>
          obtain ⟨events', hjournal', hrun⟩ := ih hrested (hcloses.trans hclosed)
            (lexer.pull turn.attempts stream (turn.begin ambient)).2.2
          rw [hinput] at hrun
          refine ⟨events ++ events', ?_, hpull.cons_open hclosed hrun⟩
          rw [hjournal', hjournal, List.append_assoc]
          rfl

/-- The stream that any turns leave rests between two pulls. -/
theorem Rested.outcome_rested (h : Rested lexer stream) (turns : List (Turn σ))
    (ambient : Ambient σ) : Rested lexer (lexer.outcome turns stream ambient).1 := by
  induction turns generalizing stream ambient with
  | nil => exact h
  | cons turn turns ih =>
      obtain ⟨-, hrested, -⟩ := h.pulled turn.attempts (turn.begin ambient)
      exact ih hrested _

/-- **The journal is faithful.** Whatever turns a run has taken since its start, a list of events
was added to the journal, and with all levels enabled just these were added to the log, each as one
line. The events that tell of tokens correspond to the tokens that were returned, one to one and in
order, with their kind, start and end and the name of the state that the match was made in.
Replaying the events of switches from the base state on never meets a wrong depth, and leads to the
current state and the depth of the run. These events are the switches that `before` and `after`
hooks asked for and were granted, in the order of their calls, each with the end of the match that
the hook was called for as its anchor; so what was refused has left none. There is one event
of an error if an error was returned, one of the end if the run has ended without an error, and
else there is none of them. -/
theorem journal_is_faithful {table : StateTable (Rule σ τ)} {config : LexerConfig}
    {factory : BaseToken → Text → τ} {lexer : Lexer σ τ} {cache : AlternationCache}
    {journal : Journal} (hmake : Lexer.make table config factory = (.ok (lexer, cache), journal))
    (input : Text) (start : Nat) (turns : List (Turn σ)) (ambient : Ambient σ) :
    ∃ events,
      (lexer.outcome turns (lexer.tokenizeFrom input start).1 ambient).2.journal.toList =
          ambient.journal.toList ++ events ∧
        (∀ log : LogConfig, (∀ stage, log.levelFor stage = .trace) →
          journalLines log
              (lexer.outcome turns (lexer.tokenizeFrom input start).1 ambient).2.journal =
            journalLines log ambient.journal ++ events.map (Event.write log.format)) ∧
        Faithful lexer input [] (lexer.chronicle turns (lexer.tokenizeFrom input start).1 ambient)
          (lexer.outcome turns (lexer.tokenizeFrom input start).1 ambient).1.stack events ∧
        ∃ place, replay lexer.names.baseName [] events = some place ∧
          place.headD lexer.names.baseName =
            (lexer.outcome turns (lexer.tokenizeFrom input start).1 ambient).1.stack.currentName ∧
          place.length =
            (lexer.outcome turns (lexer.tokenizeFrom input start).1 ambient).1.stack.depth := by
  obtain ⟨hresolved, -⟩ := make_ok hmake
  have hrested := tokenizeFrom_rested hresolved input start
  obtain ⟨events, hjournal, hfaithful⟩ := hrested.run_faithful rfl turns ambient
  have hnames := (hrested.outcome_rested turns ambient).names_eq
  refine ⟨events, hjournal, ?_, hfaithful, _, hfaithful.replayed, ?_, StateStack.place_length _⟩
  · intro log hlog
    rw [journalLines_of_trace hlog, journalLines_of_trace hlog, hjournal, List.map_append]
  · rw [← hnames, StateStack.headD_place]

/-- Switches of all kinds: `a` enters the state `inner` before its token is made, fails to enter a
state that there is not, takes one more character, and leaves again in its `after` hook; `b` fails
to leave the base state, enters `inner` and asks to be matched there. -/
def detourTable : StateTable (Rule Unit Token) :=
  (StateTable.flat
    [{ pattern := .source ['a']
       before := some fun _ host =>
         .ask (.switch (.push "inner")) fun _ => .ask (.switch (.push "nowhere")) fun _ =>
           .done (.ok (), host)
       fetch := some fun _ host => .ask .next fun _ => .done (.ok (), host)
       after := some fun _ host => .ask .pop fun _ => .done (.ok (), host) },
      { pattern := .source ['b']
        before := some fun _ host =>
          .ask (.switch .pop) fun _ => .ask (.switch (.push "inner")) fun _ => .ask .abort fun _ =>
            .done (.ok (), host) }]).declare "inner"
    [{ pattern := .source ['b'] }]

/-- Four pulls over `axb?`. The `after` hook of `ax` goes back with the anchor 1, where the match
has ended, though the token ends at 2. -/
theorem journal_is_faithful_detour :
    ∃ (lexer : Lexer Unit Token) (turns : List (Turn Unit)) (ambient : Ambient Unit)
      (events : List Event),
      events.filter (fun event => event.stage = .engine) =
          [.pushedState "inner" 1 1, .producedToken ['a'] 0 2 "start", .poppedState "start" 0 1,
            .pushedState "inner" 1 3, .matchAborted 1 2 "inner",
            .producedToken ['b'] 2 3 "inner",
            .tokenizationFailed (.noMatch 3 "inner") 3 "inner"] ∧
        turns.length = 4 ∧
        Faithful lexer ['a', 'x', 'b', '?'] []
          (lexer.chronicle turns (lexer.tokenizeFrom ['a', 'x', 'b', '?'] 0).1 ambient)
          (lexer.outcome turns (lexer.tokenizeFrom ['a', 'x', 'b', '?'] 0).1 ambient).1.stack
          events := by
  have hrun : (match Lexer.make detourTable {} Token.make with
      | (.ok (lexer, cache), _) => decide
          ((lexer.outcome (List.replicate 4 ⟨Prod.mk, 2⟩)
                (lexer.tokenizeFrom ['a', 'x', 'b', '?'] 0).1
                ⟨cache, (), #[]⟩).2.journal.toList.filter
              (fun event => event.stage = .engine) =
            [.pushedState "inner" 1 1, .producedToken ['a'] 0 2 "start",
              .poppedState "start" 0 1, .pushedState "inner" 1 3, .matchAborted 1 2 "inner",
              .producedToken ['b'] 2 3 "inner",
              .tokenizationFailed (.noMatch 3 "inner") 3 "inner"])
      | (.error _, _) => false) = true := by
    decide +kernel
  split at hrun
  · next lexer cache journal hmake =>
      have htold := of_decide_eq_true hrun
      obtain ⟨events, hjournal, -, hfaithful, -⟩ := journal_is_faithful hmake
        ['a', 'x', 'b', '?'] 0 (List.replicate 4 ⟨Prod.mk, 2⟩) ⟨cache, (), #[]⟩
      rw [hjournal] at htold
      exact ⟨lexer, _, _, events, htold, rfl, hfaithful⟩
  · exact absurd hrun (by simp)

end Lexer

end ModalLex
