import ModalLex.Proofs.Lexer.Calls

/-!
# Replaying the Journal

The journal tells every switch of states with the depth and the anchor behind it. **Replaying** it
(`replay`) keeps a stack of names, and refuses an event whose depth is not that of the stack that
the event leads to, or that goes back to another state than the stack does.

The hooks are opaque, so what has to be in the journal is said by what they have asked and what
they were answered: the lexer that records its hooks (`Lexer.recorded`) tells both, call by call.
`Journaled` puts the two side by side for any stretch of a run: the events that were added replay
the change of the stack, and the switches they tell are those that the calls of the stretch were
granted, each with the end of its match for its anchor. The rest of the events of interest, those
that tell how pulls end, are listed as marks.

## Main results

* `Lexer.run_told`: what one answer puts into the journal, a whole dialogue puts there.
* `Lexer.runBefore_journaled`, `Lexer.runAfter_journaled`, `Query.Runs.journaled`: what hooks and
  the search for a match put into the journal.
-/

namespace ModalLex

variable {σ τ : Type}

/-! ### Events and replies -/

/-- A switch of states, as the journal tells it. -/
inductive SwitchMade where
  | pushed (name : String) (anchor : Nat)
  | popped (anchor : Nat)
deriving DecidableEq

/-- The switch that an event tells. -/
def Event.switch? : Event → Option SwitchMade
  | .pushedState name _ anchor => some (.pushed name anchor)
  | .poppedState _ _ anchor => some (.popped anchor)
  | _ => none

/-- Whether an event tells how a pull ends: with a token, at the end, or with an error. -/
def Event.isMark : Event → Bool
  | .producedToken .. | .reachedEnd .. | .tokenizationFailed .. => true
  | _ => false

/-- The switch that a hook was granted, if it asked for one and was not refused. -/
def switchMade? (anchor : Nat) : ((q : SwitchAsk) × q.Reply) → Option SwitchMade
  | ⟨.push name, reply⟩ =>
    match (reply : Except StateError Unit) with
    | .ok () => some (.pushed name anchor)
    | .error _ => none
  | ⟨.pop, reply⟩ =>
    match (reply : Except StateError Unit) with
    | .ok () => some (.popped anchor)
    | .error _ => none
  | ⟨.currentState, _⟩ => none

/-- The switch that a `before` hook was granted. -/
def beforeSwitchMade? (anchor : Nat) : ((q : BeforeAsk) × q.Reply) → Option SwitchMade
  | ⟨.switch ask, reply⟩ => switchMade? anchor ⟨ask, reply⟩
  | ⟨.abort, _⟩ => none

/-- The end of the match that a hook was called for. -/
def MatchContext.matchEnd (c : MatchContext) : Nat := c.start + c.matched.byteLength

/-- The switches that a call was granted, each at the end of its match. -/
def HookCall.switches (call : HookCall τ) : List SwitchMade :=
  match call.event with
  | .before context talk _ => talk.filterMap (beforeSwitchMade? context.matchEnd)
  | .after context talk _ => talk.filterMap (switchMade? context.matchEnd)
  | _ => []

/-! ### Replaying -/

/-- The names of the states on a stack, the current one first. -/
def StateStack.place (s : StateStack) : List String := s.stack.map s.names.name

/-- One event, replayed on a stack of names above the base state. -/
def replayEvent (base : String) : List String → Event → Option (List String)
  | place, .pushedState name depth _ =>
    if depth = place.length + 1 then some (name :: place) else none
  | _ :: place, .poppedState name depth _ =>
    if depth = place.length ∧ name = place.headD base then some place else none
  | [], .poppedState .. => none
  | place, _ => some place

/-- Events, replayed one after the other. -/
def replay (base : String) (place : List String) (events : List Event) : Option (List String) :=
  events.foldlM (replayEvent base) place

/-- Events are replayed in stretches. -/
theorem replay_append {base : String} {place place₁ place₂ : List String}
    {events events' : List Event} (h : replay base place events = some place₁)
    (h' : replay base place₁ events' = some place₂) :
    replay base place (events ++ events') = some place₂ := by
  rw [replay, List.foldlM_append, ← replay, h]
  exact h'

/-- An event that tells no switch changes nothing. -/
theorem replay_singleton {base : String} {place : List String} {event : Event}
    (h : event.switch? = none) : replay base place [event] = some place := by
  cases event with
  | pushedState => exact absurd h (by simp [Event.switch?])
  | poppedState => exact absurd h (by simp [Event.switch?])
  | _ => cases place <;> rfl

namespace StateStack

variable {s t : StateStack}

/-- A place has a name for each state of the stack. -/
theorem place_length (s : StateStack) : s.place.length = s.depth := by
  simp [place, depth]

/-- The current state is called by the first name of the place. -/
theorem headD_place (s : StateStack) : s.place.headD s.names.baseName = s.currentName := by
  rw [place, currentName, current, StateNames.baseName]
  cases s.stack <;> rfl

/-- The event of a push replays it. -/
theorem replay_push (hnames : s.names.Resolved) {name : String} (h : s.push name = .ok t)
    (anchor : Nat) :
    replay s.names.baseName s.place [.pushedState name t.depth anchor] = some t.place := by
  obtain ⟨state, hstate, rfl⟩ := push_ok h
  simp [replay, replayEvent, place, depth, StateNames.name_of_lookup? hnames hstate]

/-- The event of a pop replays it. -/
theorem replay_pop (h : s.pop = .ok t) (anchor : Nat) :
    replay s.names.baseName s.place [.poppedState t.currentName t.depth anchor] =
      some t.place := by
  obtain ⟨top, rest, hstack, rfl⟩ := pop_ok h
  have hplace : s.place = s.names.name top :: rest.map s.names.name := by
    rw [place, hstack, List.map_cons]
  have hname : ({ s with stack := rest }.setAnchor s.anchor).currentName =
      (rest.map s.names.name).headD s.names.baseName :=
    (headD_place { s with stack := rest }).symm
  rw [hplace, hname]
  simp [replay, replayEvent, depth, place]

end StateStack

/-! ### Hooks -/

namespace Lexer

/-- What a hook that switches states has put into the journal: events that replay the change of
its stack and tell the switches that were made. -/
structure Told (made : List SwitchMade) (s t : Switching) : Prop where
  moved : s.stack.Moved t.stack
  written : ∃ events, t.journal.toList = s.journal.toList ++ events ∧
    replay s.stack.names.baseName s.stack.place events = some t.stack.place ∧
    events.filterMap Event.switch? = made ∧ events.filter Event.isMark = []

/-- A hook that has asked for nothing has told nothing. -/
theorem Told.refl {s : Switching} (h : s.stack.Valid) : Told [] s s :=
  ⟨⟨h, rfl, rfl, fun _ ha => ha⟩, [], by simp, rfl, rfl, rfl⟩

/-- What is told in two stretches is told in both together. -/
theorem Told.trans {made made' : List SwitchMade} {s t u : Switching} (h : Told made s t)
    (h' : Told made' t u) : Told (made ++ made') s u := by
  obtain ⟨hmoved, events, hjournal, hreplay, hmade, hmarks⟩ := h
  obtain ⟨hmoved', events', hjournal', hreplay', hmade', hmarks'⟩ := h'
  rw [hmoved.names] at hreplay'
  refine ⟨hmoved.trans hmoved', events ++ events', ?_, replay_append hreplay hreplay', ?_, ?_⟩
  · rw [hjournal', hjournal, List.append_assoc]
  · rw [List.filterMap_append, hmade, hmade']
  · rw [List.filter_append, hmarks, hmarks']
    rfl

/-- **One answer about states.** A switch that is made is told with its depth and with the anchor,
which it carries along; one that is refused is not told. -/
theorem answerSwitch_told (ask : SwitchAsk) (s : Switching) (h : s.stack.Valid) :
    Told (switchMade? s.stack.anchor ⟨ask, (answerSwitch ask s).1⟩).toList s
      (answerSwitch ask s).2 := by
  cases ask with
  | push name =>
      rw [answerSwitch]
      cases hpush : s.stack.push name with
      | error e => exact .refl h
      | ok stack =>
          have hmoved := h.moved_push hpush
          have hanchor : (Event.pushedState name stack.depth stack.anchor).switch? =
              some (.pushed name s.stack.anchor) := by
            rw [Event.switch?, hmoved.anchor]
          exact ⟨hmoved, _, Array.toList_push, StateStack.replay_push h.resolved hpush _,
            by simp [hanchor, switchMade?], rfl⟩
  | pop =>
      rw [answerSwitch]
      cases hpop : s.stack.pop with
      | error e => exact .refl h
      | ok stack =>
          have hmoved := h.moved_pop hpop
          have hanchor : (Event.poppedState stack.currentName stack.depth stack.anchor).switch? =
              some (.popped s.stack.anchor) := by
            rw [Event.switch?, hmoved.anchor]
          exact ⟨hmoved, _, Array.toList_push, StateStack.replay_pop hpop _,
            by simp [hanchor, switchMade?], rfl⟩
  | currentState => exact .refl h

/-- **A hook before a match tells the switch that it is granted**, if it asks for one. -/
theorem answerBefore_told (ask : BeforeAsk) (s : Switching) (h : s.stack.Valid) :
    Told (beforeSwitchMade? s.stack.anchor ⟨ask, (answerBefore ask s).1⟩).toList s
      (answerBefore ask s).2 := by
  cases ask with
  | switch ask => exact answerSwitch_told ask s h
  | abort => exact ⟨⟨h, rfl, rfl, fun _ ha => ha⟩, [], by simp [answerBefore], rfl, rfl, rfl⟩

/-- **What one answer puts into the journal, a whole dialogue puts there.** -/
theorem run_told {Ask : Type} {Reply : Ask → Type} {α : Type}
    {answer : (q : Ask) → Switching → Reply q × Switching}
    {made? : Nat → ((q : Ask) × Reply q) → Option SwitchMade}
    (hanswer : ∀ q s, s.stack.Valid →
      Told (made? s.stack.anchor ⟨q, (answer q s).1⟩).toList s (answer q s).2)
    (d : Dialogue Ask Reply α) (talk : List ((q : Ask) × Reply q)) {s : Switching}
    (h : s.stack.Valid) :
    ∃ own, ((d.recorded talk).run answer s).1.1 = talk ++ own ∧
      Told (own.filterMap (made? s.stack.anchor)) s ((d.recorded talk).run answer s).2 := by
  induction d generalizing talk s with
  | done result => exact ⟨[], (List.append_nil _).symm, .refl h⟩
  | ask q next ih =>
      have htold := hanswer q s h
      obtain ⟨own, htalk, htold'⟩ := ih (answer q s).1 (talk ++ [⟨q, (answer q s).1⟩])
        htold.moved.valid
      rw [htold.moved.anchor] at htold'
      refine ⟨⟨q, (answer q s).1⟩ :: own, ?_, ?_⟩
      · rw [Dialogue.recorded, Dialogue.run]
        dsimp only
        rw [htalk, List.append_assoc]
        rfl
      · have hmade : (⟨q, (answer q s).1⟩ :: own).filterMap (made? s.stack.anchor) =
            (made? s.stack.anchor ⟨q, (answer q s).1⟩).toList ++
              own.filterMap (made? s.stack.anchor) := by
          rw [List.filterMap_cons]
          cases made? s.stack.anchor ⟨q, (answer q s).1⟩ <;> rfl
        rw [hmade]
        exact htold.trans htold'

end Lexer

/-! ### Stretches of a run -/

/-- What a stretch of a run of the lexer that records its hooks has added to the journal, and to
the record of calls, while the states on the stack changed from `place` to `place'`. -/
def Journaled (base : String) (place place' : List String) (marks : List Event)
    (a b : Ambient (σ × List (HookCall τ))) : Prop :=
  ∃ events calls, b.journal.toList = a.journal.toList ++ events ∧ b.host.2 = a.host.2 ++ calls ∧
    replay base place events = some place' ∧
    events.filterMap Event.switch? = calls.flatMap HookCall.switches ∧
    events.filter Event.isMark = marks

namespace Journaled

variable {base : String} {place place₁ place₂ : List String} {marks marks' : List Event}
  {a b c : Ambient (σ × List (HookCall τ))}

/-- Nothing happens in no time. -/
theorem refl (base : String) (place : List String) (a : Ambient (σ × List (HookCall τ))) :
    Journaled base place place [] a a :=
  ⟨[], [], by simp, by simp, rfl, rfl, rfl⟩

/-- What happens in two stretches of time happens in both together. -/
theorem trans (h : Journaled base place place₁ marks a b)
    (h' : Journaled base place₁ place₂ marks' b c) :
    Journaled base place place₂ (marks ++ marks') a c := by
  obtain ⟨events, calls, hjournal, hrecord, hreplay, hswitches, hmarks⟩ := h
  obtain ⟨events', calls', hjournal', hrecord', hreplay', hswitches', hmarks'⟩ := h'
  refine ⟨events ++ events', calls ++ calls', ?_, ?_, replay_append hreplay hreplay', ?_, ?_⟩
  · rw [hjournal', hjournal, List.append_assoc]
  · rw [hrecord', hrecord, List.append_assoc]
  · rw [List.filterMap_append, List.flatMap_append, hswitches, hswitches']
  · rw [List.filter_append, hmarks, hmarks']

/-- Nothing but events without switches, and calls that were granted none. -/
theorem of_quiet (events : List Event) (calls : List (HookCall τ))
    (hjournal : b.journal.toList = a.journal.toList ++ events)
    (hrecord : b.host.2 = a.host.2 ++ calls) (hevents : ∀ event ∈ events, event.switch? = none)
    (hcalls : ∀ call ∈ calls, call.switches = []) :
    Journaled base place place (events.filter Event.isMark) a b := by
  refine ⟨events, calls, hjournal, hrecord, ?_, ?_, rfl⟩
  · clear hjournal
    induction events with
    | nil => rfl
    | cons event events ih =>
        have hone : replay base place [event] = some place :=
          replay_singleton (hevents event (by simp))
        exact replay_append hone (ih fun other hother => hevents other (.tail _ hother))
  · rw [List.filterMap_eq_nil_iff.mpr hevents, List.flatMap_eq_nil_iff.mpr hcalls]

/-- One more event without a switch. -/
theorem note (h : Journaled base place place₁ marks a b) {event : Event}
    (hevent : event.switch? = none) :
    Journaled base place place₁ (marks ++ [event].filter Event.isMark) a (b.note event) :=
  h.trans (.of_quiet [event] [] Array.toList_push (by simp [Ambient.note]) (by simpa) (by simp))

/-- The same journal, and calls that were granted no switches. -/
theorem of_calls {calls : List (HookCall τ)} (hjournal : b.journal = a.journal)
    (hrecord : b.host.2 = a.host.2 ++ calls) (hcalls : ∀ call ∈ calls, call.switches = []) :
    Journaled base place place [] a b :=
  of_quiet [] calls (by rw [hjournal, List.append_nil]) hrecord (by simp) hcalls

end Journaled

/-! ### The search for a match -/

namespace Query

/-- Building an alternation is no switch. -/
theorem alternation_journaled (q : Query (σ × List (HookCall τ)) τ) (base : String)
    (place : List String) (first : Nat) (ambient : Ambient (σ × List (HookCall τ))) :
    Journaled base place place [] ambient (q.alternation first ambient).2 := by
  have hquiet : ∀ event ∈ (q.compiler.alternation ambient.cache q.state first).2.2,
      event.switch? = none ∧ event.isMark = false := by
    have hruns := q.compiler.alternation_runs ambient.cache q.state first
    generalize q.compiler.alternation ambient.cache q.state first = out at hruns ⊢
    cases hruns with
    | exhausted | built => simp [Event.switch?, Event.isMark]
    | cached | unbuilt => simp
  have hmarks : (q.compiler.alternation ambient.cache q.state first).2.2.filter Event.isMark =
      [] := List.filter_eq_nil_iff.mpr fun event hevent => by simp [(hquiet event hevent).2]
  rw [← hmarks]
  exact .of_quiet (q.compiler.alternation ambient.cache q.state first).2.2 []
    (by simp [alternation])
    (List.append_nil ambient.host.2).symm (fun event hevent => (hquiet event hevent).1) (by simp)

/-- What the predicate of a rule adds to the record. -/
theorem accepts_journaled {q : Query σ τ} (base : String) (place : List String) {rule : Rule σ τ}
    {found : Found} {ambient : Ambient (σ × List (HookCall τ))} {accepted : Bool}
    {host : σ × List (HookCall τ)}
    (h : q.recorded.accepts (rule.recorded q.state found.rule) found ambient.host =
      (accepted, host)) : Journaled base place place [] ambient { ambient with host } := by
  refine .of_calls rfl (accepts_called h) ?_
  intro call hcall
  rw [HookCall.switches, event_eq_of_testCalls hcall]

/-- **The search for a match** tells no switches and makes no marks. -/
theorem Runs.journaled {q : Query σ τ} (base : String) (place : List String)
    {attempts first : Nat} {ambient : Ambient (σ × List (HookCall τ))}
    {out : Except ConfigError (Option (Found × Rule (σ × List (HookCall τ)) τ)) ×
      Ambient (σ × List (HookCall τ))} (h : q.recorded.Runs attempts first ambient out) :
    Journaled base place place [] ambient out.2 := by
  have halternation {first : Nat} {a b : Ambient (σ × List (HookCall τ))}
      {result : Except ConfigError (Option Alternation)}
      (hq : q.recorded.alternation first a = (result, b)) :
      Journaled base place place [] a b := by
    have hnext := q.recorded.alternation_journaled base place first a
    rw [hq] at hnext
    exact hnext
  induction h with
  | spent => exact .refl base place _
  | unbuilt hq => exact halternation hq
  | exhausted hq => exact halternation hq
  | unmatched hq => exact (halternation hq).note rfl
  | unowned hq => exact halternation hq
  | accepted hq _ hrule haccepts =>
      rw [recorded_rules] at hrule
      obtain ⟨rule, -, rfl⟩ := Option.map_eq_some_iff.mp hrule
      exact ((halternation hq).trans (accepts_journaled base place haccepts)).note rfl
  | rejected hq _ hrule haccepts _ ih =>
      rw [recorded_rules] at hrule
      obtain ⟨rule, -, rfl⟩ := Option.map_eq_some_iff.mp hrule
      have hasked := (halternation hq).trans (accepts_journaled base place haccepts)
      exact (hasked.note rfl).trans ih

end Query

/-! ### Hooks on the record -/

namespace Lexer

/-- What the run of a recorded hook leaves: the call is on the record, and what the hook has told
belongs to it. -/
theorem Told.journaled {s t : Switching} {place' : List String} {call : HookCall τ}
    {ambient : Ambient (σ × List (HookCall τ))} {host : σ} {made : List SwitchMade}
    (h : Told made s t) (hjournal : s.journal = ambient.journal)
    (hplace : t.stack.place = place') (hcall : call.switches = made) :
    Journaled s.stack.names.baseName s.stack.place place' [] ambient
      { ambient with host := (host, ambient.host.2 ++ [call]), journal := t.journal } := by
  obtain ⟨events, hevents, hreplay, hmade, hmarks⟩ := h.written
  rw [hjournal] at hevents
  rw [hplace] at hreplay
  exact ⟨events, [call], hevents, rfl, hreplay, by simp [hmade, hcall], hmarks⟩

variable {rule : Rule σ τ} {state index : Nat} {ambient : Ambient (σ × List (HookCall τ))}

/-- **A `before` hook** tells the switches it was granted, each with the end of its match. -/
theorem runBefore_journaled {context : BeforeContext} {stack : StateStack} (h : stack.Valid)
    (hanchor : stack.anchor = context.matchEnd)
    {out : Except LexError Bool × StateStack × Ambient (σ × List (HookCall τ))}
    (hbefore : runBefore (rule.recorded state index) context stack ambient = out) :
    Journaled stack.names.baseName stack.place out.2.1.place [] ambient out.2.2 := by
  subst hbefore
  unfold runBefore Rule.recorded
  cases rule.before with
  | none => exact .refl _ _ ambient
  | some hook =>
      obtain ⟨talk, htalk, htold⟩ := run_told answerBefore_told (hook context ambient.host.1) []
        (s := ⟨stack, ambient.journal, false⟩) h
      dsimp only [Option.map_some]
      rw [recordedHook, Dialogue.run_bind]
      refine htold.journaled rfl rfl ?_
      rw [HookCall.switches, htalk, List.nil_append]
      dsimp only
      rw [hanchor]

/-- **An `after` hook** tells the switches it was granted, each with the end of its match. -/
theorem runAfter_journaled {p : Pending} {stream : TokenStream τ} (h : stream.stack.Valid)
    (hanchor : stream.stack.anchor = (p.context stream.input).matchEnd)
    {out : Except LexError Unit × StateStack × Ambient (σ × List (HookCall τ))}
    (hafter : runAfter (some (rule.recorded state index)) p stream ambient = out) :
    Journaled stream.stack.names.baseName stream.stack.place out.2.1.place [] ambient out.2.2 := by
  subst hafter
  unfold runAfter Rule.recorded
  cases rule.after with
  | none => exact .refl _ _ ambient
  | some hook =>
      cases stream.lastToken with
      | none => exact .refl _ _ ambient
      | some token =>
          obtain ⟨talk, htalk, htold⟩ := run_told answerSwitch_told
            (hook { p.context stream.input with position := stream.cursor, token } ambient.host.1)
            [] (s := ⟨stream.stack, ambient.journal, false⟩) h
          dsimp only [Option.map_some, Option.bind_some]
          rw [recordedHook, Dialogue.run_bind]
          refine htold.journaled rfl rfl ?_
          refine (congrArg (List.filterMap _) htalk).trans ?_
          dsimp only
          rw [hanchor]
          rfl

/-- A `fetch` hook does not switch states. -/
theorem runFetch_journaled (base : String) (place : List String) {context : FetchContext}
    {cursor : Nat} {out : Except LexError Nat × Ambient (σ × List (HookCall τ))}
    (h : runFetch (rule.recorded state index) context cursor ambient = out) :
    Journaled base place place [] ambient out.2 := by
  obtain ⟨talk, calls, -, hcalled, hrecord⟩ := runFetch_called ⟨state, index, 0, 0⟩ h
  refine .of_calls ?_ hrecord ?_
  · subst h
    rw [runFetch]
    split <;> rfl
  · intro call hcall
    rw [HookCall.switches, hcalled.event_eq hcall]

/-- Neither does what finds the value and the kind of a token. -/
theorem kindOf_journaled (base : String) (place : List String) {context : ValueContext}
    {matched kind : Text} {value : Value} {valued kinded : σ × List (HookCall τ)}
    (hvalue : valueOf (rule.recorded state index) context ambient.host = (value, valued))
    (hkind : kindOf (rule.recorded state index) matched valued = (kind, kinded)) :
    Journaled base place place [] ambient { ambient with host := kinded } := by
  have hrecord := kindOf_called ⟨state, index, 0, 0⟩ hkind
  rw [show valued.2 = _ from valueOf_called ⟨state, index, 0, 0⟩ hvalue,
    List.append_assoc] at hrecord
  refine .of_calls rfl hrecord ?_
  intro call hcall
  rcases List.mem_append.mp hcall with hcall | hcall
  · rw [Rule.valueCalls] at hcall
    split at hcall
    · obtain rfl := List.mem_singleton.mp hcall
      rfl
    · exact absurd hcall (by simp)
  · rw [Rule.kindCalls] at hcall
    split at hcall
    · obtain rfl := List.mem_singleton.mp hcall
      rfl
    · exact absurd hcall (by simp)

end Lexer

end ModalLex
