import ModalLex.Proofs.Alternation.Report
import ModalLex.Proofs.Lexer.Courses
import ModalLex.Proofs.StateStack
import ModalLex.Proofs.Window

/-!
# What an Attempt Can Do

What an attempt comes to is told here without the hooks that it runs. `Attempted` lists the
answers of its courses (`AttemptRuns`) with the streams that they leave, and with all that is known
of these whatever the hooks are. For the hooks are opaque, but what they can ask for is not: a hook
that switches states leaves a stack that is `Switched`, and a hook that extends a token leaves a
cursor on a boundary behind the match. The invariants of runs are read off these cases.

## Main results

* `Dialogue.run_kept`: what every answer keeps, a whole dialogue keeps.
* `AttemptRuns.attempted`: **what an attempt can come to.**
-/

namespace ModalLex

/-- What every answer keeps, a whole dialogue keeps. -/
theorem Dialogue.run_kept {Ask : Type} {Reply : Ask → Type} {α β : Type}
    {answer : (q : Ask) → β → Reply q × β} (kept : β → Prop)
    (h : ∀ q s, kept s → kept (answer q s).2) (d : Dialogue Ask Reply α) {s : β}
    (hs : kept s) : kept (d.run answer s).2 := by
  induction d generalizing s with
  | done result => exact hs
  | ask q next ih =>
      rw [Dialogue.run]
      exact ih _ (h q s hs)

variable {σ τ : Type}

/-- A resolved match is a match of some alternation at the offset, and its rule is one of the
rules. -/
theorem Query.resolveFrom_some {q : Query σ τ} {attempts first : Nat}
    {ambient ambient' : Ambient σ} {found : Found} {rule : Rule σ τ}
    (h : q.resolveFrom attempts first ambient = (.ok (some (found, rule)), ambient')) :
    (∃ a : Alternation, a.matchAt q.input q.offset = some found) ∧
      q.rules[found.rule]? = some rule := by
  replace h := Query.runs_iff.mpr h
  generalize hout : (Except.ok (some (found, rule)), ambient') = out at h
  induction h with
  | spent | unbuilt | exhausted | unmatched | unowned => exact absurd hout (by simp)
  | accepted _ hmatch hrule _ =>
      simp only [Prod.mk.injEq, Except.ok.injEq, Option.some.injEq] at hout
      obtain ⟨⟨rfl, rfl⟩, -⟩ := hout
      exact ⟨⟨_, hmatch⟩, hrule⟩
  | rejected _ _ _ _ _ ih => exact ih hout

namespace Lexer

/-! ### Hooks -/

/-- Whatever is asked about states, the stack only changes by switches. -/
theorem answerSwitch_switched {origin : StateStack} (ask : SwitchAsk) (s : Switching)
    (h : origin.Switched s.stack) : origin.Switched (answerSwitch ask s).2.stack := by
  cases ask with
  | push name =>
      rw [answerSwitch]
      split
      · exact h
      · next stack hstack => exact h.push hstack
  | pop =>
      rw [answerSwitch]
      split
      · exact h
      · next stack hstack => exact h.pop hstack
  | currentState => exact h

theorem answerBefore_switched {origin : StateStack} (ask : BeforeAsk) (s : Switching)
    (h : origin.Switched s.stack) : origin.Switched (answerBefore ask s).2.stack := by
  cases ask with
  | switch ask => exact answerSwitch_switched ask s h
  | abort => exact h

/-- A `before` hook only switches states. -/
theorem runBefore_switched {rule : Rule σ τ} {context : BeforeContext} {stack left : StateStack}
    {ambient ambient' : Ambient σ} {result : Except LexError Bool}
    (h : runBefore rule context stack ambient = (result, left, ambient')) :
    stack.Switched left := by
  obtain rfl : (runBefore rule context stack ambient).2.1 = left := by rw [h]
  rw [runBefore]
  split
  · exact .refl
  · exact Dialogue.run_kept (fun s : Switching => stack.Switched s.stack)
      answerBefore_switched _ .refl

/-- An `after` hook only switches states. -/
theorem runAfter_switched {rule : Option (Rule σ τ)} {pending : Pending}
    {stream : TokenStream τ} {left : StateStack} {ambient ambient' : Ambient σ}
    {result : Except LexError Unit}
    (h : runAfter rule pending stream ambient = (result, left, ambient')) :
    stream.stack.Switched left := by
  obtain rfl : (runAfter rule pending stream ambient).2.1 = left := by rw [h]
  rw [runAfter]
  split
  · exact Dialogue.run_kept (fun s : Switching => stream.stack.Switched s.stack)
      answerSwitch_switched _ .refl
  · exact .refl

/-- Whatever a `fetch` hook asks for, the window stays in bounds. -/
theorem answerFetch_within {input : Text} {boundary : Nat} (ask : FetchAsk) (w : Window)
    (h : w.Within ∧ w.input = input ∧ w.boundary = boundary) :
    (answerFetch ask w).2.Within ∧ (answerFetch ask w).2.input = input ∧
      (answerFetch ask w).2.boundary = boundary := by
  obtain ⟨hw, rfl, rfl⟩ := h
  cases ask with
  | peek => exact ⟨hw, rfl, rfl⟩
  | next => exact ⟨hw.next, w.next_input, w.next_boundary⟩
  | back count =>
      rw [answerFetch]
      split
      · next moved hm => exact hw.back hm
      · exact ⟨hw, rfl, rfl⟩
  | advanceTo offset =>
      rw [answerFetch]
      split
      · next moved hm => exact hw.advanceTo hm
      · exact ⟨hw, rfl, rfl⟩
  | position => exact ⟨hw, rfl, rfl⟩

/-- A `fetch` hook that succeeds ends on a boundary that is not before the match end. -/
theorem runFetch_ok {rule : Rule σ τ} {context : FetchContext} {cursor stop : Nat}
    {ambient ambient' : Ambient σ} (hcursor : context.input.isBoundary cursor = true)
    (h : runFetch rule context cursor ambient = (.ok stop, ambient')) :
    cursor ≤ stop ∧ context.input.isBoundary stop = true := by
  rw [runFetch] at h
  split at h
  · obtain ⟨hstop, -⟩ := Prod.mk.inj h
    obtain rfl := Except.ok.inj hstop
    exact ⟨Nat.le_refl _, hcursor⟩
  · next hook _ =>
      dsimp only at h
      obtain ⟨hresult, -⟩ := Prod.mk.inj h
      obtain ⟨hw, hinput, hboundary⟩ := Dialogue.run_kept
        (fun w : Window => w.Within ∧ w.input = context.input ∧ w.boundary = cursor)
        answerFetch_within (hook context ambient.host) (s := ⟨context.input, cursor, cursor⟩)
        ⟨⟨hcursor, Nat.le_refl _⟩, rfl, rfl⟩
      revert hresult
      cases ((hook context ambient.host).run answerFetch ⟨context.input, cursor, cursor⟩).1.1 with
      | error e => exact fun hresult => absurd hresult (by simp [Except.map])
      | ok _ =>
          intro hresult
          rw [← Except.ok.inj hresult]
          have hle := hw.boundary_le
          have hcursor := hw.cursor_isBoundary
          rw [hboundary] at hle
          rw [hinput] at hcursor
          exact ⟨hle, hcursor⟩

/-! ### Attempts -/

/-- A match that is resolved for a stream under some ambient. -/
def Resolves (lexer : Lexer σ τ) (stream : TokenStream τ) (ambient : Ambient σ) (found : Found)
    (rule : Rule σ τ) : Prop :=
  ∃ ambient', (lexer.query stream).resolve ambient = (.ok (some (found, rule)), ambient')

/-- The courses that an attempt can take, with what it answers and the stream that it leaves. -/
inductive Attempted (lexer : Lexer σ τ) (stream : TokenStream τ) (ambient : Ambient σ) :
    Attempt τ → TokenStream τ → Prop
  /-- Nothing is resolved. -/
  | unresolved {e : LexError} : Attempted lexer stream ambient (.failed e) stream
  /-- The `before` hook fails. -/
  | beforeFailed {found : Found} {rule : Rule σ τ} {stack : StateStack} {e : LexError} :
      lexer.Resolves stream ambient found rule →
      (stream.stack.setAnchor found.stop).Switched stack →
      Attempted lexer stream ambient (.failed e) { stream with stack }
  /-- The `before` hook aborts. -/
  | aborted {found : Found} {rule : Rule σ τ} {stack : StateStack} :
      lexer.Resolves stream ambient found rule →
      (stream.stack.setAnchor found.stop).Switched stack →
      Attempted lexer stream ambient .aborted
        { stream with
          cursor := stream.stack.anchor
          stack := stack.setAnchor stream.stack.anchor }
  /-- The `fetch` hook fails. -/
  | fetchFailed {found : Found} {rule : Rule σ τ} {stack : StateStack} {e : LexError} :
      lexer.Resolves stream ambient found rule →
      (stream.stack.setAnchor found.stop).Switched stack →
      Attempted lexer stream ambient (.failed e) { stream with stack, cursor := stack.anchor }
  /-- A token is made. -/
  | token {found : Found} {rule : Rule σ τ} {stack : StateStack} {cursor : Nat} {kind : Text}
      {value : Value} :
      lexer.Resolves stream ambient found rule →
      (stream.stack.setAnchor found.stop).Switched stack →
      (stream.input.isBoundary stack.anchor = true →
        stack.anchor ≤ cursor ∧ stream.input.isBoundary cursor = true) →
      Attempted lexer stream ambient
        (.token (lexer.factory
          { kind, value, start := stream.stack.anchor, stop := cursor } stream.input))
        { stream with
          stack
          cursor
          lastToken := some (lexer.factory
            { kind, value, start := stream.stack.anchor, stop := cursor } stream.input)
          pending := some
            { state := stream.stack.current
              rule := found.rule
              start := stream.stack.anchor
              matchEnd := found.stop } }

/-- **What an attempt can come to.** -/
theorem AttemptRuns.attempted {lexer : Lexer σ τ} {stream : TokenStream τ} {ambient : Ambient σ}
    {out : Attempt τ × TokenStream τ × Ambient σ} (h : AttemptRuns lexer stream ambient out) :
    Attempted lexer stream ambient out.1 out.2.1 := by
  cases h with
  | unbuilt => exact .unresolved
  | unmatched => exact .unresolved
  | beforeFailed hresolve hbefore =>
      exact .beforeFailed ⟨_, hresolve⟩ (runBefore_switched hbefore)
  | aborted hresolve hbefore =>
      exact .aborted ⟨_, hresolve⟩ (runBefore_switched hbefore)
  | fetchFailed hresolve hbefore =>
      exact .fetchFailed ⟨_, hresolve⟩ (runBefore_switched hbefore)
  | token hresolve hbefore hfetch =>
      exact .token ⟨_, hresolve⟩ (runBefore_switched hbefore) fun h => runFetch_ok h hfetch

end Lexer

end ModalLex
