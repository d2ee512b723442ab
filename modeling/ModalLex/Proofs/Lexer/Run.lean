import ModalLex.Proofs.Alternation.Coherence

/-!
# Runs

A stream is **sound** when its offsets are boundaries of the input, its stack is in order and the
match whose `after` hook has still to run fits (`Sound`). It is **ready** when no such match is
left and the current state stands at the cursor (`Ready`): that is how every attempt finds it.
This module shows that pulls keep streams sound and get them ready, and that a pull tells the
truth about where it went (`Pulled`): a token begins at the cursor before and ends at the cursor
behind, and the end is only reported at the end of the input.

`Reaches` describes the runs of a lexer: any number of pulls, each with an allowance of its own
and with whatever other runs and the host have done in between, as long as the cache is coherent.

## Main results

* `Ready.attempted`, `Ready.scanned`, `Rested.pulled`: what one attempt, one search for a token
  and one pull lead to.
* `AtLoopHead.ready`: every search for a match begins with a stream that is ready.
* `Reaches.rested`: **every stream that a run reaches is sound**, and as long as the run is not
  finished its next attempt will find it ready.
-/

namespace ModalLex.Lexer

variable {σ τ : Type}

/-- The match whose `after` hook has still to run fits the place that a stream has come to: its
rule exists, it lies on boundaries before the cursor, and the current state stands at its end. -/
structure PendingFits (lexer : Lexer σ τ) (input : Text) (cursor anchor : Nat) (p : Pending) :
    Prop where
  state_lt : p.state < lexer.names.count
  rule_lt : p.rule < (lexer.rulesOf p.state).length
  start_isBoundary : input.isBoundary p.start = true
  matchEnd_isBoundary : input.isBoundary p.matchEnd = true
  start_le : p.start ≤ p.matchEnd
  matchEnd_le : p.matchEnd ≤ cursor
  anchor_eq : anchor = p.matchEnd

/-- A stream whose offsets are boundaries of its input and whose states are states of the lexer. -/
structure Sound (lexer : Lexer σ τ) (stream : TokenStream τ) : Prop where
  valid : stream.stack.Valid
  names_eq : stream.stack.names = lexer.names
  cursor_isBoundary : stream.input.isBoundary stream.cursor = true
  anchors_isBoundary : ∀ a ∈ stream.stack.anchors, stream.input.isBoundary a = true
  pending_fits : ∀ p ∈ stream.pending,
    lexer.PendingFits stream.input stream.cursor stream.stack.anchor p

/-- A sound stream as every attempt finds it: no `after` hook is left to run, and the current
state stands at the cursor. -/
structure Ready (lexer : Lexer σ τ) (stream : TokenStream τ) : Prop
    extends Sound lexer stream where
  pending_none : stream.pending = none
  anchor_eq : stream.stack.anchor = stream.cursor

variable {lexer : Lexer σ τ} {stream stream' : TokenStream τ} {ambient : Ambient σ}

/-- The anchor of the current state lies on a boundary. -/
theorem Sound.anchor_isBoundary (h : Sound lexer stream) :
    stream.input.isBoundary stream.stack.anchor = true :=
  h.anchors_isBoundary _ h.valid.anchor_mem

/-! ### Attempts -/

/-- A resolved match ends on a boundary behind the anchor, and its rule exists. -/
theorem Sound.resolves (h : Sound lexer stream) {found : Found} {rule : Rule σ τ}
    (hr : lexer.Resolves stream ambient found rule) :
    stream.stack.anchor ≤ found.stop ∧ stream.input.isBoundary found.stop = true ∧
      found.rule < (lexer.rulesOf stream.stack.current).length := by
  obtain ⟨ambient', hr⟩ := hr
  obtain ⟨⟨a, ha⟩, hrule⟩ := Query.resolveFrom_some hr
  obtain ⟨-, hle, hstop⟩ := Alternation.matchAt_span h.anchor_isBoundary ha
  obtain ⟨hlt, -⟩ := List.getElem?_eq_some_iff.mp hrule
  exact ⟨hle, hstop, hlt⟩

/-- The stack that a hook leaves, where the match has moved the anchor first. -/
theorem Sound.switched (h : Sound lexer stream) {stop : Nat} {stack : StateStack}
    (hstop : stream.input.isBoundary stop = true)
    (hs : (stream.stack.setAnchor stop).Switched stack) :
    stack.Valid ∧ stack.names = lexer.names ∧ stack.anchor = stop ∧
      ∀ a ∈ stack.anchors, stream.input.isBoundary a = true := by
  have hvalid := h.valid.setAnchor stop
  have hmoved := hvalid.moved_switched hs
  refine ⟨hmoved.valid, hmoved.names.trans h.names_eq,
    hmoved.anchor.trans (h.valid.anchor_setAnchor stop), ?_⟩
  intro a ha
  rcases StateStack.mem_anchors_setAnchor (hmoved.anchors a ha) with rfl | ha
  · exact hstop
  · exact h.anchors_isBoundary a ha

/-- What an attempt leads to, from a stream that is ready. -/
inductive Pulled (lexer : Lexer σ τ) (stream : TokenStream τ) :
    Pull τ → TokenStream τ → Prop
  /-- A token begins at the cursor before and ends at the cursor behind. -/
  | token {base : BaseToken} {stream' : TokenStream τ} :
      Sound lexer stream' → stream'.pending ≠ none → base.start = stream.cursor →
      base.start ≤ base.stop → base.stop = stream'.cursor →
      Pulled lexer stream (.token (lexer.factory base stream.input)) stream'
  | failed {e : LexError} {stream' : TokenStream τ} :
      Sound lexer stream' → Pulled lexer stream (.failed e) stream'
  /-- The end is reported at the end of the input. -/
  | ended {stream' : TokenStream τ} :
      Sound lexer stream' → stream'.cursor = stream.cursor →
      stream.cursor = stream.input.byteLength → Pulled lexer stream .ended stream'
  | stalled {stream' : TokenStream τ} :
      Ready lexer stream' → stream'.cursor = stream.cursor → Pulled lexer stream .stalled stream'

/-- What an attempt answers, as the answer of a pull. -/
def Attempt.toPull : Attempt τ → Pull τ
  | .token t => .token t
  | .failed e => .failed e
  | .aborted => .stalled

/-- An attempt keeps the input. -/
theorem Attempted.input_eq {out : Attempt τ} (h : Attempted lexer stream ambient out stream') :
    stream'.input = stream.input := by
  cases h <;> rfl

/-- An attempt does not close the run. -/
theorem Attempted.finished_eq {out : Attempt τ} (h : Attempted lexer stream ambient out stream') :
    stream'.finished = stream.finished := by
  cases h <;> rfl

/-- **One attempt.** From a stream that is ready, an attempt makes a token that begins at the
cursor, fails, or is aborted and leaves the stream ready at the same cursor. -/
theorem Ready.attempted (h : Ready lexer stream) {out : Attempt τ}
    (ha : Attempted lexer stream ambient out stream') :
    Pulled lexer stream out.toPull stream' := by
  cases ha with
  | unresolved => exact .failed h.toSound
  | beforeFailed hr hs =>
      obtain ⟨hle, hstop, -⟩ := h.resolves hr
      obtain ⟨hvalid, hnames, hanchor, hanchors⟩ := h.switched hstop hs
      exact .failed ⟨hvalid, hnames, h.cursor_isBoundary, hanchors, by simp [h.pending_none]⟩
  | aborted hr hs =>
      obtain ⟨hle, hstop, -⟩ := h.resolves hr
      obtain ⟨hvalid, hnames, hanchor, hanchors⟩ := h.switched hstop hs
      refine .stalled ⟨⟨hvalid.setAnchor _, hnames, h.anchor_isBoundary, ?_,
        by simp [h.pending_none]⟩, h.pending_none, hvalid.anchor_setAnchor _⟩ h.anchor_eq
      intro a ha
      rcases StateStack.mem_anchors_setAnchor ha with rfl | ha
      · exact h.anchor_isBoundary
      · exact hanchors a ha
  | fetchFailed hr hs =>
      obtain ⟨hle, hstop, -⟩ := h.resolves hr
      obtain ⟨hvalid, hnames, hanchor, hanchors⟩ := h.switched hstop hs
      exact .failed ⟨hvalid, hnames, hanchor ▸ hstop, hanchors, by simp [h.pending_none]⟩
  | token hr hs hfetch =>
      obtain ⟨hle, hstop, hrule⟩ := h.resolves hr
      obtain ⟨hvalid, hnames, hanchor, hanchors⟩ := h.switched hstop hs
      obtain ⟨hcursor, hboundary⟩ := hfetch (hanchor ▸ hstop)
      rw [hanchor] at hcursor
      refine .token ⟨hvalid, hnames, hboundary, hanchors, ?_⟩ (by simp) h.anchor_eq
        (Nat.le_trans hle hcursor) rfl
      intro p hp
      obtain rfl := Option.some.inj hp
      exact ⟨h.names_eq ▸ h.valid.current_lt, hrule, h.anchor_isBoundary, hstop, hle, hcursor,
        hanchor⟩

/-- An attempt whose match is aborted leaves the stream ready at the same cursor. -/
theorem Ready.aborted (h : Ready lexer stream) {ambient' : Ambient σ}
    (hruns : AttemptRuns lexer stream ambient (.aborted, stream', ambient')) :
    Ready lexer stream' ∧ stream'.cursor = stream.cursor ∧ stream'.input = stream.input := by
  have hpulled := h.attempted hruns.attempted
  rw [Attempt.toPull] at hpulled
  cases hpulled with
  | stalled hready hcursor => exact ⟨hready, hcursor, hruns.attempted.input_eq⟩

/-! ### Pulls -/

/-- A search keeps the input and does not close the run. -/
theorem ScanRuns.frame {attempts : Nat} {out : Pull τ × TokenStream τ × Ambient σ}
    (h : ScanRuns lexer attempts stream ambient out) :
    out.2.1.input = stream.input ∧ out.2.1.finished = stream.finished := by
  induction h with
  | stalled => exact ⟨rfl, rfl⟩
  | ended => exact ⟨rfl, rfl⟩
  | token _ hattempt => exact ⟨hattempt.attempted.input_eq, hattempt.attempted.finished_eq⟩
  | failed _ hattempt => exact ⟨hattempt.attempted.input_eq, hattempt.attempted.finished_eq⟩
  | again _ hattempt _ ih =>
      exact ⟨ih.1.trans hattempt.attempted.input_eq, ih.2.trans hattempt.attempted.finished_eq⟩

/-- A pull that goes on from a stream at the same cursor of the same input leads to the same. -/
theorem Pulled.of_cursor_eq {out : Pull τ} {stream₁ : TokenStream τ}
    (h : Pulled lexer stream₁ out stream') (hcursor : stream₁.cursor = stream.cursor)
    (hinput : stream₁.input = stream.input) : Pulled lexer stream out stream' := by
  cases h with
  | token hsound hpending hstart hle hstop =>
      rw [hinput]
      exact .token hsound hpending (hstart.trans hcursor) hle hstop
  | failed hsound => exact .failed hsound
  | ended hsound hc hend =>
      exact .ended hsound (hc.trans hcursor) (by rw [← hcursor, hend, hinput])
  | stalled hready hc => exact .stalled hready (hc.trans hcursor)

/-- **Attempts until one is not aborted.** Aborted attempts leave the stream ready at the same
cursor, so the attempt that ends the search speaks for all of them. -/
theorem Ready.scanned (h : Ready lexer stream) {attempts : Nat}
    {out : Pull τ × TokenStream τ × Ambient σ}
    (hruns : ScanRuns lexer attempts stream ambient out) :
    Pulled lexer stream out.1 out.2.1 := by
  induction hruns with
  | stalled => exact .stalled h rfl
  | ended hends =>
      have hle := Text.le_byteLength_of_isBoundary h.cursor_isBoundary
      exact .ended h.toSound rfl (by omega)
  | token _ hattempt => exact h.attempted hattempt.attempted
  | failed _ hattempt => exact h.attempted hattempt.attempted
  | again _ hattempt _ ih =>
      obtain ⟨hready, hcursor, hinput⟩ := h.aborted hattempt
      exact (ih hready).of_cursor_eq hcursor hinput

/-- A sound stream between pulls: unless the run is finished or an `after` hook is left to run,
the current state stands at the cursor. -/
structure Rested (lexer : Lexer σ τ) (stream : TokenStream τ) : Prop
    extends Sound lexer stream where
  synced : stream.finished = false → stream.pending = none →
    stream.stack.anchor = stream.cursor

/-- Finishing the token before leaves the cursor where it is, and the stream ready unless the
hook fails. -/
theorem Rested.finishRuns (h : Rested lexer stream) (hopen : stream.finished = false)
    {out : Except LexError Unit × TokenStream τ × Ambient σ}
    (hruns : FinishRuns lexer stream ambient out) :
    out.2.1.input = stream.input ∧ out.2.1.cursor = stream.cursor ∧
      out.2.1.finished = stream.finished ∧ Sound lexer out.2.1 ∧
      (out.1 = .ok () → Ready lexer out.2.1) := by
  cases hruns with
  | idle hpending =>
      exact ⟨rfl, rfl, rfl, h.toSound, fun _ => ⟨h.toSound, hpending, h.synced hopen hpending⟩⟩
  | afterFailed _ hafter =>
      have hmoved := h.valid.moved_switched (runAfter_switched hafter)
      exact ⟨rfl, rfl, rfl, ⟨hmoved.valid, hmoved.names.trans h.names_eq, h.cursor_isBoundary,
        fun a ha => h.anchors_isBoundary a (hmoved.anchors a ha), by simp⟩, by simp⟩
  | @finished p stack ambient₁ _ hafter =>
      have hmoved := h.valid.moved_switched (runAfter_switched hafter)
      have hsound : Sound lexer
          { stream with pending := none, stack := stack.setAnchor stream.cursor } := by
        refine ⟨hmoved.valid.setAnchor _, hmoved.names.trans h.names_eq, h.cursor_isBoundary, ?_,
          by simp⟩
        intro a ha
        rcases StateStack.mem_anchors_setAnchor ha with rfl | ha
        · exact h.cursor_isBoundary
        · exact h.anchors_isBoundary a (hmoved.anchors a ha)
      exact ⟨rfl, rfl, rfl, hsound, fun _ => ⟨hsound, rfl, hmoved.valid.anchor_setAnchor _⟩⟩

/-- **Between two pulls the end of the token before leaves a sound stream**, at the same cursor; if
its hook succeeds the stream is ready for an attempt. -/
theorem Rested.finishPending (h : Rested lexer stream) (hopen : stream.finished = false)
    (ambient : Ambient σ) :
    (lexer.finishPending stream ambient).2.1.input = stream.input ∧
      (lexer.finishPending stream ambient).2.1.cursor = stream.cursor ∧
      (lexer.finishPending stream ambient).2.1.finished = stream.finished ∧
      Sound lexer (lexer.finishPending stream ambient).2.1 ∧
      ((lexer.finishPending stream ambient).1 = .ok () →
        Ready lexer (lexer.finishPending stream ambient).2.1) :=
  h.finishRuns hopen (lexer.finishPending_runs stream ambient)

/-- A sound stream that is closed is sound. -/
theorem Sound.finish (h : Sound lexer stream) : Sound lexer { stream with finished := true } :=
  ⟨h.valid, h.names_eq, h.cursor_isBoundary, h.anchors_isBoundary, h.pending_fits⟩

/-- Closing an answer leads where the answer leads, and finishes the run exactly when the answer is
an error or the end. -/
theorem Pulled.closed {answer : Pull τ} (h : Pulled lexer stream answer stream')
    (hopen : stream'.finished = false) (ambient' : Ambient σ) :
    Rested lexer (close (answer, stream', ambient')).2.1 ∧
      Pulled lexer stream (close (answer, stream', ambient')).1
        (close (answer, stream', ambient')).2.1 ∧
      ((close (answer, stream', ambient')).2.1.finished = false ↔
        (close (answer, stream', ambient')).1 ≠ .ended ∧
          ∀ e, (close (answer, stream', ambient')).1 ≠ .failed e) := by
  cases h with
  | token hsound hpending hstart hle hstop =>
      exact ⟨⟨hsound, fun _ hnone => absurd hnone hpending⟩,
        .token hsound hpending hstart hle hstop, by simpa [close] using hopen⟩
  | failed hsound =>
      exact ⟨⟨hsound.finish, by simp [close]⟩, .failed hsound.finish, by simp [close]⟩
  | ended hsound hcursor hend =>
      exact ⟨⟨hsound.finish, by simp [close]⟩, .ended hsound.finish hcursor hend, by simp [close]⟩
  | stalled hready hcursor =>
      exact ⟨⟨hready.toSound, fun _ _ => hready.anchor_eq⟩, .stalled hready hcursor,
        by simpa [close] using hopen⟩

/-- **One pull.** It keeps the input and leaves the stream rested; and unless the run was finished
before, it leads where one search for a token leads, and finishes the run exactly when it fails
or reports the end. -/
theorem Rested.pulled (h : Rested lexer stream) (attempts : Nat) (ambient : Ambient σ) :
    (lexer.pull attempts stream ambient).2.1.input = stream.input ∧
      Rested lexer (lexer.pull attempts stream ambient).2.1 ∧
      (stream.finished = true → lexer.pull attempts stream ambient = (.ended, stream, ambient)) ∧
      (stream.finished = false →
        Pulled lexer stream (lexer.pull attempts stream ambient).1
          (lexer.pull attempts stream ambient).2.1 ∧
        ((lexer.pull attempts stream ambient).2.1.finished = false ↔
          (lexer.pull attempts stream ambient).1 ≠ .ended ∧
            ∀ e, (lexer.pull attempts stream ambient).1 ≠ .failed e)) := by
  have hruns := lexer.pull_runs attempts stream ambient
  generalize lexer.pull attempts stream ambient = out at hruns
  cases hruns with
  | closed hclosed => exact ⟨rfl, h, fun _ => rfl, by simp [hclosed]⟩
  | @misplaced e hopen _ =>
      have hpulled : Pulled lexer stream (.failed e) { stream with startError := none } := .failed
        ⟨h.valid, h.names_eq, h.cursor_isBoundary, h.anchors_isBoundary, h.pending_fits⟩
      obtain ⟨hrested, hclosed⟩ := hpulled.closed hopen ambient
      exact ⟨rfl, hrested, by simp [hopen], fun _ => hclosed⟩
  | @unfinished e stream₁ ambient₁ hopen _ hfinish =>
      obtain ⟨hinput, -, hfinished, hsound, -⟩ := h.finishRuns hopen hfinish
      have hpulled : Pulled lexer stream (.failed e) stream₁ := .failed hsound
      obtain ⟨hrested, hclosed⟩ := hpulled.closed (hfinished.trans hopen) ambient₁
      exact ⟨hinput, hrested, by simp [hopen], fun _ => hclosed⟩
  | searched hopen _ hfinish hscan =>
      obtain ⟨hinput, hcursor, hfinished, -, hready⟩ := h.finishRuns hopen hfinish
      have hpulled := ((hready rfl).scanned hscan).of_cursor_eq hcursor hinput
      obtain ⟨hrested, hclosed⟩ :=
        hpulled.closed (hscan.frame.2.trans (hfinished.trans hopen)) _
      exact ⟨(close_input _).trans (hscan.frame.1.trans hinput), hrested, by simp [hopen],
        fun _ => hclosed⟩

/-! ### Runs -/

/-- The answers and the streams that a run over an input from some offset can reach. Each pull
has its own allowance of attempts. What other runs of the lexer and the host have done before it
is in its ambient, of which only the coherence of the cache is known. -/
inductive Reaches (lexer : Lexer σ τ) (input : Text) (start : Nat) :
    List (Pull τ) → TokenStream τ → Prop
  | start : Reaches lexer input start [] (lexer.tokenizeFrom input start).1
  | pull {items : List (Pull τ)} {stream : TokenStream τ} (attempts : Nat)
      (ambient : Ambient σ) :
      Reaches lexer input start items stream → lexer.compiler.Coherent ambient.cache →
      Reaches lexer input start (items ++ [(lexer.pull attempts stream ambient).1])
        (lexer.pull attempts stream ambient).2.1

/-- A run that starts on a boundary is not refused. -/
theorem startError?_eq_none {input : Text} {start : Nat} (h : input.isBoundary start = true) :
    startError? input start = none := by
  have hle := Text.le_byteLength_of_isBoundary h
  simp [startError?, h, Nat.not_lt.mpr hle]

/-- The stream that a run starts with, whether or not the offset is valid. -/
theorem tokenizeFrom_rested (hnames : lexer.names.Resolved) (input : Text)
    (start : Nat) : Rested lexer (lexer.tokenizeFrom input start).1 := by
  have hoffset : input.isBoundary
      (if (startError? input start).isSome then 0 else start) = true := by
    rw [startError?]
    split
    · simp
    · split
      · simp
      · next hboundary => simpa using hboundary
  rw [tokenizeFrom]
  dsimp only
  refine ⟨⟨StateStack.valid_start hnames _, rfl, hoffset, ?_, by simp⟩, fun _ _ =>
    StateStack.anchor_start hnames _⟩
  intro a ha
  obtain ⟨-, rfl⟩ := List.mem_replicate.mp ha
  exact hoffset

/-- **Every stream that a run reaches is sound.** -/
theorem Reaches.rested {input : Text} {start : Nat} {items : List (Pull τ)}
    (hnames : lexer.names.Resolved)
    (h : Reaches lexer input start items stream) :
    stream.input = input ∧ Rested lexer stream := by
  induction h with
  | start => exact ⟨rfl, tokenizeFrom_rested hnames input start⟩
  | pull attempts ambient _ _ ih =>
      obtain ⟨hinput, hrested⟩ := ih
      obtain ⟨hinput', hrested', -⟩ := hrested.pulled attempts ambient
      exact ⟨hinput'.trans hinput, hrested'⟩

/-- The streams with which the search for a match begins: when the token before is finished, and
again after every aborted match. -/
inductive AtLoopHead (lexer : Lexer σ τ) (input : Text) (start : Nat) : TokenStream τ → Prop
  | entered {items : List (Pull τ)} {stream stream' : TokenStream τ}
      {ambient ambient' : Ambient σ} :
      Reaches lexer input start items stream → stream.finished = false →
      stream.startError = none → lexer.finishPending stream ambient = (.ok (), stream', ambient') →
      AtLoopHead lexer input start stream'
  | again {stream stream' : TokenStream τ} {ambient ambient' : Ambient σ} :
      AtLoopHead lexer input start stream → stream.cursor < stream.input.byteLength →
      lexer.attempt stream ambient = (.aborted, stream', ambient') →
      AtLoopHead lexer input start stream'

/-- At the head of the loop a stream is ready for an attempt. -/
theorem AtLoopHead.ready {input : Text} {start : Nat}
    (hnames : lexer.names.Resolved) (h : AtLoopHead lexer input start stream) :
    Ready lexer stream := by
  induction h with
  | entered hreach hopen _ hfinish =>
      obtain ⟨-, -, -, -, hready⟩ :=
        (hreach.rested hnames).2.finishRuns hopen (finishRuns_iff.mpr hfinish)
      exact hready rfl
  | again _ _ hattempt ih => exact (ih.aborted (attemptRuns_iff.mpr hattempt)).1

end ModalLex.Lexer
