import ModalLex.Proofs.Lexer.Lifecycle
import ModalLex.Proofs.Lexer.Resuming

/-!
# Aborted Matches

When the `before` hook of a match aborts, the match has already been at work: the anchor of the
state that it was made in stands at its end, and every push and pop of the hook has copied that
anchor on. Only the state that is current in the end is set back to where the match began. The
others keep an anchor that no match was granted.

These anchors are never read, since a state only becomes current by a switch, and a switch brings
the current anchor along (`reports_bare`). So a stream behind an aborted match is, for all that
can be told, a stream that came to the head of the loop of attempts with that stack in the first
place.

What is left of a pull behind an aborted match is the pull of the stream found there, with one
attempt less (`HeadAt.pull_aborted`).

## Main results

* `HeadAt.aborted`: behind an aborted match the loop is at its head again, at the same place.
* `HeadAt.reports_aborted`: from there on, the run reports what any stream at that head reports.
* `aborted_match_leaves_stack`: **an aborted match leaves no trace but the stack**.
-/

namespace ModalLex.Lexer

variable {σ τ : Type} {lexer : Lexer σ τ} {input : Text} {start cursor : Nat} {stack : List Nat}
  {lastToken : Option τ} {s t : TokenStream τ} {a b : Ambient σ}

/-! ### The head of the loop -/

/-- A stream at the head of the loop of attempts, with a cursor, a stack of states and a token
before. The anchors of the states that are not current are left open. -/
structure HeadAt (lexer : Lexer σ τ) (input : Text) (cursor : Nat) (stack : List Nat)
    (lastToken : Option τ) (s : TokenStream τ) : Prop extends Ready lexer s where
  input_eq : s.input = input
  cursor_eq : s.cursor = cursor
  stack_eq : s.stack.stack = stack
  lastToken_eq : s.lastToken = lastToken
  startError_eq : s.startError = none
  finished_eq : s.finished = false

/-- Streams at the same head differ in anchors alone. -/
theorem HeadAt.bare_eq (hs : HeadAt lexer input cursor stack lastToken s)
    (ht : HeadAt lexer input cursor stack lastToken t) : s.bare = t.bare := by
  simp only [TokenStream.bare, StateStack.bare, hs.input_eq, hs.cursor_eq, hs.stack_eq,
    hs.lastToken_eq, hs.startError_eq, hs.finished_eq, hs.pending_none, hs.names_eq, ht.input_eq,
    ht.cursor_eq, ht.stack_eq, ht.lastToken_eq, ht.startError_eq, ht.finished_eq,
    ht.pending_none, ht.names_eq]

theorem HeadAt.rested (h : HeadAt lexer input cursor stack lastToken s) : Rested lexer s :=
  ⟨h.toSound, fun _ _ => h.anchor_eq⟩

/-- Streams are ready for the lexer that records its hooks exactly if they are for the lexer. -/
theorem ready_recorded : Ready lexer.recorded s ↔ Ready lexer s := by
  constructor
  · rintro ⟨⟨hvalid, hnames, hcursor, hanchors, -⟩, hpending, hanchor⟩
    exact ⟨⟨hvalid, hnames, hcursor, hanchors, by simp [hpending]⟩, hpending, hanchor⟩
  · rintro ⟨⟨hvalid, hnames, hcursor, hanchors, -⟩, hpending, hanchor⟩
    exact ⟨⟨hvalid, hnames, hcursor, hanchors, by simp [hpending]⟩, hpending, hanchor⟩

/-- A lexer that records its hooks comes to the same heads. -/
theorem headAt_recorded : HeadAt lexer.recorded input cursor stack lastToken s ↔
    HeadAt lexer input cursor stack lastToken s := by
  constructor
  · rintro ⟨hready, hinput, hcursor, hstack, hlast, herror, hopen⟩
    exact ⟨ready_recorded.mp hready, hinput, hcursor, hstack, hlast, herror, hopen⟩
  · rintro ⟨hready, hinput, hcursor, hstack, hlast, herror, hopen⟩
    exact ⟨ready_recorded.mpr hready, hinput, hcursor, hstack, hlast, herror, hopen⟩

/-- A stream that has no past: all its anchors stand at the cursor. -/
def headStream (lexer : Lexer σ τ) (input : Text) (cursor : Nat) (stack : List Nat)
    (lastToken : Option τ) : TokenStream τ where
  input := input
  cursor := cursor
  stack := { StateStack.start lexer.names cursor with stack }
  lastToken := lastToken
  pending := none
  startError := none
  finished := false

/-- At every head there is a stream that has no past. -/
theorem HeadAt.headStream (h : HeadAt lexer input cursor stack lastToken s) :
    HeadAt lexer input cursor stack lastToken (lexer.headStream input cursor stack lastToken) := by
  obtain ⟨⟨⟨⟨hbase, hstack, -⟩, hnames, hboundary, -, -⟩, -, -⟩, rfl, rfl, rfl, rfl, -, -⟩ := h
  rw [hnames] at hbase hstack
  have hfresh : (lexer.headStream s.input s.cursor s.stack.stack s.lastToken).stack.Valid :=
    ⟨hbase, hstack, (StateStack.valid_start hbase s.cursor).anchors_length⟩
  have hanchors : ∀ p ∈ (lexer.headStream s.input s.cursor s.stack.stack s.lastToken).stack.anchors,
      p = s.cursor := fun p hp => List.eq_of_mem_replicate hp
  refine ⟨⟨⟨hfresh, rfl, hboundary, ?_, by simp [Lexer.headStream]⟩, rfl, ?_⟩, rfl, rfl, rfl, rfl,
    rfl, rfl⟩
  · intro p hp
    rw [hanchors p hp]
    exact hboundary
  · exact hanchors _ hfresh.anchor_mem

/-! ### What is left of a pull -/

/-- Where nothing is pending there is nothing to finish. -/
theorem finishPending_eq_self (lexer : Lexer σ τ) (s : TokenStream τ) (a : Ambient σ)
    (h : s.pending = none) : lexer.finishPending s a = (.ok (), s, a) :=
  (FinishRuns.idle h).eq

/-- Where the token before is finished, what is left of a pull is the loop of attempts. -/
theorem Ready.pull_eq (h : Ready lexer s) (hopen : s.finished = false)
    (herror : s.startError = none) (attempts : Nat) (a : Ambient σ) :
    lexer.pull attempts s a = close (lexer.scan attempts s a) :=
  (PullRuns.searched hopen herror (.idle h.pending_none) (lexer.scan_runs attempts s a)).eq

/-- Behind an aborted match, what is left of a pull is the pull of the stream that the match has
left, with one attempt less. -/
theorem HeadAt.pull_aborted (hs : HeadAt lexer input cursor stack lastToken s)
    {stack' : List Nat} (ht : HeadAt lexer input cursor stack' lastToken t)
    (hgoes : s.cursor < s.input.byteLength) (hattempt : lexer.attempt s a = (.aborted, t, b))
    (attempts : Nat) : lexer.pull (attempts + 1) s a = lexer.pull attempts t b := by
  rw [hs.pull_eq hs.finished_eq hs.startError_eq, ht.pull_eq ht.finished_eq ht.startError_eq,
    (ScanRuns.again hgoes (attemptRuns_iff.mpr hattempt) (lexer.scan_runs attempts t b)).eq]

/-! ### One aborted match -/

/-- Whether an attempt ends in an aborted match. -/
def Attempt.isAborted : Attempt τ → Bool
  | .aborted => true
  | _ => false

theorem Attempt.eq_aborted {out : Attempt τ} (h : out.isAborted = true) : out = .aborted := by
  cases out with
  | aborted => rfl
  | token t => exact absurd h (by simp [isAborted])
  | failed e => exact absurd h (by simp [isAborted])

/-- Behind the loop's head a match is found and aborted by its `before` hook, which leaves a stack
and an ambient. -/
def Aborts (lexer : Lexer σ τ) (s : TokenStream τ) (a : Ambient σ) (stack : StateStack)
    (a' : Ambient σ) : Prop :=
  s.cursor < s.input.byteLength ∧ ∃ found rule a₁,
    (lexer.query s).resolve a = (.ok (some (found, rule)), a₁) ∧
      runBefore rule
        { input := s.input
          matched := s.input.slice s.stack.anchor found.stop
          start := s.stack.anchor
          position := s.cursor }
        (s.stack.setAnchor found.stop) a₁ = (.ok true, stack, a')

/-- What an attempt whose match is aborted leaves. -/
theorem Aborts.attempt_eq {left : StateStack} {a' : Ambient σ} (h : Aborts lexer s a left a') :
    ∃ found : Found, lexer.attempt s a =
      (.aborted, { s with cursor := s.stack.anchor, stack := left.setAnchor s.stack.anchor },
        a'.note (.matchAborted found.rule s.stack.anchor left.currentName)) := by
  obtain ⟨-, found, rule, a₁, hresolve, hbefore⟩ := h
  exact ⟨found, (AttemptRuns.aborted hresolve hbefore).eq⟩

/-- An attempt is only aborted by a hook. -/
theorem exists_aborts (hgoes : s.cursor < s.input.byteLength)
    (hattempt : lexer.attempt s a = (.aborted, t, b)) :
    ∃ left a', Aborts lexer s a left a' ∧ left.stack = t.stack.stack ∧ a'.host = b.host := by
  have hruns := lexer.attempt_runs s a
  generalize lexer.attempt s a = out at hattempt hruns
  cases hruns with
  | unbuilt | unmatched | beforeFailed | fetchFailed | token => exact absurd hattempt (by simp)
  | aborted hresolve hbefore =>
      obtain ⟨-, rfl, rfl⟩ := by simpa only [Prod.mk.injEq] using hattempt
      exact ⟨_, _, ⟨hgoes, _, _, _, hresolve, hbefore⟩, rfl, rfl⟩

/-- **Behind an aborted match** the loop is at its head again: at the same cursor and with the same
token before, but with the stack that the hook has left. -/
theorem HeadAt.aborted (h : HeadAt lexer input cursor stack lastToken s) {left : StateStack}
    {a' : Ambient σ} (haborts : Aborts lexer s a left a') :
    ∃ t b, lexer.attempt s a = (.aborted, t, b) ∧ b.host = a'.host ∧
      HeadAt lexer input cursor left.stack lastToken t := by
  obtain ⟨found, hattempt⟩ := haborts.attempt_eq
  obtain ⟨hready, hcursor, -⟩ := h.toReady.aborted (attemptRuns_iff.mpr hattempt)
  exact ⟨_, _, hattempt, rfl, hready, h.input_eq, hcursor.trans h.cursor_eq, rfl, h.lastToken_eq,
    h.startError_eq, h.finished_eq⟩

/-- **From there on** the run reports what it reports from any stream at that head. -/
theorem HeadAt.reports_aborted (hs : HeadAt lexer input cursor stack lastToken s)
    {left : StateStack} {a' : Ambient σ} (hcoherent : lexer.compiler.Coherent a.cache)
    (haborts : Aborts lexer s a left a')
    (ht : HeadAt lexer input cursor left.stack lastToken t) (hhost : b.host = a'.host)
    (hcoherent' : lexer.compiler.Coherent b.cache) (attempts : Nat) (allowances : List Nat) :
    lexer.reports ((attempts + 1) :: allowances) s a =
      lexer.reports (attempts :: allowances) t b := by
  obtain ⟨s', a'', hattempt, hhost', hs'⟩ := hs.aborted haborts
  have halike : a''.Alike lexer.compiler b :=
    ⟨hhost'.trans hhost.symm, (attemptRuns_iff.mpr hattempt).coherent hcoherent, hcoherent'⟩
  calc lexer.reports ((attempts + 1) :: allowances) s a
      = lexer.reports (attempts :: allowances) s' a'' := by
        rw [reports, reports, hs.pull_aborted hs' haborts.1 hattempt]
    _ = lexer.reports (attempts :: allowances) t b :=
        reports_bare hs'.rested ht.rested (hs'.bare_eq ht) halike _

/-! ### Every head that a run comes to -/

theorem Attempted.startError_eq {out : Attempt τ} (h : Attempted lexer s a out t) :
    t.startError = s.startError := by
  cases h <;> rfl

/-- A head of the loop is a head at its own cursor, stack and last token. -/
theorem AtLoopHead.headAt (hnames : lexer.names.Resolved)
    (h : AtLoopHead lexer input start s) :
    HeadAt lexer input s.cursor s.stack.stack s.lastToken s := by
  have hready := h.ready hnames
  suffices s.input = input ∧ s.startError = none ∧ s.finished = false from
    ⟨hready, this.1, rfl, rfl, rfl, this.2.1, this.2.2⟩
  clear hready
  induction h with
  | @entered items stream stream' ambient ambient' hreach hopen herror hfinish =>
      obtain ⟨hinput, hrested⟩ := hreach.rested hnames
      obtain ⟨hinput', -, hfinished, -⟩ := hrested.finishPending hopen ambient
      have herror' := lexer.finishPending_startError stream ambient
      rw [hfinish] at hinput' hfinished herror'
      exact ⟨hinput'.trans hinput, herror'.trans herror, hfinished.trans hopen⟩
  | again _ _ hattempt ih =>
      have hcases := (attemptRuns_iff.mpr hattempt).attempted
      obtain ⟨hinput, herror, hfinished⟩ := ih
      exact ⟨hcases.input_eq.trans hinput, hcases.startError_eq.trans herror,
        hcases.finished_eq.trans hfinished⟩

/-- **An aborted match leaves no trace but the stack.** Let a run of any lexer be at the head of the
loop of attempts, and let the match that it finds there be aborted by its `before` hook, which has
pushed and popped what it liked. What is left of the pull, and all later pulls, give what they give
from any stream that is at the head of the loop with the same cursor, the stack that the hook has
left and the same token before, whatever its other anchors are: the same tokens, errors and ends,
positions, states and depths, and, for the lexer that records its hooks, the same contexts of the
same hooks. There always is such a stream, and one that has never seen a match. The other run begins
with the host that the hook has left, which is no condition on hooks that are functions of their
contexts; and the aborted match has cost one attempt. -/
theorem aborted_match_leaves_stack {table : StateTable (Rule σ τ)} {config : LexerConfig}
    {factory : BaseToken → Text → τ} {cache : AlternationCache} {journal : Journal}
    (hmake : Lexer.make table config factory = (.ok (lexer, cache), journal))
    (hhead : AtLoopHead lexer input start s) :
    (∀ a left a', lexer.compiler.Coherent a.cache → Aborts lexer s a left a' →
      HeadAt lexer input s.cursor left.stack s.lastToken
          (lexer.headStream input s.cursor left.stack s.lastToken) ∧
        ∀ t b, HeadAt lexer input s.cursor left.stack s.lastToken t →
          lexer.compiler.Coherent b.cache → b.host = a'.host →
          ∀ attempts allowances,
            lexer.reports ((attempts + 1) :: allowances) s a =
              lexer.reports (attempts :: allowances) t b) ∧
    ∀ a left a', lexer.compiler.Coherent a.cache → Aborts lexer.recorded s a left a' →
      HeadAt lexer input s.cursor left.stack s.lastToken
          (lexer.headStream input s.cursor left.stack s.lastToken) ∧
        ∀ t b, HeadAt lexer input s.cursor left.stack s.lastToken t →
          lexer.compiler.Coherent b.cache → b.host = a'.host →
          ∀ attempts allowances,
            lexer.recorded.reports ((attempts + 1) :: allowances) s a =
              lexer.recorded.reports (attempts :: allowances) t b := by
  obtain ⟨hnames, -⟩ := make_ok hmake
  have hs := hhead.headAt hnames
  constructor
  · intro a left a' hcoherent haborts
    obtain ⟨_, _, -, -, hleft⟩ := hs.aborted haborts
    refine ⟨hleft.headStream, ?_⟩
    intro t b ht hcoherent' hhost attempts allowances
    exact hs.reports_aborted hcoherent haborts ht hhost hcoherent' attempts allowances
  · intro a left a' hcoherent haborts
    have hs' := headAt_recorded.mpr hs
    obtain ⟨_, _, -, -, hleft⟩ := hs'.aborted haborts
    refine ⟨(headAt_recorded.mp hleft).headStream, ?_⟩
    intro t b ht hcoherent' hhost attempts allowances
    exact hs'.reports_aborted hcoherent haborts (headAt_recorded.mpr ht) hhost hcoherent' attempts
      allowances

/-- In the lexer of `relayTable` the first match is aborted for the state `inner`; both the run that
has seen this and one that begins in `inner` then find the token `ab`, and the next one. -/
theorem aborted_match_leaves_stack_relay :
    ∃ (lexer : Lexer Unit Token) (s : TokenStream Token) (a : Ambient Unit),
      AtLoopHead lexer ['a', 'b', 'a', 'b'] 0 s ∧ s.cursor = 0 ∧ s.stack.stack = [] ∧
        (∃ left a', Aborts lexer s a left a' ∧ left.stack = [1]) ∧
        (lexer.reports [2, 2] s a).map (fun r => (r.position, r.depth)) = [(2, 0), (4, 0)] ∧
        lexer.reports [2, 2] s a =
          lexer.reports [1, 2] (lexer.headStream ['a', 'b', 'a', 'b'] 0 [1] none) a := by
  have hrun : (match Lexer.make relayTable {} Token.make with
      | (.ok (lexer, cache), _) =>
        let a : Ambient Unit := ⟨cache, (), #[]⟩
        let s := (lexer.tokenizeFrom ['a', 'b', 'a', 'b'] 0).1
        let aborted := lexer.attempt s a
        decide (s.cursor < s.input.byteLength ∧ aborted.2.1.stack.stack = [1] ∧
          aborted.1.isAborted = true ∧
          (lexer.reports [2, 2] s a).map (fun r => (r.position, r.depth)) = [(2, 0), (4, 0)])
      | (.error _, _) => false) = true := by
    decide +kernel
  split at hrun
  · next lexer cache journal hmake =>
      obtain ⟨hgoes, hleft, haborted, hreports⟩ := of_decide_eq_true hrun
      obtain ⟨-, -, -, -, hcoherent⟩ := make_ok hmake
      have herror : startError? ['a', 'b', 'a', 'b'] 0 = none := startError?_eq_none rfl
      have hhead : AtLoopHead lexer ['a', 'b', 'a', 'b'] 0 _ :=
        .entered .start rfl herror (lexer.finishPending_eq_self _ ⟨cache, (), #[]⟩ rfl)
      obtain ⟨left, a', haborts, hstack, -⟩ :=
        exists_aborts hgoes (Prod.ext (Attempt.eq_aborted haborted) rfl)
      have hleft := hstack.trans hleft
      obtain ⟨hfresh, hsame⟩ :=
        (aborted_match_leaves_stack hmake hhead).1 _ left a' hcoherent haborts
      rw [hleft] at hfresh hsame
      exact ⟨lexer, _, _, hhead, rfl, rfl, ⟨left, a', haborts, hleft⟩, hreports,
        hsame _ ⟨cache, (), #[]⟩ hfresh hcoherent rfl 1 [2]⟩
  · exact absurd hrun (by simp)

end ModalLex.Lexer
