import ModalLex.Proofs.Lexer.Run
import ModalLex.Session

/-!
# Tokens Cover the Input

The tokens of a run lie side by side: the first begins where the run starts, each of the others
where the one before it ends, and the text of each is the slice of its range (`Covers`). A run
that comes to its end without an error has covered all of the input that was left, so the texts
of its tokens put together are that part of the input.

The range of a token is found in two places, its start by the anchor of the current state and its
end by the cursor. That the two stay together is what `ModalLex.Proofs.Lexer.Run` shows of one
pull; here it is carried over whole runs.

## Main results

* `Covers.flatten_texts`: texts that lie side by side join to the slice that they cover.
* `Reaches.covered`: what a run has covered at any time.
* `tokens_cover_input`: **coverage without gaps or overlaps**, for runs and for `tokenize`.
-/

namespace ModalLex

/-- What the engine knew of a token with its text. -/
def Token.base (token : Token) : BaseToken where
  kind := token.kind
  value := token.value
  start := token.start
  stop := token.stop

/-- Tokens that lie side by side and cover an input from one offset to another: each begins where
the one before it ends, ends on a boundary, and has the slice of its range for its text. -/
def Covers (input : Text) : (start : Nat) → List Token → (stop : Nat) → Prop
  | start, [], stop => start = stop
  | start, token :: rest, stop =>
    token.start = start ∧ token.start ≤ token.stop ∧ input.isBoundary token.stop = true ∧
      token.text = input.slice token.start token.stop ∧ Covers input token.stop rest stop

namespace Covers

variable {input : Text} {start middle stop : Nat} {tokens : List Token}

/-- One more token behind the others. -/
theorem concat {token : Token} (h : Covers input start tokens middle)
    (hstart : token.start = middle) (hle : token.start ≤ token.stop)
    (hstop : input.isBoundary token.stop = true)
    (htext : token.text = input.slice token.start token.stop) :
    Covers input start (tokens ++ [token]) token.stop := by
  induction tokens generalizing start with
  | nil =>
      obtain rfl : start = middle := h
      exact ⟨hstart, hle, hstop, htext, rfl⟩
  | cons first rest ih =>
      obtain ⟨h₁, h₂, h₃, h₄, hrest⟩ := h
      exact ⟨h₁, h₂, h₃, h₄, ih hrest⟩

theorem le (h : Covers input start tokens stop) : start ≤ stop := by
  induction tokens generalizing start with
  | nil => exact Nat.le_of_eq h
  | cons first rest ih =>
      obtain ⟨rfl, hle, -, -, hrest⟩ := h
      exact Nat.le_trans hle (ih hrest)

/-- Tokens that cover a text from a boundary on end on one. -/
theorem isBoundary_stop (h : Covers input start tokens stop)
    (hstart : input.isBoundary start = true) : input.isBoundary stop = true := by
  induction tokens generalizing start with
  | nil =>
      obtain rfl : start = stop := h
      exact hstart
  | cons first rest ih =>
      obtain ⟨-, -, hfirst, -, hrest⟩ := h
      exact ih hrest hfirst

/-- **Texts that lie side by side join** to the slice that they cover. -/
theorem flatten_texts (h : Covers input start tokens stop)
    (hstart : input.isBoundary start = true) :
    (tokens.map (·.text)).flatten = input.slice start stop := by
  induction tokens generalizing start with
  | nil =>
      obtain rfl : start = stop := h
      simp
  | cons first rest ih =>
      obtain ⟨rfl, hle, hfirst, htext, hrest⟩ := h
      rw [List.map_cons, List.flatten_cons, ih hrest hfirst, htext]
      exact Text.slice_append_slice hstart hfirst (hrest.isBoundary_stop hfirst) hle hrest.le

/-- Tokens that cover an input are what `Token.make` makes of them. -/
theorem map_make_base (h : Covers input start tokens stop) :
    (tokens.map fun token => Token.make token.base input) = tokens := by
  induction tokens generalizing start with
  | nil => rfl
  | cons first rest ih =>
      obtain ⟨-, -, -, htext, hrest⟩ := h
      have hfirst : Token.make first.base input = first := by
        show (⟨_, _, _, _, input.slice first.start first.stop⟩ : Token) = first
        rw [← htext]
        rfl
      rw [List.map_cons, hfirst, ih hrest]

end Covers

/-- The token of an answer. -/
def Pull.token? {τ : Type} : Pull τ → Option τ
  | .token t => some t
  | _ => none

namespace Lexer

variable {σ τ : Type} {lexer : Lexer σ τ} {input : Text} {start : Nat} {items : List (Pull τ)}
  {stream : TokenStream τ}

/-- What a run has covered: its tokens are made from tokens that lie side by side. While it goes
on they reach up to the cursor, and when it has finished without an error, up to the end. -/
structure Covered (lexer : Lexer σ τ) (input : Text) (start : Nat) (items : List (Pull τ))
    (stream : TokenStream τ) (tokens : List Token) (stop : Nat) : Prop where
  made : items.filterMap Pull.token? = tokens.map fun token => lexer.factory token.base input
  covers : Covers input start tokens stop
  running : stream.finished = false → stop = stream.cursor ∧ Pull.ended ∉ items
  finished : stream.finished = true → (∀ e, Pull.failed e ∉ items) → stop = input.byteLength

/-- A run that has reported the end and no error has covered all of the input. -/
theorem Covered.stop_eq {tokens : List Token} {stop : Nat}
    (h : Covered lexer input start items stream tokens stop) (hended : Pull.ended ∈ items)
    (hfailed : ∀ e, Pull.failed e ∉ items) : stop = input.byteLength := by
  cases hfinished : stream.finished with
  | false => exact absurd hended (h.running hfinished).2
  | true => exact h.finished hfinished hfailed

/-- Where a pull leads from a run that goes on: it adds at most one token to what is covered, and
that one lies behind the others. -/
theorem Covered.pulled {tokens : List Token} {stop : Nat} {stream' : TokenStream τ} {out : Pull τ}
    (h : Covered lexer input start items stream tokens stop)
    (hrunning : stream.finished = false) (hinput : stream.input = input)
    (hinput' : stream'.input = input) (hpulled : Pulled lexer stream out stream')
    (hgoes : stream'.finished = false ↔ out ≠ .ended ∧ ∀ e, out ≠ .failed e) :
    ∃ tokens' stop', Covered lexer input start (items ++ [out]) stream' tokens' stop' := by
  obtain ⟨rfl, hended⟩ := h.running hrunning
  subst hinput
  cases hpulled with
  | @token base _ hsound hpending hstart hle hstop =>
      have hboundary : stream.input.isBoundary base.stop = true := by
        rw [hstop, ← hinput']
        exact hsound.cursor_isBoundary
      have hgoes' : stream'.finished = false := hgoes.mpr (by simp)
      refine ⟨tokens ++ [Token.make base stream.input], base.stop, ?_,
        h.covers.concat hstart hle hboundary rfl, fun _ => ⟨hstop, by simpa using hended⟩,
        by simp [hgoes']⟩
      rw [List.filterMap_append, List.map_append, h.made]
      rfl
  | @failed e _ hsound =>
      exact ⟨tokens, stream.cursor, by simp [h.made, Pull.token?], h.covers,
        fun hfinished => by simp [hfinished] at hgoes,
        fun _ hnone => absurd (List.mem_concat_self) (hnone e)⟩
  | ended hsound hcursor hend =>
      exact ⟨tokens, stream.cursor, by simp [h.made, Pull.token?], h.covers,
        fun hfinished => by simp [hfinished] at hgoes, fun _ _ => hend⟩
  | stalled hready hcursor =>
      have hgoes' : stream'.finished = false := hgoes.mpr (by simp)
      exact ⟨tokens, stream.cursor, by simp [h.made, Pull.token?], h.covers,
        fun _ => ⟨hcursor.symm, by simpa using hended⟩, by simp [hgoes']⟩

/-- **What a run has covered.** -/
theorem Reaches.covered (hnames : lexer.names.Resolved)
    (hstart : input.isBoundary start = true) (h : Reaches lexer input start items stream) :
    ∃ tokens stop, Covered lexer input start items stream tokens stop := by
  induction h with
  | start =>
      have hle := Text.le_byteLength_of_isBoundary hstart
      have hcursor : (lexer.tokenizeFrom input start).1.cursor = start := by
        simp [tokenizeFrom, startError?, hstart, Nat.not_lt.mpr hle]
      exact ⟨[], start, rfl, rfl, fun _ => ⟨hcursor.symm, by simp⟩,
        fun hfinished => absurd hfinished (by simp [tokenizeFrom])⟩
  | @pull items stream attempts ambient hreach _ ih =>
      obtain ⟨tokens, stop, hcovered⟩ := ih
      obtain ⟨hinput, hrested⟩ := hreach.rested hnames
      obtain ⟨hinput', -, hclosed, hopen⟩ := hrested.pulled attempts ambient
      cases hfinished : stream.finished with
      | true =>
          rw [hclosed hfinished]
          exact ⟨tokens, stop, by simp [hcovered.made, Pull.token?], hcovered.covers,
            by simp [hfinished],
            fun _ hnone => hcovered.finished hfinished fun e he => hnone e (by simp [he])⟩
      | false =>
          obtain ⟨hpulled, hgoes⟩ := hopen hfinished
          exact hcovered.pulled hfinished hinput (hinput'.trans hinput) hpulled hgoes

/-! ### All tokens at once -/

/-- Collecting tokens that succeeds is a run that comes to its end without an error. -/
theorem Reaches.collectTokens {attempts pulls : Nat} {ambient : Ambient σ} {tokens : Array τ}
    {ts : List τ} (h : Reaches lexer input start items stream)
    (hcoherent : lexer.compiler.Coherent ambient.cache)
    (htokens : items.filterMap Pull.token? = tokens.toList)
    (hfailed : ∀ e, Pull.failed e ∉ items)
    (hcollect : collectTokens lexer attempts pulls stream ambient tokens = some (.ok ts)) :
    ∃ items' stream', Reaches lexer input start items' stream' ∧
      items'.filterMap Pull.token? = ts ∧ Pull.ended ∈ items' ∧ ∀ e, Pull.failed e ∉ items' := by
  induction pulls generalizing items stream ambient tokens with
  | zero => exact absurd hcollect (by simp [ModalLex.collectTokens])
  | succ pulls ih =>
      have hnext := h.pull attempts ambient hcoherent
      have hcoherent' := pull_coherent attempts stream hcoherent
      rw [ModalLex.collectTokens] at hcollect
      split at hcollect
      · next token stream₁ ambient₁ hpull =>
          rw [hpull] at hnext hcoherent'
          refine ih hnext hcoherent' ?_ ?_ hcollect
          · simp [htokens, Pull.token?]
          · simpa using hfailed
      · exact absurd hcollect (by simp)
      · next hpull =>
          rw [hpull] at hnext
          simp only [Option.some.injEq, Except.ok.injEq] at hcollect
          subst hcollect
          exact ⟨_, _, hnext, by simp [htokens, Pull.token?], by simp, by simpa using hfailed⟩
      · exact absurd hcollect (by simp)

/-- **Coverage without gaps or overlaps.** The tokens that a run emits are made from tokens that
lie side by side from the offset where the run starts, each with the slice of its range for its
text; when the run ends without an error they reach up to the end of the input, and their texts
put together are the input from that offset on. So the texts of all tokens that `tokenize` answers
are the input. -/
theorem tokens_cover_input :
    (∀ {table : StateTable (Rule σ τ)} {config : LexerConfig} {factory : BaseToken → Text → τ}
        {lexer : Lexer σ τ} {cache : AlternationCache} {journal : Journal},
      Lexer.make table config factory = (.ok (lexer, cache), journal) →
      ∀ {input : Text} {start : Nat}, input.isBoundary start = true →
      ∀ {items : List (Pull τ)} {stream : TokenStream τ},
        Reaches lexer input start items stream →
        ∃ tokens stop,
          items.filterMap Pull.token? = tokens.map (fun token => factory token.base input) ∧
          Covers input start tokens stop ∧
          (Pull.ended ∈ items → (∀ e, Pull.failed e ∉ items) →
            stop = input.byteLength ∧
              (tokens.map (·.text)).flatten = input.dropBytes start)) ∧
    ∀ {rules : List (Rule σ Token)} {host : σ} {attempts pulls : Nat} {input : Text}
        {tokens : List Token},
      tokenize rules Token.make host attempts pulls input = some (.ok tokens) →
      Covers input 0 tokens input.byteLength ∧ (tokens.map (·.text)).flatten = input := by
  constructor
  · intro table config factory lexer cache journal hmake input start hstart items stream hreach
    obtain ⟨hnames, -, rfl, -⟩ := make_ok hmake
    obtain ⟨tokens, stop, hcovered⟩ := hreach.covered hnames hstart
    refine ⟨tokens, stop, hcovered.made, hcovered.covers, fun hended hfailed => ?_⟩
    obtain rfl := hcovered.stop_eq hended hfailed
    exact ⟨rfl, by rw [hcovered.covers.flatten_texts hstart, Text.slice_byteLength hstart]⟩
  · intro rules host attempts pulls input tokens htokenize
    rw [tokenize] at htokenize
    split at htokenize
    · exact absurd htokenize (by simp)
    · next lexer cache journal hmake =>
        obtain ⟨hnames, -, hfactory, -, hcoherent⟩ := make_ok hmake
        obtain ⟨items, stream, hreach, hitems, hended, hfailed⟩ :=
          Reaches.start.collectTokens hcoherent (by rfl) (by simp) htokenize
        obtain ⟨tokens', stop, hcovered⟩ := hreach.covered hnames (Text.isBoundary_zero input)
        have hmade := hcovered.made
        rw [hitems, hfactory, hcovered.covers.map_make_base] at hmade
        obtain rfl := hmade
        obtain rfl := hcovered.stop_eq hended hfailed
        refine ⟨hcovered.covers, ?_⟩
        rw [hcovered.covers.flatten_texts (Text.isBoundary_zero input),
          Text.slice_byteLength (Text.isBoundary_zero input), Text.dropBytes]

/-- Whether all tokens were collected. -/
def collected {α : Type} : Option (Except LexError α) → Bool
  | some (.ok _) => true
  | _ => false

theorem exists_of_collected {α : Type} {r : Option (Except LexError α)}
    (h : collected r = true) : ∃ a, r = some (.ok a) := by
  unfold collected at h
  split at h
  · exact ⟨_, rfl⟩
  · exact absurd h (by simp)

/-- Two rules, one for letters of one byte and one for a letter of two. -/
def letterRules : List (Rule Unit Token) :=
  [{ pattern := .source ['a', '+'] }, { pattern := .source ['é'] }]

/-- The tokens of `éaa` from its second letter on, and all tokens of `aaé`. -/
theorem tokens_cover_input_letters :
    (∃ (lexer : Lexer Unit Token) (items : List (Pull Token)) (stream : TokenStream Token),
      Reaches lexer ['é', 'a', 'a'] 2 items stream ∧ Pull.ended ∈ items ∧
        ∃ tokens stop, items.filterMap Pull.token? = tokens ∧
          Covers ['é', 'a', 'a'] 2 tokens stop ∧ (tokens.map (·.text)).flatten = ['a', 'a']) ∧
    ∃ tokens, tokenize letterRules Token.make () 2 3 ['a', 'a', 'é'] = some (.ok tokens) ∧
      (tokens.map (·.text)).flatten = ['a', 'a', 'é'] := by
  constructor
  · have hrun : (match (Lexer.make (.flat letterRules) {} Token.make).1 with
        | .ok (lexer, cache) => collected (collectTokens lexer 2 3
            (lexer.tokenizeFrom ['é', 'a', 'a'] 2).1 ⟨cache, (), #[]⟩ #[])
        | .error _ => false) = true := by
      decide +kernel
    split at hrun
    · next lexer cache hmake =>
        obtain ⟨ts, hcollect⟩ := exists_of_collected hrun
        have hmake' : Lexer.make (.flat letterRules) {} Token.make = (.ok (lexer, cache), _) :=
          Prod.ext hmake rfl
        obtain ⟨items, stream, hreach, -, hended, hfailed⟩ :=
          Reaches.start.collectTokens (make_ok hmake').2.2.2.2 (by rfl) (by simp) hcollect
        obtain ⟨tokens, stop, hmade, hcovers, hall⟩ :=
          tokens_cover_input.1 hmake' (by decide) hreach
        rw [hcovers.map_make_base] at hmade
        exact ⟨lexer, items, stream, hreach, hended, tokens, stop, hmade, hcovers,
          (hall hended hfailed).2.trans (by decide)⟩
    · exact absurd hrun (by simp)
  · obtain ⟨tokens, htokenize⟩ := exists_of_collected
      (by decide +kernel :
        collected (tokenize letterRules Token.make () 2 3 ['a', 'a', 'é']) = true)
    exact ⟨tokens, htokenize, ((@tokens_cover_input Unit Token).2 htokenize).2⟩

end Lexer

end ModalLex
