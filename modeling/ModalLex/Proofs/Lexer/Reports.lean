import ModalLex.Proofs.Lexer.Run

/-!
# What a Run Reports

After each pull a consumer sees the answer and where the run stands: its position, the name of the
current state and the depth of the stack (`Report`). The cache and the journal are not reported,
and this module shows that they are **not read** either: a cache only saves building what would be
built anyway, as long as it is coherent, and journals are only written.

Two ambients are **alike** for a compiler when their hosts are the same and both caches are
coherent (`Ambient.Alike`). Whatever is done under the one can be done under the other with the
same answer, and leaves them alike again.

## Main results

* `Compiler.alternation_eq`: what a coherent cache hands out is what would be built.
* `Lexer.pull_alike`: pulls under ambients that are alike answer the same.
* `Lexer.reports_alike`: **what a run reports depends on the host alone**.
-/

namespace ModalLex

/-! ### Caches -/

namespace Compiler

/-- The alternation of a state from a rule on, built anew. -/
def alternationAnew (compiler : Compiler) (state first : Nat) :
    Except ConfigError (Option Alternation) :=
  match (compiler.partsOf state).drop first with
  | [] => .ok none
  | parts =>
    match Alternation.build parts first with
    | .error cause => .error (.pattern cause)
    | .ok a => .ok (some a)

/-- **What a coherent cache hands out** is what would be built, also where nothing can be built. -/
theorem alternation_eq {compiler : Compiler} {cache : AlternationCache}
    (h : compiler.Coherent cache) (state first : Nat) :
    (compiler.alternation cache state first).1 = compiler.alternationAnew state first := by
  have hruns := compiler.alternation_runs cache state first
  generalize compiler.alternation cache state first = out at hruns ⊢
  cases hruns with
  | exhausted hparts => simp only [alternationAnew, hparts]
  | cached _ hfind => simp only [alternationAnew, h _ _ _ hfind]
  | unbuilt _ _ hbuild => simp only [alternationAnew, hbuild]
  | built _ _ hbuild => simp only [alternationAnew, hbuild]

end Compiler

/-! ### Ambients -/

variable {σ τ : Type}

/-- Two ambients that a run cannot tell apart: the host is the same, and both caches are
coherent. -/
structure Ambient.Alike (compiler : Compiler) (a b : Ambient σ) : Prop where
  host_eq : a.host = b.host
  left : compiler.Coherent a.cache
  right : compiler.Coherent b.cache

/-- Two answers that differ in nothing but ambients that are alike. -/
inductive Ambient.Agree (compiler : Compiler) {α : Type} :
    α × Ambient σ → α × Ambient σ → Prop
  | intro (answer : α) {a b : Ambient σ} :
      a.Alike compiler b → Agree compiler (answer, a) (answer, b)

/-- Two answers, each with a stack or a stream, that differ in nothing but ambients that are
alike. -/
inductive Ambient.AgreeOn (compiler : Compiler) {α β : Type} :
    α × β × Ambient σ → α × β × Ambient σ → Prop
  | intro (answer : α) (left : β) {a b : Ambient σ} :
      a.Alike compiler b → AgreeOn compiler (answer, left, a) (answer, left, b)

variable {compiler : Compiler} {a b : Ambient σ}

/-- What agrees with a result has the same answer and an ambient that is alike. -/
theorem Ambient.Agree.exists_eq {α : Type} {x y : α × Ambient σ} {answer : α}
    (h : Ambient.Agree compiler x y) (hx : x = (answer, a)) :
    ∃ b, y = (answer, b) ∧ a.Alike compiler b := by
  subst hx
  obtain ⟨_, halike⟩ := h
  exact ⟨_, rfl, halike⟩

/-- What agrees with a result has the same answer, leaves the same, and has an ambient that is
alike. -/
theorem Ambient.AgreeOn.exists_eq {α β : Type} {x y : α × β × Ambient σ} {answer : α} {left : β}
    (h : Ambient.AgreeOn compiler x y) (hx : x = (answer, left, a)) :
    ∃ b, y = (answer, left, b) ∧ a.Alike compiler b := by
  subst hx
  obtain ⟨_, _, halike⟩ := h
  exact ⟨_, rfl, halike⟩

/-- Journals are not compared. -/
theorem Ambient.Alike.note (h : a.Alike compiler b) (event event' : Event) :
    (a.note event).Alike compiler (b.note event') :=
  ⟨h.host_eq, h.left, h.right⟩

/-- Another host, and journals that may differ. -/
theorem Ambient.Alike.withHost (h : a.Alike compiler b) (host : σ) (j j' : Journal) :
    ({ a with host, journal := j } : Ambient σ).Alike compiler
      { b with host, journal := j' } :=
  ⟨rfl, h.left, h.right⟩

/-! ### Resolving -/

namespace Query

/-- Coherent caches hand out the same alternation. -/
theorem alternation_alike {q : Query σ τ} (h : a.Alike q.compiler b) (first : Nat) :
    Ambient.Agree q.compiler (q.alternation first a) (q.alternation first b) := by
  have ha := Compiler.alternation_coherent h.left q.state first
  have hb := Compiler.alternation_coherent h.right q.state first
  have hanswer := (Compiler.alternation_eq h.left q.state first).trans
    (Compiler.alternation_eq h.right q.state first).symm
  unfold alternation
  dsimp only
  rw [hanswer]
  exact .intro _ ⟨h.host_eq, ha, hb⟩

/-- **Resolving takes the same course with either cache**, by induction on the course. -/
theorem Runs.alike {q : Query σ τ} {attempts first : Nat}
    {out : Except ConfigError (Option (Found × Rule σ τ)) × Ambient σ}
    (hruns : q.Runs attempts first a out) (h : a.Alike q.compiler b) :
    ∃ b', q.Runs attempts first b (out.1, b') ∧ out.2.Alike q.compiler b' := by
  induction hruns generalizing b with
  | spent => exact ⟨b, .spent, h⟩
  | unbuilt hq =>
      obtain ⟨_, hq', h⟩ := (alternation_alike h _).exists_eq hq
      exact ⟨_, .unbuilt hq', h⟩
  | exhausted hq =>
      obtain ⟨_, hq', h⟩ := (alternation_alike h _).exists_eq hq
      exact ⟨_, .exhausted hq', h⟩
  | unmatched hq hmatch =>
      obtain ⟨_, hq', h⟩ := (alternation_alike h _).exists_eq hq
      exact ⟨_, .unmatched hq' hmatch, h.note _ _⟩
  | unowned hq hmatch hrule =>
      obtain ⟨_, hq', h⟩ := (alternation_alike h _).exists_eq hq
      exact ⟨_, .unowned hq' hmatch hrule, h⟩
  | accepted hq hmatch hrule haccepts =>
      obtain ⟨_, hq', h⟩ := (alternation_alike h _).exists_eq hq
      rw [h.host_eq] at haccepts
      exact ⟨_, .accepted hq' hmatch hrule haccepts, h.withHost _ _ _⟩
  | rejected hq hmatch hrule haccepts _ ih =>
      obtain ⟨_, hq', h⟩ := (alternation_alike h _).exists_eq hq
      rw [h.host_eq] at haccepts
      obtain ⟨_, hlater, h'⟩ := ih (h.withHost _ _ _)
      exact ⟨_, .rejected hq' hmatch hrule haccepts hlater, h'⟩

/-- A match is resolved alike. -/
theorem resolve_alike {q : Query σ τ}
    {answer : Except ConfigError (Option (Found × Rule σ τ))} {a' : Ambient σ}
    (h : a.Alike q.compiler b) (hq : q.resolve a = (answer, a')) :
    ∃ b', q.resolve b = (answer, b') ∧ a'.Alike q.compiler b' := by
  obtain ⟨b', hruns, halike⟩ := (runs_iff.mpr hq).alike h
  exact ⟨b', hruns.eq, halike⟩

end Query

/-! ### Hooks -/

/-- What two engines answer alike from states that are related, they answer alike in a whole
dialogue. -/
theorem Dialogue.run_related {Ask : Type} {Reply : Ask → Type} {α β γ : Type}
    {answer : (q : Ask) → β → Reply q × β} {answer' : (q : Ask) → γ → Reply q × γ}
    (related : β → γ → Prop)
    (h : ∀ q s t, related s t →
      (answer q s).1 = (answer' q t).1 ∧ related (answer q s).2 (answer' q t).2)
    (d : Dialogue Ask Reply α) {s : β} {t : γ} (hst : related s t) :
    (d.run answer s).1 = (d.run answer' t).1 ∧
      related (d.run answer s).2 (d.run answer' t).2 := by
  induction d generalizing s t with
  | done result => exact ⟨rfl, hst⟩
  | ask q next ih =>
      obtain ⟨hreply, hnext⟩ := h q s t hst
      rw [Dialogue.run, Dialogue.run]
      dsimp only
      rw [hreply]
      exact ih _ hnext

namespace Lexer

/-- What a hook works on, but for the journal. -/
def Switching.SameButJournal (s t : Switching) : Prop :=
  s.stack = t.stack ∧ s.aborted = t.aborted

/-- A hook that asks about states is answered the same whatever the journal is. -/
theorem answerSwitch_related (ask : SwitchAsk) (s t : Switching) (h : s.SameButJournal t) :
    (answerSwitch ask s).1 = (answerSwitch ask t).1 ∧
      (answerSwitch ask s).2.SameButJournal (answerSwitch ask t).2 := by
  obtain ⟨hstack, haborted⟩ := h
  cases ask with
  | push name =>
      rw [answerSwitch, answerSwitch, hstack]
      cases t.stack.push name with
      | error e => exact ⟨rfl, hstack, haborted⟩
      | ok stack => exact ⟨rfl, rfl, haborted⟩
  | pop =>
      rw [answerSwitch, answerSwitch, hstack]
      cases t.stack.pop with
      | error e => exact ⟨rfl, hstack, haborted⟩
      | ok stack => exact ⟨rfl, rfl, haborted⟩
  | currentState =>
      rw [answerSwitch, answerSwitch, hstack]
      exact ⟨rfl, hstack, haborted⟩

/-- So is a hook before a match. -/
theorem answerBefore_related (ask : BeforeAsk) (s t : Switching) (h : s.SameButJournal t) :
    (answerBefore ask s).1 = (answerBefore ask t).1 ∧
      (answerBefore ask s).2.SameButJournal (answerBefore ask t).2 := by
  cases ask with
  | switch ask => exact answerSwitch_related ask s t h
  | abort => exact ⟨rfl, h.1, rfl⟩

/-- A hook before a match cannot tell the ambients apart. -/
theorem runBefore_alike (h : a.Alike compiler b) (rule : Rule σ τ) (context : BeforeContext)
    (stack : StateStack) :
    Ambient.AgreeOn compiler (runBefore rule context stack a) (runBefore rule context stack b) := by
  unfold runBefore
  cases rule.before with
  | none => exact .intro _ _ h
  | some hook =>
      obtain ⟨hend, hstack, haborted⟩ := Dialogue.run_related Switching.SameButJournal
        answerBefore_related (hook context b.host)
        (s := ⟨stack, a.journal, false⟩) (t := ⟨stack, b.journal, false⟩) ⟨rfl, rfl⟩
      simp only [h.host_eq, hend, hstack, haborted]
      exact .intro _ _ (h.withHost _ _ _)

/-- Nor can a hook that extends a token. -/
theorem runFetch_alike (h : a.Alike compiler b) (rule : Rule σ τ) (context : FetchContext)
    (cursor : Nat) :
    Ambient.Agree compiler (runFetch rule context cursor a) (runFetch rule context cursor b) := by
  unfold runFetch
  cases rule.fetch with
  | none => exact .intro _ h
  | some hook =>
      dsimp only
      rw [h.host_eq]
      exact .intro _ (h.withHost _ _ _)

/-- Nor can a hook after a token. -/
theorem runAfter_alike (h : a.Alike compiler b) (rule : Option (Rule σ τ)) (pending : Pending)
    (stream : TokenStream τ) :
    Ambient.AgreeOn compiler (runAfter rule pending stream a) (runAfter rule pending stream b) := by
  unfold runAfter
  cases rule.bind (·.after) with
  | none => exact .intro _ _ h
  | some hook =>
      cases stream.lastToken with
      | none => exact .intro _ _ h
      | some token =>
          dsimp only
          obtain ⟨hend, hstack, -⟩ := Dialogue.run_related Switching.SameButJournal
            answerSwitch_related
            (hook
              { input := stream.input
                matched := stream.input.slice pending.start pending.matchEnd
                start := pending.start
                position := stream.cursor
                token } b.host)
            (s := ⟨stream.stack, a.journal, false⟩) (t := ⟨stream.stack, b.journal, false⟩)
            ⟨rfl, rfl⟩
          simp only [h.host_eq, hend, hstack]
          exact .intro _ _ (h.withHost _ _ _)

/-! ### Pulls -/

variable {lexer : Lexer σ τ}

variable {stream : TokenStream τ}

/-- The end of a token takes the same course in both ambients. -/
theorem FinishRuns.alike {out : Except LexError Unit × TokenStream τ × Ambient σ}
    (hruns : FinishRuns lexer stream a out) (h : a.Alike lexer.compiler b) :
    ∃ b', FinishRuns lexer stream b (out.1, out.2.1, b') ∧ out.2.2.Alike lexer.compiler b' := by
  cases hruns with
  | idle hpending => exact ⟨b, .idle hpending, h⟩
  | afterFailed hpending hafter =>
      obtain ⟨_, hafter', h⟩ := (runAfter_alike h _ _ _).exists_eq hafter
      exact ⟨_, .afterFailed hpending hafter', h⟩
  | finished hpending hafter =>
      obtain ⟨_, hafter', h⟩ := (runAfter_alike h _ _ _).exists_eq hafter
      exact ⟨_, .finished hpending hafter', h⟩

/-- An attempt takes the same course in both ambients. -/
theorem AttemptRuns.alike {out : Attempt τ × TokenStream τ × Ambient σ}
    (hruns : AttemptRuns lexer stream a out) (h : a.Alike lexer.compiler b) :
    ∃ b', AttemptRuns lexer stream b (out.1, out.2.1, b') ∧ out.2.2.Alike lexer.compiler b' := by
  cases hruns with
  | unbuilt hq =>
      obtain ⟨_, hq', h⟩ := Query.resolve_alike h hq
      exact ⟨_, .unbuilt hq', h⟩
  | unmatched hq =>
      obtain ⟨_, hq', h⟩ := Query.resolve_alike h hq
      exact ⟨_, .unmatched hq', h⟩
  | beforeFailed hq hbefore =>
      obtain ⟨_, hq', h⟩ := Query.resolve_alike h hq
      obtain ⟨_, hbefore', h⟩ := (runBefore_alike h _ _ _).exists_eq hbefore
      exact ⟨_, .beforeFailed hq' hbefore', h⟩
  | aborted hq hbefore =>
      obtain ⟨_, hq', h⟩ := Query.resolve_alike h hq
      obtain ⟨_, hbefore', h⟩ := (runBefore_alike h _ _ _).exists_eq hbefore
      exact ⟨_, .aborted hq' hbefore', h.note _ _⟩
  | fetchFailed hq hbefore hfetch =>
      obtain ⟨_, hq', h⟩ := Query.resolve_alike h hq
      obtain ⟨_, hbefore', h⟩ := (runBefore_alike h _ _ _).exists_eq hbefore
      obtain ⟨_, hfetch', h⟩ := (runFetch_alike h _ _ _).exists_eq hfetch
      exact ⟨_, .fetchFailed hq' hbefore' hfetch', h⟩
  | token hq hbefore hfetch hvalue hkind =>
      obtain ⟨_, hq', h⟩ := Query.resolve_alike h hq
      obtain ⟨_, hbefore', h⟩ := (runBefore_alike h _ _ _).exists_eq hbefore
      obtain ⟨_, hfetch', h⟩ := (runFetch_alike h _ _ _).exists_eq hfetch
      rw [h.host_eq] at hvalue
      exact ⟨_, .token hq' hbefore' hfetch' hvalue hkind, h.withHost _ _ _⟩

/-- A search takes the same course in both ambients, by induction on the course. -/
theorem ScanRuns.alike {attempts : Nat} {out : Pull τ × TokenStream τ × Ambient σ}
    (hruns : ScanRuns lexer attempts stream a out) (h : a.Alike lexer.compiler b) :
    ∃ b', ScanRuns lexer attempts stream b (out.1, out.2.1, b') ∧
      out.2.2.Alike lexer.compiler b' := by
  induction hruns generalizing b with
  | stalled => exact ⟨b, .stalled, h⟩
  | ended hends => exact ⟨_, .ended hends, h.note _ _⟩
  | token hgoes hattempt =>
      obtain ⟨_, hattempt', h⟩ := hattempt.alike h
      exact ⟨_, .token hgoes hattempt', h⟩
  | failed hgoes hattempt =>
      obtain ⟨_, hattempt', h⟩ := hattempt.alike h
      exact ⟨_, .failed hgoes hattempt', h⟩
  | again hgoes hattempt _ ih =>
      obtain ⟨_, hattempt', h⟩ := hattempt.alike h
      obtain ⟨_, hlater, h⟩ := ih h
      exact ⟨_, .again hgoes hattempt' hlater, h⟩

/-- So its result is the same but for the ambient. -/
theorem scan_alike (h : a.Alike lexer.compiler b) (attempts : Nat) (stream : TokenStream τ) :
    Ambient.AgreeOn lexer.compiler (lexer.scan attempts stream a)
      (lexer.scan attempts stream b) := by
  obtain ⟨_, hruns, halike⟩ := (lexer.scan_runs attempts stream a).alike h
  rw [hruns.eq]
  exact .intro _ _ halike

/-- Answers that agree are closed alike. -/
theorem close_alike {x y : Pull τ × TokenStream τ × Ambient σ}
    (h : Ambient.AgreeOn compiler x y) : Ambient.AgreeOn compiler (close x) (close y) := by
  obtain ⟨answer, stream, h⟩ := h
  cases answer with
  | token t => exact .intro _ _ h
  | failed e => exact .intro _ _ (h.note _ _)
  | ended => exact .intro _ _ h
  | stalled => exact .intro _ _ h

/-- **One pull.** Under ambients that are alike it answers the same and leaves the same stream. -/
theorem pull_alike (h : a.Alike lexer.compiler b) (attempts : Nat) (stream : TokenStream τ) :
    Ambient.AgreeOn lexer.compiler (lexer.pull attempts stream a)
      (lexer.pull attempts stream b) := by
  have hruns := lexer.pull_runs attempts stream a
  generalize lexer.pull attempts stream a = out at hruns
  cases hruns with
  | closed hclosed =>
      rw [PullRuns.eq (.closed hclosed)]
      exact .intro _ _ h
  | misplaced hopen herror =>
      rw [PullRuns.eq (.misplaced hopen herror)]
      exact close_alike (.intro _ _ h)
  | unfinished hopen herror hfinish =>
      obtain ⟨_, hfinish', h⟩ := hfinish.alike h
      rw [PullRuns.eq (.unfinished hopen herror hfinish')]
      exact close_alike (.intro _ _ h)
  | searched hopen herror hfinish hscan =>
      obtain ⟨_, hfinish', h⟩ := hfinish.alike h
      obtain ⟨_, hscan', h⟩ := hscan.alike h
      rw [PullRuns.eq (.searched hopen herror hfinish' hscan')]
      exact close_alike (.intro _ _ h)

/-! ### Runs -/

/-- What a consumer sees of a pull: the answer, where the run stands behind it, and the state of
the host. -/
structure Report (σ τ : Type) where
  answer : Pull τ
  position : Nat
  state : String
  depth : Nat
  host : σ

/-- The report of a pull. -/
def report (ended : Pull τ × TokenStream τ × Ambient σ) : Report σ τ where
  answer := ended.1
  position := ended.2.1.cursor
  state := ended.2.1.stack.currentName
  depth := ended.2.1.stack.depth
  host := ended.2.2.host

/-- What a run that is left to itself reports, where each pull has an allowance of its own. -/
def reports (lexer : Lexer σ τ) :
    (allowances : List Nat) → TokenStream τ → Ambient σ → List (Report σ τ)
  | [], _, _ => []
  | attempts :: allowances, stream, ambient =>
    let ended := lexer.pull attempts stream ambient
    report ended :: lexer.reports allowances ended.2.1 ended.2.2

/-- Results that agree are reported alike. -/
theorem report_eq_of_agree {x y : Pull τ × TokenStream τ × Ambient σ}
    (h : Ambient.AgreeOn compiler x y) : report x = report y := by
  obtain ⟨answer, stream, h⟩ := h
  simp only [report, h.host_eq]

/-- **What a run reports depends on the host alone**, not on what is in the cache or in the
journal. -/
theorem reports_alike (h : a.Alike lexer.compiler b) (allowances : List Nat)
    (stream : TokenStream τ) :
    lexer.reports allowances stream a = lexer.reports allowances stream b := by
  induction allowances generalizing stream a b with
  | nil => rfl
  | cons attempts allowances ih =>
      have hpull := pull_alike h attempts stream
      have hreport := report_eq_of_agree hpull
      rw [reports, reports, hreport]
      generalize lexer.pull attempts stream a = x at hpull
      generalize lexer.pull attempts stream b = y at hpull
      obtain ⟨answer, stream', h⟩ := hpull
      rw [ih h stream']

end Lexer

end ModalLex
