import ModalLex.Proofs.Lexer.Reports

/-!
# Interleaved Runs

Any number of runs can be open on one lexer at the same time, and a consumer may start, pull and
abandon them in any order (`Action`). They share the cache of the lexer and its journal (`InUse`).
Hooks that use a state of the host are given that of their own run; for hooks that are functions
of what they are shown there is none to give.

The log of such a use lists the reports of all pulls, each with the number of its run. What
it lists of one run is what that run reports when it is left to itself.

## Main results

* `carryOut_coherent`: whatever is done with a lexer, its cache stays coherent.
* `reportsOf_carryOut`: a run that is open goes on as if it were alone.
* `interleaved_runs_independent`: **interleaved runs are independent**.
-/

namespace ModalLex.Lexer

variable {σ τ : Type}

/-! ### Lexers in use -/

/-- A run that is open: its stream, and the state that its hooks use. -/
structure OpenRun (σ τ : Type) where
  stream : TokenStream τ
  host : σ

/-- A lexer in use: what all its runs share, and the runs in the order of their start; a run that
was abandoned leaves a gap. -/
structure InUse (σ τ : Type) where
  cache : AlternationCache
  journal : Journal
  runs : List (Option (OpenRun σ τ))

/-- What a consumer can do. Runs are numbered in the order of their start. -/
inductive Action (σ : Type) where
  | start (input : Text) (offset : Nat) (host : σ)
  | pull (run attempts : Nat)
  | abandon (run : Nat)

/-- The run with a number, if it is open. -/
def InUse.run? (s : InUse σ τ) (run : Nat) : Option (OpenRun σ τ) := (s.runs[run]?).getD none

/-- Does one thing; a pull of an open run is reported with the number of the run. -/
def act (lexer : Lexer σ τ) (s : InUse σ τ) :
    Action σ → Option (Nat × Report σ τ) × InUse σ τ
  | .start input offset host =>
    let (stream, event) := lexer.tokenizeFrom input offset
    (none, { s with journal := s.journal.push event, runs := s.runs ++ [some ⟨stream, host⟩] })
  | .pull run attempts =>
    match s.run? run with
    | none => (none, s)
    | some ⟨stream, host⟩ =>
      let ended := lexer.pull attempts stream ⟨s.cache, host, s.journal⟩
      (some (run, report ended),
        { cache := ended.2.2.cache
          journal := ended.2.2.journal
          runs := s.runs.set run (some ⟨ended.2.1, ended.2.2.host⟩) })
  | .abandon run => (none, { s with runs := s.runs.set run none })

/-- Does one thing after the other and keeps the log. -/
def carryOut (lexer : Lexer σ τ) :
    List (Action σ) → InUse σ τ → List (Nat × Report σ τ) × InUse σ τ
  | [], s => ([], s)
  | action :: actions, s =>
    let (entry, s) := lexer.act s action
    let (log, s) := lexer.carryOut actions s
    (entry.toList ++ log, s)

/-- The reports of one run in a log. -/
def reportsOf (run : Nat) (log : List (Nat × Report σ τ)) : List (Report σ τ) :=
  log.filterMap fun entry => if entry.1 = run then some entry.2 else none

/-- The number of runs that are started. -/
def startedIn (actions : List (Action σ)) : Nat :=
  actions.countP fun
    | .start .. => true
    | _ => false

/-- The allowances of the pulls of one run, until it is abandoned. -/
def allowancesOf (run : Nat) : List (Action σ) → List Nat
  | [] => []
  | .start .. :: actions => allowancesOf run actions
  | .pull number attempts :: actions =>
    if number = run then attempts :: allowancesOf run actions else allowancesOf run actions
  | .abandon number :: actions => if number = run then [] else allowancesOf run actions

/-! ### The log of a run -/

/-- The reports of a run in two logs are those in the one and then those in the other. -/
@[simp] theorem reportsOf_append (run : Nat) (log log' : List (Nat × Report σ τ)) :
    reportsOf run (log ++ log') = reportsOf run log ++ reportsOf run log' :=
  List.filterMap_append

/-- A report of the run is one of its reports. -/
@[simp] theorem reportsOf_own (run : Nat) (r : Report σ τ) : reportsOf run [(run, r)] = [r] := by
  simp [reportsOf]

/-- A report of another run is not. -/
theorem reportsOf_other {run number : Nat} (h : number ≠ run) (r : Report σ τ) :
    reportsOf run [(number, r)] = [] := by
  simp [reportsOf, h]

/-- What is carried out in two stretches is logged in both, one behind the other. -/
theorem carryOut_append (lexer : Lexer σ τ) (actions actions' : List (Action σ))
    (s : InUse σ τ) :
    (lexer.carryOut (actions ++ actions') s).1 =
      (lexer.carryOut actions s).1 ++ (lexer.carryOut actions' (lexer.carryOut actions s).2).1 := by
  induction actions generalizing s with
  | nil => rfl
  | cons action actions ih =>
      simp only [List.cons_append, carryOut, ih, List.append_assoc]

/-! ### One action -/

variable {lexer : Lexer σ τ} {s : InUse σ τ} {run : Nat}

/-- There are no more runs than were opened. -/
theorem InUse.run?_eq_none_of_le (h : s.runs.length ≤ run) : s.run? run = none := by
  simp [run?, h]

/-- A run that there is was opened. -/
theorem InUse.lt_of_run? {opened : OpenRun σ τ} (h : s.run? run = some opened) :
    run < s.runs.length := by
  refine Nat.lt_of_not_le fun hle => ?_
  rw [run?_eq_none_of_le hle] at h
  exact absurd h (by simp)

/-- Whatever is done with a lexer, its cache stays coherent. -/
theorem act_coherent (h : lexer.compiler.Coherent s.cache) (action : Action σ) :
    lexer.compiler.Coherent (lexer.act s action).2.cache := by
  cases action with
  | start input offset host => exact h
  | pull run attempts =>
      rw [act]
      split
      · exact h
      · next stream host _ =>
          exact @pull_coherent _ _ lexer attempts stream ⟨s.cache, host, s.journal⟩ h
  | abandon run => exact h

/-- Only a start adds a run. -/
theorem length_act (lexer : Lexer σ τ) (s : InUse σ τ) (action : Action σ) :
    (lexer.act s action).2.runs.length = s.runs.length + startedIn [action] := by
  cases action with
  | start input offset host => simp [act, startedIn]
  | pull run attempts =>
      rw [act]
      split <;> simp [startedIn]
  | abandon run => simp [act, startedIn]

/-- What an action does to a run that is not open: nothing, unless it starts the run. -/
theorem act_absent (h : s.run? run = none) (action : Action σ)
    (hnumber : run < s.runs.length ∨ s.runs.length + startedIn [action] ≤ run) :
    reportsOf run (lexer.act s action).1.toList = [] ∧
      (lexer.act s action).2.run? run = none := by
  have hlength := length_act lexer s action
  rcases hnumber with hlt | hle
  · cases action with
    | start input offset host =>
        refine ⟨rfl, ?_⟩
        simpa [act, InUse.run?, List.getElem?_append_left hlt] using h
    | pull number attempts =>
        rw [act]
        split
        · exact ⟨rfl, h⟩
        · next hopen =>
            have hne : number ≠ run := by
              rintro rfl
              exact absurd (h.symm.trans hopen) (by simp)
            exact ⟨reportsOf_other hne _, by simpa [InUse.run?, List.getElem?_set_ne hne] using h⟩
    | abandon number =>
        refine ⟨rfl, ?_⟩
        by_cases hne : number = run
        · subst hne
          simp [act, InUse.run?, List.getElem?_set_self hlt]
        · simpa [act, InUse.run?, List.getElem?_set_ne hne] using h
  · have hnext := InUse.run?_eq_none_of_le (s := (lexer.act s action).2) (hlength ▸ hle)
    refine ⟨?_, hnext⟩
    cases action with
    | start input offset host => rfl
    | pull number attempts =>
        rw [act]
        split
        · rfl
        · next hopen =>
            have hlt := InUse.lt_of_run? hopen
            have hne : number ≠ run := by omega
            exact reportsOf_other hne _
    | abandon number => rfl

/-- Runs are counted action by action. -/
theorem startedIn_cons (action : Action σ) (actions : List (Action σ)) :
    startedIn (action :: actions) = startedIn [action] + startedIn actions := by
  simp only [startedIn, List.countP_cons, List.countP_nil]
  omega

/-- As many runs are opened as are started. -/
theorem length_carryOut (lexer : Lexer σ τ) (actions : List (Action σ)) (s : InUse σ τ) :
    (lexer.carryOut actions s).2.runs.length = s.runs.length + startedIn actions := by
  induction actions generalizing s with
  | nil => rfl
  | cons action actions ih =>
      rw [carryOut, startedIn_cons]
      dsimp only
      rw [ih, length_act]
      omega

/-- Whatever is done with a lexer, its cache stays coherent. -/
theorem carryOut_coherent (h : lexer.compiler.Coherent s.cache) (actions : List (Action σ)) :
    lexer.compiler.Coherent (lexer.carryOut actions s).2.cache := by
  induction actions generalizing s with
  | nil => exact h
  | cons action actions ih => exact ih (act_coherent h action)

/-- A run that was abandoned, or has not been started yet, is not reported. -/
theorem reportsOf_carryOut_absent (h : s.run? run = none) (actions : List (Action σ))
    (hnumber : run < s.runs.length ∨ s.runs.length + startedIn actions ≤ run) :
    reportsOf run (lexer.carryOut actions s).1 = [] := by
  induction actions generalizing s with
  | nil => rfl
  | cons action actions ih =>
      rw [startedIn_cons] at hnumber
      have hlength := length_act lexer s action
      obtain ⟨hreports, habsent⟩ := @act_absent _ _ lexer _ _ h action (by omega)
      rw [carryOut]
      dsimp only
      rw [reportsOf_append, hreports, ih habsent (by omega), List.append_nil]

/-- **A run that is open goes on as if it were alone**, under a cache and a journal of its own. -/
theorem reportsOf_carryOut {stream : TokenStream τ} {host : σ} {cache : AlternationCache}
    (hopen : s.run? run = some ⟨stream, host⟩) (hshared : lexer.compiler.Coherent s.cache)
    (hown : lexer.compiler.Coherent cache) (journal : Journal) (actions : List (Action σ)) :
    reportsOf run (lexer.carryOut actions s).1 =
      lexer.reports (allowancesOf run actions) stream ⟨cache, host, journal⟩ := by
  induction actions generalizing s stream host cache journal with
  | nil => rfl
  | cons action actions ih =>
      have hlt := InUse.lt_of_run? hopen
      have hnext := act_coherent hshared action
      rw [carryOut]
      dsimp only
      rw [reportsOf_append]
      cases action with
      | start input offset started =>
          refine ih (s := (lexer.act s (.start input offset started)).2) ?_ hnext hown journal
          simpa [act, InUse.run?, List.getElem?_append_left hlt] using hopen
      | pull number attempts =>
          by_cases hnumber : number = run
          · subst hnumber
            -- The pull of the run itself: under its own ambient it ends alike.
            have halike : Ambient.Alike lexer.compiler
                ⟨s.cache, host, s.journal⟩ ⟨cache, host, journal⟩ := ⟨rfl, hshared, hown⟩
            have hpull := pull_alike halike attempts stream
            have hown' := @pull_coherent _ _ lexer attempts stream ⟨cache, host, journal⟩ hown
            rw [allowancesOf, if_pos rfl, reports]
            simp only [act, hopen] at hnext ⊢
            rw [report_eq_of_agree hpull, Option.toList_some, reportsOf_own, List.singleton_append]
            generalize lexer.pull attempts stream ⟨s.cache, host, s.journal⟩ = x at hpull hnext
            generalize lexer.pull attempts stream ⟨cache, host, journal⟩ = y at hpull hown'
            obtain ⟨answer, stream', h⟩ := hpull
            rw [h.host_eq]
            exact congrArg _ (ih (by simp [InUse.run?, List.getElem?_set_self hlt]) hnext hown' _)
          · rw [allowancesOf, if_neg hnumber]
            have hkept : (lexer.act s (.pull number attempts)).2.run? run =
                some ⟨stream, host⟩ := by
              rw [act]
              split
              · exact hopen
              · simpa [InUse.run?, List.getElem?_set_ne hnumber] using hopen
            have hsilent : reportsOf run (lexer.act s (.pull number attempts)).1.toList = [] := by
              rw [act]
              split
              · rfl
              · exact reportsOf_other hnumber _
            rw [hsilent, ih hkept hnext hown journal, List.nil_append]
      | abandon number =>
          by_cases hnumber : number = run
          · subst hnumber
            rw [allowancesOf, if_pos rfl]
            refine reportsOf_carryOut_absent (s := (lexer.act s (.abandon number)).2) ?_ actions
              (.inl ?_)
            · simp [act, InUse.run?, List.getElem?_set_self hlt]
            · simpa [act] using hlt
          · rw [allowancesOf, if_neg hnumber]
            refine ih (s := (lexer.act s (.abandon number)).2) ?_ hnext hown journal
            simpa [act, InUse.run?, List.getElem?_set_ne hnumber] using hopen

/-! ### All runs -/

/-- **Interleaved runs are independent.** Whatever is done with a lexer, a run that is started on
it at any time reports what it reports when it is left to itself on a lexer that was just made:
the same answers, errors of patterns that cannot be built among them, the same positions,
states and depths, and the same state of its own host. Neither the cache, which all runs
fill, nor runs that go on, end or are abandoned meanwhile make a difference. -/
theorem interleaved_runs_independent {table : StateTable (Rule σ τ)} {config : LexerConfig}
    {factory : BaseToken → Text → τ} {lexer : Lexer σ τ} {cache : AlternationCache}
    {journal : Journal} (hmake : Lexer.make table config factory = (.ok (lexer, cache), journal))
    (earlier later : List (Action σ)) (input : Text) (offset : Nat) (host : σ) :
    reportsOf (startedIn earlier)
        (lexer.carryOut (earlier ++ .start input offset host :: later) ⟨cache, journal, []⟩).1 =
      lexer.reports (allowancesOf (startedIn earlier) later) (lexer.tokenizeFrom input offset).1
        ⟨cache, host, journal⟩ := by
  obtain ⟨-, -, -, -, hcoherent⟩ := make_ok hmake
  have hearlier : reportsOf (startedIn earlier)
      (lexer.carryOut earlier ⟨cache, journal, []⟩).1 = [] :=
    reportsOf_carryOut_absent rfl earlier (.inr (by simp))
  have hlength := length_carryOut lexer earlier ⟨cache, journal, []⟩
  have hshared := carryOut_coherent (s := ⟨cache, journal, []⟩) hcoherent earlier
  rw [carryOut_append, reportsOf_append, hearlier, List.nil_append]
  generalize (lexer.carryOut earlier ⟨cache, journal, []⟩).2 = s at hlength hshared
  rw [List.length_nil, Nat.zero_add] at hlength
  refine reportsOf_carryOut (s := (lexer.act s (.start input offset host)).2) ?_ hshared
    hcoherent journal later
  simp [act, InUse.run?, ← hlength]

/-- Behind a `b` the state `twins` is entered, whose two patterns name their groups alike: each of
them can be built, but not the two together. -/
def twinTable : StateTable (Rule Unit Token) :=
  (StateTable.flat
    [{ pattern := .source ['a'] },
      { pattern := .source ['b']
        after := some fun _ host => .ask (.push "twins") fun _ => .done (.ok (), host) }]).declare
    "twins"
    [{ pattern := .source "(?P<x>a)".toList }, { pattern := .source "(?P<x>b)".toList }]

/-- Whether a pattern could not be built. -/
def Report.isUnbuilt (r : Report σ τ) : Bool :=
  match r.answer with
  | .failed (.config (.pattern _)) => true
  | _ => false

/-- Two runs over `ab` and `aba` that take turns on a lexer without eager compilation. The first
fails where the patterns of `twins` cannot be built, and is abandoned; then so does the second. -/
theorem interleaved_runs_independent_twins :
    ∃ (lexer : Lexer Unit Token) (cache : AlternationCache) (journal : Journal)
      (alone : List (Report Unit Token)),
      Lexer.make twinTable { eagerCompile := false } Token.make = (.ok (lexer, cache), journal) ∧
        alone = lexer.reports [1, 1, 1, 1] (lexer.tokenizeFrom ['a', 'b', 'a'] 0).1
          ⟨cache, (), journal⟩ ∧
        alone.map (fun r => (r.position, r.depth, r.isUnbuilt)) =
          [(1, 0, false), (2, 0, false), (2, 1, true), (2, 1, false)] ∧
        reportsOf 1 (lexer.carryOut
          ([.start ['a', 'b'] 0 (), .pull 0 1] ++ .start ['a', 'b', 'a'] 0 () ::
            [.pull 0 1, .pull 1 1, .pull 0 1, .abandon 0, .pull 1 1, .pull 1 1, .pull 1 1])
          ⟨cache, journal, []⟩).1 = alone := by
  have hrun : (match Lexer.make twinTable { eagerCompile := false } Token.make with
      | (.ok (lexer, cache), journal) => decide
          ((lexer.reports [1, 1, 1, 1] (lexer.tokenizeFrom ['a', 'b', 'a'] 0).1
              ⟨cache, (), journal⟩).map (fun r => (r.position, r.depth, r.isUnbuilt)) =
            [(1, 0, false), (2, 0, false), (2, 1, true), (2, 1, false)])
      | (.error _, _) => false) = true := by
    decide +kernel
  split at hrun
  · next lexer cache journal hmake =>
      exact ⟨lexer, cache, journal, _, hmake, rfl, of_decide_eq_true hrun,
        interleaved_runs_independent hmake [.start ['a', 'b'] 0 (), .pull 0 1]
          [.pull 0 1, .pull 1 1, .pull 0 1, .abandon 0, .pull 1 1, .pull 1 1, .pull 1 1]
          ['a', 'b', 'a'] 0 ()⟩
  · exact absurd hrun (by simp)

end ModalLex.Lexer
