import ModalLex.Proofs.Lexer.Calls
import ModalLex.Proofs.Lexer.Mirroring

/-!
# Retrying Behind Rejected Rules

A match is resolved in **rounds**. Each round asks for the alternation of the rules from some rule
on and searches with it; a match that is found belongs to a rule, whose predicate is asked, and if
it rejects there is another round with the rules behind. This loop has no bound of its own, so it
is a relation here (`Query.Rounds`), with no allowance of attempts and no answer for a rule that
does not exist. The search is a **parameter** of it, which may give any slots to any alternation.

Still every resolution ends, and no rule is missing. An alternation reports a rule by the position
of its group among those that are recorded; whatever the numbers of these groups are, and whatever
slots they are looked for in, the position is counted from the first rule of the alternation. So a
rule that is rejected lies behind all that were rejected before, and the rules are used up after at
most one more rounds than there are rules.

## Main results

* `Alternation.build_matchBy`: whatever a search gives, a rule of the alternation is reported.
* `Query.exists_rounds`, `Query.Rounds.unique`: a resolution has an end, and only one.
* `Query.Rounds.orderly`: the bounds of a resolution, by induction on its rounds.
* `Query.Rounds.resolveFrom_eq`: resolving with an allowance follows the rounds.
* `Lexer.retries_are_bounded`: **every resolution of a lexer ends within its bounds.**
-/

namespace ModalLex

namespace Alternation

/-- The match that an alternation reports by a search. -/
def matchBy (search : Alternation → Option (List (Nat × Nat))) (a : Alternation) : Option Found :=
  (search a).bind fun saved => reported saved a.first a.groups

/-- **Whatever a search gives**, the rule that is reported is one of those of the alternation. -/
theorem build_matchBy {parts : List Part} {first : Nat} {a : Alternation}
    {search : Alternation → Option (List (Nat × Nat))} {found : Found}
    (h : build parts first = .ok a) (hmatch : a.matchBy search = some found) :
    first ≤ found.rule ∧ found.rule < first + parts.length := by
  obtain ⟨saved, -, hreported⟩ := Option.bind_eq_some_iff.mp hmatch
  exact build_reported h hreported

end Alternation

namespace Query

variable {σ τ : Type}

/-- One round of a resolution: the rule that its alternation begins with, the match that was found,
and the answer of the predicate that was asked about it. -/
structure Round where
  first : Nat
  found : Option Found
  verdict : Option Bool
deriving DecidableEq, Repr

/-- The number of the rule whose predicate was asked in a round. -/
def Round.asked? (round : Round) : Option Nat :=
  round.verdict.bind fun _ => round.found.map (·.rule)

/-- The calls of predicates in a round: one, if its match has a rule with a predicate. -/
def callsOf (q : Query σ τ) (round : Round) : List (HookCall τ) :=
  match round.found, round.verdict with
  | some found, some accepted => [⟨q.state, found.rule, .test (q.testContext found) accepted⟩]
  | _, _ => []

/-- **The rounds of a resolution** from a rule on, with its answer and what it leaves. -/
inductive Rounds (q : Query σ τ) (search : Alternation → Option (List (Nat × Nat))) :
    Nat → Ambient σ → List Round → Except ConfigError (Option (Found × Rule σ τ)) → Ambient σ → Prop
  /-- The alternation cannot be built. -/
  | unbuilt {first : Nat} {ambient left : Ambient σ} {e : ConfigError} :
      q.alternation first ambient = (.error e, left) →
      Rounds q search first ambient [⟨first, none, none⟩] (.error e) left
  /-- No rules are left. -/
  | exhausted {first : Nat} {ambient left : Ambient σ} :
      q.alternation first ambient = (.ok none, left) →
      Rounds q search first ambient [⟨first, none, none⟩] (.ok none) left
  /-- No rule that is left matches. -/
  | unmatched {first : Nat} {ambient built : Ambient σ} {a : Alternation} :
      q.alternation first ambient = (.ok (some a), built) → a.matchBy search = none →
      Rounds q search first ambient [⟨first, none, none⟩] (.ok none)
        (built.note (.noAlternativeMatched q.stateName q.offset first))
  /-- A match is found whose rule has no predicate, or one that accepts. -/
  | accepted {first : Nat} {ambient built : Ambient σ} {a : Alternation} {found : Found}
      {rule : Rule σ τ} {host : σ} :
      q.alternation first ambient = (.ok (some a), built) → a.matchBy search = some found →
      q.rules[found.rule]? = some rule → q.accepts rule found built.host = (true, host) →
      Rounds q search first ambient [⟨first, some found, rule.test.map fun _ => true⟩]
        (.ok (some (found, rule)))
        (({ built with host } : Ambient σ).note
          (.resolvedRule q.stateName found.rule found.start found.stop))
  /-- A match is found whose rule has a predicate that rejects. -/
  | rejected {first : Nat} {ambient built left : Ambient σ} {a : Alternation} {found : Found}
      {rule : Rule σ τ} {host : σ} {rounds : List Round}
      {answer : Except ConfigError (Option (Found × Rule σ τ))} :
      q.alternation first ambient = (.ok (some a), built) → a.matchBy search = some found →
      q.rules[found.rule]? = some rule → q.accepts rule found built.host = (false, host) →
      Rounds q search (found.rule + 1)
        (({ built with host } : Ambient σ).note
          (.predicateRejected q.stateName found.rule q.offset)) rounds answer left →
      Rounds q search first ambient (⟨first, some found, rule.test.map fun _ => false⟩ :: rounds)
        answer left

variable {q : Query σ τ} {search : Alternation → Option (List (Nat × Nat))} {first : Nat}
  {ambient left : Ambient σ} {rounds : List Round}
  {answer : Except ConfigError (Option (Found × Rule σ τ))}

/-! ### The end of a resolution -/

/-- A match that is found has a rule that exists, and none before the first of its round. -/
theorem rule_of_matchBy (hparts : (q.compiler.partsOf q.state).length = q.rules.length)
    (hcoherent : q.compiler.Coherent ambient.cache) {built : Ambient σ} {a : Alternation}
    {found : Found} (hasked : q.alternation first ambient = (.ok (some a), built))
    (hmatch : a.matchBy search = some found) :
    first ≤ found.rule ∧ found.rule < q.rules.length := by
  obtain ⟨hne, hbuild⟩ := Compiler.alternation_ok hcoherent (congrArg Prod.fst hasked)
  have hfirst : first < q.rules.length := by
    rw [← hparts]
    exact Nat.lt_of_not_le (mt List.drop_eq_nil_of_le hne)
  obtain ⟨hge, hlt⟩ := Alternation.build_matchBy hbuild hmatch
  rw [List.length_drop, hparts] at hlt
  exact ⟨hge, by omega⟩

/-- **Every resolution ends.** -/
theorem exists_rounds (hparts : (q.compiler.partsOf q.state).length = q.rules.length)
    (search : Alternation → Option (List (Nat × Nat))) (first : Nat) {ambient : Ambient σ}
    (hcoherent : q.compiler.Coherent ambient.cache) :
    ∃ rounds answer left, q.Rounds search first ambient rounds answer left := by
  -- The rules that are left become fewer with every rule that is rejected.
  induction hleft : q.rules.length - first using Nat.strongRecOn generalizing first ambient with
  | ind n ih =>
      obtain ⟨⟨result, built⟩, hasked⟩ : ∃ asked, q.alternation first ambient = asked := ⟨_, rfl⟩
      match result with
      | .error e => exact ⟨_, _, _, .unbuilt hasked⟩
      | .ok none => exact ⟨_, _, _, .exhausted hasked⟩
      | .ok (some a) =>
          cases hmatch : a.matchBy search with
          | none => exact ⟨_, _, _, .unmatched hasked hmatch⟩
          | some found =>
              obtain ⟨hge, hlt⟩ := rule_of_matchBy hparts hcoherent hasked hmatch
              have hrule := List.getElem?_eq_getElem hlt
              obtain ⟨⟨verdict, host⟩, haccepts⟩ :
                ∃ accepted, q.accepts q.rules[found.rule] found built.host = accepted := ⟨_, rfl⟩
              cases verdict with
              | true => exact ⟨_, _, _, .accepted hasked hmatch hrule haccepts⟩
              | false =>
                  have hbuilt := alternation_coherent hcoherent hasked
                  have hcoherent' : q.compiler.Coherent (({ built with host } : Ambient σ).note
                      (.predicateRejected q.stateName found.rule q.offset)).cache := hbuilt
                  obtain ⟨rounds, answer, left, hrounds⟩ :=
                    ih _ (by omega) (found.rule + 1) hcoherent' rfl
                  exact ⟨_, _, _, .rejected hasked hmatch hrule haccepts hrounds⟩

/-- **A resolution has only one end.** -/
theorem Rounds.unique (h : q.Rounds search first ambient rounds answer left) {left' : Ambient σ}
    {rounds' : List Round} {answer' : Except ConfigError (Option (Found × Rule σ τ))}
    (h' : q.Rounds search first ambient rounds' answer' left') :
    rounds' = rounds ∧ answer' = answer ∧ left' = left := by
  induction h generalizing rounds' with
  | unbuilt hasked => cases h' <;> simp_all
  | exhausted hasked => cases h' <;> simp_all
  | unmatched hasked hmatch => cases h' <;> simp_all
  | accepted hasked hmatch hrule haccepts => cases h' <;> simp_all
  | rejected hasked hmatch hrule haccepts _ ih =>
      cases h' with
      | rejected hasked' hmatch' hrule' haccepts' hrounds' =>
          obtain ⟨heq, rfl⟩ := Prod.mk.inj (hasked.symm.trans hasked')
          obtain rfl := Option.some.inj (Except.ok.inj heq)
          obtain rfl := Option.some.inj (hmatch.symm.trans hmatch')
          obtain rfl := Option.some.inj (hrule.symm.trans hrule')
          obtain ⟨-, rfl⟩ := Prod.mk.inj (haccepts.symm.trans haccepts')
          obtain ⟨rfl, rfl, rfl⟩ := ih hrounds'
          exact ⟨rfl, rfl, rfl⟩
      | _ => simp_all

/-! ### The bounds of a resolution -/

/-- What is known of the rounds of a resolution from a rule on, and of its answer. -/
structure Orderly (q : Query σ τ) (first : Nat) (rounds : List Round)
    (answer : Except ConfigError (Option (Found × Rule σ τ))) : Prop where
  /-- There is at most one more round than rules that are left. -/
  length_le : rounds.length ≤ q.rules.length - first + 1
  /-- Each round begins behind all rounds before. -/
  firsts_increase : (rounds.map (·.first)).Pairwise (· < ·)
  first_le : ∀ round ∈ rounds, first ≤ round.first
  /-- A match that is found has a rule that exists, and none before the first of its round. -/
  found_rule : ∀ round ∈ rounds, ∀ found, round.found = some found →
    round.first ≤ found.rule ∧ found.rule < q.rules.length
  /-- The rules whose predicates are asked lie one behind the other. -/
  asked_increase : (rounds.filterMap Round.asked?).Pairwise (· < ·)
  /-- A rule that is returned has no predicate, or one that accepts the match of the last round. -/
  returned : ∀ found rule, answer = .ok (some (found, rule)) → q.rules[found.rule]? = some rule ∧
    (∀ test, rule.test = some test → ∃ host, (test (q.testContext found) host).1 = true) ∧
    ∃ start, rounds.getLast? = some ⟨start, some found, rule.test.map fun _ => true⟩
  /-- All rules that are rejected come before one that is returned. -/
  rejected_lt : ∀ found rule, answer = .ok (some (found, rule)) → ∀ round ∈ rounds,
    round.verdict = some false → ∀ rejected, round.found = some rejected →
      rejected.rule < found.rule

/-- A round in which nothing is found ends a resolution with nothing. -/
theorem Orderly.of_none (q : Query σ τ) (first : Nat) (hnone : ∀ found, answer ≠ .ok (some found)) :
    q.Orderly first [⟨first, none, none⟩] answer where
  length_le := by simp
  firsts_increase := List.pairwise_singleton _ _
  first_le := by simp
  found_rule := by simp
  asked_increase := List.Pairwise.nil
  returned found rule hanswer := absurd hanswer (hnone _)
  rejected_lt found rule hanswer := absurd hanswer (hnone _)

/-- A round whose match is accepted ends a resolution with it. -/
theorem Orderly.of_accepted {found : Found} {rule : Rule σ τ} {host : σ}
    (hge : first ≤ found.rule) (hrule : q.rules[found.rule]? = some rule)
    (haccepts : (q.accepts rule found host).1 = true) :
    q.Orderly first [⟨first, some found, rule.test.map fun _ => true⟩]
      (.ok (some (found, rule))) where
  length_le := by simp
  firsts_increase := List.pairwise_singleton _ _
  first_le := by simp
  found_rule round hround found' hfound := by
    obtain rfl := List.mem_singleton.mp hround
    obtain rfl := Option.some.inj hfound
    exact ⟨hge, (List.getElem?_eq_some_iff.mp hrule).1⟩
  asked_increase := by
    cases rule.test with
    | none => exact List.Pairwise.nil
    | some test => exact List.pairwise_singleton _ _
  returned found' rule' hanswer := by
    obtain ⟨rfl, rfl⟩ := Prod.mk.inj (Option.some.inj (Except.ok.inj hanswer))
    refine ⟨hrule, fun test htest => ⟨host, ?_⟩, first, rfl⟩
    rwa [accepts, htest] at haccepts
  rejected_lt found' rule' hanswer round hround hverdict := by
    obtain rfl := List.mem_singleton.mp hround
    cases htest : rule.test with
    | none => exact absurd hverdict (by simp [htest])
    | some test => exact absurd hverdict (by simp [htest])

/-- A round whose match is rejected comes before the rounds with the rules behind. -/
theorem Orderly.cons {found : Found} (h : q.Orderly (found.rule + 1) rounds answer)
    (hge : first ≤ found.rule) (hlt : found.rule < q.rules.length) (verdict : Option Bool) :
    q.Orderly first (⟨first, some found, verdict⟩ :: rounds) answer where
  length_le := by
    have hlength := h.length_le
    rw [List.length_cons]
    omega
  firsts_increase := by
    rw [List.map_cons, List.pairwise_cons]
    refine ⟨fun other hother => ?_, h.firsts_increase⟩
    obtain ⟨round, hround, rfl⟩ := List.mem_map.mp hother
    exact Nat.lt_of_le_of_lt hge (h.first_le round hround)
  first_le round hround := by
    rcases List.mem_cons.mp hround with rfl | hround
    · exact Nat.le_refl _
    · have hle := h.first_le round hround
      omega
  found_rule round hround found' hfound := by
    rcases List.mem_cons.mp hround with rfl | hround
    · obtain rfl := Option.some.inj hfound
      exact ⟨hge, hlt⟩
    · exact h.found_rule round hround found' hfound
  asked_increase := by
    cases verdict with
    | none => exact h.asked_increase
    | some accepted =>
        refine List.pairwise_cons.mpr ⟨fun other hother => ?_, h.asked_increase⟩
        obtain ⟨round, hround, hasked⟩ := List.mem_filterMap.mp hother
        obtain ⟨-, -, hfound⟩ := Option.bind_eq_some_iff.mp hasked
        obtain ⟨found', hfound', rfl⟩ := Option.map_eq_some_iff.mp hfound
        obtain ⟨hrule, -⟩ := h.found_rule round hround found' hfound'
        exact Nat.lt_of_lt_of_le (h.first_le round hround) hrule
  returned found' rule' hanswer := by
    obtain ⟨hrule, haccepted, start, hlast⟩ := h.returned found' rule' hanswer
    refine ⟨hrule, haccepted, start, ?_⟩
    rw [List.getLast?_cons, hlast]
    rfl
  rejected_lt found' rule' hanswer round hround hverdict rejected hrejected := by
    rcases List.mem_cons.mp hround with rfl | hround
    · -- The match that is returned was found in a round behind this one.
      obtain rfl := Option.some.inj hrejected
      obtain ⟨-, -, start, hlast⟩ := h.returned found' rule' hanswer
      have hmem := List.mem_of_getLast? hlast
      exact Nat.lt_of_lt_of_le (h.first_le _ hmem) (h.found_rule _ hmem found' rfl).1
    · exact h.rejected_lt found' rule' hanswer round hround hverdict rejected hrejected

/-- **The bounds of a resolution.** -/
theorem Rounds.orderly (hparts : (q.compiler.partsOf q.state).length = q.rules.length)
    (hcoherent : q.compiler.Coherent ambient.cache)
    (h : q.Rounds search first ambient rounds answer left) : q.Orderly first rounds answer := by
  induction h with
  | unbuilt hasked => exact .of_none q _ (by simp)
  | exhausted hasked => exact .of_none q _ (by simp)
  | unmatched hasked hmatch => exact .of_none q _ (by simp)
  | accepted hasked hmatch hrule haccepts =>
      obtain ⟨hge, -⟩ := rule_of_matchBy hparts hcoherent hasked hmatch
      exact .of_accepted hge hrule (congrArg Prod.fst haccepts)
  | rejected hasked hmatch hrule haccepts _ ih =>
      obtain ⟨hge, hlt⟩ := rule_of_matchBy hparts hcoherent hasked hmatch
      have hbuilt := alternation_coherent hcoherent hasked
      exact (ih hbuilt).cons hge hlt _

/-! ### Resolving with an allowance -/

/-- The search that is made for a query. -/
def searched (q : Query σ τ) : Alternation → Option (List (Nat × Nat)) :=
  fun a => Regex.searchAt a.program q.input q.offset

/-- The search of the lexer is one of those that the rounds may be about. -/
theorem matchBy_searched (q : Query σ τ) (a : Alternation) :
    a.matchBy q.searched = a.matchAt q.input q.offset := by
  rw [Alternation.matchBy, Alternation.matchAt, searched]
  cases Regex.searchAt a.program q.input q.offset <;> rfl

/-- The rounds of a resolution are one of the courses that the search for a rule takes, if its
allowance has one attempt for each. -/
theorem Rounds.runs (h : q.Rounds q.searched first ambient rounds answer left) {attempts : Nat}
    (hattempts : rounds.length ≤ attempts) : q.Runs attempts first ambient (answer, left) := by
  induction h generalizing attempts with
  | unbuilt hasked =>
      obtain ⟨attempts, rfl⟩ := Nat.exists_eq_add_of_le' hattempts
      exact .unbuilt hasked
  | exhausted hasked =>
      obtain ⟨attempts, rfl⟩ := Nat.exists_eq_add_of_le' hattempts
      exact .exhausted hasked
  | unmatched hasked hmatch =>
      obtain ⟨attempts, rfl⟩ := Nat.exists_eq_add_of_le' hattempts
      exact .unmatched hasked (matchBy_searched q _ ▸ hmatch)
  | accepted hasked hmatch hrule haccepts =>
      obtain ⟨attempts, rfl⟩ := Nat.exists_eq_add_of_le' hattempts
      exact .accepted hasked (matchBy_searched q _ ▸ hmatch) hrule haccepts
  | rejected hasked hmatch hrule haccepts _ ih =>
      obtain ⟨attempts, rfl⟩ := Nat.exists_eq_add_of_le' (Nat.one_le_of_lt hattempts)
      exact .rejected hasked (matchBy_searched q _ ▸ hmatch) hrule haccepts
        (ih (Nat.le_of_succ_le_succ hattempts))

/-- **Resolving with an allowance follows the rounds**, if it has one attempt for each. -/
theorem Rounds.resolveFrom_eq (h : q.Rounds q.searched first ambient rounds answer left)
    {attempts : Nat} (hattempts : rounds.length ≤ attempts) :
    q.resolveFrom attempts first ambient = (answer, left) :=
  (h.runs hattempts).eq

/-! ### The predicates that are asked -/

/-- An alternation is handed out the same while calls are recorded. -/
theorem recorded_alternation {recording : Ambient (σ × List (HookCall τ))}
    {result : Except ConfigError (Option Alternation)} {built : Ambient σ}
    (hasked : q.alternation first recording.unrecorded = (result, built)) :
    ∃ built' : Ambient (σ × List (HookCall τ)),
      q.recorded.alternation first recording = (result, built') ∧ built'.unrecorded = built ∧
        built'.host = recording.host := by
  obtain ⟨rfl, rfl⟩ := Prod.mk.inj hasked
  exact ⟨_, rfl, rfl, rfl⟩

theorem recorded_verdict (rule : Rule σ τ) (state index : Nat) (verdict : Bool) :
    (rule.recorded state index).test.map (fun _ => verdict) = rule.test.map fun _ => verdict := by
  rw [Rule.recorded, Option.map_map]
  rfl

/-- A recorded predicate gives the answer of the predicate itself, and its call is that of the
round. -/
theorem accepts_recorded {rule : Rule σ τ} {found : Found}
    {recording : Ambient (σ × List (HookCall τ))} {verdict : Bool} {host : σ} (first : Nat)
    (haccepts : q.accepts rule found recording.host.1 = (verdict, host)) :
    q.recorded.accepts (rule.recorded q.state found.rule) found recording.host =
      (verdict, host, recording.host.2 ++
        q.callsOf ⟨first, some found, rule.test.map fun _ => verdict⟩) := by
  rw [accepts] at haccepts
  rw [accepts, Rule.recorded]
  cases htest : rule.test with
  | none =>
      rw [htest] at haccepts
      obtain ⟨rfl, rfl⟩ := Prod.mk.inj haccepts
      exact congrArg (fun calls => (true, recording.host.1, calls)) (List.append_nil _).symm
  | some test =>
      rw [htest] at haccepts
      have hanswer : test (q.testContext found) recording.host.1 = (verdict, host) := haccepts
      have hcontext : q.recorded.testContext found = q.testContext found := rfl
      dsimp only [Option.map_some]
      rw [hcontext, hanswer]
      rfl

/-- **A resolution asks the predicates of its rounds**, in their order, and no others. -/
theorem Rounds.recorded (h : q.Rounds search first ambient rounds answer left)
    {recording : Ambient (σ × List (HookCall τ))} (hrecording : recording.unrecorded = ambient) :
    ∃ left' : Ambient (σ × List (HookCall τ)),
      q.recorded.Rounds search first recording rounds
        (answer.map (Option.map fun p => (p.1, p.2.recorded q.state p.1.rule))) left' ∧
      left'.unrecorded = left ∧ left'.host.2 = recording.host.2 ++ rounds.flatMap q.callsOf := by
  induction h generalizing recording with
  | unbuilt hasked =>
      subst hrecording
      obtain ⟨built', hasked', rfl, hhost⟩ := recorded_alternation hasked
      exact ⟨built', .unbuilt hasked', rfl, hhost ▸ (List.append_nil _).symm⟩
  | exhausted hasked =>
      subst hrecording
      obtain ⟨built', hasked', rfl, hhost⟩ := recorded_alternation hasked
      exact ⟨built', .exhausted hasked', rfl, hhost ▸ (List.append_nil _).symm⟩
  | unmatched hasked hmatch =>
      subst hrecording
      obtain ⟨built', hasked', rfl, hhost⟩ := recorded_alternation hasked
      exact ⟨_, .unmatched hasked' hmatch, rfl, hhost ▸ (List.append_nil _).symm⟩
  | @accepted first _ _ _ found rule _ hasked hmatch hrule haccepts =>
      subst hrecording
      obtain ⟨built', hasked', rfl, hhost⟩ := recorded_alternation hasked
      have hrule' := (q.recorded_rules found.rule).trans (congrArg _ hrule)
      have hround := Rounds.accepted hasked' hmatch hrule' (accepts_recorded first haccepts)
      rw [recorded_verdict] at hround
      refine ⟨_, hround, rfl, ?_⟩
      rw [List.flatMap_singleton, ← hhost]
      rfl
  | @rejected first _ _ _ _ found rule host _ _ hasked hmatch hrule haccepts _ ih =>
      subst hrecording
      obtain ⟨built', hasked', rfl, hhost⟩ := recorded_alternation hasked
      have hrule' := (q.recorded_rules found.rule).trans (congrArg _ hrule)
      -- What has been recorded in this round is in front of the calls of the rounds behind.
      obtain ⟨left', hrounds, hleft, hcalls⟩ := @ih (({ built' with
        host := (host, built'.host.2 ++ q.callsOf ⟨first, some found, rule.test.map fun _ => false⟩)
        } : Ambient _).note (.predicateRejected q.stateName found.rule q.offset)) rfl
      have hround := Rounds.rejected hasked' hmatch hrule' (accepts_recorded first haccepts) hrounds
      rw [recorded_verdict] at hround
      refine ⟨left', hround, hleft, hcalls.trans ?_⟩
      rw [List.flatMap_cons, ← hhost, ← List.append_assoc]
      rfl

end Query

namespace Lexer

variable {σ τ : Type}

/-- **Every resolution of a lexer ends within its bounds**: in every state, at every offset of an
input, with any token before, any predicates and whatever the searches give. It comes to one end
only, after at most one more rounds than the state has rules; each round asks for the alternation
of fewer rules than the one before, and finds a rule of this alternation or nothing. The predicates
that are asked are those of the rounds, of one rule after the other, and a rule that is returned
lies behind all rules that were rejected, with no predicate or one that accepts its match. With the
searches that the lexer makes, this is how it resolves a match. -/
theorem retries_are_bounded {table : StateTable (Rule σ τ)} {config : LexerConfig}
    {factory : BaseToken → Text → τ} {lexer : Lexer σ τ} {cache : AlternationCache}
    {journal : Journal} (hmake : make table config factory = (.ok (lexer, cache), journal))
    {state : Nat} {input : Text} {offset : Nat} {lastToken : Option τ} {q : Query σ τ}
    (hq : q = lexer.queryIn state input offset lastToken) {ambient : Ambient σ}
    (hcoherent : lexer.compiler.Coherent ambient.cache)
    (search : Alternation → Option (List (Nat × Nat))) :
    ∃ rounds answer left, q.Rounds search 0 ambient rounds answer left ∧
      (∀ rounds' answer' left', q.Rounds search 0 ambient rounds' answer' left' →
        rounds' = rounds ∧ answer' = answer ∧ left' = left) ∧
      q.Orderly 0 rounds answer ∧
      (∃ left', q.recorded.Rounds search 0 ⟨ambient.cache, (ambient.host, []), ambient.journal⟩
          rounds (answer.map (Option.map fun p => (p.1, p.2.recorded q.state p.1.rule))) left' ∧
        left'.unrecorded = left ∧ left'.host.2 = rounds.flatMap q.callsOf) ∧
      (search = q.searched → q.resolve ambient = (answer, left)) := by
  have hparts : (q.compiler.partsOf q.state).length = q.rules.length := by
    rw [hq]
    exact (make_wellMade hmake).partsOf_length state
  have hcoherent : q.compiler.Coherent ambient.cache := by
    rw [hq]
    exact hcoherent
  obtain ⟨rounds, answer, left, hrounds⟩ := Query.exists_rounds hparts search 0 hcoherent
  have horderly := hrounds.orderly hparts hcoherent
  obtain ⟨left', hrecorded, hleft, hcalls⟩ :
    ∃ left', q.recorded.Rounds search 0 ⟨ambient.cache, (ambient.host, []), ambient.journal⟩ rounds
        (answer.map (Option.map fun p => (p.1, p.2.recorded q.state p.1.rule))) left' ∧
      left'.unrecorded = left ∧ left'.host.2 = [] ++ rounds.flatMap q.callsOf :=
    hrounds.recorded rfl
  refine ⟨rounds, answer, left, hrounds, fun _ _ _ h => hrounds.unique h, horderly,
    ⟨left', hrecorded, hleft, hcalls⟩, ?_⟩
  rintro rfl
  exact hrounds.resolveFrom_eq horderly.length_le

/-- A pattern that was compiled with blanks and comments, so that its group stands in a comment, and
two rules behind it whose predicates reject. -/
def commentedTable : StateTable (Rule Unit Token) :=
  StateTable.flat
    [{ pattern := .compiled "x#(y)".toList 0 },
      { pattern := .source ['a'], test := some fun _ host => (false, host) },
      { pattern := .source ['a'], test := some fun _ host => (false, host) }]

/-- In the spliced pattern the group of the first rule is no more in a comment, so the numbers that
are recorded for the rules behind are wrong. Still a match is resolved in four rounds at most. -/
theorem retries_are_bounded_commented :
    ∃ (lexer : Lexer Unit Token) (cache : AlternationCache) (journal : Journal)
      (q : Query Unit Token),
      make commentedTable {} Token.make = (.ok (lexer, cache), journal) ∧
        q = lexer.queryIn 0 ['a'] 0 none ∧
        (∀ search, ∃ rounds answer left,
          q.Rounds search 0 ⟨cache, (), journal⟩ rounds answer left ∧ rounds.length ≤ 4) ∧
        ∃ rounds left, q.Rounds q.searched 0 ⟨cache, (), journal⟩ rounds (.ok none) left ∧
          q.resolve ⟨cache, (), journal⟩ = (.ok none, left) := by
  have hrun : (match make commentedTable {} Token.make with
      | (.ok (lexer, cache), journal) =>
        decide ((lexer.queryIn 0 ['a'] 0 none).rules.length = 3 ∧
          ((lexer.queryIn 0 ['a'] 0 none).resolve ⟨cache, (), journal⟩).1.toOption.map
            Option.isNone = some true)
      | (.error _, _) => false) = true := by
    decide +kernel
  split at hrun
  · next lexer cache journal hmake =>
      obtain ⟨hlength, hresolve⟩ := of_decide_eq_true hrun
      have hcoherent : lexer.compiler.Coherent (⟨cache, (), journal⟩ : Ambient Unit).cache :=
        (make_ok hmake).2.2.2.2
      have hbounded := retries_are_bounded hmake
        (rfl : _ = lexer.queryIn 0 ['a'] 0 none) hcoherent
      refine ⟨lexer, cache, journal, _, hmake, rfl, fun search => ?_, ?_⟩
      · obtain ⟨rounds, answer, left, hrounds, -, horderly, -⟩ := hbounded search
        have hle := horderly.length_le
        rw [hlength] at hle
        exact ⟨rounds, answer, left, hrounds, hle⟩
      · obtain ⟨rounds, answer, left, hrounds, -, -, -, hsearched⟩ := hbounded _
        have heq := hsearched rfl
        rw [heq] at hresolve
        match answer with
        | .ok none => exact ⟨rounds, left, hrounds, heq⟩
        | .ok (some _) => exact absurd hresolve (by simp [Except.toOption])
        | .error _ => exact absurd hresolve (by simp [Except.toOption])
  · exact absurd hrun (by simp)

end Lexer

end ModalLex
