import ModalLex.Proofs.Lexer.Calls

/-!
# The Calls Are Determined

The relations of `ModalLex.Proofs.Lexer.Calls` are functions: where a pull begins, with which cache,
host and journal, determines which list of calls it has, how it ends, and what it leaves. So these
relations hold of nothing but the run, and whatever follows from them is a fact about its calls.

Each lemma compares two derivations that begin at the same place. What is read off the lexer, the
stream and the ambient, course by course, is the same for both; two different courses disagree about
it.

## Main results

* `AttemptCalls.unique`, `ScanCalls.unique`: the calls of an attempt and of a search.
* `PullCalls.unique`: **the calls of a pull are determined**, with its answer and what it leaves.
-/

namespace ModalLex

variable {σ τ : Type}

/-! ### Hooks and predicates -/

/-- What a hook says and how it ends determines its call. -/
theorem HookCalled.calls_eq {Ask : Type} {Reply : Ask → Type} {η : Type} {p : Pending}
    {event : List ((q : Ask) × Reply q) → Except LexError Unit → HookEvent τ} {hook : Option η}
    {talk : List ((q : Ask) × Reply q)} {calls calls' : List (HookCall τ)}
    {result : Except LexError Unit} (h : HookCalled p event hook talk calls result)
    (h' : HookCalled p event hook talk calls' result) : calls = calls' := by
  cases h with
  | absent =>
      cases h' with
      | absent => rfl
  | called =>
      cases h' with
      | called => rfl

/-- The calls of the search for a rule are determined by where it begins. -/
theorem Query.Tests.calls_eq {q : Query σ τ} {attempts first : Nat} {ambient : Ambient σ}
    {calls calls' : List (HookCall τ)}
    {out out' : Except ConfigError (Option (Found × Rule σ τ)) × Ambient σ}
    (h : q.Tests attempts first ambient calls out)
    (h' : q.Tests attempts first ambient calls' out') : calls = calls' := by
  induction h generalizing calls' out' with
  | spent =>
      cases h' with
      | spent => rfl
  | unbuilt | exhausted | unmatched | unowned => cases h' <;> simp_all
  | accepted => cases h' <;> simp_all
  | rejected hq hmatch hrule haccepts _ ih =>
      cases h' with
      | rejected hq' hmatch' hrule' haccepts' hlater' =>
          obtain ⟨ha, rfl⟩ := Prod.mk.inj (hq.symm.trans hq')
          obtain rfl := Option.some.inj (Except.ok.inj ha)
          obtain rfl := Option.some.inj (hmatch.symm.trans hmatch')
          obtain rfl := Option.some.inj (hrule.symm.trans hrule')
          obtain ⟨-, rfl⟩ := Prod.mk.inj (haccepts.symm.trans haccepts')
          rw [ih hlater']
      | _ => simp_all

/-! ### Attempts -/

namespace Lexer

variable {lexer : Lexer σ τ} {stream : TokenStream τ} {ambient : Ambient σ}
  {made made' : List (HookCall τ)}

/-- So are those of a resolution, with its end. -/
theorem unique_of_resolved {q : Query σ τ}
    {out out' : Except ConfigError (Option (Found × Rule σ τ)) × Ambient σ}
    (h : q.Resolved ambient made out) (h' : q.Resolved ambient made' out') :
    made = made' ∧ out = out' :=
  ⟨h.calls_eq h', h.eq.symm.trans h'.eq⟩

/-- Calls of a `before` hook stand behind those of the resolution of its match. -/
theorem BeforeCalls.resolved {found : Found} {rule : Rule σ τ}
    {out : Except LexError Bool × StateStack × Ambient σ}
    (h : BeforeCalls lexer stream ambient found rule made out) :
    ∃ tests ambient₁,
      (lexer.query stream).Resolved ambient tests (.ok (some (found, rule)), ambient₁) := by
  obtain ⟨tests, _, _, _, ambient₁, hresolved, -⟩ := h.cases
  exact ⟨tests, ambient₁, hresolved⟩

/-- The calls up to the end of the `before` hook are determined, with the match. -/
theorem BeforeCalls.unique {found found' : Found} {rule rule' : Rule σ τ}
    {out out' : Except LexError Bool × StateStack × Ambient σ}
    (h : BeforeCalls lexer stream ambient found rule made out)
    (h' : BeforeCalls lexer stream ambient found' rule' made' out') :
    found = found' ∧ rule = rule' ∧ made = made' ∧ out = out' := by
  cases h with
  | @intro _ _ talk result _ _ _ hresolved htalk hcalled hrun =>
      cases h' with
      | @intro _ _ talk' result' _ _ _ hresolved' htalk' hcalled' hrun' =>
          obtain ⟨rfl, hsame⟩ := unique_of_resolved hresolved hresolved'
          simp only [Prod.mk.injEq, Except.ok.injEq, Option.some.injEq] at hsame
          obtain ⟨⟨rfl, rfl⟩, rfl⟩ := hsame
          obtain rfl := htalk.trans htalk'.symm
          obtain ⟨hended, hleft⟩ := Prod.mk.inj (hrun.symm.trans hrun')
          have hresult : result = result' := by
            cases result <;> cases result' <;> simp_all [Except.map]
          subst hresult
          rw [hcalled.calls_eq hcalled', hleft]
          exact ⟨rfl, rfl, rfl, rfl⟩

/-- **The calls of an attempt are determined** by where it begins, with its end. -/
theorem AttemptCalls.unique {out out' : Attempt τ × TokenStream τ × Ambient σ}
    (h : AttemptCalls lexer stream ambient made out)
    (h' : AttemptCalls lexer stream ambient made' out') : made = made' ∧ out = out' := by
  -- A resolution without a match is not the resolution of one.
  have hmatched {found : Found} {rule : Rule σ τ} {before tests : List (HookCall τ)}
      {end₁ : Except LexError Bool × StateStack × Ambient σ}
      {end₂ : Except ConfigError (Option (Found × Rule σ τ)) × Ambient σ}
      (hbefore : BeforeCalls lexer stream ambient found rule before end₁)
      (hresolved : (lexer.query stream).Resolved ambient tests end₂) :
      end₂.1 = .ok (some (found, rule)) := by
    obtain ⟨_, _, hresolved'⟩ := hbefore.resolved
    rw [(unique_of_resolved hresolved hresolved').2]
  cases h with
  | unbuilt hresolved =>
      cases h' with
      | unbuilt hresolved' =>
          obtain ⟨rfl, hsame⟩ := unique_of_resolved hresolved hresolved'
          cases hsame
          exact ⟨rfl, rfl⟩
      | unmatched hresolved' => cases (unique_of_resolved hresolved hresolved').2
      | beforeFailed hbefore | aborted hbefore | fetchFailed hbefore | token hbefore =>
          cases hmatched hbefore hresolved
  | unmatched hresolved =>
      cases h' with
      | unmatched hresolved' =>
          obtain ⟨rfl, hsame⟩ := unique_of_resolved hresolved hresolved'
          cases hsame
          exact ⟨rfl, rfl⟩
      | unbuilt hresolved' => cases (unique_of_resolved hresolved hresolved').2
      | beforeFailed hbefore | aborted hbefore | fetchFailed hbefore | token hbefore =>
          cases hmatched hbefore hresolved
  | beforeFailed hbefore =>
      cases h' with
      | unbuilt hresolved' | unmatched hresolved' => cases hmatched hbefore hresolved'
      | beforeFailed hbefore' =>
          obtain ⟨-, -, rfl, hsame⟩ := hbefore.unique hbefore'
          cases hsame
          exact ⟨rfl, rfl⟩
      | aborted hbefore' | fetchFailed hbefore' | token hbefore' =>
          cases (hbefore.unique hbefore').2.2.2
  | aborted hbefore =>
      cases h' with
      | unbuilt hresolved' | unmatched hresolved' => cases hmatched hbefore hresolved'
      | aborted hbefore' =>
          obtain ⟨rfl, -, rfl, hsame⟩ := hbefore.unique hbefore'
          cases hsame
          exact ⟨rfl, rfl⟩
      | beforeFailed hbefore' | fetchFailed hbefore' | token hbefore' =>
          cases (hbefore.unique hbefore').2.2.2
  | fetchFailed hbefore htalk hfetch hrun =>
      cases h' with
      | unbuilt hresolved' | unmatched hresolved' => cases hmatched hbefore hresolved'
      | beforeFailed hbefore' | aborted hbefore' => cases (hbefore.unique hbefore').2.2.2
      | fetchFailed hbefore' htalk' hfetch' hrun' =>
          obtain ⟨rfl, rfl, rfl, hsame⟩ := hbefore.unique hbefore'
          cases hsame
          cases hrun.symm.trans hrun'
          obtain rfl := htalk.trans htalk'.symm
          rw [hfetch.calls_eq hfetch']
          exact ⟨rfl, rfl⟩
      | token hbefore' _ _ hrun' =>
          obtain ⟨rfl, rfl, -, hsame⟩ := hbefore.unique hbefore'
          cases hsame
          cases hrun.symm.trans hrun'
  | token hbefore htalk hfetch hrun _ _ hvalue hkind =>
      cases h' with
      | unbuilt hresolved' | unmatched hresolved' => cases hmatched hbefore hresolved'
      | beforeFailed hbefore' | aborted hbefore' => cases (hbefore.unique hbefore').2.2.2
      | fetchFailed hbefore' _ _ hrun' =>
          obtain ⟨rfl, rfl, -, hsame⟩ := hbefore.unique hbefore'
          cases hsame
          cases hrun.symm.trans hrun'
      | token hbefore' htalk' hfetch' hrun' _ _ hvalue' hkind' =>
          obtain ⟨rfl, rfl, rfl, hsame⟩ := hbefore.unique hbefore'
          cases hsame
          cases hrun.symm.trans hrun'
          obtain rfl := htalk.trans htalk'.symm
          cases hvalue.symm.trans hvalue'
          cases hkind.symm.trans hkind'
          rw [hfetch.calls_eq hfetch']
          exact ⟨rfl, rfl⟩

/-! ### Searches and pulls -/

/-- **The calls of a search are determined** by where it begins, with its end. -/
theorem ScanCalls.unique {attempts : Nat} {out out' : Pull τ × TokenStream τ × Ambient σ}
    (h : ScanCalls lexer attempts stream ambient made out)
    (h' : ScanCalls lexer attempts stream ambient made' out') : made = made' ∧ out = out' := by
  induction h generalizing made' with
  | stalled =>
      cases h' with
      | stalled => exact ⟨rfl, rfl⟩
  | ended hends =>
      cases h' with
      | ended => exact ⟨rfl, rfl⟩
      | token hgoes | failed hgoes | again hgoes => omega
  | token hgoes hattempt =>
      cases h' with
      | ended hends => omega
      | token _ hattempt' =>
          obtain ⟨rfl, hsame⟩ := hattempt.unique hattempt'
          cases hsame
          exact ⟨rfl, rfl⟩
      | failed _ hattempt' | again _ hattempt' => cases (hattempt.unique hattempt').2
  | failed hgoes hattempt =>
      cases h' with
      | ended hends => omega
      | failed _ hattempt' =>
          obtain ⟨rfl, hsame⟩ := hattempt.unique hattempt'
          cases hsame
          exact ⟨rfl, rfl⟩
      | token _ hattempt' | again _ hattempt' => cases (hattempt.unique hattempt').2
  | again hgoes hattempt _ ih =>
      cases h' with
      | ended hends => omega
      | token _ hattempt' | failed _ hattempt' => cases (hattempt.unique hattempt').2
      | again _ hattempt' hscan' =>
          obtain ⟨rfl, hsame⟩ := hattempt.unique hattempt'
          cases hsame
          obtain ⟨rfl, rfl⟩ := ih hscan'
          exact ⟨rfl, rfl⟩

/-- The calls for the token before are determined, with what is left. -/
theorem AfterCalls.unique {out out' : Except LexError Unit × TokenStream τ × Ambient σ}
    (h : AfterCalls lexer stream ambient made out)
    (h' : AfterCalls lexer stream ambient made' out') : made = made' ∧ out = out' := by
  cases h with
  | settled hnone =>
      cases h' with
      | settled => exact ⟨rfl, rfl⟩
      | due hpending => cases hnone.symm.trans hpending
  | due hpending hrule hlast htalk hcalled hfinish =>
      cases h' with
      | settled hnone => cases hnone.symm.trans hpending
      | due hpending' hrule' hlast' htalk' hcalled' hfinish' =>
          obtain rfl := Option.some.inj (hpending.symm.trans hpending')
          obtain rfl := Option.some.inj (hrule.symm.trans hrule')
          obtain rfl := Option.some.inj (hlast.symm.trans hlast')
          obtain rfl := htalk.trans htalk'.symm
          cases hfinish.eq.symm.trans hfinish'.eq
          exact ⟨hcalled.calls_eq hcalled', rfl⟩

/-- **The calls of a pull are determined** by where it begins, with its end. -/
theorem PullCalls.unique {attempts : Nat} {out out' : Pull τ × TokenStream τ × Ambient σ}
    (h : PullCalls lexer attempts stream ambient made out)
    (h' : PullCalls lexer attempts stream ambient made' out') : made = made' ∧ out = out' := by
  cases h with
  | finished hclosed =>
      cases h' with
      | finished => exact ⟨rfl, rfl⟩
      | refused hopen | afterFailed hopen | searched hopen => cases hclosed.symm.trans hopen
  | refused hopen herror =>
      cases h' with
      | finished hclosed => cases hclosed.symm.trans hopen
      | refused _ herror' =>
          cases herror.symm.trans herror'
          exact ⟨rfl, rfl⟩
      | afterFailed _ hnone | searched _ hnone => cases herror.symm.trans hnone
  | afterFailed hopen hnone hafter =>
      cases h' with
      | finished hclosed => cases hclosed.symm.trans hopen
      | refused _ herror => cases herror.symm.trans hnone
      | afterFailed _ _ hafter' =>
          obtain ⟨rfl, hsame⟩ := hafter.unique hafter'
          cases hsame
          exact ⟨rfl, rfl⟩
      | searched _ _ hafter' => cases (hafter.unique hafter').2
  | searched hopen hnone hafter hscan =>
      cases h' with
      | finished hclosed => cases hclosed.symm.trans hopen
      | refused _ herror => cases herror.symm.trans hnone
      | afterFailed _ _ hafter' => cases (hafter.unique hafter').2
      | searched _ _ hafter' hscan' =>
          obtain ⟨rfl, hsame⟩ := hafter.unique hafter'
          cases hsame
          obtain ⟨rfl, rfl⟩ := hscan.unique hscan'
          exact ⟨rfl, rfl⟩

end Lexer

end ModalLex
