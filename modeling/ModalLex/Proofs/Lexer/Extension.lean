import ModalLex.Proofs.Alternation.Extension
import ModalLex.Proofs.Lexer.Compilation

/-!
# Lexers with More Rules

A table **extends** another one when it has the same states and each has the rules that it had,
followed by any further ones. Every alternation of the extended lexer is then another pattern, and
a match that is rejected is followed by a search among more rules. But priority goes by the order
of declaration and survives rejections, so a match that the first lexer resolves is resolved by the
other with the same rule. Only where the first finds no match, or cannot build an alternation, the
two may part: with such a loss a run of the first lexer ends.

## Main results

* `Extended.mirrors`: the extended lexer mirrors the first, which is lost where it finds no match.
* `appended_rules_are_conservative`: **appending rules is conservative**.
-/

namespace ModalLex

/-! ### Parts of more rules -/

/-- What is mapped of the beginning of a list is the beginning of what is mapped. -/
theorem prefix_of_mapM {ε α β : Type} {f : α → Except ε β} {l l' : List α} {images images' : List β}
    (hbegins : l <+: l') (h : l.mapM f = .ok images) (h' : l'.mapM f = .ok images') :
    images <+: images' := by
  obtain ⟨hlength, himages⟩ := mapM_ok h
  obtain ⟨-, himages'⟩ := mapM_ok h'
  refine List.prefix_iff_getElem?.mpr fun i hi => ?_
  have hlt : i < l.length := hlength ▸ hi
  obtain ⟨b, hb, hmap⟩ := himages i l[i] (List.getElem?_eq_getElem hlt)
  obtain ⟨b', hb', hmap'⟩ := himages' i l[i] (List.prefix_iff_getElem?.mp hbegins i hlt)
  obtain rfl := Except.ok.inj (hmap.symm.trans hmap')
  rw [hb', ← hb, List.getElem?_eq_getElem hi]

namespace Compiler

variable {σ τ : Type} {names names' : StateNames} {rules rules' : List (List (Rule σ τ))}
  {compiler compiler' : Compiler}

/-- States with more rules have more parts. -/
theorem partsOf_prefix (h : ofRules names rules = .ok compiler)
    (h' : ofRules names' rules' = .ok compiler') {state state' : Nat}
    (hrules : rules.getD state [] <+: rules'.getD state' []) :
    compiler.partsOf state <+: compiler'.partsOf state' :=
  prefix_of_mapM hrules (mapM_partsOf h state) (mapM_partsOf h' state')

end Compiler

namespace StateTable

variable {ρ : Type}

/-- A table that has the states of another one, and in each of them its rules and further ones. -/
def Extends (table table' : StateTable ρ) : Prop :=
  List.Forall₂ (fun entry entry' => entry'.1 = entry.1 ∧ entry.2 <+: entry'.2) table.entries
    table'.entries

variable {table table' : StateTable ρ}

/-- The states of an extended table have the same names and the same numbers. -/
theorem Extends.resolve (h : table.Extends table') {base : String} {names : StateNames}
    {rules : List (List ρ)} (hresolve : table.resolve base = .ok (names, rules)) :
    ∃ rules', table'.resolve base = .ok (names, rules') := by
  -- without their rules the two tables are the same
  have hsame : table'.entries.map (fun entry => (entry.1, ([] : List ρ))) =
      table.entries.map fun entry => (entry.1, []) := by
    rw [Extends] at h
    generalize table.entries = entries at h
    generalize table'.entries = entries' at h
    induction h with
    | nil => rfl
    | cons hentry _ ih => rw [List.map_cons, List.map_cons, ih, hentry.1]
  have hnames := resolve_mapRules (fun _ : List ρ => ([] : List ρ)) table base
  have hnames' := resolve_mapRules (fun _ : List ρ => ([] : List ρ)) table' base
  rw [hsame, hnames, hresolve] at hnames'
  cases hresolve' : table'.resolve base with
  | error e =>
      rw [hresolve'] at hnames'
      cases hnames'
  | ok resolved =>
      obtain ⟨names', rules'⟩ := resolved
      rw [hresolve'] at hnames'
      obtain ⟨rfl, -⟩ := Prod.mk.inj (Except.ok.inj hnames')
      exact ⟨rules', rfl⟩

/-- Each state of an extended table begins with the rules that it had. -/
theorem Extends.rules_prefix (h : table.Extends table') (state : Nat) :
    (table.entries.map (·.2)).getD state [] <+: (table'.entries.map (·.2)).getD state [] := by
  rw [Extends] at h
  generalize table.entries = entries at h
  generalize table'.entries = entries' at h
  induction h generalizing state with
  | nil => exact List.prefix_rfl
  | cons hentry _ ih =>
      cases state with
      | zero => exact hentry.2
      | succ state => exact ih state

end StateTable

namespace Query

variable {σ τ : Type}

/-- A rule that is matched is one of the rules. -/
theorem rule_lt_of_matchFrom {q : Query σ τ} {first : Nat} {found : Found}
    (h : q.matchFrom first = .ok (some found)) :
    found.rule < (q.compiler.partsOf q.state).length := by
  rw [matchFrom] at h
  cases hanew : q.compiler.alternationAnew q.state first with
  | error e => exact absurd h (by simp [hanew])
  | ok a? =>
      cases a? with
      | none => exact absurd h (by simp [hanew])
      | some a =>
          rw [hanew] at h
          obtain ⟨saved, -, hreported⟩ := Alternation.matchAt_some (Except.ok.inj h)
          obtain ⟨i, group, hi, hrule, -⟩ := Alternation.reported_some hreported
          obtain ⟨hne, hbuild⟩ := Compiler.alternationAnew_ok hanew
          obtain ⟨-, hgroups, hfirst⟩ := Alternation.build_ok hbuild
          obtain ⟨hlt, -⟩ := List.getElem?_eq_some_iff.mp hi
          rw [hgroups, Alternation.length_groupNumbers, List.length_drop] at hlt
          omega

end Query

namespace Lexer

variable {σ τ : Type}

/-- Every alternation that a lexer can build is read as the alternation of the groups of its
rules. -/
def ReadsApart (lexer : Lexer σ τ) : Prop :=
  ∀ state first a, lexer.compiler.alternationAnew state first = .ok (some a) →
    Alternation.ReadApart ((lexer.compiler.partsOf state).drop first)

/-- All alternations of a lexer can be built, the full ones and those behind rejected rules. -/
def BuildsAll (lexer : Lexer σ τ) : Prop :=
  ∀ state first, ∃ a?, lexer.compiler.alternationAnew state first = .ok a?

/-- In every state the patterns can be read alone, and none but the last ends in a comment. -/
def SelfContained (lexer : Lexer σ τ) : Prop :=
  ∀ parts ∈ lexer.compiler.parts, Alternation.SelfContained parts

instance (lexer : Lexer σ τ) : Decidable lexer.SelfContained :=
  inferInstanceAs (Decidable (∀ parts ∈ lexer.compiler.parts, Alternation.SelfContained parts))

/-- The patterns of a state are self-contained if those of the lexer are. -/
theorem SelfContained.partsOf {lexer : Lexer σ τ} (h : lexer.SelfContained) (state : Nat) :
    Alternation.SelfContained (lexer.compiler.partsOf state) := by
  rw [Compiler.partsOf, List.getD_eq_getElem?_getD]
  cases hparts : lexer.compiler.parts[state]? with
  | none => exact ⟨by simp, by simp⟩
  | some parts => exact h parts (List.mem_of_getElem? hparts)

/-- Patterns that are self-contained are read apart in every alternation. -/
theorem SelfContained.readsApart {lexer : Lexer σ τ} (h : lexer.SelfContained) :
    lexer.ReadsApart := by
  intro state first a hanew
  obtain ⟨hne, hbuild⟩ := Compiler.alternationAnew_ok hanew
  exact ((h.partsOf state).drop first).readApart hne hbuild

/-- Only finitely many alternations have to be built. -/
theorem buildsAll_of_lt {lexer : Lexer σ τ}
    (h : ∀ state < lexer.compiler.parts.length, ∀ first < (lexer.compiler.partsOf state).length,
      (lexer.compiler.alternationAnew state first).isOk = true) : lexer.BuildsAll := by
  intro state first
  have hcases : lexer.compiler.alternationAnew state first = .ok none ∨
      (lexer.compiler.alternationAnew state first).isOk = true := by
    by_cases hfirst : first < (lexer.compiler.partsOf state).length
    · have hne : lexer.compiler.partsOf state ≠ [] := List.ne_nil_of_length_pos (by omega)
      exact .inr (h state (Compiler.lt_of_partsOf_ne_nil hne) first hfirst)
    · refine .inl ?_
      rw [Compiler.alternationAnew, List.drop_eq_nil_of_le (by omega)]
  rcases hcases with hnone | hok
  · exact ⟨none, hnone⟩
  · cases hanew : lexer.compiler.alternationAnew state first with
    | error e => exact absurd hok (by simp [hanew, Except.isOk, Except.toBool])
    | ok a? => exact ⟨a?, rfl⟩

/-- A lexer that has the states of another one, and in each of them its rules and further ones. -/
structure Extended (lexer lexer' : Lexer σ τ) : Prop where
  names_eq : lexer'.names = lexer.names
  resolved : lexer.names.Resolved
  factory_eq : lexer'.factory = lexer.factory
  rulesOf_prefix : ∀ state, lexer.rulesOf state <+: lexer'.rulesOf state
  partsOf_prefix : ∀ state, lexer.compiler.partsOf state <+: lexer'.compiler.partsOf state
  partsOf_length : ∀ state,
    (lexer.compiler.partsOf state).length = (lexer.rulesOf state).length

/-- The errors with which a lexer finds no match: none of its rules matches, or it cannot
tell. -/
def Unmatched (e : LexError) : Prop :=
  (∃ offset state, e = .noMatch offset state) ∨ ∃ cause, e = .config (.pattern cause)

variable {lexer lexer' : Lexer σ τ}

/-- A match of the first lexer is a match of the extended one. -/
theorem Extended.matchFrom (h : Extended lexer lexer') (hbuilt : lexer'.BuildsAll)
    (hapart : lexer.ReadsApart) (hapart' : lexer'.ReadsApart) {state first : Nat} {input : Text}
    {offset : Nat} {lastToken : Option τ} {found : Found}
    (hmatch : (lexer.queryIn state input offset lastToken).matchFrom first = .ok (some found)) :
    (lexer'.queryIn state input offset lastToken).matchFrom first = .ok (some found) := by
  rw [Query.matchFrom] at hmatch ⊢
  dsimp only [queryIn] at hmatch ⊢
  cases hanew : lexer.compiler.alternationAnew state first with
  | error e => exact absurd hmatch (by simp [hanew])
  | ok a? =>
      cases a? with
      | none => exact absurd hmatch (by simp [hanew])
      | some a =>
          rw [hanew] at hmatch
          obtain ⟨hne, hbuild⟩ := Compiler.alternationAnew_ok hanew
          obtain ⟨more, hmore⟩ := h.partsOf_prefix state
          -- The rules that are left in the extended lexer begin with those left in the first.
          have hle : first ≤ (lexer.compiler.partsOf state).length := by
            by_contra hlt
            exact hne (List.drop_eq_nil_of_le (by omega))
          have hdrop : (lexer'.compiler.partsOf state).drop first =
              (lexer.compiler.partsOf state).drop first ++ more := by
            rw [← hmore, List.drop_append_of_le_length hle]
          obtain ⟨a?, hanew'⟩ := hbuilt state first
          cases a? with
          | none =>
              have hnil := Compiler.alternationAnew_ok_none hanew'
              rw [hdrop] at hnil
              exact absurd (List.append_eq_nil_iff.mp hnil).1 hne
          | some a' =>
              obtain ⟨-, hbuild'⟩ := Compiler.alternationAnew_ok hanew'
              have hread := hapart state first a hanew
              have hread' := hapart' state first a' hanew'
              rw [hdrop] at hbuild' hread'
              rw [hanew']
              exact congrArg Except.ok (Alternation.matchAt_append hne hbuild hbuild' hread hread'
                (Except.ok.inj hmatch))

/-- **An extended lexer mirrors the first**, which is lost where it finds no match. -/
theorem Extended.mirrors (h : Extended lexer lexer') (hbuilt : lexer'.BuildsAll)
    (hapart : lexer.ReadsApart) (hapart' : lexer'.ReadsApart) :
    Mirrors lexer lexer' id Unmatched where
  names := by
    rw [h.names_eq]
    exact .refl h.resolved
  factory_eq := h.factory_eq
  query state _ input offset lastToken := by
    refine ⟨rfl, rfl, rfl, congrArg (fun names : StateNames => names.name state) h.names_eq,
      .inr ⟨(h.rulesOf_prefix state).length_le, .inl ⟨_, _, rfl⟩⟩, ?_, ?_⟩
    · intro first
      cases hmatch : (lexer.queryIn state input offset lastToken).matchFrom first with
      | error e =>
          obtain ⟨cause, rfl⟩ := Compiler.alternationAnew_error (Query.matchFrom_error hmatch)
          exact .inr ⟨_, rfl, .inr ⟨cause, rfl⟩⟩
      | ok found? =>
          cases found? with
          | none => exact .inr ⟨_, rfl, .inl ⟨_, _, rfl⟩⟩
          | some found => exact .inl (h.matchFrom hbuilt hapart hapart' hmatch)
    · intro first found hmatch
      have hlt : found.rule < (lexer.rulesOf state).length := by
        rw [← h.partsOf_length]
        exact Query.rule_lt_of_matchFrom hmatch
      obtain ⟨more, hmore⟩ := h.rulesOf_prefix state
      change (lexer'.rulesOf state)[found.rule]? = (lexer.rulesOf state)[found.rule]?
      rw [← hmore, List.getElem?_append_left hlt]

/-- Making lexers of two tables, of which the second extends the first. -/
theorem extended_of_make {table table' : StateTable (Rule σ τ)} {config : LexerConfig}
    {factory : BaseToken → Text → τ} {cache cache' : AlternationCache} {journal journal' : Journal}
    (hextends : table.Extends table')
    (hmake : make table config factory = (.ok (lexer, cache), journal))
    (hmake' : make table' config factory = (.ok (lexer', cache'), journal')) :
    Extended lexer lexer' := by
  have hwell := make_wellMade hmake
  obtain ⟨hassemble, -⟩ := make_ok_iff.mp ⟨cache, journal, hmake⟩
  obtain ⟨hassemble', -⟩ := make_ok_iff.mp ⟨cache', journal', hmake'⟩
  obtain ⟨hresolve, hcompiler, -, hfactory⟩ := assemble_ok_iff.mp hassemble
  obtain ⟨hresolve', hcompiler', -, hfactory'⟩ := assemble_ok_iff.mp hassemble'
  obtain ⟨_, hextended⟩ := hextends.resolve hresolve
  obtain ⟨hnames, -⟩ := Prod.mk.inj (Except.ok.inj (hresolve'.symm.trans hextended))
  have hrules := hextends.rules_prefix
  rw [← make_rules hmake, ← make_rules hmake'] at hrules
  exact ⟨hnames, hwell.resolved, hfactory'.trans hfactory.symm, hrules,
    fun state => Compiler.partsOf_prefix hcompiler hcompiler' (hrules state),
    hwell.partsOf_length⟩

/-- Whether a pull did not end in an error with which no match was found. -/
def Report.resolved (r : Report σ τ) : Bool :=
  match r.answer with
  | .failed (.noMatch _ _) => false
  | .failed (.config (.pattern _)) => false
  | _ => true

theorem Report.resolved_of_unmatched {r : Report σ τ} (h : r.answer.Lost Unmatched) :
    r.resolved = false := by
  obtain ⟨e, hanswer, hlost⟩ := h
  rw [Report.resolved, hanswer]
  rcases hlost with ⟨offset, state, rfl⟩ | ⟨cause, rfl⟩ <;> rfl

/-- **Appending rules is conservative.** Of two lexers with the same settings and states let the
second have, in every state, the rules of the first followed by any further ones; let all
alternations of the second be built, and let those of both be read as the alternation of the
groups of their rules. Whatever input is lexed and wherever the run starts, what the first
reports up to its first error for want of a match, or of an alternation that can be built, the
second reports too: the same answers, positions, states, depths and hosts. -/
theorem appended_rules_are_conservative {table table' : StateTable (Rule σ τ)}
    {config : LexerConfig} {factory : BaseToken → Text → τ} {cache cache' : AlternationCache}
    {journal journal' : Journal} (hextends : table.Extends table')
    (hmake : make table config factory = (.ok (lexer, cache), journal))
    (hmake' : make table' config factory = (.ok (lexer', cache'), journal'))
    (hbuilt : lexer'.BuildsAll) (hapart : lexer.ReadsApart) (hapart' : lexer'.ReadsApart)
    (input : Text) (start : Nat) (host : σ) (allowances : List Nat) :
    (lexer.reports allowances (lexer.tokenizeFrom input start).1
        ⟨cache, host, journal⟩).takeWhile Report.resolved <+:
      lexer'.reports allowances (lexer'.tokenizeFrom input start).1 ⟨cache', host, journal'⟩ := by
  obtain ⟨-, -, -, -, hcoherent⟩ := make_ok hmake
  obtain ⟨-, -, -, -, hcoherent'⟩ := make_ok hmake'
  have hmirrors := (extended_of_make hextends hmake hmake').mirrors hbuilt hapart hapart'
  exact hmirrors.reports (fun _ => Report.resolved_of_unmatched) allowances
    (hmirrors.start input start) ⟨rfl, hcoherent, hcoherent'⟩

/-- Letters: an `a` is rejected by the first rule and falls to the second. -/
def letterTable : StateTable (Rule Unit Token) :=
  StateTable.flat
    [{ pattern := .source ['a'], test := some fun _ host => (false, host) },
      { pattern := .source "[ab]".toList }]

/-- The same letters, and more behind them. -/
def moreLetterTable : StateTable (Rule Unit Token) :=
  StateTable.flat
    [{ pattern := .source ['a'], test := some fun _ host => (false, host) },
      { pattern := .source "[ab]".toList },
      { pattern := .source "(a|b)c".toList },
      { pattern := .source "(?P<rest>c)".toList }]

/-- Over `abc` the first lexer finds `a` and `b` and then no match, and the other finds `c` too. -/
theorem appended_rules_are_conservative_letters :
    ∃ (lexer lexer' : Lexer Unit Token) (cache cache' : AlternationCache)
      (journal journal' : Journal),
      make letterTable {} Token.make = (.ok (lexer, cache), journal) ∧
        make moreLetterTable {} Token.make = (.ok (lexer', cache'), journal') ∧
        (lexer.reports [1, 1, 1] (lexer.tokenizeFrom ['a', 'b', 'c'] 0).1
            ⟨cache, (), journal⟩).map (fun r => (r.position, r.resolved)) =
          [(1, true), (2, true), (2, false)] ∧
        (lexer'.reports [1, 1, 1] (lexer'.tokenizeFrom ['a', 'b', 'c'] 0).1
            ⟨cache', (), journal'⟩).map (fun r => (r.position, r.resolved)) =
          [(1, true), (2, true), (3, true)] ∧
        (lexer.reports [1, 1, 1] (lexer.tokenizeFrom ['a', 'b', 'c'] 0).1
            ⟨cache, (), journal⟩).takeWhile Report.resolved <+:
          lexer'.reports [1, 1, 1] (lexer'.tokenizeFrom ['a', 'b', 'c'] 0).1
            ⟨cache', (), journal'⟩ := by
  have hrun : (match make letterTable {} Token.make with
      | (.ok (lexer, cache), journal) => decide
          ((lexer.reports [1, 1, 1] (lexer.tokenizeFrom ['a', 'b', 'c'] 0).1
              ⟨cache, (), journal⟩).map (fun r => (r.position, r.resolved)) =
            [(1, true), (2, true), (2, false)] ∧ lexer.SelfContained)
      | (.error _, _) => false) = true := by
    decide +kernel
  have hrun' : (match make moreLetterTable {} Token.make with
      | (.ok (lexer, cache), journal) => decide
          ((lexer.reports [1, 1, 1] (lexer.tokenizeFrom ['a', 'b', 'c'] 0).1
              ⟨cache, (), journal⟩).map (fun r => (r.position, r.resolved)) =
            [(1, true), (2, true), (3, true)] ∧ lexer.SelfContained ∧
          ∀ state < lexer.compiler.parts.length, ∀ first < (lexer.compiler.partsOf state).length,
            (lexer.compiler.alternationAnew state first).isOk = true)
      | (.error _, _) => false) = true := by
    decide +kernel
  split at hrun
  · next lexer cache journal hmake =>
      split at hrun'
      · next lexer' cache' journal' hmake' =>
          obtain ⟨hreports, hcontained⟩ := of_decide_eq_true hrun
          obtain ⟨hreports', hcontained', hbuilt⟩ := of_decide_eq_true hrun'
          have hextends : letterTable.Extends moreLetterTable :=
            .cons ⟨rfl, ⟨_, rfl⟩⟩ .nil
          exact ⟨lexer, lexer', cache, cache', journal, journal', hmake, hmake', hreports,
            hreports', appended_rules_are_conservative hextends hmake hmake'
              (buildsAll_of_lt hbuilt) hcontained.readsApart hcontained'.readsApart
              ['a', 'b', 'c'] 0 () [1, 1, 1]⟩
      · exact absurd hrun' (by simp)
  · exact absurd hrun (by simp)

end Lexer

end ModalLex
