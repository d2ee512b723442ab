import Mathlib.Data.Nat.Find
import ModalLex.Proofs.Lexer.Extension
import ModalLex.Proofs.Regex.Beginning

/-!
# The Rule That Wins

A match is resolved by one search for all rules, and by another for the rules behind each one that
is rejected. The **naive reference** tries the rules one by one: the pattern of each is matched by
itself at the offset, its test is asked about its own match, and the first rule that passes wins.

One search from a rule on finds the next rule that matches by itself, and the search behind a
rejected rule goes on from there; so the search meets the rules that match in their order, and
stops at the first that passes. What it needs of the alternations that are used is that they can be
built and are read as the alternation of the groups of their rules. And it needs one thing of the
patterns: the groups of those that are **passed over**, because they do not match and a rule behind
them does, must have been counted. Where groups that are written have not been counted, the group
of the rule behind is looked for at too low a number, and another rule may win.

Tests may do what they like with the host, as long as their answer does not depend on it.

## Main results

* `Alternation.matchAt_of_isFirst`, `Alternation.matchAt_of_none`: what one search finds.
* `Query.resolveFrom_outcome`: what is found from a rule on, by induction on the attempts.
* `Lexer.resolves_as_rules_alone`: **the rule that wins is the first that passes by itself.**
* `Lexer.uncounted_groups_lose_rules`: with groups that are not counted another rule wins.
-/

namespace ModalLex

open Regex

/-! ### Own matches -/

/-- **A match of a pattern by itself begins at the offset of the search.** -/
theorem Regex.matchAlone?_begin {pattern input : Text} {offset : Nat} {span : Nat × Nat}
    (hoffset : input.isBoundary offset = true)
    (h : matchAlone? pattern input offset = some span) : span.1 = offset := by
  obtain ⟨e, he, hmatch⟩ := Option.bind_eq_some_iff.mp h
  obtain ⟨saved, hsearch, hspan⟩ := Option.bind_eq_some_iff.mp hmatch
  exact searchAt_begin he hoffset hsearch hspan

namespace Alternation

variable {parts : List Part} {first : Nat} {a : Alternation} {input : Text} {offset : Nat}

/-- **The match of an alternation that is read apart** is read off the slots of the first pattern
that matches. -/
theorem matchAt_eq_of_readApart (hne : parts ≠ []) (hbuild : build parts first = .ok a)
    (hapart : ReadApart parts) (h : ∀ part ∈ parts, (expr? {} part.source).isSome) (input : Text)
    (offset : Nat) :
    a.matchAt input offset = (firstSlots input offset 1 parts).bind fun saved =>
      reported saved first (groupNumbers 1 parts) := by
  obtain ⟨-, hgroups, hfirst⟩ := build_ok hbuild
  obtain ⟨es, hes, hsearch⟩ := searchAt_of_readApart hne hbuild hapart
  obtain ⟨rfl, -⟩ := Prod.mk.inj (Option.some.inj (hes.symm.trans (toExprs?_wrapped h 1)))
  have hslots : searchAt a.program input offset = firstSlots input offset 1 parts := by
    rw [hsearch, List.findSome?_map, firstSlots]
    simp only [Function.comp_def, searchAt_shift]
  rw [matchAt, hslots, hgroups, hfirst]
  cases firstSlots input offset 1 parts <;> rfl

/-- The first rule whose pattern matches by itself is found if the groups of the patterns before
have been counted. -/
theorem matchAt_of_isFirst (hbuild : build parts first = .ok a) (hapart : ReadApart parts)
    (h : ∀ part ∈ parts, (expr? {} part.source).isSome) (hoffset : input.isBoundary offset = true)
    {k : Nat} {span : Nat × Nat} (hfirst : IsFirst input offset parts k span)
    (hcounted : ∀ part ∈ parts.take k, Counted part) :
    a.matchAt input offset = some ⟨first + k, span.1, span.2⟩ := by
  have hne : parts ≠ [] := by
    rintro rfl
    obtain ⟨⟨part, hpart, -⟩, -⟩ := hfirst
    exact absurd hpart (by simp)
  obtain ⟨saved, hslots, hreported⟩ := reported_of_counted hoffset h hfirst hcounted 1 first
  rw [matchAt_eq_of_readApart hne hbuild hapart h, hslots, Option.bind_some, hreported]

/-- Nothing is found where no pattern matches by itself. -/
theorem matchAt_of_none (hne : parts ≠ []) (hbuild : build parts first = .ok a)
    (hapart : ReadApart parts) (h : ∀ part ∈ parts, (expr? {} part.source).isSome)
    (hoffset : input.isBoundary offset = true)
    (hnone : ∀ part ∈ parts, matchAlone? part.source input offset = none) :
    a.matchAt input offset = none := by
  rw [matchAt_eq_of_readApart hne hbuild hapart h, firstSlots_eq_none hoffset h hnone,
    Option.bind_none]

end Alternation

/-! ### The naive reference -/

namespace Query

variable {σ τ : Type}

/-- The parts of the state are those of its checked rules. -/
def Checked (q : Query σ τ) : Prop :=
  q.rules.mapM Compiler.checkRule = .ok (q.compiler.partsOf q.state)

/-- The match of a rule's pattern by itself, with the rule. -/
def ownMatch? (q : Query σ τ) (i : Nat) : Option (Found × Rule σ τ) :=
  q.rules[i]?.bind fun rule =>
    (matchAlone? rule.pattern.text q.input q.offset).map fun span => (⟨i, span.1, span.2⟩, rule)

/-- Whether a rule **passes**: its pattern matches by itself, and its test, if it has one, accepts
this match. -/
def passes (q : Query σ τ) (host : σ) (i : Nat) : Bool :=
  (q.ownMatch? i).any fun own => (q.accepts own.2 own.1 host).1

/-- A rule **wins** with its own match if it is the first that passes. -/
structure Wins (q : Query σ τ) (host : σ) (found : Found) (rule : Rule σ τ) : Prop where
  own : q.ownMatch? found.rule = some (found, rule)
  passes : q.passes host found.rule = true
  first : ∀ i < found.rule, q.passes host i = false

/-- The answers of the tests do not depend on the host. -/
def PureTests (q : Query σ τ) : Prop :=
  ∀ rule ∈ q.rules, ∀ found host host',
    (q.accepts rule found host).1 = (q.accepts rule found host').1

/-- A search among the rules from some rule on takes place if no rule before passes and the one
right before, if there is one, matches; this one has then been rejected. -/
structure Turn (q : Query σ τ) (host : σ) (first : Nat) : Prop where
  none_passes : ∀ i < first, q.passes host i = false
  behind_match : ∀ i, first = i + 1 → (q.ownMatch? i).isSome

/-- A rule is **passed over** if its pattern does not match, but that of a rule behind it does, and
no rule before that one passes. -/
def PassedOver (q : Query σ τ) (host : σ) (i : Nat) : Prop :=
  q.ownMatch? i = none ∧ ∃ k, i < k ∧ (q.ownMatch? k).isSome ∧ ∀ j < k, q.passes host j = false

/-- What is asked of the patterns: each can be read by itself, the alternations that are used can be
built and are read as the alternation of the groups of their rules, and the groups of the patterns
that are passed over have been counted. -/
structure Spliced (q : Query σ τ) (host : σ) : Prop where
  readable : ∀ part ∈ q.compiler.partsOf q.state, (expr? {} part.source).isSome
  built : ∀ first, q.Turn host first →
    ∃ a?, q.compiler.alternationAnew q.state first = .ok a?
  readApart : ∀ first a, q.Turn host first →
    q.compiler.alternationAnew q.state first = .ok (some a) →
      Alternation.ReadApart ((q.compiler.partsOf q.state).drop first)
  counted : ∀ i part, q.PassedOver host i → (q.compiler.partsOf q.state)[i]? = some part →
    Alternation.Counted part

section Reference

variable {q : Query σ τ} {host : σ} {i first : Nat} {found found' : Found} {rule rule' : Rule σ τ}

/-- A rule has a match of its own where its pattern matches alone. -/
theorem ownMatch?_some (h : q.ownMatch? i = some (found, rule)) :
    found.rule = i ∧ q.rules[i]? = some rule ∧
      matchAlone? rule.pattern.text q.input q.offset = some (found.start, found.stop) := by
  obtain ⟨rule', hrule, hmatch⟩ := Option.bind_eq_some_iff.mp h
  obtain ⟨span, hspan, heq⟩ := Option.map_eq_some_iff.mp hmatch
  obtain ⟨rfl, rfl⟩ := Prod.mk.inj heq
  exact ⟨rfl, hrule, hspan⟩

theorem lt_of_ownMatch? (h : (q.ownMatch? i).isSome) : i < q.rules.length := by
  obtain ⟨⟨found, rule⟩, hown⟩ := Option.isSome_iff_exists.mp h
  obtain ⟨hlt, -⟩ := List.getElem?_eq_some_iff.mp (ownMatch?_some hown).2.1
  exact hlt

theorem passes_of_none (h : q.ownMatch? i = none) : q.passes host i = false := by
  rw [passes, h]
  rfl

theorem passes_of_some (h : q.ownMatch? i = some (found, rule)) :
    q.passes host i = (q.accepts rule found host).1 := by
  rw [passes, h]
  rfl

/-- The first turn comes before everything. -/
theorem turn_zero (q : Query σ τ) (host : σ) : q.Turn host 0 :=
  ⟨fun i hi => absurd hi (Nat.not_lt_zero i), fun _ heq => absurd heq (by simp)⟩

/-- No rule passes before the next rule that matches. -/
theorem Turn.none_passes_before (h : q.Turn host first) {k : Nat}
    (hbefore : ∀ i, first ≤ i → i < k → q.ownMatch? i = none) :
    ∀ i < k, q.passes host i = false := by
  intro i hi
  rcases Nat.lt_or_ge i first with hlt | hge
  · exact h.none_passes i hlt
  · exact passes_of_none (hbefore i hge hi)

/-- Behind a rule that matches and does not pass it is the turn of the rules that are left. -/
theorem Turn.behind (hown : q.ownMatch? found.rule = some (found, rule))
    (hpasses : ∀ i < found.rule, q.passes host i = false)
    (hrejected : q.passes host found.rule = false) : q.Turn host (found.rule + 1) where
  none_passes i hi := by
    rcases Nat.lt_or_eq_of_le (Nat.le_of_lt_succ hi) with hlt | rfl
    · exact hpasses i hlt
    · exact hrejected
  behind_match i heq := by
    obtain rfl := Nat.succ.inj heq
    exact Option.isSome_of_eq_some hown

/-- Only one rule wins, with one match. -/
theorem Wins.unique (h : q.Wins host found rule) (h' : q.Wins host found' rule') :
    found = found' ∧ rule = rule' := by
  rcases Nat.lt_trichotomy found.rule found'.rule with hlt | heq | hgt
  · exact absurd ((h'.first _ hlt).symm.trans h.passes) (by simp)
  · have hown := h.own
    rw [heq, h'.own] at hown
    obtain ⟨rfl, rfl⟩ := Prod.mk.inj (Option.some.inj hown)
    exact ⟨rfl, rfl⟩
  · exact absurd ((h.first _ hgt).symm.trans h'.passes) (by simp)

/-- The match of a rule that wins begins at the offset of the query. -/
theorem Wins.start_eq (h : q.Wins host found rule) (hoffset : q.input.isBoundary q.offset = true) :
    found.start = q.offset :=
  matchAlone?_begin hoffset (ownMatch?_some h.own).2.2

end Reference

/-! ### One search -/

section Search

variable {q : Query σ τ} {host : σ} {first i : Nat} {part : Part}

/-- A rule that has been checked has a part with the source of its pattern. -/
theorem exists_part (hchecked : q.Checked)
    {rule : Rule σ τ} (hrule : q.rules[i]? = some rule) :
    ∃ part, (q.compiler.partsOf q.state)[i]? = some part ∧ part.source = rule.pattern.text := by
  obtain ⟨-, hparts⟩ := mapM_ok hchecked
  obtain ⟨part, hpart, hcheck⟩ := hparts i rule hrule
  refine ⟨part, hpart, ?_⟩
  rw [Compiler.checkRule] at hcheck
  split at hcheck
  · exact (congrArg Part.source (Except.ok.inj hcheck)).symm
  · exact absurd hcheck (by simp)

/-- A rule without a match of its own has a pattern that does not match alone. -/
theorem matchAlone?_of_none (hchecked : q.Checked)
    (hpart : (q.compiler.partsOf q.state)[i]? = some part) (h : q.ownMatch? i = none) :
    matchAlone? part.source q.input q.offset = none := by
  obtain ⟨hlength, -⟩ := mapM_ok hchecked
  obtain ⟨hlt, -⟩ := List.getElem?_eq_some_iff.mp hpart
  have hrule := List.getElem?_eq_getElem (hlength ▸ hlt)
  obtain ⟨part', hpart', hsource⟩ := exists_part hchecked hrule
  obtain rfl := Option.some.inj (hpart'.symm.trans hpart)
  rw [ownMatch?, hrule, Option.bind_some, Option.map_eq_none_iff] at h
  rw [hsource, h]

/-- The parts behind `first` and before a rule that matches are those of rules that are passed
over. -/
theorem part_of_mem_take {k : Nat}
    (hpart : part ∈ ((q.compiler.partsOf q.state).drop first).take (k - first)) :
    ∃ i, first ≤ i ∧ i < k ∧ (q.compiler.partsOf q.state)[i]? = some part := by
  obtain ⟨j, hj, hget⟩ := List.mem_take_iff_getElem.mp hpart
  refine ⟨first + j, by omega, by omega, ?_⟩
  rw [← List.getElem?_drop, ← hget]
  exact List.getElem?_eq_getElem _

/-- Where no rule that is left matches by itself, nothing is found. -/
theorem matchFrom_of_none (hchecked : q.Checked) (hspliced : q.Spliced host)
    (hoffset : q.input.isBoundary q.offset = true)
    (hturn : q.Turn host first) (hnone : ∀ i, first ≤ i → q.ownMatch? i = none) :
    q.matchFrom first = .ok none := by
  obtain ⟨a?, hanew⟩ := hspliced.built first hturn
  rw [matchFrom, hanew]
  cases a? with
  | none => rfl
  | some a =>
      obtain ⟨hne, hbuild⟩ := Compiler.alternationAnew_ok hanew
      refine congrArg Except.ok (Alternation.matchAt_of_none hne hbuild
        (hspliced.readApart first a hturn hanew) ?_ hoffset ?_)
      · exact fun part hpart => hspliced.readable part (List.mem_of_mem_drop hpart)
      · intro part hpart
        obtain ⟨j, hget⟩ := List.mem_iff_getElem?.mp hpart
        rw [List.getElem?_drop] at hget
        exact matchAlone?_of_none hchecked hget (hnone _ (Nat.le_add_right _ _))

/-- Of the rules that are left, the next that matches by itself is the first whose pattern matches
alone. -/
theorem isFirst_of_own (hchecked : q.Checked) {found : Found} {rule : Rule σ τ}
    (hown : q.ownMatch? found.rule = some (found, rule)) (hle : first ≤ found.rule)
    (hbefore : ∀ i, first ≤ i → i < found.rule → q.ownMatch? i = none) :
    Alternation.IsFirst q.input q.offset ((q.compiler.partsOf q.state).drop first)
      (found.rule - first) (found.start, found.stop) where
  matches_alone := by
    obtain ⟨-, hrule, hmatch⟩ := ownMatch?_some hown
    obtain ⟨part, hpart, hsource⟩ := exists_part hchecked hrule
    refine ⟨part, ?_, hsource ▸ hmatch⟩
    rw [List.getElem?_drop, Nat.add_sub_cancel' hle, hpart]
  none_before part hpart := by
    obtain ⟨i, hge, hlt, hget⟩ := part_of_mem_take hpart
    exact matchAlone?_of_none hchecked hget (hbefore i hge hlt)

/-- The next rule that matches by itself is found, with its own match. -/
theorem matchFrom_of_own (hchecked : q.Checked) (hspliced : q.Spliced host)
    (hoffset : q.input.isBoundary q.offset = true) (hturn : q.Turn host first) {found : Found}
    {rule : Rule σ τ} (hown : q.ownMatch? found.rule = some (found, rule))
    (hle : first ≤ found.rule)
    (hbefore : ∀ i, first ≤ i → i < found.rule → q.ownMatch? i = none) :
    q.matchFrom first = .ok (some found) := by
  have hsome : (q.ownMatch? found.rule).isSome := Option.isSome_of_eq_some hown
  have hfirst := isFirst_of_own hchecked hown hle hbefore
  have hpasses := hturn.none_passes_before hbefore
  have hcounted : ∀ part ∈ ((q.compiler.partsOf q.state).drop first).take (found.rule - first),
      Alternation.Counted part := by
    intro part hpart
    obtain ⟨i, hge, hlt, hget⟩ := part_of_mem_take hpart
    exact hspliced.counted i part ⟨hbefore i hge hlt, found.rule, hlt, hsome, hpasses⟩ hget
  obtain ⟨a?, hanew⟩ := hspliced.built first hturn
  rw [matchFrom, hanew]
  cases a? with
  | none =>
      obtain ⟨⟨part, hpart, -⟩, -⟩ := hfirst
      rw [Compiler.alternationAnew_ok_none hanew] at hpart
      exact absurd hpart (by simp)
  | some a =>
      obtain ⟨-, hbuild⟩ := Compiler.alternationAnew_ok hanew
      have hmatch := Alternation.matchAt_of_isFirst hbuild (hspliced.readApart first a hturn hanew)
        (fun part hpart => hspliced.readable part (List.mem_of_mem_drop hpart)) hoffset hfirst
        hcounted
      rw [Nat.add_sub_cancel' hle] at hmatch
      exact congrArg Except.ok hmatch

/-- From every rule on there is a next rule that matches by itself, or none. -/
theorem exists_next_own (q : Query σ τ) (first : Nat) :
    (∀ i, first ≤ i → q.ownMatch? i = none) ∨
      ∃ found rule, q.ownMatch? found.rule = some (found, rule) ∧ first ≤ found.rule ∧
        ∀ i, first ≤ i → i < found.rule → q.ownMatch? i = none := by
  by_cases hmatches : ∃ k, first ≤ k ∧ (q.ownMatch? k).isSome
  · obtain ⟨hle, hown⟩ := Nat.find_spec hmatches
    obtain ⟨⟨found, rule⟩, hown⟩ := Option.isSome_iff_exists.mp hown
    obtain ⟨hrule, -⟩ := ownMatch?_some hown
    refine .inr ⟨found, rule, hrule ▸ hown, hrule ▸ hle, fun i hge hlt => ?_⟩
    have hnot := Nat.find_min hmatches (hrule ▸ hlt)
    exact Option.not_isSome_iff_eq_none.mp fun hsome => hnot ⟨hge, hsome⟩
  · refine .inl fun i hge => ?_
    exact Option.not_isSome_iff_eq_none.mp fun hsome => hmatches ⟨i, hge, hsome⟩

end Search

/-! ### The search behind rejected rules -/

/-- **What is found from a rule on** is the rule that wins, and nothing if no rule passes. -/
theorem resolveFrom_outcome {q : Query σ τ} (hchecked : q.Checked)
    (hoffset : q.input.isBoundary q.offset = true) (hpure : q.PureTests) {host : σ}
    (hspliced : q.Spliced host) {attempts first : Nat} (hturn : q.Turn host first)
    (hattempts : q.rules.length < first + attempts) {ambient : Ambient σ}
    (hcoherent : q.compiler.Coherent ambient.cache) :
    ((q.resolveFrom attempts first ambient).1 = .ok none ∧ ∀ i, q.passes host i = false) ∨
      ∃ found rule, (q.resolveFrom attempts first ambient).1 = .ok (some (found, rule)) ∧
        q.Wins host found rule := by
  -- A rejected rule lies behind those that were rejected before, so the rules are used up before
  -- the attempts.
  induction attempts generalizing first ambient with
  | zero =>
      cases first with
      | zero => omega
      | succ i =>
          have hlt := lt_of_ownMatch? (hturn.behind_match i rfl)
          omega
  | succ attempts ih =>
      obtain ⟨ambient', hhost, hcoherent', hround⟩ := q.resolveFrom_succ hcoherent attempts first
      rw [hround]
      rcases q.exists_next_own first with hnone | ⟨found, rule, hown, hle, hbefore⟩
      · rw [matchFrom_of_none hchecked hspliced hoffset hturn hnone]
        exact .inl ⟨rfl, fun i => hturn.none_passes_before (k := i + 1) (fun j hge _ => hnone j hge)
          i (Nat.lt_succ_self i)⟩
      · rw [matchFrom_of_own hchecked hspliced hoffset hturn hown hle hbefore]
        obtain ⟨-, hrule, -⟩ := ownMatch?_some hown
        have hpasses := hturn.none_passes_before hbefore
        have haccepts : (q.accepts rule found ambient.host).1 = q.passes host found.rule :=
          (hpure rule (List.mem_of_getElem? hrule) _ _ _).trans (passes_of_some hown).symm
        dsimp only
        rw [hrule]
        dsimp only
        rw [haccepts]
        cases haccepted : q.passes host found.rule with
        | true => exact .inr ⟨found, rule, rfl, hown, haccepted, hpasses⟩
        | false => exact ih (.behind hown hpasses haccepted) (by omega) hcoherent'

/-- **A search ends with the rule that wins**, and with nothing if no rule passes. -/
theorem resolve_outcome {q : Query σ τ} (hchecked : q.Checked)
    (hoffset : q.input.isBoundary q.offset = true) (hpure : q.PureTests) {host : σ}
    (hspliced : q.Spliced host) {ambient : Ambient σ}
    (hcoherent : q.compiler.Coherent ambient.cache) :
    ((q.resolve ambient).1 = .ok none ∧ ∀ i, q.passes host i = false) ∨
      ∃ found rule, (q.resolve ambient).1 = .ok (some (found, rule)) ∧ q.Wins host found rule := by
  rw [resolve]
  exact resolveFrom_outcome hchecked hoffset hpure hspliced (turn_zero q host) (by omega) hcoherent

end Query

namespace Lexer

variable {σ τ : Type} {lexer : Lexer σ τ}

instance (lexer : Lexer σ τ) : Decidable lexer.BuildsAll :=
  decidable_of_iff (∀ state < lexer.compiler.parts.length,
      ∀ first < (lexer.compiler.partsOf state).length,
        (lexer.compiler.alternationAnew state first).isOk = true)
    ⟨buildsAll_of_lt, fun h state _ first _ => by
      obtain ⟨a?, ha⟩ := h state first
      rw [ha]
      rfl⟩

/-- Searches in a state are spliced well where the patterns of the lexer are self-contained, all
alternations can be built, and the groups of all patterns of the state have been counted. -/
theorem SelfContained.spliced (h : lexer.SelfContained) (hbuilt : lexer.BuildsAll) {state : Nat}
    (hcounted : ∀ part ∈ lexer.compiler.partsOf state, Alternation.Counted part) (input : Text)
    (offset : Nat) (lastToken : Option τ) (host : σ) :
    (lexer.queryIn state input offset lastToken).Spliced host where
  readable := (h.partsOf state).expr_isSome
  built first _ := hbuilt state first
  readApart first a _ hanew := h.readsApart state first a hanew
  counted _ part _ hpart := hcounted part (List.mem_of_getElem? hpart)

/-- **The rule that wins is the first that passes by itself.** Let a match be resolved in a state
of a lexer, at a boundary of an input and with any previous token, by tests whose answers do not
depend on the host. Let the alternations that are used be built and read as the alternation of
the groups of their rules, and let the groups of patterns that are passed over have been counted.
Then the search ends with the first rule whose pattern matches by itself and whose test accepts
that match, which begins at the offset; and with nothing exactly if there is no such rule. -/
theorem resolves_as_rules_alone {table : StateTable (Rule σ τ)} {config : LexerConfig}
    {factory : BaseToken → Text → τ} {cache : AlternationCache} {journal : Journal}
    (hmake : make table config factory = (.ok (lexer, cache), journal)) {state : Nat}
    {input : Text} {offset : Nat} {lastToken : Option τ} {q : Query σ τ}
    (hq : q = lexer.queryIn state input offset lastToken)
    (hoffset : input.isBoundary offset = true) (hpure : q.PureTests) {ambient : Ambient σ}
    (hspliced : q.Spliced ambient.host) (hcoherent : lexer.compiler.Coherent ambient.cache) :
    (∀ found rule, (q.resolve ambient).1 = .ok (some (found, rule)) ↔
      q.Wins ambient.host found rule) ∧
    ((q.resolve ambient).1 = .ok none ↔ ∀ i, q.passes ambient.host i = false) ∧
    ∀ found rule, q.Wins ambient.host found rule → found.start = offset := by
  subst hq
  obtain ⟨-, -, -, hcompiler, -⟩ := make_ok hmake
  have hchecked : (lexer.queryIn state input offset lastToken).Checked :=
    Compiler.mapM_partsOf hcompiler state
  have houtcome := Query.resolve_outcome hchecked hoffset hpure hspliced hcoherent
  refine ⟨fun found rule => ?_, ?_, fun found rule hwins => hwins.start_eq hoffset⟩
  · rcases houtcome with ⟨hnone, hpasses⟩ | ⟨found', rule', hsome, hwins⟩
    · rw [hnone]
      refine ⟨fun h => absurd h (by simp), fun hwins => ?_⟩
      exact absurd ((hpasses _).symm.trans hwins.passes) (by simp)
    · rw [hsome]
      constructor
      · intro h
        obtain ⟨rfl, rfl⟩ := Prod.mk.inj (Option.some.inj (Except.ok.inj h))
        exact hwins
      · intro hwins'
        obtain ⟨rfl, rfl⟩ := hwins.unique hwins'
        rfl
  · rcases houtcome with ⟨hnone, hpasses⟩ | ⟨found', rule', hsome, hwins⟩
    · exact ⟨fun _ => hpasses, fun _ => hnone⟩
    · rw [hsome]
      refine ⟨fun h => absurd h (by simp), fun hpasses => ?_⟩
      exact absurd ((hpasses _).symm.trans hwins.passes) (by simp)

/-- Patterns with groups inside. The first rule rejects what is not behind a token, and the second
stands for the beginning of an input only. -/
def prefixTable : StateTable (Rule Unit Token) :=
  StateTable.flat
    [{ pattern := .source "(a)|(b)c".toList
       test := some fun c host => (c.lastToken.isSome, host) },
      { pattern := .source "^(a)(b)".toList },
      { pattern := .source "ab?".toList }]

/-- Over `-ab`, behind the dash and without a token before, the first rule is rejected, the second
is passed over with its two groups, and the third wins with a longer match. -/
theorem resolves_as_rules_alone_prefix :
    ∃ (lexer : Lexer Unit Token) (cache : AlternationCache) (journal : Journal)
      (rule : Rule Unit Token),
      make prefixTable {} Token.make = (.ok (lexer, cache), journal) ∧
        ((lexer.queryIn 0 ['-', 'a', 'b'] 1 none).ownMatch? 0).map (·.1) = some ⟨0, 1, 2⟩ ∧
        (lexer.queryIn 0 ['-', 'a', 'b'] 1 none).Wins () ⟨2, 1, 3⟩ rule ∧
        ((lexer.queryIn 0 ['-', 'a', 'b'] 1 none).resolve ⟨cache, (), journal⟩).1 =
          .ok (some (⟨2, 1, 3⟩, rule)) := by
  have hrun : (match make prefixTable {} Token.make with
      | (.ok (lexer, _), _) =>
        decide (
          ((lexer.queryIn 0 ['-', 'a', 'b'] 1 none).ownMatch? 0).map (·.1) = some ⟨0, 1, 2⟩ ∧
          ((lexer.queryIn 0 ['-', 'a', 'b'] 1 none).ownMatch? 2).map (·.1) = some ⟨2, 1, 3⟩ ∧
          (lexer.queryIn 0 ['-', 'a', 'b'] 1 none).passes () 2 = true ∧
          (∀ i < (2 : Nat), (lexer.queryIn 0 ['-', 'a', 'b'] 1 none).passes () i = false) ∧
          lexer.SelfContained ∧ lexer.BuildsAll ∧
          ∀ part ∈ lexer.compiler.partsOf 0, Alternation.Counted part)
      | (.error _, _) => false) = true := by
    decide +kernel
  split at hrun
  · next lexer cache journal hmake =>
      obtain ⟨hrejected, hown, hpasses, hfirst, hcontained, hbuilt, hcounted⟩ :=
        of_decide_eq_true hrun
      obtain ⟨-, -, -, -, hcoherent⟩ := make_ok hmake
      obtain ⟨⟨found, rule⟩, hown, heq⟩ := Option.map_eq_some_iff.mp hown
      obtain rfl : found = ⟨2, 1, 3⟩ := heq
      have hwins : (lexer.queryIn 0 ['-', 'a', 'b'] 1 none).Wins () ⟨2, 1, 3⟩ rule :=
        ⟨hown, hpasses, hfirst⟩
      have hspliced := hcontained.spliced hbuilt hcounted ['-', 'a', 'b'] 1 none ()
      have hcoherent : lexer.compiler.Coherent (⟨cache, (), journal⟩ : Ambient Unit).cache :=
        (make_ok hmake).2.2.2.2
      obtain ⟨hresolves, -⟩ := resolves_as_rules_alone hmake rfl rfl (fun _ _ _ _ _ => rfl)
        hspliced hcoherent
      exact ⟨lexer, cache, journal, rule, hmake, hrejected, hwins, (hresolves _ _).mpr hwins⟩
  · exact absurd hrun (by simp)

/-- A rule that is rejected, a pattern whose inner group is written but not counted, and two rules
behind it, of which the first matches the same text as the rejected one. -/
def uncountedTable : StateTable (Rule Unit Token) :=
  StateTable.flat
    [{ pattern := .source ['z'], test := some fun _ host => (false, host) },
      { pattern := .source "((x)\x7b0\x7dy)".toList },
      { pattern := .source ['z'] },
      { pattern := .source ['w'] }]

/-- Where the groups of a pattern that is passed over have not been counted, another rule than the
first that passes is found, even one that does not match. -/
theorem uncounted_groups_lose_rules :
    ∃ (lexer : Lexer Unit Token) (cache : AlternationCache) (journal : Journal)
      (rule rule' : Rule Unit Token),
      make uncountedTable {} Token.make = (.ok (lexer, cache), journal) ∧
        lexer.SelfContained ∧ lexer.BuildsAll ∧
        (lexer.queryIn 0 ['z'] 0 none).PureTests ∧
        (lexer.queryIn 0 ['z'] 0 none).Wins () ⟨2, 0, 1⟩ rule ∧
        (lexer.queryIn 0 ['z'] 0 none).passes () 3 = false ∧
        ((lexer.queryIn 0 ['z'] 0 none).resolve ⟨cache, (), journal⟩).1 =
          .ok (some (⟨3, 0, 1⟩, rule')) := by
  have hrun : (match make uncountedTable {} Token.make with
      | (.ok (lexer, cache), journal) =>
        decide (
          ((lexer.queryIn 0 ['z'] 0 none).ownMatch? 2).map (·.1) = some ⟨2, 0, 1⟩ ∧
          (lexer.queryIn 0 ['z'] 0 none).passes () 2 = true ∧
          (∀ i < (2 : Nat), (lexer.queryIn 0 ['z'] 0 none).passes () i = false) ∧
          (lexer.queryIn 0 ['z'] 0 none).passes () 3 = false ∧
          lexer.SelfContained ∧ lexer.BuildsAll ∧
          ((lexer.queryIn 0 ['z'] 0 none).resolve ⟨cache, (), journal⟩).1.toOption.map
            (·.map (·.1)) = some (some ⟨3, 0, 1⟩))
      | (.error _, _) => false) = true := by
    decide +kernel
  split at hrun
  · next lexer cache journal hmake =>
      obtain ⟨hown, hpasses, hfirst, hother, hcontained, hbuilt, hresolve⟩ :=
        of_decide_eq_true hrun
      obtain ⟨⟨found, rule⟩, hown, heq⟩ := Option.map_eq_some_iff.mp hown
      obtain rfl : found = ⟨2, 0, 1⟩ := heq
      obtain ⟨answer, hanswer, hfound⟩ := Option.map_eq_some_iff.mp hresolve
      obtain ⟨⟨found', rule'⟩, rfl, heq⟩ := Option.map_eq_some_iff.mp hfound
      obtain rfl : found' = ⟨3, 0, 1⟩ := heq
      refine ⟨lexer, cache, journal, rule, rule', hmake, hcontained, hbuilt, fun _ _ _ _ _ => rfl,
        ⟨hown, hpasses, hfirst⟩, hother, ?_⟩
      cases hresult : ((lexer.queryIn 0 ['z'] 0 none).resolve ⟨cache, (), journal⟩).1 with
      | error e => exact absurd hanswer (by simp [hresult, Except.toOption])
      | ok answer' =>
          rw [hresult] at hanswer
          exact congrArg Except.ok (Option.some.inj hanswer)
  · exact absurd hrun (by simp)

end Lexer

end ModalLex
