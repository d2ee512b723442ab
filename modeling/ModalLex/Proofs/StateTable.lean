import Mathlib.Data.List.Nodup
import ModalLex.StateTable

/-!
# Resolved Tables

Resolving a table goes through its entries once and lets three things grow: the names by number,
the numbers by name, and the rules. The invariant of this loop (`Numbering.Numbers`) says that the
index finds every name exactly at the place it has among the names (`NameIndex.Indexes`). Where it
holds no name has two places, so the loop stops exactly at the first name that is declared again,
and what it leaves, if it does not stop, numbers all entries in the order of their declaration.

## Main results

* `Numbering.Numbers.declareAll_ok`, `Numbering.Numbers.declareAll_error`: the loop keeps the
  invariant, or stops at the first name that is declared again.
* `StateNames.lookup?_eq_some_iff`, `StateNames.lookup?_eq_none_iff`: a name is found exactly where
  it is declared.
* `StateTable.resolve_ok`, `StateTable.resolve_error`: what is known of a table that is resolved,
  and of one that is refused.
* `StateTable.table_resolution_exact`: **a table is resolved exactly**, or refused for the first
  repeated name, or else for its missing base state.
-/

namespace ModalLex

/-! ### The index of names -/

namespace NameIndex

variable {index : NameIndex} {names : List String}

@[simp] theorem find?_empty (name : String) : empty.find? name = none := rfl

/-- An insertion changes what is found under its own name only. -/
theorem find?_insert (index : NameIndex) (name : String) (state : Nat) (other : String) :
    (index.insert name state).2.find? other =
      if other = name then some state else index.find? other := by
  rw [insert, find?, List.lookup_cons]
  by_cases h : other = name
  · rw [if_pos h, beq_iff_eq.mpr h]
  · rw [if_neg h, beq_eq_false_iff_ne.mpr h]
    rfl

/-- An index in which every name of a list is found at the place it has there, and no other name
is found. -/
def Indexes (index : NameIndex) (names : List String) : Prop :=
  ∀ (name : String) (state : Nat), index.find? name = some state ↔ names[state]? = some name

/-- The map without names indexes no names. -/
theorem indexes_empty : empty.Indexes [] := by
  intro name state
  simp

/-- Exactly the names that are not indexed are not found. -/
theorem Indexes.find?_eq_none_iff (h : index.Indexes names) {name : String} :
    index.find? name = none ↔ name ∉ names := by
  rw [Option.eq_none_iff_forall_ne_some, List.mem_iff_getElem?, not_exists]
  exact forall_congr' fun state => not_congr (h name state)

/-- A name that is found has one place, so indexed names all differ. -/
theorem Indexes.nodup (h : index.Indexes names) : names.Nodup := by
  rw [List.nodup_iff_getElem?_ne_getElem?]
  intro i j hij hj hsame
  obtain ⟨name, hname⟩ : ∃ name, names[j]? = some name :=
    ⟨_, List.getElem?_eq_getElem hj⟩
  have hi := (h name i).mpr (hsame.trans hname)
  have hj := (h name j).mpr hname
  exact absurd (Option.some.inj (hi.symm.trans hj)) (Nat.ne_of_lt hij)

/-- A new name gets the place behind all others. -/
theorem Indexes.insert (h : index.Indexes names) {name : String} (hnew : name ∉ names) :
    (index.insert name names.length).2.Indexes (names ++ [name]) := by
  intro other state
  rw [find?_insert, List.getElem?_append]
  by_cases heq : other = name
  · subst heq
    have hbefore : names[state]? ≠ some other := fun hat => hnew (List.mem_of_getElem? hat)
    rw [if_pos rfl, Option.some_inj]
    split
    · next hlt => simp [hbefore, Nat.ne_of_gt hlt]
    · next hge =>
        rw [List.getElem?_singleton]
        split <;> simp <;> omega
  · rw [if_neg heq, h other state]
    split
    · rfl
    · next hge =>
        have hnone : names[state]? = none := List.getElem?_eq_none (Nat.le_of_not_lt hge)
        rw [hnone, List.getElem?_singleton]
        split <;> simp [Ne.symm heq]

end NameIndex

/-! ### Names and numbers -/

namespace StateNames

variable {names : StateNames}

/-- Names as a table leaves them when it is resolved: the base state is among them, and the index
finds each of them at its place. -/
structure Resolved (names : StateNames) : Prop where
  base_lt : names.base < names.count
  indexed : names.index.Indexes names.names

/-- The name of a state is the entry of the list in its place. -/
theorem getElem?_eq_name {state : Nat} (h : state < names.count) :
    names.names[state]? = some (names.name state) := by
  rw [name, List.getD_eq_getElem?_getD, List.getElem?_eq_getElem h, Option.getD_some]

/-- A state is found by its name. -/
theorem lookup?_eq_some_iff (h : names.Resolved) {name : String} {state : Nat} :
    names.lookup? name = some state ↔ state < names.count ∧ names.name state = name := by
  rw [lookup?, h.indexed name state]
  constructor
  · intro hat
    obtain ⟨hlt, -⟩ := List.getElem?_eq_some_iff.mp hat
    rw [getElem?_eq_name hlt] at hat
    exact ⟨hlt, Option.some.inj hat⟩
  · rintro ⟨hlt, rfl⟩
    exact getElem?_eq_name hlt

/-- A number that is found is that of a state. -/
theorem lookup?_lt (h : names.Resolved) {name : String} {state : Nat}
    (hfound : names.lookup? name = some state) : state < names.count :=
  ((lookup?_eq_some_iff h).mp hfound).1

/-- A state that is found by a name has this name. -/
theorem name_of_lookup? (h : names.Resolved) {name : String} {state : Nat}
    (hfound : names.lookup? name = some state) : names.name state = name :=
  ((lookup?_eq_some_iff h).mp hfound).2

/-- Exactly the names that no state has are not found. -/
theorem lookup?_eq_none_iff (h : names.Resolved) {name : String} :
    names.lookup? name = none ↔ name ∉ names.names :=
  h.indexed.find?_eq_none_iff

end StateNames

/-! ### The loop over the entries -/

/-- The name that an entry is declared under: the base name stands for a missing one. -/
def declaredName {ρ : Type} (base : String) (entry : Option String × List ρ) : String :=
  entry.1.getD base

namespace Numbering

variable {ρ ρ' : Type} {base : String} {numbered numbered' : Numbering ρ}
  {done entries : List (Option String × List ρ)}

/-- The invariant of the loop over the entries: those it has gone through have their places as
numbers. -/
structure Numbers (numbered : Numbering ρ) (base : String)
    (done : List (Option String × List ρ)) : Prop where
  names_eq : numbered.names = done.map (declaredName base)
  rules_eq : numbered.rules = done.map (·.2)
  indexed : numbered.index.Indexes numbered.names

/-- A name is refused if it was found before it was inserted. -/
theorem declare_eq (numbered : Numbering ρ) (name : String) (rules : List ρ) :
    numbered.declare name rules =
      if (numbered.index.find? name).isSome then .error (.duplicateState name)
      else .ok ⟨numbered.names ++ [name],
        (numbered.index.insert name numbered.names.length).2, numbered.rules ++ [rules]⟩ := rfl

/-- Before the first entry no state has a number. -/
theorem numbers_empty (base : String) : (empty : Numbering ρ).Numbers base [] :=
  ⟨rfl, rfl, NameIndex.indexes_empty⟩

/-- The names that have a number all differ. -/
theorem Numbers.nodup (h : numbered.Numbers base done) : (done.map (declaredName base)).Nodup :=
  h.names_eq ▸ h.indexed.nodup

/-- A name is refused exactly if it has a number. -/
theorem Numbers.declare_error_iff (h : numbered.Numbers base done) {name : String}
    {rules : List ρ} {e : ConfigError} : numbered.declare name rules = .error e ↔
      name ∈ done.map (declaredName base) ∧ e = .duplicateState name := by
  rw [← h.names_eq, declare_eq]
  cases hfound : numbered.index.find? name with
  | none =>
      have hnew := h.indexed.find?_eq_none_iff.mp hfound
      simp [hnew]
  | some state =>
      have hmem := List.mem_of_getElem? ((h.indexed name state).mp hfound)
      simp [hmem, eq_comm]

/-- One turn of the loop keeps the invariant. -/
theorem Numbers.declare_ok (h : numbered.Numbers base done)
    {entry : Option String × List ρ}
    (hdeclare : numbered.declare (declaredName base entry) entry.2 = .ok numbered') :
    numbered'.Numbers base (done ++ [entry]) := by
  rw [declare_eq] at hdeclare
  cases hfound : numbered.index.find? (declaredName base entry) with
  | some state => exact absurd hdeclare (by simp [hfound])
  | none =>
      have hnew := h.indexed.find?_eq_none_iff.mp hfound
      simp only [hfound, Option.isSome_none, Bool.false_eq_true, if_false] at hdeclare
      obtain rfl := Except.ok.inj hdeclare
      exact ⟨by simp [h.names_eq], by simp [h.rules_eq], h.indexed.insert hnew⟩

/-- A loop that reaches its end keeps the invariant. -/
theorem Numbers.declareAll_ok (h : numbered.Numbers base done)
    (hall : declareAll base entries numbered = .ok numbered') :
    numbered'.Numbers base (done ++ entries) := by
  induction entries generalizing numbered done with
  | nil =>
      obtain rfl := Except.ok.inj hall
      rwa [List.append_nil]
  | cons entry entries ih =>
      rw [declareAll] at hall
      split at hall
      · exact absurd hall (by simp)
      · next numbered₁ hdeclare =>
          have hnext := ih (h.declare_ok hdeclare) hall
          rwa [List.append_assoc] at hnext

/-- **A loop that stops** stops at the first entry of which the name has a number: the names of the
entries before it all differ. -/
theorem Numbers.declareAll_error (h : numbered.Numbers base done) {e : ConfigError}
    (hall : declareAll base entries numbered = .error e) :
    ∃ before entry after, entries = before ++ entry :: after ∧
      ((done ++ before).map (declaredName base)).Nodup ∧
      declaredName base entry ∈ (done ++ before).map (declaredName base) ∧
      e = .duplicateState (declaredName base entry) := by
  induction entries generalizing numbered done with
  | nil => exact absurd hall (by simp [declareAll])
  | cons entry entries ih =>
      rw [declareAll] at hall
      split at hall
      · next e₁ hdeclare =>
          obtain rfl := Except.error.inj hall
          obtain ⟨hrepeated, rfl⟩ := h.declare_error_iff.mp hdeclare
          refine ⟨[], entry, entries, rfl, ?_⟩
          rw [List.append_nil]
          exact ⟨h.nodup, hrepeated, rfl⟩
      · next numbered₁ hdeclare =>
          obtain ⟨before, repeated, after, rfl, hnodup, hrepeated, rfl⟩ :=
            ih (h.declare_ok hdeclare) hall
          rw [List.append_assoc] at hnodup hrepeated
          exact ⟨entry :: before, repeated, after, rfl, hnodup, hrepeated, rfl⟩

/-- What is known of numbered states with other lists of rules. -/
def mapRules (f : List ρ → List ρ') (numbered : Numbering ρ) : Numbering ρ' :=
  ⟨numbered.names, numbered.index, numbered.rules.map f⟩

/-- The loop does not look at rules. -/
theorem declareAll_mapRules (f : List ρ → List ρ') (base : String)
    (entries : List (Option String × List ρ)) (numbered : Numbering ρ) :
    declareAll base (entries.map fun entry => (entry.1, f entry.2)) (numbered.mapRules f) =
      (declareAll base entries numbered).map (mapRules f) := by
  induction entries generalizing numbered with
  | nil => rfl
  | cons entry entries ih =>
      have hdeclare : (numbered.mapRules f).declare (declaredName base entry) (f entry.2) =
          (numbered.declare (declaredName base entry) entry.2).map (mapRules f) := by
        rw [declare_eq, declare_eq, mapRules]
        cases numbered.index.find? (declaredName base entry) with
        | none => simp [Except.map, mapRules]
        | some state => rfl
      rw [declaredName] at hdeclare
      rw [List.map_cons, declareAll, declareAll, hdeclare]
      cases numbered.declare (entry.1.getD base) entry.2 with
      | error e => rfl
      | ok numbered₁ => exact ih numbered₁

end Numbering

/-! ### Tables that can be resolved -/

namespace StateTable

variable {ρ ρ' : Type} {table : StateTable ρ} {base : String} {names : StateNames}
  {rules : List (List ρ)}

/-- The names of the entries, where the base name stands for a missing one. -/
def effectiveNames (table : StateTable ρ) (base : String) : List String :=
  table.entries.map fun entry => entry.1.getD base

/-- What is known of a table that is resolved: names and rules are those of its entries in the order
of their declaration, the index finds every name at its place, and the base state is found by the
base name. -/
theorem resolve_ok (h : table.resolve base = .ok (names, rules)) :
    names.names = table.effectiveNames base ∧ rules = table.entries.map (·.2) ∧
      names.Resolved ∧ names.lookup? base = some names.base := by
  rw [resolve] at h
  split at h
  · exact absurd h (by simp)
  · next numbered hall =>
      have hnumbers := (Numbering.numbers_empty base).declareAll_ok hall
      split at h
      · exact absurd h (by simp)
      · next state hbase =>
          obtain ⟨rfl, rfl⟩ := Prod.mk.inj (Except.ok.inj h)
          obtain ⟨hlt, -⟩ :=
            List.getElem?_eq_some_iff.mp ((hnumbers.indexed base state).mp hbase)
          exact ⟨hnumbers.names_eq, hnumbers.rules_eq, ⟨hlt, hnumbers.indexed⟩, hbase⟩

/-- The names of a table that is resolved all differ, and the base name is one of them. -/
theorem nodup_of_resolve (h : table.resolve base = .ok (names, rules)) :
    (table.effectiveNames base).Nodup ∧ base ∈ table.effectiveNames base := by
  obtain ⟨hnames, -, hresolved, hbase⟩ := resolve_ok h
  rw [← hnames]
  exact ⟨hresolved.indexed.nodup,
    List.mem_of_getElem? ((hresolved.indexed base names.base).mp hbase)⟩

/-- A table that is resolved has a list of rules for each state. -/
theorem length_of_resolve (h : table.resolve base = .ok (names, rules)) :
    rules.length = names.count := by
  obtain ⟨hnames, rfl, -, -⟩ := resolve_ok h
  rw [StateNames.count, hnames, effectiveNames, List.length_map, List.length_map]

/-- Other rules give other rules by number, and nothing else. -/
theorem resolve_mapRules (f : List ρ → List ρ') (table : StateTable ρ) (base : String) :
    (StateTable.mk (table.entries.map fun entry => (entry.1, f entry.2))).resolve base =
      (table.resolve base).map fun resolved => (resolved.1, resolved.2.map f) := by
  have hall := Numbering.declareAll_mapRules f base table.entries .empty
  rw [show Numbering.empty.mapRules f = .empty from rfl] at hall
  rw [resolve, resolve, hall]
  cases Numbering.declareAll base table.entries .empty with
  | error e => rfl
  | ok numbered =>
      simp only [Except.map, Numbering.mapRules]
      cases numbered.index.find? base <;> rfl

/-- What the numbers and names of a table are, if it can be resolved. -/
structure Resolution (table : StateTable ρ) (base : String) (names : StateNames)
    (rules : List (List ρ)) : Prop where
  /-- The states are numbered in the order of their declaration. -/
  names_eq : names.names = table.effectiveNames base
  /-- The number of a name and the name of a number are inverse to each other. -/
  lookup_iff : ∀ (name : String) (state : Nat), names.lookup? name = some state ↔
    state < table.size ∧ names.name state = name
  /-- Exactly the names that are not declared have no number. -/
  lookup_none : ∀ name, names.lookup? name = none ↔ name ∉ table.effectiveNames base
  /-- The rules of a number are those of the entry in that place. -/
  rules_iff : ∀ (state : Nat) (own : List ρ), rules[state]? = some own ↔
    ∃ declared, table.entries[state]? = some (declared, own)
  /-- The number of the base state names the base. -/
  base_named : names.base < table.size ∧ names.name names.base = base

/-- A table that is resolved gives its states their places as numbers. -/
theorem resolution_of_ok (h : table.resolve base = .ok (names, rules)) :
    Resolution table base names rules := by
  obtain ⟨hnames, rfl, hresolved, hbase⟩ := resolve_ok h
  have hsize : names.count = table.size := by
    rw [StateNames.count, hnames, effectiveNames, List.length_map, size]
  have hlookup (name : String) (state : Nat) : names.lookup? name = some state ↔
      state < table.size ∧ names.name state = name :=
    hsize ▸ StateNames.lookup?_eq_some_iff hresolved
  refine ⟨hnames, hlookup, ?_, ?_, (hlookup base names.base).mp hbase⟩
  · intro name
    rw [StateNames.lookup?_eq_none_iff hresolved, hnames]
  · intro state own
    rw [List.getElem?_map, Option.map_eq_some_iff]
    constructor
    · rintro ⟨⟨declared, own⟩, hentry, rfl⟩
      exact ⟨declared, hentry⟩
    · rintro ⟨declared, hentry⟩
      exact ⟨(declared, own), hentry, rfl⟩

/-! ### Tables that are refused -/

/-- Names of which one stands among those before it do not all differ. -/
theorem not_nodup_of_repeat {before after : List String} {name : String} (h : name ∈ before) :
    ¬(before ++ name :: after).Nodup :=
  fun hnodup => (List.nodup_append.mp hnodup).2.2 name h name List.mem_cons_self rfl

/-- Names have one first name that repeats an earlier one. -/
theorem first_repeat_unique {before after before' after' : List String} {name name' : String}
    (hsame : before ++ name :: after = before' ++ name' :: after') (hnodup : before.Nodup)
    (hrepeats : name ∈ before) (hnodup' : before'.Nodup) (hrepeats' : name' ∈ before') :
    name = name' := by
  rcases List.append_eq_append_iff.mp hsame with ⟨between, rfl, hrest⟩ | ⟨between, rfl, hrest⟩
  · cases between with
    | nil => exact (List.cons_eq_cons.mp hrest).1
    | cons first between =>
        obtain ⟨rfl, -⟩ := List.cons_eq_cons.mp hrest
        exact absurd hnodup' (not_nodup_of_repeat hrepeats)
  · cases between with
    | nil => exact (List.cons_eq_cons.mp hrest).1.symm
    | cons first between =>
        obtain ⟨rfl, -⟩ := List.cons_eq_cons.mp hrest
        exact absurd hnodup (not_nodup_of_repeat hrepeats')

/-- What is known of a table that is refused: it is refused for the first name that repeats an
earlier one, or else for a base name that is not declared. -/
theorem resolve_error {e : ConfigError} (h : table.resolve base = .error e) :
    (∃ before name after, table.effectiveNames base = before ++ name :: after ∧ before.Nodup ∧
      name ∈ before ∧ e = .duplicateState name) ∨
    ((table.effectiveNames base).Nodup ∧ base ∉ table.effectiveNames base ∧
      e = .missingBaseState base) := by
  rw [resolve] at h
  split at h
  · next e₁ hall =>
      obtain rfl := Except.error.inj h
      obtain ⟨before, entry, after, hentries, hnodup, hrepeats, rfl⟩ :=
        (Numbering.numbers_empty base).declareAll_error hall
      refine .inl ⟨before.map (declaredName base), declaredName base entry,
        after.map (declaredName base), ?_, hnodup, hrepeats, rfl⟩
      rw [effectiveNames, hentries, List.map_append, List.map_cons]
      rfl
  · next numbered hall =>
      have hnumbers := (Numbering.numbers_empty base).declareAll_ok hall
      have hnames : numbered.names = table.effectiveNames base := hnumbers.names_eq
      split at h
      · next hmissing =>
          obtain rfl := Except.error.inj h
          rw [hnumbers.indexed.find?_eq_none_iff, hnames] at hmissing
          exact .inr ⟨hnumbers.nodup, hmissing, rfl⟩
      · exact absurd h (by simp)

/-- When a table is refused, and for what. -/
theorem resolve_error_iff {e : ConfigError} : table.resolve base = .error e ↔
    (∃ before name after, table.effectiveNames base = before ++ name :: after ∧ before.Nodup ∧
      name ∈ before ∧ e = .duplicateState name) ∨
    ((table.effectiveNames base).Nodup ∧ base ∉ table.effectiveNames base ∧
      e = .missingBaseState base) := by
  refine ⟨resolve_error, fun hrefused => ?_⟩
  cases h : table.resolve base with
  | ok resolved =>
      obtain ⟨hnodup, hmem⟩ := nodup_of_resolve h
      rcases hrefused with ⟨before, name, after, hnames, -, hrepeats, -⟩ | ⟨-, hmissing, -⟩
      · exact absurd (hnames ▸ hnodup) (not_nodup_of_repeat hrepeats)
      · exact absurd hmem hmissing
  | error e' =>
      rcases resolve_error h with ⟨before, name, after, hnames, hnodup, hrepeats, rfl⟩ |
        ⟨hnodup, -, rfl⟩ <;>
      rcases hrefused with ⟨before', name', after', hnames', hnodup', hrepeats', rfl⟩ |
        ⟨hnodup', -, rfl⟩
      · rw [first_repeat_unique (hnames.symm.trans hnames') hnodup hrepeats hnodup' hrepeats']
      · exact absurd (hnames ▸ hnodup') (not_nodup_of_repeat hrepeats)
      · exact absurd (hnames' ▸ hnodup) (not_nodup_of_repeat hrepeats')
      · rfl

/-- A table of which the names all differ and include the base name is resolved. -/
theorem exists_resolve (hnodup : (table.effectiveNames base).Nodup)
    (hmem : base ∈ table.effectiveNames base) :
    ∃ names rules, table.resolve base = .ok (names, rules) := by
  cases h : table.resolve base with
  | ok resolved => exact ⟨resolved.1, resolved.2, rfl⟩
  | error e =>
      rcases resolve_error h with ⟨before, name, after, hnames, -, hname, -⟩ | ⟨-, hnot, -⟩
      · exact absurd (hnames ▸ hnodup) (not_nodup_of_repeat hname)
      · exact absurd hmem hnot

/-- **Table resolution is exact.** For every table, named and unnamed entries in any mix, and every
base name: the table is resolved exactly if its names, with the base name for a missing one, all
differ and include the base name. Then numbers and names are inverse to each other, in the order of
the declarations, and each number has the rules of its entry. Otherwise the error is the name of the
first entry that repeats an earlier one, whether or not the base is declared, and the missing base
only if there is none. -/
theorem table_resolution_exact (table : StateTable ρ) (base : String) :
    ((∃ names rules, table.resolve base = .ok (names, rules)) ↔
      (table.effectiveNames base).Nodup ∧ base ∈ table.effectiveNames base) ∧
    (∀ names rules, table.resolve base = .ok (names, rules) →
      Resolution table base names rules) ∧
    ∀ e, table.resolve base = .error e ↔
      (∃ before name after, table.effectiveNames base = before ++ name :: after ∧
        before.Nodup ∧ name ∈ before ∧ e = .duplicateState name) ∨
      ((table.effectiveNames base).Nodup ∧ base ∉ table.effectiveNames base ∧
        e = .missingBaseState base) := by
  refine ⟨⟨?_, ?_⟩, fun names rules => resolution_of_ok, fun e => resolve_error_iff⟩
  · rintro ⟨names, rules, h⟩
    exact nodup_of_resolve h
  · rintro ⟨hnodup, hmem⟩
    exact exists_resolve hnodup hmem

end StateTable

end ModalLex
