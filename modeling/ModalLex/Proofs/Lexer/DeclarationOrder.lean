import ModalLex.Proofs.Lexer.Compilation
import ModalLex.Proofs.StateTable

/-!
# The Order of Declaration

The entries of a table may be permuted: every state keeps its name and its rules, and gets another
number. The renaming of numbers goes by the names (`StateNames.reorder`), which is possible since
every name is declared once. The lexer of the permuted table mirrors that of the first, as each
state matches what it matched before.

## Main results

* `Reordered.mirrors`: the lexer of the permuted table mirrors the first.
* `declaration_order_irrelevant`: **the order of declaration is irrelevant to lexing**.
-/

namespace ModalLex

/-! ### Names in another order -/

namespace StateNames

/-- The number of a state in another table with the same names. -/
def reorder (names names' : StateNames) (state : Nat) : Nat :=
  (names'.lookup? (names.name state)).getD 0

end StateNames

namespace StateTable

variable {ρ : Type} {table table' : StateTable ρ} {base : String} {names names' : StateNames}
  {rules rules' : List (List ρ)}

/-- A permuted table can be resolved too. -/
theorem resolve_perm (hperm : table.entries.Perm table'.entries)
    (h : table.resolve base = .ok (names, rules)) :
    ∃ names' rules', table'.resolve base = .ok (names', rules') := by
  obtain ⟨hnodup, hmem⟩ := nodup_of_resolve h
  have hpermNames : (table.effectiveNames base).Perm (table'.effectiveNames base) := hperm.map _
  exact exists_resolve (hpermNames.nodup_iff.mp hnodup) (hpermNames.mem_iff.mp hmem)

/-- A state is the same entry in both tables. -/
theorem entries_reorder (hperm : table.entries.Perm table'.entries)
    (h : table.resolve base = .ok (names, rules)) (h' : table'.resolve base = .ok (names', rules'))
    {state : Nat} (hstate : state < names.count) :
    names'.lookup? (names.name state) = some (names.reorder names' state) ∧
      table'.entries[names.reorder names' state]? = table.entries[state]? := by
  obtain ⟨hnames, -, -, -⟩ := resolve_ok h
  obtain ⟨hnames', -, hresolved', -⟩ := resolve_ok h'
  have hname := StateNames.getElem?_eq_name hstate
  rw [hnames, effectiveNames, List.getElem?_map] at hname
  obtain ⟨entry, hentry, hown⟩ := Option.map_eq_some_iff.mp hname
  obtain ⟨place, hplace⟩ := List.mem_iff_getElem?.mp
    (hperm.mem_iff.mp (List.mem_of_getElem? hentry))
  have hfound : names'.lookup? (names.name state) = some place := by
    have hat : names'.names[place]? = some (names.name state) := by
      rw [hnames', effectiveNames, List.getElem?_map, hplace, Option.map_some, hown]
    exact (hresolved'.indexed _ place).mpr hat
  have hreorder : names.reorder names' state = place := by
    rw [StateNames.reorder, hfound, Option.getD_some]
  rw [hreorder, hplace, hentry]
  exact ⟨hfound, rfl⟩

/-- The names of a permuted table are those of the first, with other numbers. -/
theorem renamed_reorder (hperm : table.entries.Perm table'.entries)
    (h : table.resolve base = .ok (names, rules))
    (h' : table'.resolve base = .ok (names', rules')) :
    names.Renamed names' (names.reorder names') := by
  obtain ⟨hnames, -, hresolved, hbase⟩ := resolve_ok h
  obtain ⟨hnames', -, hresolved', hbase'⟩ := resolve_ok h'
  have hlookup : ∀ name, names'.lookup? name = (names.lookup? name).map (names.reorder names') := by
    intro name
    cases hfound : names.lookup? name with
    | none =>
        rw [Option.map_none, StateNames.lookup?_eq_none_iff hresolved', hnames']
        rw [StateNames.lookup?_eq_none_iff hresolved, hnames] at hfound
        exact fun hmem => hfound ((hperm.map _).mem_iff.mpr hmem)
    | some state =>
        obtain ⟨hlt, rfl⟩ := (StateNames.lookup?_eq_some_iff hresolved).mp hfound
        exact (entries_reorder hperm h h' hlt).1
  refine ⟨hresolved, hresolved', ?_, ?_, ?_, hlookup⟩
  · intro state hstate
    exact StateNames.lookup?_lt hresolved' (entries_reorder hperm h h' hstate).1
  · have hsame := hlookup base
    rw [hbase, hbase'] at hsame
    exact Option.some.inj hsame
  · intro state hstate
    exact StateNames.name_of_lookup? hresolved' (entries_reorder hperm h h' hstate).1

end StateTable

/-! ### Rules and parts -/

/-- What can be mapped element by element can be mapped. -/
theorem exists_mapM {ε α β : Type} {f : α → Except ε β} {l : List α}
    (h : ∀ a ∈ l, ∃ b, f a = .ok b) : ∃ images, l.mapM f = .ok images := by
  induction l with
  | nil => exact ⟨[], rfl⟩
  | cons a l ih =>
      obtain ⟨b, hb⟩ := h a (by simp)
      obtain ⟨images, himages⟩ := ih fun a hmem => h a (List.mem_cons_of_mem _ hmem)
      refine ⟨b :: images, ?_⟩
      rw [List.mapM_cons, hb, himages]
      rfl

namespace Compiler

variable {σ τ : Type} {names names' : StateNames} {rules rules' : List (List (Rule σ τ))}
  {compiler compiler' : Compiler}

/-- Rules are checked one by one, so those of a permuted table pass too. -/
theorem ofRules_perm (hperm : rules.Perm rules') (h : ofRules names rules = .ok compiler) :
    ∃ compiler', ofRules names' rules' = .ok compiler' := by
  obtain ⟨-, hparts⟩ := ofRules_ok h
  obtain ⟨-, hstates⟩ := mapM_ok hparts
  obtain ⟨parts, hparts'⟩ := exists_mapM (f := fun stateRules => stateRules.mapM checkRule)
    (l := rules') fun stateRules hmem => by
      obtain ⟨state, hstate⟩ := List.mem_iff_getElem?.mp (hperm.mem_iff.mpr hmem)
      obtain ⟨parts, -, hmap⟩ := hstates state stateRules hstate
      exact ⟨parts, hmap⟩
  exact ⟨⟨names', parts⟩, by rw [ofRules, hparts', Except.map]⟩

/-- States with the same rules have the same parts. -/
theorem partsOf_eq (h : ofRules names rules = .ok compiler)
    (h' : ofRules names' rules' = .ok compiler') {state state' : Nat}
    (hrules : rules'[state']? = rules[state]?) :
    compiler'.partsOf state' = compiler.partsOf state := by
  have hparts := mapM_partsOf h state
  have hparts' := mapM_partsOf h' state'
  rw [List.getD_eq_getElem?_getD, hrules, ← List.getD_eq_getElem?_getD] at hparts'
  exact Except.ok.inj (hparts'.symm.trans hparts)

theorem alternationAnew_eq {state state' : Nat}
    (h : compiler'.partsOf state' = compiler.partsOf state) (first : Nat) :
    compiler'.alternationAnew state' first = compiler.alternationAnew state first := by
  rw [alternationAnew, alternationAnew, h]

end Compiler

/-! ### Lexers of permuted tables -/

namespace Lexer

variable {σ τ : Type}

/-- The lexers of a table and of a permutation of it. -/
structure Reordered (lexer lexer' : Lexer σ τ) : Prop where
  names : lexer.names.Renamed lexer'.names (lexer.names.reorder lexer'.names)
  factory_eq : lexer'.factory = lexer.factory
  rulesOf_eq : ∀ state < lexer.names.count,
    lexer'.rulesOf (lexer.names.reorder lexer'.names state) = lexer.rulesOf state
  partsOf_eq : ∀ state < lexer.names.count,
    lexer'.compiler.partsOf (lexer.names.reorder lexer'.names state) =
      lexer.compiler.partsOf state

variable {table table' : StateTable (Rule σ τ)} {config : LexerConfig}
  {factory : BaseToken → Text → τ} {lexer lexer' : Lexer σ τ}

/-- Two tables with the same entries in another order give lexers that are reordered. -/
theorem reordered_of_assemble (hperm : table.entries.Perm table'.entries)
    (h : assemble table config factory = .ok lexer)
    (h' : assemble table' config factory = .ok lexer') : Reordered lexer lexer' := by
  obtain ⟨hresolve, hcompiler, -, rfl⟩ := assemble_ok_iff.mp h
  obtain ⟨hresolve', hcompiler', -, hfactory⟩ := assemble_ok_iff.mp h'
  obtain ⟨-, hrules, -⟩ := StateTable.resolve_ok hresolve
  obtain ⟨-, hrules', -⟩ := StateTable.resolve_ok hresolve'
  have hsame : ∀ state < lexer.names.count,
      lexer'.rules[lexer.names.reorder lexer'.names state]? = lexer.rules[state]? := by
    intro state hstate
    rw [hrules, hrules', List.getElem?_map, List.getElem?_map,
      (StateTable.entries_reorder hperm hresolve hresolve' hstate).2]
  refine ⟨StateTable.renamed_reorder hperm hresolve hresolve', hfactory, ?_, ?_⟩
  · intro state hstate
    rw [rulesOf, rulesOf, List.getD_eq_getElem?_getD, List.getD_eq_getElem?_getD,
      hsame state hstate]
  · intro state hstate
    exact Compiler.partsOf_eq hcompiler hcompiler' (hsame state hstate)

/-- A table that can be assembled can be assembled in every order, and the full alternations of
its states can be built in every order. -/
theorem assemble_perm (hperm : table.entries.Perm table'.entries)
    (h : assemble table config factory = .ok lexer) :
    ∃ lexer', assemble table' config factory = .ok lexer' ∧
      (lexer.compiler.unbuilt? = none → lexer'.compiler.unbuilt? = none) := by
  obtain ⟨hresolve, hcompiler, -, -⟩ := assemble_ok_iff.mp h
  obtain ⟨names', rules', hresolve'⟩ := StateTable.resolve_perm hperm hresolve
  obtain ⟨-, hrules, -⟩ := StateTable.resolve_ok hresolve
  obtain ⟨-, hrules', -⟩ := StateTable.resolve_ok hresolve'
  have hpermRules : lexer.rules.Perm rules' := by
    rw [hrules, hrules']
    exact hperm.map _
  obtain ⟨compiler', hcompiler'⟩ : ∃ compiler', Compiler.ofRules names' rules' = .ok compiler' :=
    Compiler.ofRules_perm hpermRules hcompiler
  obtain ⟨rfl, -⟩ := Compiler.ofRules_ok hcompiler'
  have hassemble : assemble table' config factory = .ok ⟨config, compiler', rules', factory⟩ :=
    assemble_ok_iff.mpr ⟨hresolve', hcompiler', rfl, rfl⟩
  refine ⟨_, hassemble, ?_⟩
  intro hunbuilt
  -- Each state of the permuted table is one of the first, so its full alternation is built.
  have hback := reordered_of_assemble hperm.symm hassemble h
  obtain ⟨hlength, -⟩ := Compiler.ofRules_parts hcompiler
  obtain ⟨hlength', -⟩ := Compiler.ofRules_parts hcompiler'
  have hcount := StateTable.length_of_resolve hresolve
  have hcount' := StateTable.length_of_resolve hresolve'
  refine Compiler.unbuilt?_eq_none_iff.mpr fun state hstate => ?_
  have hlt : state < compiler'.names.count := by
    rw [← hcount', ← hlength']
    exact hstate
  rw [← Compiler.alternationAnew_eq (hback.partsOf_eq state hlt)]
  refine Compiler.unbuilt?_eq_none_iff.mp hunbuilt _ ?_
  rw [hlength, hcount]
  exact hback.names.rename_lt state hlt

/-- **The lexer of a permuted table** mirrors that of the first. -/
theorem Reordered.mirrors (h : Reordered lexer lexer') :
    Mirrors lexer lexer' (lexer.names.reorder lexer'.names) fun _ => False where
  names := h.names
  factory_eq := h.factory_eq
  query state hstate input offset lastToken := by
    refine ⟨rfl, rfl, rfl, h.names.name_eq state hstate, .inl ?_, fun first => .inl ?_,
      fun first found _ => ?_⟩
    · exact congrArg List.length (h.rulesOf_eq state hstate)
    · simp only [Query.matchFrom, queryIn,
        Compiler.alternationAnew_eq (h.partsOf_eq state hstate) first]
    · exact congrArg (·[found.rule]?) (h.rulesOf_eq state hstate)

/-- States are found by their names with the same rules. -/
theorem Reordered.rulesNamed?_eq (h : Reordered lexer lexer') (name : String) :
    lexer'.rulesNamed? name = lexer.rulesNamed? name := by
  rw [rulesNamed?, rulesNamed?, h.names.lookup?_eq]
  cases hfound : lexer.names.lookup? name with
  | none => rfl
  | some state =>
      exact congrArg some (h.rulesOf_eq state (StateNames.lookup?_lt h.names.resolved hfound))

/-- **The order of declaration is irrelevant to lexing.** When a lexer can be made of a table, it
can be made of every permutation of its entries, that of the base state included. The two differ in
the order of their states alone: they have the same base state, they find the same rules by every
name, and whatever is done with them, they keep the same log: the same answers, positions,
states, depths and hosts of all runs. -/
theorem declaration_order_irrelevant (hperm : table.entries.Perm table'.entries)
    {cache : AlternationCache} {journal : Journal}
    (hmake : make table config factory = (.ok (lexer, cache), journal)) :
    ∃ lexer' cache' journal',
      make table' config factory = (.ok (lexer', cache'), journal') ∧
        lexer'.config = lexer.config ∧ lexer.names.names.Perm lexer'.names.names ∧
        lexer'.names.baseName = lexer.names.baseName ∧
        (∀ name, lexer'.rulesNamed? name = lexer.rulesNamed? name) ∧
        ∀ actions : List (Action σ),
          (lexer'.carryOut actions ⟨cache', journal', []⟩).1 =
            (lexer.carryOut actions ⟨cache, journal, []⟩).1 := by
  obtain ⟨hassemble, hunbuilt⟩ := make_ok_iff.mp ⟨cache, journal, hmake⟩
  obtain ⟨lexer', hassemble', hunbuilt'⟩ := assemble_perm hperm hassemble
  obtain ⟨cache', journal', hmake'⟩ :=
    make_ok_iff.mpr ⟨hassemble', fun heager => hunbuilt' (hunbuilt heager)⟩
  have hreordered := reordered_of_assemble hperm hassemble hassemble'
  obtain ⟨hresolve, -, hconfig, -⟩ := assemble_ok_iff.mp hassemble
  obtain ⟨hresolve', -, hconfig', -⟩ := assemble_ok_iff.mp hassemble'
  obtain ⟨hnames, -⟩ := StateTable.resolve_ok hresolve
  obtain ⟨hnames', -⟩ := StateTable.resolve_ok hresolve'
  obtain ⟨-, -, -, -, hcoherent⟩ := make_ok hmake
  obtain ⟨-, -, -, -, hcoherent'⟩ := make_ok hmake'
  refine ⟨lexer', cache', journal', hmake', hconfig'.trans hconfig.symm, ?_,
    hreordered.names.baseName_eq, hreordered.rulesNamed?_eq, ?_⟩
  · rw [hnames, hnames']
    exact hperm.map _
  · intro actions
    exact (hreordered.mirrors.carryOut ⟨hcoherent, hcoherent', .nil⟩ actions).symm

/-- The state `inner` may be declared before the base state: the brackets are lexed alike. -/
theorem declaration_order_irrelevant_brackets :
    ∃ (lexer lexer' : Lexer Unit Token) (cache cache' : AlternationCache)
      (journal journal' : Journal),
      make bracketTable {} Token.make = (.ok (lexer, cache), journal) ∧
        make ⟨bracketTable.entries.reverse⟩ {} Token.make = (.ok (lexer', cache'), journal') ∧
        lexer.names.names = ["start", "inner"] ∧ lexer'.names.names.Perm ["start", "inner"] ∧
        (lexer.carryOut [.start ['(', ')'] 0 (), .pull 0 1, .pull 0 1]
          ⟨cache, journal, []⟩).1.map (fun entry => (entry.2.state, entry.2.depth)) =
            [("inner", 1), ("start", 0)] ∧
        (lexer'.carryOut [.start ['(', ')'] 0 (), .pull 0 1, .pull 0 1] ⟨cache', journal', []⟩).1 =
          (lexer.carryOut [.start ['(', ')'] 0 (), .pull 0 1, .pull 0 1]
            ⟨cache, journal, []⟩).1 := by
  have hrun : (match make bracketTable {} Token.make with
      | (.ok (lexer, cache), journal) => decide (lexer.names.names = ["start", "inner"] ∧
          (lexer.carryOut [.start ['(', ')'] 0 (), .pull 0 1, .pull 0 1]
            ⟨cache, journal, []⟩).1.map (fun entry => (entry.2.state, entry.2.depth)) =
              [("inner", 1), ("start", 0)])
      | (.error _, _) => false) = true := by
    decide +kernel
  split at hrun
  · next lexer cache journal hmake =>
      obtain ⟨hnames, hlog⟩ := of_decide_eq_true hrun
      have hperm : bracketTable.entries.Perm
          (⟨bracketTable.entries.reverse⟩ : StateTable (Rule Unit Token)).entries :=
        (List.reverse_perm _).symm
      obtain ⟨lexer', cache', journal', hmake', -, hstates, -, -, hsame⟩ :=
        declaration_order_irrelevant hperm hmake
      exact ⟨lexer, lexer', cache, cache', journal, journal', hmake, hmake', hnames,
        hnames ▸ hstates.symm, hlog, hsame _⟩
  · exact absurd hrun (by simp)

end Lexer

end ModalLex
