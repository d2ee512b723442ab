import Mathlib.Data.List.TakeDrop
import ModalLex.Proofs.Alternation.Splicing

/-!
# Alternations with More Rules

Rules that are appended change the spliced pattern of all rules before them. What they do not
change is the groups of these rules: as long as both patterns are read as the alternation of
their groups (`ReadApart`), the expressions of the longer one begin with those of the shorter one,
in the same numbers. An alternation prefers its first branches, so a match of the shorter
pattern is the match of the longer one, and the group that it was reported by is still the first
that took part in it.

Nothing is asked of the patterns themselves here. Where every pattern can be read alone, and none
but the last ends in a comment (`SelfContained`), a spliced pattern that is built is read apart.

## Main results

* `searchAt_of_readApart`: what an alternation of groups matches is what its first group matches.
* `matchAt_append`: **a match stays when rules are appended**.
-/

namespace ModalLex

namespace Regex

/-- The expressions of two lists of trees, one behind the other. -/
theorem Tree.toExprs?_append {modes modes' : Modes} {trees more : List Tree} {es : List Expr}
    (h : Tree.toExprs? modes (trees ++ more) = some (es, modes')) :
    ∃ first between rest, Tree.toExprs? modes trees = some (first, between) ∧
      Tree.toExprs? between more = some (rest, modes') ∧ es = first ++ rest := by
  induction trees generalizing modes es with
  | nil => exact ⟨[], modes, es, rfl, h, rfl⟩
  | cons tree trees ih =>
      rw [List.cons_append, Tree.toExprs?] at h
      obtain ⟨⟨e, next⟩, htree, h⟩ := Option.bind_eq_some_iff.mp h
      obtain ⟨⟨others, last⟩, hothers, h⟩ := Option.bind_eq_some_iff.mp h
      obtain ⟨rfl, rfl⟩ := Prod.mk.inj (Option.some.inj h)
      obtain ⟨first, between, rest, hfirst, hrest, rfl⟩ := ih hothers
      refine ⟨e :: first, between, rest, ?_, hrest, rfl⟩
      rw [Tree.toExprs?, htree]
      simp only [Option.bind_eq_bind, Option.bind_some]
      rw [hfirst]
      rfl

/-- Slots that are moved by nothing stay. -/
theorem moveSlots_zero : moveSlots 0 = id := by
  funext saved
  simp [moveSlots]

/-- An alternation of expressions in their own numbers. -/
theorem searchAt_branches {es : List Expr} (hne : es ≠ []) (input : Text) (offset : Nat) :
    searchAt (Expr.alternation es).program input offset =
      es.findSome? fun e => searchAt e.program input offset := by
  have hsearch := searchAt_alternation (es.map fun e => (0, e)) (by simpa using hne) input offset
  simpa [List.map_map, Function.comp_def, List.findSome?_map, moveSlots_zero] using hsearch

end Regex

namespace Alternation

open Regex

/-! ### Groups of rules -/

/-- The pattern of an alternation is read as the alternation of the groups of its rules, each
around the tree of its own pattern. -/
def ReadApart (parts : List Part) : Prop :=
  Tree.parse? false false (spliced parts) =
    some (.group none [] (Tree.ofBranches (wrapped 1 parts)))

/-- Patterns that can each be read alone, and of which no more than the last ends in a comment. -/
structure SelfContained (parts : List Part) : Prop where
  expr_isSome : ∀ part ∈ parts, (expr? {} part.source).isSome
  closed : ∀ part ∈ parts.dropLast, isClosed part.source = true

instance (parts : List Part) : Decidable (SelfContained parts) :=
  decidable_of_iff ((∀ part ∈ parts, (expr? {} part.source).isSome) ∧
      ∀ part ∈ parts.dropLast, isClosed part.source = true)
    ⟨fun h => ⟨h.1, h.2⟩, fun h => ⟨h.expr_isSome, h.closed⟩⟩

/-- Patterns that have expressions are read as their trees. -/
theorem SelfContained.reads {parts : List Part} (h : SelfContained parts) :
    ∀ part ∈ parts, ReadsAs part.source (treeAlone part.source) := by
  intro part hpart
  obtain ⟨e, he⟩ := Option.isSome_iff_exists.mp (h.expr_isSome part hpart)
  obtain ⟨tree, -, hreads, -⟩ := exists_readsAs he
  exact hreads.treeAlone_eq.symm ▸ hreads

/-- Fewer self-contained patterns are self-contained. -/
theorem SelfContained.drop {parts : List Part} (h : SelfContained parts) (first : Nat) :
    SelfContained (parts.drop first) where
  expr_isSome part hpart := h.expr_isSome part (List.mem_of_mem_drop hpart)
  closed part hpart := by
    rw [List.dropLast_drop_eq_drop_dropLast] at hpart
    exact h.closed part (List.mem_of_mem_drop hpart)

/-- In an alternation that is built, patterns that are self-contained are read apart. -/
theorem SelfContained.readApart {parts : List Part} (h : SelfContained parts) (hne : parts ≠ [])
    {first : Nat} {a : Alternation} (hbuild : build parts first = .ok a) : ReadApart parts := by
  obtain ⟨⟨e, he, -⟩, -⟩ := build_ok hbuild
  obtain ⟨tree, -, hparse, -⟩ := expr?_eq_some_iff.mp he
  obtain rfl := parse?_spliced hne h.reads h.closed hparse
  exact hparse

/-- More patterns are wrapped behind the others, from some number on. -/
theorem wrapped_append (w : Nat) (parts more : List Part) :
    ∃ w', wrapped w (parts ++ more) = wrapped w parts ++ wrapped w' more := by
  induction parts generalizing w with
  | nil => exact ⟨w, rfl⟩
  | cons part parts ih =>
      obtain ⟨w', hw'⟩ := ih (w + 1 + groupsWritten part.source)
      exact ⟨w', by rw [List.cons_append, wrapped, hw', wrapped, List.cons_append]⟩

/-- More patterns have their numbers behind those of the others. -/
theorem groupNumbers_append (next : Nat) (parts more : List Part) :
    ∃ next', groupNumbers next (parts ++ more) =
      groupNumbers next parts ++ groupNumbers next' more := by
  induction parts generalizing next with
  | nil => exact ⟨next, rfl⟩
  | cons part parts ih =>
      obtain ⟨next', hnext'⟩ := ih (next + 1 + part.groups)
      exact ⟨next', by rw [List.cons_append, groupNumbers, hnext', groupNumbers, List.cons_append]⟩

/-- A match that is reported stays reported when there are more groups to look at. -/
theorem reported_append {saved : List (Nat × Nat)} {rule : Nat} {groups : List Nat} {found : Found}
    (h : reported saved rule groups = some found) (more : List Nat) :
    reported saved rule (groups ++ more) = some found := by
  induction groups generalizing rule with
  | nil => exact absurd h (by simp [reported])
  | cons group groups ih =>
      rw [reported] at h
      rw [List.cons_append, reported]
      cases hspan : groupSpan? saved group with
      | none =>
          rw [hspan] at h
          exact ih h
      | some span =>
          rw [hspan] at h
          exact h

/-- The groups of rules mean groups, and they leave the modes as they were. -/
theorem toExprs?_wrapped_groups {parts : List Part} {w : Nat} {es : List Expr} {modes : Modes}
    (h : Tree.toExprs? {} (wrapped w parts) = some (es, modes)) :
    modes = {} ∧ es.length = parts.length ∧ ∀ e ∈ es, e.IsGroup := by
  induction parts generalizing w es with
  | nil =>
      obtain ⟨rfl, rfl⟩ := Prod.mk.inj (Option.some.inj h)
      exact ⟨rfl, rfl, by simp⟩
  | cons part parts ih =>
      rw [wrapped, Tree.toExprs?] at h
      obtain ⟨⟨e, next⟩, hgroup, h⟩ := Option.bind_eq_some_iff.mp h
      obtain ⟨⟨others, last⟩, hothers, h⟩ := Option.bind_eq_some_iff.mp h
      obtain ⟨rfl, rfl⟩ := Prod.mk.inj (Option.some.inj h)
      rw [Tree.toExpr?] at hgroup
      obtain ⟨⟨body, inner⟩, -, hgroup⟩ := Option.bind_eq_some_iff.mp hgroup
      obtain ⟨rfl, rfl⟩ := Prod.mk.inj (Option.some.inj hgroup)
      obtain ⟨rfl, hlength, hall⟩ := ih hothers
      exact ⟨rfl, by simp [hlength], List.forall_mem_cons.mpr ⟨⟨w, body, rfl⟩, hall⟩⟩

/-- **What an alternation of groups matches** is what its first group that matches anything
matches. -/
theorem searchAt_of_readApart {parts : List Part} {first : Nat} {a : Alternation}
    (hne : parts ≠ []) (hbuild : build parts first = .ok a) (hapart : ReadApart parts) :
    ∃ es, Tree.toExprs? {} (wrapped 1 parts) = some (es, {}) ∧ ∀ input offset,
      searchAt a.program input offset = es.findSome? fun e => searchAt e.program input offset := by
  obtain ⟨⟨e, he, hprogram⟩, -⟩ := build_ok hbuild
  obtain ⟨tree, modes, hparse, htree⟩ := expr?_eq_some_iff.mp he
  obtain rfl := Option.some.inj (hparse.symm.trans hapart)
  rw [Tree.toExpr?] at htree
  obtain ⟨⟨e'', modes'⟩, hbranches, heq⟩ := Option.bind_eq_some_iff.mp htree
  obtain ⟨rfl, -⟩ := Prod.mk.inj (Option.some.inj heq)
  rw [hprogram]
  obtain ⟨part, rest, rfl⟩ := List.exists_cons_of_ne_nil hne
  cases rest with
  | nil =>
      have hsingle : Tree.toExprs? {} (wrapped 1 [part]) = some ([e''], modes') := by
        have htree : Tree.toExpr? {} (.group (some 1) [] ((treeAlone part.source).shift 1)) =
          some (e'', modes') := hbranches
        rw [wrapped, wrapped, Tree.toExprs?, htree]
        rfl
      obtain ⟨rfl, -, -⟩ := toExprs?_wrapped_groups hsingle
      refine ⟨[e''], hsingle, fun input offset => ?_⟩
      rw [List.findSome?_singleton]
  | cons part' rest =>
      rw [ofBranches_wrapped, Tree.toExpr?] at hbranches
      obtain ⟨⟨es, modes''⟩, hes, heq⟩ := Option.bind_eq_some_iff.mp hbranches
      obtain ⟨rfl, rfl⟩ := Prod.mk.inj (Option.some.inj heq)
      obtain ⟨rfl, hlength, hgroups⟩ := toExprs?_wrapped_groups hes
      refine ⟨es, hes, fun input offset => ?_⟩
      obtain ⟨e, others, rfl⟩ :=
        List.exists_cons_of_ne_nil (List.ne_nil_of_length_eq_add_one hlength)
      obtain ⟨e', others, rfl⟩ :=
        List.exists_cons_of_ne_nil (List.ne_nil_of_length_eq_add_one (Nat.succ.inj hlength))
      rw [Expr.alt_groups hgroups]
      exact searchAt_branches (by simp) input offset

/-! ### More rules -/

/-- **A match stays when rules are appended**, with its rule and its span. -/
theorem matchAt_append {parts more : List Part} {first : Nat} {a a' : Alternation}
    (hne : parts ≠ []) (hbuild : build parts first = .ok a)
    (hbuild' : build (parts ++ more) first = .ok a') (hapart : ReadApart parts)
    (hapart' : ReadApart (parts ++ more)) {input : Text} {offset : Nat} {found : Found}
    (hmatch : a.matchAt input offset = some found) : a'.matchAt input offset = some found := by
  obtain ⟨saved, hsearch, hreported⟩ := matchAt_some hmatch
  obtain ⟨-, hgroups, hfirst⟩ := build_ok hbuild
  obtain ⟨-, hgroups', hfirst'⟩ := build_ok hbuild'
  obtain ⟨es, hes, hfound⟩ := searchAt_of_readApart hne hbuild hapart
  obtain ⟨es', hes', hfound'⟩ := searchAt_of_readApart (by simp [hne]) hbuild' hapart'
  obtain ⟨w', hwrapped⟩ := wrapped_append 1 parts more
  rw [hwrapped] at hes'
  obtain ⟨es₁, modes, rest, hes₁, -, rfl⟩ := Tree.toExprs?_append hes'
  obtain ⟨rfl, rfl⟩ := Prod.mk.inj (Option.some.inj (hes.symm.trans hes₁))
  have hsearch' : searchAt a'.program input offset = some saved := by
    rw [hfound', List.findSome?_append, ← hfound, hsearch]
    rfl
  obtain ⟨next', hnumbers⟩ := groupNumbers_append 1 parts more
  rw [hgroups, hfirst] at hreported
  rw [matchAt, hsearch', hgroups', hfirst', hnumbers]
  exact reported_append hreported _

end Alternation

end ModalLex
