import Mathlib.Data.List.Forall2
import ModalLex.Proofs.Alternation.Suffixes

/-!
# The Groups of the Rules That Are Left

In the alternation of the rules from some rule on, every pattern stands in a group of its own, and
all groups are numbered from left to right. So the group **around** a pattern has a number, the
groups **inside** the pattern have the numbers that come next, and then comes the group around the
next pattern. An alternation records the numbers of the groups around the patterns without looking
at this tree: it adds up what has been counted in each pattern alone.

The two agree for every first rule, however groups nest, as long as what has been counted in each
pattern but the last is the number of groups in it. And only then: what is counted in a pattern is
the number of its last group that is kept (`Tree.lastKept`), so where the last group of a pattern
stands in a repetition of zero copies, all numbers behind are too low, and the group inside of one
pattern can be taken for the group around another.

Leaving out rules in front lowers all numbers by the same amount, whether they are right or not.

## Main results

* `CountedIn.groups_eq`: what is counted in a pattern.
* `numbersAround_getElem?`: where the groups of a pattern are among those of all patterns.
* `groupNumbers_eq_iff`: **when the numbers that are recorded are those of the groups around
  the patterns.**
* `groupNumbers_drop`: the numbers of the rules that are left, by those of all rules.
* `groups_locate_rules`: all of this, of an alternation that has been built.
-/

namespace ModalLex

namespace Alternation

open Regex

/-! ### The tree of wrapped patterns -/

/-- A pattern in a group of its own, which has yet to get its number. -/
def wrap (tree : Tree) : Tree := .group (some 0) [] tree

/-- The tree of an alternation of some branches. -/
def joined (branches : List Tree) : Tree := .group none [] (Tree.ofBranches branches)

/-- Numbering an alternation from left to right numbers its branches one behind the other. -/
theorem numbered_joined (next : Nat) (branches : List Tree) :
    (joined branches).numbered next = joined (Tree.numberedList next branches) := by
  match branches with
  | [] | [_] | _ :: _ :: _ => rfl

/-- A pattern in a group has its own groups and the one around it, which opens first. -/
theorem captures_wrap (tree : Tree) : (wrap tree).captures = 0 :: tree.captures := rfl

/-- The wrapped patterns from a rule on, with all groups numbered from left to right. -/
def wrappedFrom (first : Nat) (trees : List Tree) : List Tree :=
  Tree.numberedList 1 ((trees.drop first).map wrap)

/-- The numbers of the groups around some patterns, from a number on: each pattern moves those
behind it by the group around it and the groups inside. -/
def numbersAround (next : Nat) : List Tree → List Nat
  | [] => []
  | tree :: rest => next :: numbersAround (next + 1 + tree.captures.length) rest

/-- The group around a pattern takes the next number, and the groups inside of it those behind. -/
theorem numberedList_wrap (next : Nat) (tree : Tree) (rest : List Tree) :
    Tree.numberedList next ((tree :: rest).map wrap) =
      .group (some next) [] (tree.numbered (next + 1)) ::
        Tree.numberedList (next + 1 + tree.captures.length) (rest.map wrap) := by
  have hlength : (wrap tree).captures.length = 1 + tree.captures.length := by
    rw [captures_wrap, List.length_cons, Nat.add_comm]
  rw [List.map_cons, Tree.numberedList, hlength, Nat.add_assoc]
  rfl

/-- **The groups of a pattern among those of all patterns**: the group around it has a number, and
the groups inside have all numbers from there to the group around the next pattern, or to the last
of all groups. -/
theorem numbersAround_getElem? {trees : List Tree} {j : Nat} {tree : Tree}
    (h : trees[j]? = some tree) (next : Nat) :
    ∃ group, (numbersAround next trees)[j]? = some group ∧
      (Tree.numberedList next (trees.map wrap))[j]? =
        some (.group (some group) [] (tree.numbered (group + 1))) ∧
      (numbersAround next trees).getD (j + 1)
        (next + (Tree.capturesList (Tree.numberedList next (trees.map wrap))).length) =
          group + 1 + tree.captures.length := by
  induction trees generalizing j next with
  | nil => exact absurd h (by simp)
  | cons first rest ih =>
      have hcaptures : (Tree.capturesList
          (.group (some next) [] (first.numbered (next + 1)) ::
            Tree.numberedList (next + 1 + first.captures.length) (rest.map wrap))).length =
          1 + first.captures.length + (Tree.capturesList
            (Tree.numberedList (next + 1 + first.captures.length) (rest.map wrap))).length := by
        simp [Tree.capturesList, Tree.captures, Tree.captures_numbered]
        omega
      rw [numberedList_wrap, hcaptures, numbersAround]
      cases j with
      | zero =>
          obtain rfl := Option.some.inj h
          refine ⟨next, rfl, rfl, ?_⟩
          cases rest with
          | nil => exact (Nat.add_assoc next 1 _).symm
          | cons second rest => rfl
      | succ j =>
          obtain ⟨group, hgroup, hbranch, hnext⟩ := ih h (next + 1 + first.captures.length)
          refine ⟨group, hgroup, hbranch, ?_⟩
          rw [← hnext, List.getD_cons_succ, ← Nat.add_assoc, ← Nat.add_assoc]

/-- There is one number for each pattern. -/
theorem length_numbersAround (next : Nat) (trees : List Tree) :
    (numbersAround next trees).length = trees.length := by
  induction trees generalizing next with
  | nil => rfl
  | cons tree rest ih => rw [numbersAround, List.length_cons, ih, List.length_cons]

/-- No number is below the first. -/
theorem le_of_mem_numbersAround {next group : Nat} {trees : List Tree}
    (h : group ∈ numbersAround next trees) : next ≤ group := by
  induction trees generalizing next with
  | nil => exact absurd h (by simp [numbersAround])
  | cons tree rest ih =>
      rcases List.mem_cons.mp h with rfl | hrest
      · exact Nat.le_refl _
      · have := ih hrest
        omega

/-- No number of a group around a pattern is that of a group inside of one. -/
theorem numbersAround_outside {trees : List Tree} {next j group other : Nat} {tree : Tree}
    (htree : trees[j]? = some tree) (hgroup : (numbersAround next trees)[j]? = some group)
    (hother : other ∈ numbersAround next trees) :
    other ≤ group ∨ group + 1 + tree.captures.length ≤ other := by
  induction trees generalizing next j with
  | nil => exact absurd htree (by simp)
  | cons first rest ih =>
      rw [numbersAround] at hgroup hother
      cases j with
      | zero =>
          obtain rfl := Option.some.inj htree
          obtain rfl := Option.some.inj hgroup
          rcases List.mem_cons.mp hother with rfl | hrest
          · exact .inl (Nat.le_refl _)
          · exact .inr (le_of_mem_numbersAround hrest)
      | succ j =>
          rw [List.getElem?_cons_succ] at htree hgroup
          rcases List.mem_cons.mp hother with rfl | hrest
          · have hle := le_of_mem_numbersAround (List.mem_of_getElem? hgroup)
            exact .inl (by omega)
          · exact ih htree hgroup hrest

/-! ### The numbers that are recorded -/

/-- A pattern has been **counted in** a tree: with some options it is read as this tree, and it has
the number of groups that it has when it is compiled with them. -/
def CountedIn (part : Part) (tree : Tree) : Prop :=
  ∃ options regex, Tree.parse? options.octal options.verbose part.source = some tree ∧
    Regex.compile options part.source = .ok regex ∧ part.groups = regex.groups

/-- **What is counted in a pattern** is the number of its last group that is kept. -/
theorem CountedIn.groups_eq {part : Part} {tree : Tree} (h : CountedIn part tree) :
    part.groups = tree.lastKept := by
  obtain ⟨options, regex, htree, hcompile, hgroups⟩ := h
  obtain ⟨e, he, rfl⟩ := compile_ok hcompile
  obtain ⟨tree', modes, hparse, htoExpr⟩ := expr?_eq_some_iff.mp he
  obtain rfl := Option.some.inj (htree.symm.trans hparse)
  exact hgroups.trans (tree.maxGroup_toExpr? htoExpr)

/-- A pattern that is compiled has been counted in the tree that it is read as. -/
theorem CountedIn.of_compile {options : PatternOptions} {part : Part} {regex : Regex}
    (h : Regex.compile options part.source = .ok regex) (hgroups : part.groups = regex.groups) :
    ∃ tree, Tree.parse? options.octal options.verbose part.source = some tree ∧
      CountedIn part tree := by
  obtain ⟨e, he, -⟩ := compile_ok h
  obtain ⟨tree, -, hparse, -⟩ := expr?_eq_some_iff.mp he
  exact ⟨tree, hparse, options, regex, hparse, h, hgroups⟩

/-- A source has been counted in the tree that it has alone. -/
theorem CountedIn.of_source {part : Part}
    (h : (Pattern.source part.source).innerGroups = .ok part.groups) :
    CountedIn part (treeAlone part.source) := by
  rw [Pattern.innerGroups] at h
  cases hcompile : Regex.compile {} part.source with
  | error e => exact absurd h (by simp [hcompile, Except.map])
  | ok regex =>
      rw [hcompile] at h
      obtain ⟨tree, hparse, hcounted⟩ := of_compile hcompile (Except.ok.inj h).symm
      rwa [(ReadsAs.of_parse? hparse).treeAlone_eq]

/-- **When the numbers that are recorded are those of the groups around the patterns**: exactly if
in every pattern but the last, the last group is kept. -/
theorem groupNumbers_eq_iff {parts : List Part} {trees : List Tree}
    (h : parts.map (·.groups) = trees.map Tree.lastKept) (next next' : Nat) :
    groupNumbers next parts = numbersAround next' trees ↔
      (trees ≠ [] → next = next') ∧
        ∀ tree ∈ trees.dropLast, tree.lastKept = tree.captures.length := by
  induction parts generalizing trees next next' with
  | nil =>
      obtain rfl := List.map_eq_nil_iff.mp h.symm
      simp [groupNumbers, numbersAround]
  | cons part parts ih =>
      cases trees with
      | nil => exact absurd h (by simp)
      | cons tree trees =>
          obtain ⟨hpart, hrest⟩ : part.groups = tree.lastKept ∧
            parts.map (·.groups) = trees.map Tree.lastKept := List.cons.inj h
          rw [groupNumbers, numbersAround, List.cons.injEq, ih hrest, hpart]
          cases trees with
          | nil => simp
          | cons second trees =>
              rw [List.dropLast_cons_cons, List.forall_mem_cons]
              simp only [ne_eq, reduceCtorEq, not_false_eq_true, forall_const]
              constructor
              · rintro ⟨rfl, hnext, hall⟩
                exact ⟨rfl, by omega, hall⟩
              · rintro ⟨rfl, hkept, hall⟩
                exact ⟨rfl, by omega, hall⟩

/-- The recorded numbers move with the first of them. -/
theorem groupNumbers_add (next more : Nat) (parts : List Part) :
    groupNumbers (next + more) parts = (groupNumbers next parts).map (· + more) := by
  induction parts generalizing next with
  | nil => rfl
  | cons part parts ih =>
      rw [groupNumbers, groupNumbers, List.map_cons, ← ih]
      congr 2
      omega

/-- The numbers behind a rule go on from its own. -/
theorem drop_groupNumbers {parts : List Part} {next first group : Nat}
    (h : (groupNumbers next parts)[first]? = some group) :
    next ≤ group ∧
      (groupNumbers next parts).drop first = groupNumbers group (parts.drop first) := by
  induction parts generalizing next first with
  | nil => exact absurd h (by simp [groupNumbers])
  | cons part parts ih =>
      rw [groupNumbers] at h ⊢
      cases first with
      | zero =>
          obtain rfl := Option.some.inj h
          exact ⟨Nat.le_refl _, rfl⟩
      | succ first =>
          obtain ⟨hle, hdrop⟩ := ih h
          exact ⟨by omega, hdrop⟩

/-- The numbers of the rules that are left are those that they have among all rules, lowered by one
amount. -/
theorem groupNumbers_drop {parts : List Part} {first group : Nat}
    (h : (groupNumbers 1 parts)[first]? = some group) :
    groupNumbers 1 (parts.drop first) =
      ((groupNumbers 1 parts).drop first).map (· - (group - 1)) := by
  obtain ⟨hle, hdrop⟩ := drop_groupNumbers h
  have hgroup : group = 1 + (group - 1) := by omega
  rw [hdrop, hgroup, groupNumbers_add, List.map_map, ← hgroup]
  exact (List.map_id'' (fun n => Nat.add_sub_cancel n _) _).symm

/-! ### Rules and groups -/

/-- The numbers of an alternation **locate** its rules among some patterns, in the tree of the
wrapped patterns from its first rule on. -/
structure Locates (a : Alternation) (trees : List Tree) : Prop where
  /-- There is a number for every rule that is left. -/
  length_eq : a.groups.length = (trees.drop a.first).length
  /-- The number at a position is that of the group around the pattern of the rule there. -/
  around : ∀ j group tree, a.groups[j]? = some group → trees[a.first + j]? = some tree →
    (wrappedFrom a.first trees)[j]? = some (.group (some group) [] (tree.numbered (group + 1)))
  /-- The groups inside the pattern have the numbers up to the next one that is recorded, or up to
  the last of all groups. -/
  inside : ∀ j group tree, a.groups[j]? = some group → trees[a.first + j]? = some tree → ∀ n,
    n ∈ (tree.numbered (group + 1)).captures ↔ group < n ∧
      n < a.groups.getD (j + 1) ((Tree.capturesList (wrappedFrom a.first trees)).length + 1)
  /-- No number that is recorded is that of a group inside a pattern. -/
  outside : ∀ index change body, .group index change body ∈ wrappedFrom a.first trees →
    ∀ group ∈ a.groups, group ∉ body.captures

/-- The numbers of the groups around the patterns locate the rules. -/
theorem Locates.of_numbersAround {a : Alternation} {trees : List Tree}
    (h : a.groups = numbersAround 1 (trees.drop a.first)) : a.Locates trees where
  length_eq := by rw [h, length_numbersAround]
  around j group tree hgroup htree := by
    rw [← List.getElem?_drop] at htree
    obtain ⟨group', hgroup', hbranch, -⟩ := numbersAround_getElem? htree 1
    rw [← h, hgroup] at hgroup'
    obtain rfl := Option.some.inj hgroup'
    exact hbranch
  inside j group tree hgroup htree n := by
    rw [← List.getElem?_drop] at htree
    obtain ⟨group', hgroup', -, hnext⟩ := numbersAround_getElem? htree 1
    rw [← h, hgroup] at hgroup'
    obtain rfl := Option.some.inj hgroup'
    rw [← h, Nat.add_comm 1] at hnext
    rw [wrappedFrom, hnext, Tree.captures_numbered, List.mem_range'_1]
    rfl
  outside index change body hmem group hgroup := by
    obtain ⟨j, hj⟩ := List.mem_iff_getElem?.mp hmem
    have hlt : j < (trees.drop a.first).length := by
      have := (List.getElem?_eq_some_iff.mp hj).1
      rwa [wrappedFrom, Tree.length_numberedList, List.length_map] at this
    obtain ⟨number, hnumber, hbranch, -⟩ := numbersAround_getElem? (List.getElem?_eq_getElem hlt) 1
    obtain ⟨-, -, rfl⟩ := Tree.group.inj (Option.some.inj (hj.symm.trans hbranch))
    have houtside := numbersAround_outside (List.getElem?_eq_getElem hlt) hnumber (h ▸ hgroup)
    rw [Tree.captures_numbered, List.mem_range'_1]
    omega

/-- Numbers that locate the rules are those of the groups around the patterns. -/
theorem Locates.groups_eq {a : Alternation} {trees : List Tree} (h : a.Locates trees) :
    a.groups = numbersAround 1 (trees.drop a.first) := by
  have hlength : a.groups.length = (numbersAround 1 (trees.drop a.first)).length := by
    rw [length_numbersAround, h.length_eq]
  refine List.ext_getElem hlength fun j hj hj' => ?_
  have hlt : j < (trees.drop a.first).length := h.length_eq ▸ hj
  have htree := List.getElem?_eq_getElem hlt
  obtain ⟨number, hnumber, hbranch, -⟩ := numbersAround_getElem? htree 1
  rw [List.getElem?_drop] at htree
  have haround := h.around j _ _ (List.getElem?_eq_getElem hj) htree
  obtain ⟨hindex, -⟩ := Tree.group.inj (Option.some.inj (haround.symm.trans hbranch))
  rw [List.getElem?_eq_getElem hj'] at hnumber
  exact (Option.some.inj hindex).trans (Option.some.inj hnumber).symm

/-- The groups that a spliced pattern is read as are the wrapped patterns, numbered from left to
right. -/
theorem wrapped_eq_numberedList {parts : List Part}
    (h : ∀ part ∈ parts, ReadsAs part.source (treeAlone part.source)) (w : Nat) :
    wrapped w parts =
      Tree.numberedList w ((parts.map fun part => treeAlone part.source).map wrap) := by
  induction parts generalizing w with
  | nil => rfl
  | cons part parts ih =>
      obtain ⟨hpart, hparts⟩ := List.forall_mem_cons.mp h
      have hcaptures := hpart.captures_eq
      have hlength : (treeAlone part.source).captures.length = groupsWritten part.source := by
        rw [hcaptures, List.length_range']
      rw [← hlength] at hcaptures
      rw [wrapped, List.map_cons, numberedList_wrap, hlength, ih hparts,
        Tree.shift_eq_numbered hcaptures, Nat.add_comm 1]

section Built

variable {parts : List Part} {trees : List Tree} {first : Nat} {a : Alternation}

/-- What is counted in each pattern is the number of its last group that is kept. -/
theorem map_groups_eq (h : List.Forall₂ CountedIn parts trees) :
    parts.map (·.groups) = trees.map Tree.lastKept := by
  induction h with
  | nil => rfl
  | cons hpart _ ih => rw [List.map_cons, List.map_cons, ih, hpart.groups_eq]

/-- The numbers that are recorded for the rules from some rule on locate them exactly if in every
pattern but the last, the last group is kept. -/
theorem locates_iff (hcounted : List.Forall₂ CountedIn parts trees)
    (hbuild : build (parts.drop first) first = .ok a) :
    a.Locates trees ↔
      ∀ tree ∈ (trees.drop first).dropLast, tree.lastKept = tree.captures.length := by
  obtain ⟨-, hgroups, rfl⟩ := build_ok hbuild
  have hkept : (parts.drop a.first).map (·.groups) = (trees.drop a.first).map Tree.lastKept := by
    rw [List.map_drop, List.map_drop, map_groups_eq hcounted]
  have hnumbers := groupNumbers_eq_iff hkept 1 1
  rw [← hgroups, and_iff_right fun _ => rfl] at hnumbers
  exact ⟨fun h => hnumbers.mp h.groups_eq, fun h => .of_numbersAround (hnumbers.mpr h)⟩

/-- Patterns that are self-contained are read as the wrapped patterns, numbered from left to
right. -/
theorem parse?_of_selfContained (hbuild : build parts first = .ok a) (hne : parts ≠ [])
    (hcontained : SelfContained parts) :
    Tree.parse? false false a.source =
      some ((joined ((parts.map fun part => treeAlone part.source).map wrap)).numbered 1) := by
  have hsource : a.source = spliced parts := by
    obtain ⟨e, -, rfl⟩ := eq_of_build hbuild
    rfl
  rw [hsource, hcontained.readApart hne hbuild, wrapped_eq_numberedList hcontained.reads,
    numbered_joined, joined]

/-- **Recorded numbers.** Let some patterns have been counted, each in its tree, and let the
alternation of those from some rule on be built. The numbers that are recorded locate the rules in
the alternation of the wrapped patterns exactly if in every pattern that is left but the last, the
last group is kept. In any case they are the numbers of all rules from the first on, lowered by one
amount, and what is reported at a position belongs to the rule that has it among those that are
left. The alternation of the wrapped patterns is what the spliced pattern is read as, if its
patterns are self-contained and were counted in the trees that they have alone. -/
theorem groups_locate_rules (hcounted : List.Forall₂ CountedIn parts trees)
    (hbuild : build (parts.drop first) first = .ok a) :
    (a.first = first ∧ (a.Locates trees ↔
      ∀ tree ∈ (trees.drop first).dropLast, tree.lastKept = tree.captures.length)) ∧
    (∀ full group, build parts 0 = .ok full → full.groups[first]? = some group →
      a.groups = (full.groups.drop first).map (· - (group - 1))) ∧
    (∀ saved found, reported saved a.first a.groups = some found →
      ∃ j group, a.groups[j]? = some group ∧ found.rule = first + j ∧
        groupSpan? saved group = some (found.start, found.stop)) ∧
    (first < parts.length → SelfContained (parts.drop first) →
      trees = parts.map (fun part => treeAlone part.source) →
      Tree.parse? false false a.source =
        some ((joined ((trees.drop first).map wrap)).numbered 1)) := by
  obtain ⟨-, hgroups, hfirst⟩ := build_ok hbuild
  refine ⟨⟨hfirst, locates_iff hcounted hbuild⟩, ?_, ?_, ?_⟩
  · intro full group hfull hgroup
    obtain ⟨-, hall, -⟩ := build_ok hfull
    rw [hall] at hgroup ⊢
    rw [hgroups, groupNumbers_drop hgroup]
  · intro saved found hreported
    obtain ⟨j, group, hgroup, hrule, hspan⟩ := reported_some hreported
    exact ⟨j, group, hgroup, hfirst ▸ hrule, hspan⟩
  · rintro hlt hcontained rfl
    have hne : parts.drop first ≠ [] := mt List.drop_eq_nil_iff.mp (Nat.not_le_of_lt hlt)
    rw [← List.map_drop]
    exact parse?_of_selfContained hbuild hne hcontained

end Built

/-- Patterns with groups side by side, one in another, and none. -/
def nested : List Part :=
  [⟨"((a)b)?".toList, 2⟩, ⟨"a(b(c))".toList, 2⟩, ⟨['d'], 0⟩, ⟨"(e)(f)".toList, 2⟩]

/-- All groups of these patterns are kept, so the recorded numbers locate the rules, with or
without the first one. -/
theorem groups_locate_rules_nested :
    ∃ full a, build nested 0 = .ok full ∧ build (nested.drop 1) 1 = .ok a ∧
      full.groups = [1, 4, 7, 8] ∧ a.groups = [1, 4, 5] ∧
      a.Locates (nested.map fun part => treeAlone part.source) := by
  have hfull : (build nested 0).toOption.map (·.groups) = some [1, 4, 7, 8] := by decide +kernel
  have hbuilt : (build (nested.drop 1) 1).toOption.isSome = true := by decide +kernel
  cases hbuild : build (nested.drop 1) 1 with
  | error e =>
      rw [hbuild] at hbuilt
      exact absurd hbuilt Bool.false_ne_true
  | ok a =>
      cases hbuild' : build nested 0 with
      | error e => exact absurd hfull (by simp [hbuild', Except.toOption])
      | ok full =>
          rw [hbuild'] at hfull
          have hgroups : full.groups = [1, 4, 7, 8] := Option.some.inj hfull
          have hcounts : ∀ part ∈ nested,
              (Pattern.source part.source).innerGroups = .ok part.groups := by decide +kernel
          have hcounted : List.Forall₂ CountedIn nested
              (nested.map fun part => treeAlone part.source) := by
            rw [List.forall₂_map_right_iff, List.forall₂_same]
            exact fun part hpart => .of_source (hcounts part hpart)
          obtain ⟨⟨-, hlocates⟩, hlowered, -⟩ := groups_locate_rules hcounted hbuild
          refine ⟨full, a, rfl, rfl, hgroups, ?_, hlocates.mpr (by decide +kernel)⟩
          rw [hlowered full 4 hbuild' (by rw [hgroups]; rfl), hgroups]
          rfl

/-- A pattern whose last group is not kept, one with a group, and one behind it. -/
def miscounted : List Part :=
  [⟨"((x)\x7b0\x7dy)".toList, 1⟩, ⟨"a(b)".toList, 1⟩, ⟨['c'], 0⟩]

/-- Where the last group of a pattern is not kept, the group inside of the next one is taken for the
group around the one behind it, and a match of the one is reported as a match of the other. -/
theorem inner_group_taken_for_wrapper :
    (∀ part ∈ miscounted, (Pattern.source part.source).innerGroups = .ok part.groups) ∧
    (∀ part ∈ miscounted, isClosed part.source = true) ∧
    (wrappedFrom 0 (miscounted.map fun part => treeAlone part.source)).map Tree.captures =
      [[1, 2, 3], [4, 5], [6]] ∧
    ∃ a, build miscounted 0 = .ok a ∧ a.groups = [1, 3, 5] ∧
      ¬ a.Locates (miscounted.map fun part => treeAlone part.source) ∧
      IsFirst ['a', 'b'] 0 miscounted 1 (0, 2) ∧ a.matchAt ['a', 'b'] 0 = some ⟨2, 1, 2⟩ := by
  refine ⟨by decide +kernel, by decide +kernel, by decide +kernel, ?_⟩
  have hmatch : (build miscounted 0).toOption.map (·.matchAt ['a', 'b'] 0) =
      some (some ⟨2, 1, 2⟩) := by decide +kernel
  cases hbuild : build miscounted 0 with
  | error e => exact absurd hmatch (by simp [hbuild, Except.toOption])
  | ok a =>
      rw [hbuild] at hmatch
      obtain ⟨-, hgroups, hfirst⟩ := build_ok hbuild
      have hrecorded : a.groups = [1, 3, 5] := hgroups
      refine ⟨a, rfl, hrecorded, fun hlocates => ?_, ⟨⟨_, rfl, by decide +kernel⟩, ?_⟩,
        Option.some.inj hmatch⟩
      · have haround := hlocates.groups_eq
        rw [hrecorded, hfirst] at haround
        exact absurd haround (by decide +kernel)
      · decide +kernel

end Alternation

end ModalLex
