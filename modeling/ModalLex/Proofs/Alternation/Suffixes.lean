import ModalLex.Proofs.Alternation.Extension

/-!
# Alternations of Fewer Rules

When rules are rejected, an alternation is built of the rules behind them. The spliced pattern of
all rules can be read if every pattern can be read alone, each is closed, no name is written in two
of them (`NamesFree`), and the groups do not nest too deep. All of this holds of fewer rules too,
so the only thing that can be wrong with their pattern is that its program would be **too large**.
And this can be: the size of a program is not that of its parts, and what is found to be shared
among all of the rules may be found less often among some of them.

Where a pattern ends in a comment, the patterns behind it are read differently in the pattern of
all rules, and nothing is known about them. Where it stands behind all others this cannot be, since
the comment takes the end of the group around it.

## Main results

* `readApart_iff`: **when a spliced pattern can be read.**
* `ReadApart.drop`: what can be read of all rules can be read of those from some rule on.
* `build_drop_error_iff`: **what can be wrong with the alternation of fewer rules.**
-/

namespace ModalLex

namespace Regex

/-! ### Names in context -/

section Names

variable {pattern : Text} {tree : Tree} {m : Nat} {names : List Text}

/-- A closed pattern whose names are free is read inside of a group, and its names are taken
behind it. -/
theorem ReadsAs.read_free (h : ReadsAs pattern tree) (hclosed : isClosed pattern = true)
    (hm : pattern.length + 2 ≤ m) (u : Text) (w : Nat)
    (hfree : (namesWritten pattern).Disjoint names) :
    ∃ verbose, readBranches false m [] [] (.start (pattern ++ ')' :: u) w names) =
      some (tree.shift w,
        ⟨')' :: u, verbose, groupsWritten pattern + w, namesWritten pattern ++ names⟩) := by
  obtain ⟨verbose, hread⟩ := h.read_parenthesis
  rw [if_pos hclosed] at hread
  obtain ⟨-, hspliced⟩ := splices_readBranches hm [] [] hread
  have hcontext := hspliced u w [] (.of_ne_nil u (by simp))
  rw [within_start] at hcontext
  rcases hcontext with ⟨hne, -⟩ | ⟨y, htrails, hsome⟩
  · exact absurd rfl hne
  · obtain rfl := htrails.eq_append (by simp)
    obtain ⟨new, hnames, -, -, hother⟩ := names_readBranches _ _ hsome
    obtain rfl : namesWritten pattern = new := List.append_cancel_right hnames
    exact ⟨verbose, hother names hfree⟩

/-- Where a closed pattern is read inside of a group, its names were free. -/
theorem ReadsAs.free_of_read (h : ReadsAs pattern tree) (hclosed : isClosed pattern = true)
    (hm : pattern.length + 2 ≤ m) {u : Text} {w : Nat} {result : Tree × Place}
    (hread : readBranches false m [] [] (.start (pattern ++ ')' :: u) w names) = some result) :
    (namesWritten pattern).Disjoint names := by
  obtain ⟨tree', place⟩ := result
  obtain ⟨new, -, -, hdisjoint, hother⟩ := names_readBranches _ _ hread
  obtain ⟨verbose, hfirst⟩ := h.read_free hclosed hm u w (List.disjoint_nil_right _)
  have hplace := (Prod.mk.inj (Option.some.inj (hfirst.symm.trans (hother [] (by simp))))).2
  have hnames : namesWritten pattern ++ [] = new ++ [] := congrArg Place.names hplace
  rwa [List.append_cancel_right hnames]

end Names

end Regex

namespace Alternation

open Regex

/-! ### Reading the rules one by one -/

/-- No name is written in two of the patterns, and none was taken before. -/
def NamesFree (taken : List Text) : List Part → Prop
  | [] => True
  | part :: rest =>
    (namesWritten part.source).Disjoint taken ∧ NamesFree (namesWritten part.source ++ taken) rest

/-- Names that are free are free if fewer are taken. -/
theorem NamesFree.mono {taken taken' : List Text} {parts : List Part} (h : NamesFree taken parts)
    (hsubset : taken' ⊆ taken) : NamesFree taken' parts := by
  induction parts generalizing taken taken' with
  | nil => trivial
  | cons part rest ih =>
      obtain ⟨hpart, hrest⟩ := h
      refine ⟨List.disjoint_of_subset_right hsubset hpart, ih hrest ?_⟩
      exact List.append_subset.mpr ⟨List.subset_append_left _ _,
        List.subset_append_of_subset_right _ hsubset⟩

/-- The names in fewer patterns are free. -/
theorem NamesFree.drop {taken : List Text} {parts : List Part} (h : NamesFree taken parts)
    (first : Nat) : NamesFree taken (parts.drop first) := by
  induction parts generalizing first with
  | nil => rwa [List.drop_nil]
  | cons part rest ih =>
      cases first with
      | zero => exact h
      | succ first => exact ih (h.2.mono (List.subset_append_right _ _)) first

section Reading

variable {parts : List Part} {part : Part} {m w : Nat} {before : List Tree} {names : List Text}

/-- Where the names of a closed pattern are free, reading leads behind its group. -/
theorem readBranches_part (h : ReadsAs part.source (treeAlone part.source))
    (hclosed : isClosed part.source = true) (hm : part.source.length + 2 ≤ m)
    (hfree : (namesWritten part.source).Disjoint names) (u : Text) :
    readBranches false (m + 1) [] before (.start ('(' :: (part.source ++ ')' :: u)) w names) =
      readBranches false m
        [.group (some (w + 1)) [] ((treeAlone part.source).shift (w + 1))] before
        (.start u (groupsWritten part.source + (w + 1)) (namesWritten part.source ++ names)) := by
  obtain ⟨verbose, hread⟩ := h.read_free hclosed hm u (w + 1) hfree
  have hgroup : readGroup m [] before (.start ('(' :: (part.source ++ ')' :: u)) w names)
      (part.source ++ ')' :: u) (.capture none) =
        (readBranches false m [] [] (.start (part.source ++ ')' :: u) (w + 1) names)).bind fun q =>
          closeGroup m [.group (some (w + 1)) [] q.1] before false q.2 := rfl
  rw [readBranches_open, h.readOpening_eq u, Option.bind_some, hgroup, hread]
  rfl

/-- Where the group of a closed pattern is read, the names of the pattern were free. -/
theorem free_of_readBranches_part (h : ReadsAs part.source (treeAlone part.source))
    (hclosed : isClosed part.source = true) (hm : part.source.length + 2 ≤ m) {u : Text}
    {result : Tree × Place}
    (hread : readBranches false (m + 1) [] before
      (.start ('(' :: (part.source ++ ')' :: u)) w names) = some result) :
    (namesWritten part.source).Disjoint names := by
  rw [readBranches_open, h.readOpening_eq u, Option.bind_some, readGroup] at hread
  obtain ⟨⟨body, inner⟩, hbody, -⟩ := Option.bind_eq_some_iff.mp hread
  exact h.free_of_read hclosed hm hbody

/-- Patterns that are closed and whose names are free are read one by one. -/
theorem readBranches_of_free (hne : parts ≠ [])
    (h : ∀ part ∈ parts, ReadsAs part.source (treeAlone part.source))
    (hclosed : ∀ part ∈ parts, isClosed part.source = true) (hfree : NamesFree names parts)
    (hm : (branches parts).length + 2 ≤ m) :
    ∃ w' names', readBranches false m [] before (.start (branches parts ++ [')']) w names) =
      some (Tree.ofBranches (before.reverse ++ wrapped (w + 1) parts),
        .start [')'] w' names') := by
  induction parts generalizing m before w names with
  | nil => exact absurd rfl hne
  | cons part rest ih =>
      obtain ⟨hpart, hrest⟩ := List.forall_mem_cons.mp h
      obtain ⟨hfirst, hclosed⟩ := List.forall_mem_cons.mp hclosed
      -- The names of the first pattern are taken when the others are read.
      obtain ⟨hnames, hfree⟩ := hfree
      obtain ⟨m, rfl⟩ := Nat.exists_eq_add_of_le' (Nat.one_le_of_lt hm)
      have hlength := congrArg List.length (branches_cons part rest)
      simp only [List.length_append, List.length_cons, List.length_nil] at hlength
      rw [branches_cons, readBranches_part hpart hfirst (by omega) hnames]
      obtain ⟨m, rfl⟩ := Nat.exists_eq_add_of_le' (Nat.one_le_of_lt (by omega : 0 < m))
      cases rest with
      | nil =>
          rw [readBranches_close]
          refine ⟨groupsWritten part.source + (w + 1), namesWritten part.source ++ names, ?_⟩
          simp [branchTree, wrapped, Tree.ofItems]
      | cons part' rest =>
          rw [readBranches_bar]
          simp only [List.length_append, List.length_cons] at hlength
          have hm' : (branches (part' :: rest)).length + 2 ≤ m := by omega
          obtain ⟨w', names', hread⟩ := ih (by simp) hrest hclosed hfree hm'
          refine ⟨w', names', hread.trans ?_⟩
          have hnext : groupsWritten part.source + (w + 1) + 1 =
              w + 1 + 1 + groupsWritten part.source := by omega
          rw [hnext]
          simp [wrapped, Tree.ofItems]

/-- Patterns of which no more than the last ends in a comment are read one by one only if none
ends in a comment and their names are free. -/
theorem free_of_readBranches (hne : parts ≠ [])
    (h : ∀ part ∈ parts, ReadsAs part.source (treeAlone part.source))
    (hclosed : ∀ part ∈ parts.dropLast, isClosed part.source = true)
    (hm : (branches parts).length + 2 ≤ m) {tree : Tree} {place : Place}
    (hread : readBranches false m [] before (.start (branches parts ++ [')']) w names) =
      some (tree, place)) (hplace : place.rest ≠ []) :
    (∀ part ∈ parts, isClosed part.source = true) ∧ NamesFree names parts := by
  induction parts generalizing m before w names with
  | nil => exact absurd rfl hne
  | cons part rest ih =>
      obtain ⟨hpart, hrest⟩ := List.forall_mem_cons.mp h
      obtain ⟨m, rfl⟩ := Nat.exists_eq_add_of_le' (Nat.one_le_of_lt hm)
      have hlength := congrArg List.length (branches_cons part rest)
      simp only [List.length_append, List.length_cons, List.length_nil] at hlength
      rw [branches_cons] at hread
      cases rest with
      | nil =>
          -- A comment at the end would take the parenthesis of the group, and nothing is left then.
          have hlast : isClosed part.source = true := by
            cases hopen : isClosed part.source with
            | true => rfl
            | false => exact absurd (read_last hpart hopen (by omega) hread) hplace
          exact ⟨by simpa using hlast,
            free_of_readBranches_part hpart hlast (by omega) hread, trivial⟩
      | cons part' rest =>
          rw [List.dropLast_cons_cons] at hclosed
          obtain ⟨hfirst, hclosed⟩ := List.forall_mem_cons.mp hclosed
          have hnames := free_of_readBranches_part hpart hfirst (by omega) hread
          rw [readBranches_part hpart hfirst (by omega) hnames] at hread
          obtain ⟨m, rfl⟩ := Nat.exists_eq_add_of_le' (Nat.one_le_of_lt (by omega : 0 < m))
          rw [readBranches_bar] at hread
          simp only [List.length_append, List.length_cons] at hlength
          obtain ⟨hothers, hfree⟩ := ih (by simp) hrest hclosed (by omega) hread
          exact ⟨List.forall_mem_cons.mpr ⟨hfirst, hothers⟩, hnames, hfree⟩

end Reading

/-! ### Spliced patterns that can be read -/

/-- The tree of the groups of some rules. -/
def groupTree (parts : List Part) : Tree := .group none [] (Tree.ofBranches (wrapped 1 parts))

/-- What stands behind the first mark of a spliced pattern is read by the reader of branches. -/
theorem readBranches_spliced (parts : List Part) (n : Nat) :
    readBranches false (n + 1) [] [] (.start (spliced parts) 0 []) =
      (readBranches false n [] [] (.start (branches parts ++ [')']) 0 [])).bind fun q =>
        closeGroup n [.group none [] q.1] [] false q.2 := by
  have hopening : readOpening false ('?' :: ':' :: (branches parts ++ [')'])) =
      some (.scope [], branches parts ++ [')']) := by
    simp [readOpening, tidy, readFlags]
  have hstart : spliced parts = '(' :: '?' :: ':' :: (branches parts ++ [')']) := rfl
  rw [hstart, readBranches_open, hopening, Option.bind_some]
  rfl

/-- A spliced pattern is longer than its branches, so its length is allowance enough for them. -/
theorem length_branches_lt (parts : List Part) :
    (branches parts).length + 2 ≤ (spliced parts).length := by
  simp [spliced]

/-- **When a spliced pattern can be read**: if no more than the last pattern could end in a comment,
it can be read exactly if no pattern does, the names in all of them are different, and the groups
do not nest too deep. -/
theorem readApart_iff {parts : List Part} (hne : parts ≠ [])
    (h : ∀ part ∈ parts, ReadsAs part.source (treeAlone part.source))
    (hclosed : ∀ part ∈ parts.dropLast, isClosed part.source = true) :
    ReadApart parts ↔ (∀ part ∈ parts, isClosed part.source = true) ∧ NamesFree [] parts ∧
      (groupTree parts).depth ≤ maxDepth := by
  have hlength := length_branches_lt parts
  constructor
  · intro hapart
    obtain ⟨⟨tree, place⟩, hread, hend⟩ := Option.bind_eq_some_iff.mp hapart
    obtain ⟨hplace, heq⟩ := Option.ite_none_right_eq_some.mp hend
    obtain rfl := Option.some.inj heq
    rw [Bool.and_eq_true, decide_eq_true_iff] at hplace
    have hread' := (readBranches_spliced parts (spliced parts).length).symm.trans hread
    obtain ⟨⟨body, inner⟩, hbody, hclose⟩ := Option.bind_eq_some_iff.mp hread'
    obtain ⟨hclosed', hfree⟩ :=
      free_of_readBranches hne h hclosed hlength hbody (closeGroup_ne_nil hclose)
    exact ⟨hclosed', hfree, hplace.2⟩
  · rintro ⟨hclosed', hfree, hdepth⟩
    obtain ⟨w, names, hbody⟩ : ∃ w names, readBranches false (spliced parts).length [] []
        (.start (branches parts ++ [')']) 0 []) =
          some (Tree.ofBranches (wrapped 1 parts), .start [')'] w names) :=
      readBranches_of_free hne h hclosed' hfree hlength
    have hread : readBranches false ((spliced parts).length + 1) [] []
        (.start (spliced parts) 0 []) = some (groupTree parts, .start [] w names) := by
      rw [readBranches_spliced, hbody]
      obtain ⟨n, hn⟩ := Nat.exists_eq_add_of_le' (Nat.one_le_of_lt hlength)
      rw [hn]
      exact readBranches_end n _ _ _ _
    have hend : ((Place.start [] w names).rest.isEmpty &&
        decide ((groupTree parts).depth ≤ maxDepth)) = true := by
      rw [Bool.and_eq_true, decide_eq_true_iff]
      exact ⟨rfl, hdepth⟩
    exact Option.bind_eq_some_iff.mpr ⟨_, hread, if_pos hend⟩

/-- The depth of the groups of rules does not depend on their numbers. -/
theorem depthList_wrapped (w w' : Nat) (parts : List Part) :
    Tree.depthList (wrapped w parts) = Tree.depthList (wrapped w' parts) := by
  induction parts generalizing w w' with
  | nil => rfl
  | cons part rest ih =>
      simp only [wrapped, Tree.depthList, Tree.depth, Tree.depth_shift]
      rw [ih]

/-- Fewer patterns are nested no deeper. -/
theorem depthList_wrapped_drop (w : Nat) (parts : List Part) (first : Nat) :
    Tree.depthList (wrapped w (parts.drop first)) ≤ Tree.depthList (wrapped w parts) := by
  induction parts generalizing w first with
  | nil => rw [List.drop_nil]
  | cons part rest ih =>
      cases first with
      | zero => exact Nat.le_refl _
      | succ first =>
          rw [List.drop_succ_cons, depthList_wrapped w (w + 1 + groupsWritten part.source)]
          exact Nat.le_trans (ih _ first) (Nat.le_max_right _ _)

/-- Every pattern is wrapped once. -/
theorem length_wrapped (w : Nat) (parts : List Part) : (wrapped w parts).length = parts.length := by
  induction parts generalizing w with
  | nil => rfl
  | cons part rest ih => rw [wrapped, List.length_cons, ih, List.length_cons]

/-- Branches nest one level deeper than the deepest of them, unless there is only one. -/
theorem depth_ofBranches (trees : List Tree) :
    (Tree.ofBranches trees).depth = Tree.depthList trees + if trees.length = 1 then 0 else 1 := by
  match trees with
  | [] => rfl
  | [tree] => simp [Tree.ofBranches, Tree.depthList]
  | tree :: tree' :: rest => simp [Tree.ofBranches, Tree.depth]

/-- The groups of fewer rules do not nest deeper. -/
theorem depth_groupTree_drop {parts : List Part} {first : Nat} (hfirst : first < parts.length) :
    (groupTree (parts.drop first)).depth ≤ (groupTree parts).depth := by
  have hle := depthList_wrapped_drop 1 parts first
  simp only [groupTree, Tree.depth, depth_ofBranches, length_wrapped, List.length_drop]
  split_ifs <;> omega

/-! ### Fewer rules -/

/-- **What can be read of all rules can be read of those from some rule on.** -/
theorem ReadApart.drop {parts : List Part} (h : ReadApart parts) (hcontained : SelfContained parts)
    {first : Nat} (hfirst : first < parts.length) : ReadApart (parts.drop first) := by
  have hne : parts ≠ [] := List.ne_nil_of_length_pos (by omega)
  have hne' : parts.drop first ≠ [] := mt List.drop_eq_nil_iff.mp (Nat.not_le_of_lt hfirst)
  obtain ⟨hclosed, hfree, hdepth⟩ := (readApart_iff hne hcontained.reads hcontained.closed).mp h
  refine (readApart_iff hne' (hcontained.drop first).reads (hcontained.drop first).closed).mpr
    ⟨fun part hpart => hclosed part (List.mem_of_mem_drop hpart), hfree.drop first, ?_⟩
  exact Nat.le_trans (depth_groupTree_drop hfirst) hdepth

/-- A pattern that is read apart has an expression if the patterns of its rules have. -/
theorem ReadApart.expr_isSome {parts : List Part} (h : ReadApart parts) (hne : parts ≠ [])
    (hparts : ∀ part ∈ parts, (expr? {} part.source).isSome) :
    (expr? {} (spliced parts)).isSome := by
  have hmodes : ({} : Modes).apply [] = {} := rfl
  have hbranches : ((Tree.ofBranches (wrapped 1 parts)).toExpr? {}).isSome := by
    obtain ⟨part, rest, rfl⟩ := List.exists_cons_of_ne_nil hne
    cases rest with
    | nil =>
        obtain ⟨e, he⟩ := Option.isSome_iff_exists.mp (hparts part (by simp))
        exact Option.isSome_of_eq_some (toExpr?_group he 1)
    | cons part' rest =>
        rw [ofBranches_wrapped, Tree.toExpr?, toExprs?_wrapped hparts 1]
        rfl
  obtain ⟨⟨e, modes⟩, he⟩ := Option.isSome_iff_exists.mp hbranches
  have hgroup : (Tree.group none [] (Tree.ofBranches (wrapped 1 parts))).toExpr? {} =
      some (e, {}) := by
    rw [Tree.toExpr?, hmodes, he]
    rfl
  exact Option.isSome_of_eq_some (expr?_eq_some_iff.mpr ⟨_, _, h, hgroup⟩)

/-- The pattern of some rules has an expression, but the program of it would be too large. -/
def Oversize (parts : List Part) : Prop :=
  ∃ e, expr? {} (spliced parts) = some e ∧ e.fits = false

instance (parts : List Part) : Decidable (Oversize parts) :=
  decidable_of_iff ((expr? {} (spliced parts)).any fun e => !e.fits) <| by
    simp [Oversize, Option.any_eq_true]

/-- Without rules there is nothing that could be too large. -/
theorem not_oversize_nil : ¬ Oversize [] := by
  decide +kernel

/-- **What is wrong with an alternation**: the spliced text cannot be read, or it has no meaning, or
its program is too large. An error of the syntax names the text of all rules together. -/
theorem build_error_iff {parts : List Part} {first : Nat} {cause : PatternError} :
    build parts first = .error cause ↔
      (cause = .unreadable (spliced parts) ∧
        Tree.parse? false false (spliced parts) = none) ∨
      (cause = .meaningless (spliced parts) ∧ ∃ tree,
        Tree.parse? false false (spliced parts) = some tree ∧ tree.toExpr? {} = none) ∨
      (cause = .tooLarge ∧ Oversize parts) := by
  rw [Oversize, build, ← @compile_eq_error_iff {}]
  cases Regex.compile {} (spliced parts) with
  | error cause' => simp [Except.map]
  | ok regex => simp [Except.map]

/-- **What can be wrong with the alternation of fewer rules**: nothing but its size. -/
theorem build_drop_error_iff {parts : List Part} {a : Alternation} {full first : Nat}
    (hbuild : build parts full = .ok a) (hcontained : SelfContained parts)
    (hfirst : first < parts.length) {cause : PatternError} :
    build (parts.drop first) first = .error cause ↔
      cause = .tooLarge ∧ Oversize (parts.drop first) := by
  have hne : parts ≠ [] := List.ne_nil_of_length_pos (by omega)
  have hne' : parts.drop first ≠ [] := mt List.drop_eq_nil_iff.mp (Nat.not_le_of_lt hfirst)
  have hapart := hcontained.readApart hne hbuild
  obtain ⟨e, he⟩ := Option.isSome_iff_exists.mp
    ((hapart.drop hcontained hfirst).expr_isSome hne' (hcontained.drop first).expr_isSome)
  obtain ⟨tree, modes, hparse, htree⟩ := expr?_eq_some_iff.mp he
  have hread : Tree.parse? false false (spliced (parts.drop first)) = some tree := hparse
  have hmeans : tree.toExpr? {} = some (e, modes) := htree
  rw [build_error_iff, hread]
  simp [hmeans]

end Alternation

end ModalLex
