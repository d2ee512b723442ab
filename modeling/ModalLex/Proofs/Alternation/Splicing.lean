import ModalLex.Proofs.Alternation.Report
import ModalLex.Proofs.Regex.Counting
import ModalLex.Proofs.Regex.Embedding
import ModalLex.Proofs.Regex.Naming
import ModalLex.Rule

/-!
# Splicing Keeps the Meaning of Patterns

The patterns of some rules are put into one pattern as texts. Reading this pattern gives a group
for each rule, around the tree that its pattern has alone, with the groups inside renumbered. Flags
that a pattern sets end with its group, and so does verbose mode. The expression is then an
alternation of groups, which nothing factors, and its match is that of the first pattern that
matches alone.

Two things can go wrong between the patterns. A pattern that **ends in a comment** takes the
parenthesis behind it into the comment; behind the last pattern this can only make the whole
pattern fail. And the number of a rule's group is found by counting the groups in the expressions
of the patterns before it, which are **too few** if groups are gone that were written
(`ModalLex.Proofs.Regex.Counting`). All numbers behind are then too low, and a rule that is looked
for at too low a number is not found.

## Main results

* `Regex.ReadsAs.read_closed`: a closed pattern is read inside of a group as it is read alone.
* `parse?_spliced`: the tree of a spliced pattern.
* `matchAt_eq_firstSlots`: the match of an alternation is that of the first pattern that matches.
* `spliced_patterns_keep_meaning`: **an alternation reports the first rule whose pattern matches
  alone**, exactly if the groups of the patterns before it have been counted.
-/

namespace ModalLex

namespace Regex

/-! ### Patterns alone -/

/-- Whether a pattern ends outside of comments, so that a parenthesis behind it closes a group
around it. -/
def isClosed (pattern : Text) : Bool :=
  match readBranches false (pattern.length + 2) [] [] (.start (pattern ++ [')']) 0 []) with
  | some (_, place) => !place.rest.isEmpty
  | none => false

/-- The match of a pattern by itself at an offset: the span of its group zero. -/
def matchAlone? (pattern input : Text) (offset : Nat) : Option (Nat × Nat) :=
  (expr? {} pattern).bind fun e =>
    (searchAt (Expr.group 0 e).program input offset).bind (groupSpan? · 0)

section Steps

variable (fuel : Nat) (items branches : List Tree) (rest : Text) (w : Nat) (names : List Text)

/-- An opening parenthesis begins a group. -/
theorem readBranches_open :
    readBranches false (fuel + 1) items branches (.start ('(' :: rest) w names) =
      (readOpening false rest).bind fun p =>
        readGroup fuel items branches (.start ('(' :: rest) w names) p.2 p.1 := by
  rw [readBranches_step]
  rfl

/-- A bar ends a branch and begins the next one. -/
theorem readBranches_bar :
    readBranches false (fuel + 1) items branches (.start ('|' :: rest) w names) =
      readBranches false fuel [] (Tree.ofItems items.reverse :: branches)
        (.start rest w names) := by
  rw [readBranches_step]
  rfl

/-- A closing parenthesis ends the branches and is left for the group around them. -/
theorem readBranches_close :
    readBranches false (fuel + 1) items branches (.start (')' :: rest) w names) =
      some (branchTree items branches, .start (')' :: rest) w names) := by
  rw [readBranches_step]
  rfl

/-- The end of the text ends the branches as well. -/
theorem readBranches_end :
    readBranches false (fuel + 1) items branches (.start [] w names) =
      some (branchTree items branches, .start [] w names) := by
  rw [readBranches_step]
  rfl

end Steps

/-- The tree of a pattern by itself. -/
def treeAlone (pattern : Text) : Tree :=
  match readBranches false (pattern.length + 1) [] [] (.start pattern 0 []) with
  | some (tree, _) => tree
  | none => .empty

/-- The start of a pattern inside of a longer text is a start. -/
theorem within_start (pattern u : Text) (w : Nat) (names : List Text) :
    (Place.start (pattern ++ [')']) 0 []).within u w names =
      .start (pattern ++ ')' :: u) w names := by
  simp [Place.within, Place.start]

/-- Reading a pattern with a parenthesis behind it gives the same tree, and leaves the parenthesis
unread if the pattern is closed. -/
theorem ReadsAs.read_parenthesis {pattern : Text} {tree : Tree} (h : ReadsAs pattern tree) :
    ∃ verbose,
      readBranches false (pattern.length + 2) [] [] (.start (pattern ++ [')']) 0 []) =
        some (tree, ⟨if isClosed pattern then [')'] else [], verbose, groupsWritten pattern,
          namesWritten pattern⟩) := by
  obtain ⟨place, hread, hrest⟩ := h
  have hgroups : groupsWritten pattern = place.groups := by rw [groupsWritten, hread]
  have hnames : namesWritten pattern = place.names := by rw [namesWritten, hread]
  obtain ⟨-, hspliced⟩ := splices_readBranches (Nat.le_succ (pattern.length + 1)) [] [] hread
  rcases hspliced [')'] 0 [] (fun _ => .inr rfl) with ⟨hne, -⟩ | ⟨y, htrails, hsome⟩
  · exact absurd rfl hne
  · rw [Tree.shift_zero, List.append_nil] at hsome
    have hsome' : readBranches false (pattern.length + 2) [] [] (.start (pattern ++ [')']) 0 []) =
        some (tree, ⟨y, place.verbose, place.groups, place.names⟩) := hsome
    have hclosed : isClosed pattern = !y.isEmpty := by rw [isClosed, hsome']
    refine ⟨place.verbose, ?_⟩
    rw [hsome', hgroups, hnames, hclosed]
    rcases htrails with rfl | ⟨-, rfl⟩
    · rw [hrest]
      rfl
    · rfl

/-- **A closed pattern is read inside of a group as it is read alone**, or a name in it is taken. -/
theorem ReadsAs.read_closed {pattern : Text} {tree : Tree} (h : ReadsAs pattern tree)
    (hclosed : isClosed pattern = true) {m : Nat} (hm : pattern.length + 2 ≤ m) (u : Text) (w : Nat)
    (names : List Text) :
    readBranches false m [] [] (.start (pattern ++ ')' :: u) w names) = none ∨
      ∃ verbose names', readBranches false m [] [] (.start (pattern ++ ')' :: u) w names) =
        some (tree.shift w, ⟨')' :: u, verbose, groupsWritten pattern + w, names'⟩) := by
  obtain ⟨verbose, hread⟩ := h.read_parenthesis
  rw [if_pos hclosed] at hread
  obtain ⟨-, hspliced⟩ := splices_readBranches hm [] [] hread
  have hcontext := hspliced u w names (.of_ne_nil u (by simp))
  rw [within_start] at hcontext
  rcases hcontext with ⟨-, hnone⟩ | ⟨y, htrails, hsome⟩
  · exact .inl hnone
  · obtain rfl := htrails.eq_append (by simp)
    exact .inr ⟨_, _, hsome⟩

/-- A pattern that is not closed takes one of two parentheses behind it into its comment. -/
theorem ReadsAs.read_open {pattern : Text} {tree : Tree} (h : ReadsAs pattern tree)
    (hclosed : isClosed pattern = false) {m : Nat} (hm : pattern.length + 2 ≤ m) {w : Nat}
    {names : List Text} {tree' : Tree} {place : Place}
    (hread : readBranches false m [] [] (.start (pattern ++ [')', ')']) w names) =
      some (tree', place)) :
    place.rest = [] ∨ place.rest = [')'] := by
  obtain ⟨verbose, hread₀⟩ := h.read_parenthesis
  rw [hclosed] at hread₀
  obtain ⟨-, hspliced⟩ := splices_readBranches hm [] [] hread₀
  have hcontext := hspliced [')'] w names (fun _ => .inr rfl)
  rw [within_start] at hcontext
  rcases hcontext with ⟨-, hnone⟩ | ⟨y, htrails, hsome⟩
  · exact absurd (hnone.symm.trans hread) (by simp)
  · obtain ⟨-, rfl⟩ := Prod.mk.inj (Option.some.inj (hsome.symm.trans hread))
    rcases htrails with rfl | ⟨-, rfl⟩
    · exact .inr rfl
    · exact .inl rfl

/-- The tree that a pattern has alone is the one it is read as. -/
theorem ReadsAs.treeAlone_eq {pattern : Text} {tree : Tree} (h : ReadsAs pattern tree) :
    treeAlone pattern = tree := by
  obtain ⟨place, hread, -⟩ := h
  rw [treeAlone, hread]

/-- A pattern does not begin with a mark that has something else to stand behind. -/
theorem ReadsAs.ne_mark {pattern : Text} {tree : Tree} (h : ReadsAs pattern tree) (rest : Text) :
    pattern ≠ '?' :: rest := by
  rintro rfl
  obtain ⟨place, hread, -⟩ := h
  rw [readBranches_step] at hread
  exact absurd hread (by simp [Place.start, tidy, readSimple, onHead, Simple.put, repeatLast])

/-- In front of a pattern a parenthesis opens a group that is numbered. -/
theorem ReadsAs.readOpening_eq {pattern : Text} {tree : Tree} (h : ReadsAs pattern tree)
    (u : Text) : readOpening false (pattern ++ ')' :: u) =
      some (.capture none, pattern ++ ')' :: u) := by
  rw [Regex.readOpening_eq]
  cases pattern with
  | nil => rfl
  | cons c rest =>
      have hc : c ≠ '?' := fun heq => h.ne_mark rest (by rw [heq])
      exact if_neg hc

/-! ### Groups -/

/-- An expression that is one group. -/
def Expr.IsGroup (e : Expr) : Prop := ∃ index body, e = .group index body

/-- Groups are not factored: an alternation of two or more is what it says. -/
theorem Expr.alt_groups {e e' : Expr} {rest : List Expr}
    (h : ∀ branch ∈ e :: e' :: rest, branch.IsGroup) :
    Expr.alt (e :: e' :: rest) = .alternation (e :: e' :: rest) := by
  have hchoices : ∀ es : List Expr, (∀ branch ∈ es, branch.IsGroup) →
      es.flatMap Expr.choices = es := by
    intro es hes
    induction es with
    | nil => rfl
    | cons branch es ih =>
        obtain ⟨⟨index, body, rfl⟩, hrest⟩ := List.forall_mem_cons.mp hes
        rw [List.flatMap_cons, ih hrest]
        rfl
  obtain ⟨index, body, rfl⟩ := h e (by simp)
  rw [Expr.alt, Expr.altWithin, hchoices _ h]
  simp [Expr.singleChar?, Expr.charSet?, Expr.concatParts?]

end Regex

namespace Alternation

open Regex

/-! ### The tree of a spliced pattern -/

/-- The groups of the rules around the trees of their patterns, from a number on. -/
def wrapped (w : Nat) : List Part → List Tree
  | [] => []
  | part :: rest =>
    .group (some w) [] ((treeAlone part.source).shift w) ::
      wrapped (w + 1 + groupsWritten part.source) rest

/-- Reading the group of a rule leads behind it. -/
theorem read_part {part : Part} (h : ReadsAs part.source (treeAlone part.source))
    (hclosed : isClosed part.source = true) {m : Nat} (hm : part.source.length + 2 ≤ m)
    {branches : List Tree} {u : Text} {w : Nat} {names : List Text} {result : Tree × Place}
    (hread : readBranches false (m + 1) [] branches
      (.start ('(' :: (part.source ++ ')' :: u)) w names) = some result) :
    ∃ names', readBranches false m
      [.group (some (w + 1)) [] ((treeAlone part.source).shift (w + 1))] branches
      (.start u (groupsWritten part.source + (w + 1)) names') = some result := by
  rw [readBranches_open, h.readOpening_eq u, Option.bind_some, readGroup] at hread
  obtain ⟨⟨body, inner⟩, hbody, hclose⟩ := Option.bind_eq_some_iff.mp hread
  have hread' : readBranches false m [] [] (.start (part.source ++ ')' :: u) (w + 1) names) =
      some (body, inner) := hbody
  rcases h.read_closed hclosed hm u (w + 1) names with hnone | ⟨verbose, names', hsome⟩
  · exact absurd (hnone.symm.trans hread') (by simp)
  · obtain ⟨rfl, rfl⟩ := Prod.mk.inj (Option.some.inj (hsome.symm.trans hread'))
    exact ⟨names', hclose⟩

/-- Where the last pattern ends in a comment, nothing is left to close the groups around it. -/
theorem read_last {part : Part} (h : ReadsAs part.source (treeAlone part.source))
    (hclosed : isClosed part.source = false) {m : Nat} (hm : part.source.length + 2 ≤ m)
    {branches : List Tree} {w : Nat} {names : List Text} {tree : Tree} {place : Place}
    (hread : readBranches false (m + 1) [] branches
      (.start ('(' :: (part.source ++ [')', ')'])) w names) = some (tree, place)) :
    place.rest = [] := by
  rw [readBranches_open, h.readOpening_eq [')'], Option.bind_some, readGroup] at hread
  obtain ⟨⟨body, inner⟩, hbody, hclose⟩ := Option.bind_eq_some_iff.mp hread
  have hread' : readBranches false m [] [] (.start (part.source ++ [')', ')']) (w + 1) names) =
      some (body, inner) := hbody
  have hinner := h.read_open hclosed hm hread'
  obtain ⟨m, rfl⟩ := Nat.exists_eq_add_of_le' (Nat.one_le_of_lt hm)
  rw [closeGroup] at hclose
  rcases hinner with hnil | hone
  · rw [hnil] at hclose
    exact absurd hclose (by simp)
  · rw [hone] at hclose
    have hclose' := (readBranches_end _ _ _ _ _).symm.trans hclose
    obtain ⟨-, rfl⟩ := Prod.mk.inj (Option.some.inj hclose')
    rfl

/-- The parts of a spliced pattern behind the group of its first rule. -/
theorem branches_cons (part : Part) (rest : List Part) :
    branches (part :: rest) ++ [')'] = '(' :: (part.source ++ ')' ::
      match rest with
      | [] => [')']
      | _ :: _ => '|' :: (branches rest ++ [')'])) := by
  cases rest <;> simp [branches]

/-- **Reading the parts of a spliced pattern** gives the groups of the rules. -/
theorem read_branches {parts : List Part} (hne : parts ≠ [])
    (h : ∀ part ∈ parts, ReadsAs part.source (treeAlone part.source))
    (hclosed : ∀ part ∈ parts.dropLast, isClosed part.source = true) {m : Nat}
    (hm : (branches parts).length + 2 ≤ m) {before : List Tree} {w : Nat} {names : List Text}
    {tree : Tree} {place : Place}
    (hread : readBranches false m [] before (.start (branches parts ++ [')']) w names) =
      some (tree, place)) (hplace : place.rest ≠ []) :
    tree = Tree.ofBranches (before.reverse ++ wrapped (w + 1) parts) ∧ place.rest = [')'] := by
  induction parts generalizing m before w names with
  | nil => exact absurd rfl hne
  | cons part rest ih =>
      obtain ⟨hpart, hrest⟩ := List.forall_mem_cons.mp h
      obtain ⟨m, rfl⟩ := Nat.exists_eq_add_of_le' (Nat.one_le_of_lt hm)
      have hlength := congrArg List.length (branches_cons part rest)
      simp only [List.length_append, List.length_cons, List.length_nil] at hlength
      rw [branches_cons] at hread
      cases rest with
      | nil =>
          have hlast : isClosed part.source = true := by
            cases hopen : isClosed part.source with
            | true => rfl
            | false => exact absurd (read_last hpart hopen (by omega) hread) hplace
          obtain ⟨names', hbehind⟩ := read_part hpart hlast (by omega) hread
          obtain ⟨m, rfl⟩ := Nat.exists_eq_add_of_le' (Nat.one_le_of_lt (by omega : 0 < m))
          rw [readBranches_close] at hbehind
          obtain ⟨rfl, rfl⟩ := Prod.mk.inj (Option.some.inj hbehind)
          exact ⟨by simp [branchTree, wrapped, Tree.ofItems], rfl⟩
      | cons part' rest =>
          rw [List.dropLast_cons_cons] at hclosed
          obtain ⟨hfirst, hclosed⟩ := List.forall_mem_cons.mp hclosed
          obtain ⟨names', hbehind⟩ := read_part hpart hfirst (by omega) hread
          obtain ⟨m, rfl⟩ := Nat.exists_eq_add_of_le' (Nat.one_le_of_lt (by omega : 0 < m))
          rw [readBranches_bar] at hbehind
          simp only [List.length_append, List.length_cons] at hlength
          obtain ⟨htree, hleft⟩ := ih (by simp) hrest hclosed (by omega) hbehind
          refine ⟨?_, hleft⟩
          have hnext : groupsWritten part.source + (w + 1) + 1 =
              w + 1 + 1 + groupsWritten part.source := by omega
          rw [htree, hnext]
          simp [wrapped, Tree.ofItems]

/-- The tree of a spliced pattern. -/
theorem parse?_spliced {parts : List Part} (hne : parts ≠ [])
    (h : ∀ part ∈ parts, ReadsAs part.source (treeAlone part.source))
    (hclosed : ∀ part ∈ parts.dropLast, isClosed part.source = true) {tree : Tree}
    (hparse : Tree.parse? false false (spliced parts) = some tree) :
    tree = .group none [] (Tree.ofBranches (wrapped 1 parts)) := by
  obtain ⟨⟨tree', place⟩, hread, hend⟩ := Option.bind_eq_some_iff.mp hparse
  obtain ⟨-, heq⟩ := Option.ite_none_right_eq_some.mp hend
  obtain rfl := Option.some.inj heq
  have hstart : spliced parts = '(' :: '?' :: ':' :: (branches parts ++ [')']) := rfl
  have hopening : readOpening false ('?' :: ':' :: (branches parts ++ [')'])) =
      some (.scope [], branches parts ++ [')']) := by
    simp [readOpening, tidy, readFlags]
  have hread' : readBranches false ((spliced parts).length + 1) [] []
      (.start ('(' :: '?' :: ':' :: (branches parts ++ [')'])) 0 []) = some (tree', place) := hread
  rw [readBranches_open, hopening, Option.bind_some, readGroup] at hread'
  obtain ⟨⟨body, inner⟩, hbody, hclose⟩ := Option.bind_eq_some_iff.mp hread'
  obtain ⟨rfl, hinner⟩ :=
    read_branches hne h hclosed (by simp [spliced]) hbody (closeGroup_ne_nil hclose)
  rw [closeGroup, hinner] at hclose
  have hclose' : readBranches false (spliced parts).length
      [.group none [] (Tree.ofBranches (wrapped 1 parts))] []
      (.start [] inner.groups inner.names) = some (tree', place) := hclose
  rw [hstart, List.length_cons, readBranches_end] at hclose'
  obtain ⟨rfl, -⟩ := Prod.mk.inj (Option.some.inj hclose')
  rfl

/-! ### The expression of a spliced pattern -/

/-- The expressions of the rules' patterns, each as a group zero, with the numbers that this group
has in the spliced pattern. -/
def numbered (w : Nat) : List Part → List (Nat × Expr)
  | [] => []
  | part :: rest =>
    (w, .group 0 ((expr? {} part.source).getD .empty)) ::
      numbered (w + 1 + groupsWritten part.source) rest

/-- The expression of the group of a rule. -/
theorem toExpr?_group {pattern : Text} {e : Expr} (h : expr? {} pattern = some e) (w : Nat) :
    (Tree.group (some w) [] ((treeAlone pattern).shift w)).toExpr? {} =
      some ((Expr.group 0 e).shift w, {}) := by
  obtain ⟨tree, modes, hreads, htree⟩ := exists_readsAs h
  have hmodes : ({} : Modes).apply [] = {} := rfl
  rw [hreads.treeAlone_eq, Tree.toExpr?, hmodes, Tree.toExpr?_shift, htree, Expr.shift,
    Nat.zero_add]
  rfl

/-- The expressions of the groups are those of the patterns alone, renumbered; no pattern changes
the modes of the next one, since each stands in a group. -/
theorem toExprs?_wrapped {parts : List Part} (h : ∀ part ∈ parts, (expr? {} part.source).isSome)
    (w : Nat) :
    Tree.toExprs? {} (wrapped w parts) =
      some ((numbered w parts).map fun branch => branch.2.shift branch.1, {}) := by
  induction parts generalizing w with
  | nil => rfl
  | cons part rest ih =>
      obtain ⟨hpart, hrest⟩ := List.forall_mem_cons.mp h
      obtain ⟨e, he⟩ := Option.isSome_iff_exists.mp hpart
      rw [wrapped, Tree.toExprs?, toExpr?_group he]
      simp only [Option.bind_eq_bind, Option.bind_some]
      rw [ih hrest, numbered, he]
      rfl

/-- All branches of the expression are groups, so none is merged with another. -/
theorem isGroup_numbered (w : Nat) (parts : List Part) :
    ∀ e ∈ (numbered w parts).map fun branch => branch.2.shift branch.1, e.IsGroup := by
  induction parts generalizing w with
  | nil => simp [numbered]
  | cons part rest ih => exact List.forall_mem_cons.mpr ⟨⟨_, _, rfl⟩, ih _⟩

/-- Two or more patterns are put together as an alternation. -/
theorem ofBranches_wrapped (w : Nat) (part part' : Part) (rest : List Part) :
    Tree.ofBranches (wrapped w (part :: part' :: rest)) =
      .alternation (wrapped w (part :: part' :: rest)) := rfl

/-- The expression of a spliced pattern: one group, or an alternation of groups. -/
theorem searchAt_ofBranches {parts : List Part} (hne : parts ≠ [])
    (h : ∀ part ∈ parts, (expr? {} part.source).isSome) {e : Expr} {modes : Modes}
    (he : (Tree.ofBranches (wrapped 1 parts)).toExpr? {} = some (e, modes)) (input : Text)
    (offset : Nat) :
    searchAt e.program input offset = (numbered 1 parts).findSome? fun branch =>
      (searchAt branch.2.program input offset).map (moveSlots (2 * branch.1)) := by
  match parts, hne, h, he with
  | [part], _, h, he =>
      obtain ⟨e', he'⟩ := Option.isSome_iff_exists.mp (h part (by simp))
      have hgroup := (toExpr?_group he' 1).symm.trans he
      obtain ⟨rfl, -⟩ := Prod.mk.inj (Option.some.inj hgroup)
      rw [searchAt_shift, numbered, numbered, List.findSome?_singleton, he']
      rfl
  | part :: part' :: rest, _, h, he =>
      have hexprs := toExprs?_wrapped h 1
      have halternation : (Tree.ofBranches (wrapped 1 (part :: part' :: rest))).toExpr? {} =
          some (.alternation ((numbered 1 (part :: part' :: rest)).map
            fun branch => branch.2.shift branch.1), {}) := by
        have hgroups := isGroup_numbered 1 (part :: part' :: rest)
        rw [ofBranches_wrapped, Tree.toExpr?, hexprs]
        exact congrArg (fun e => some (e, ({} : Modes))) (Expr.alt_groups hgroups)
      obtain ⟨rfl, -⟩ := Prod.mk.inj (Option.some.inj (halternation.symm.trans he))
      exact searchAt_alternation _ (by simp [numbered]) input offset

/-! ### The match of a spliced pattern -/

/-- The slots of the first pattern that matches, in its numbers. -/
def firstSlots (input : Text) (offset w : Nat) (parts : List Part) : Option (List (Nat × Nat)) :=
  (numbered w parts).findSome? fun branch =>
    (searchAt branch.2.program input offset).map (moveSlots (2 * branch.1))

/-- A rule is the first whose pattern matches alone, and its match has a span. -/
structure IsFirst (input : Text) (offset : Nat) (parts : List Part) (rule : Nat)
    (span : Nat × Nat) : Prop where
  matches_alone : ∃ part, parts[rule]? = some part ∧
    matchAlone? part.source input offset = some span
  none_before : ∀ part ∈ parts.take rule, matchAlone? part.source input offset = none

variable {input : Text} {offset : Nat}

/-- The first pattern is the first that matches if it matches. -/
theorem IsFirst.zero {part : Part} {rest : List Part} {span : Nat × Nat}
    (h : IsFirst input offset (part :: rest) 0 span) :
    matchAlone? part.source input offset = some span := by
  obtain ⟨⟨part', hpart, hspan⟩, -⟩ := h
  obtain rfl := Option.some.inj hpart
  exact hspan

/-- A later one is the first if the first pattern does not match and it is the first of the others.
-/
theorem IsFirst.succ {part : Part} {rest : List Part} {rule : Nat} {span : Nat × Nat}
    (h : IsFirst input offset (part :: rest) (rule + 1) span) :
    matchAlone? part.source input offset = none ∧ IsFirst input offset rest rule span := by
  obtain ⟨hspan, hbefore⟩ := h
  rw [List.take_succ_cons] at hbefore
  obtain ⟨hpart, hbefore⟩ := List.forall_mem_cons.mp hbefore
  exact ⟨hpart, hspan, hbefore⟩

/-- The slots are those of the first pattern, if it matches, or else those of the others. -/
theorem firstSlots_cons (w : Nat) (part : Part) (rest : List Part) :
    firstSlots input offset w (part :: rest) =
      ((searchAt (Expr.group 0 ((expr? {} part.source).getD .empty)).program input offset).map
        (moveSlots (2 * w))).or
          (firstSlots input offset (w + 1 + groupsWritten part.source) rest) := by
  rw [firstSlots, numbered, List.findSome?_cons]
  cases (searchAt (Expr.group 0 ((expr? {} part.source).getD .empty)).program input offset).map
    (moveSlots (2 * w)) <;> rfl

/-- Where the first pattern matches alone, its match fills the slots. -/
theorem firstSlots_of_some {part : Part} {span : Nat × Nat}
    (h : matchAlone? part.source input offset = some span) (w : Nat) (rest : List Part) :
    ∃ saved, firstSlots input offset w (part :: rest) = some (moveSlots (2 * w) saved) ∧
      groupSpan? saved 0 = some span := by
  obtain ⟨e, he, hmatch⟩ := Option.bind_eq_some_iff.mp h
  obtain ⟨saved, hsearch, hspan⟩ := Option.bind_eq_some_iff.mp hmatch
  refine ⟨saved, ?_, hspan⟩
  rw [firstSlots_cons, he, Option.getD_some, hsearch]
  rfl

/-- Where the first pattern does not match alone, the patterns behind it fill the slots. -/
theorem firstSlots_of_none (hoffset : input.isBoundary offset = true) {part : Part}
    (hpart : (expr? {} part.source).isSome) (h : matchAlone? part.source input offset = none)
    (w : Nat) (rest : List Part) :
    firstSlots input offset w (part :: rest) =
      firstSlots input offset (w + 1 + groupsWritten part.source) rest := by
  obtain ⟨e, he⟩ := Option.isSome_iff_exists.mp hpart
  rw [matchAlone?, he, Option.bind_some] at h
  rw [firstSlots_cons, he, Option.getD_some]
  cases hsearch : searchAt (Expr.group 0 e).program input offset with
  | none => rfl
  | some saved =>
      obtain ⟨span, hspan⟩ := searchAt_group hoffset hsearch
      rw [hsearch, Option.bind_some, hspan] at h
      exact absurd h (by simp)

/-- No slots are filled where no pattern matches alone. -/
theorem firstSlots_eq_none (hoffset : input.isBoundary offset = true) {parts : List Part}
    (h : ∀ part ∈ parts, (expr? {} part.source).isSome)
    (hnone : ∀ part ∈ parts, matchAlone? part.source input offset = none) (w : Nat) :
    firstSlots input offset w parts = none := by
  induction parts generalizing w with
  | nil => rfl
  | cons part rest ih =>
      obtain ⟨hpart, hrest⟩ := List.forall_mem_cons.mp h
      obtain ⟨hpartNone, hrestNone⟩ := List.forall_mem_cons.mp hnone
      rw [firstSlots_of_none hoffset hpart hpartNone, ih hrest hrestNone]

/-- The slots of the first pattern that matches alone are those of no group before its own. -/
theorem groupSpan?_firstSlots {parts : List Part} {w group : Nat} {saved : List (Nat × Nat)}
    (h : firstSlots input offset w parts = some saved) (hgroup : group < w) :
    groupSpan? saved group = none := by
  induction parts generalizing w with
  | nil => exact absurd h (by simp [firstSlots, numbered])
  | cons part rest ih =>
      rw [firstSlots_cons] at h
      rcases Option.or_eq_some_iff.mp h with hfirst | ⟨-, hrest⟩
      · obtain ⟨saved', -, rfl⟩ := Option.map_eq_some_iff.mp hfirst
        exact groupSpan?_moveSlots_of_lt saved' hgroup
      · exact ih hrest (by omega)

/-- All groups that are written in a pattern have been counted. -/
def Counted (part : Part) : Prop := part.groups = groupsWritten part.source

instance (part : Part) : Decidable (Counted part) :=
  inferInstanceAs (Decidable (part.groups = groupsWritten part.source))

/-- Where the groups of all patterns before have been counted, the first rule whose pattern matches
alone is reported. -/
theorem reported_of_counted (hoffset : input.isBoundary offset = true) {parts : List Part}
    (h : ∀ part ∈ parts, (expr? {} part.source).isSome) {k : Nat} {span : Nat × Nat}
    (hfirst : IsFirst input offset parts k span) (hcounted : ∀ part ∈ parts.take k, Counted part)
    (w rule : Nat) :
    ∃ saved, firstSlots input offset w parts = some saved ∧
      reported saved rule (groupNumbers w parts) = some ⟨rule + k, span.1, span.2⟩ := by
  induction parts generalizing k w rule with
  | nil =>
      obtain ⟨⟨part, hpart, -⟩, -⟩ := hfirst
      exact absurd hpart (by simp)
  | cons part rest ih =>
      obtain ⟨hpart, hrest⟩ := List.forall_mem_cons.mp h
      cases k with
      | zero =>
          obtain ⟨saved, hslots, hspan⟩ := firstSlots_of_some hfirst.zero w rest
          have hmoved := groupSpan?_moveSlots saved w 0
          rw [Nat.zero_add, hspan] at hmoved
          refine ⟨_, hslots, ?_⟩
          rw [groupNumbers, reported, hmoved]
          rfl
      | succ k =>
          rw [List.take_succ_cons] at hcounted
          obtain ⟨hcount, hcounted⟩ := List.forall_mem_cons.mp hcounted
          obtain ⟨hnone, hfirst⟩ := hfirst.succ
          obtain ⟨saved, hslots, hreported⟩ :=
            ih hrest hfirst hcounted (w + 1 + groupsWritten part.source) (rule + 1)
          have hskip := groupSpan?_firstSlots hslots (by omega : w < _)
          refine ⟨saved, by rw [firstSlots_of_none hoffset hpart hnone, hslots], ?_⟩
          rw [groupNumbers, reported, hskip, hcount]
          dsimp only
          rw [hreported, Nat.add_right_comm, Nat.add_assoc]

/-- Where groups of patterns before have not been counted, the group that is looked at stands
before that of the rule, and took no part in the match. -/
theorem groupSpan?_of_uncounted (hoffset : input.isBoundary offset = true) {parts : List Part}
    (h : ∀ part ∈ parts, (expr? {} part.source).isSome)
    (hle : ∀ part ∈ parts, part.groups ≤ groupsWritten part.source) {k : Nat} {span : Nat × Nat}
    (hfirst : IsFirst input offset parts k span) {v w : Nat} (hvw : v ≤ w)
    (huncounted : v < w ∨ ∃ part ∈ parts.take k, ¬ Counted part) {saved : List (Nat × Nat)}
    (hslots : firstSlots input offset w parts = some saved) {group : Nat}
    (hgroup : (groupNumbers v parts)[k]? = some group) : groupSpan? saved group = none := by
  induction parts generalizing k v w with
  | nil =>
      obtain ⟨⟨part, hpart, -⟩, -⟩ := hfirst
      exact absurd hpart (by simp)
  | cons part rest ih =>
      obtain ⟨hpart, hrest⟩ := List.forall_mem_cons.mp h
      obtain ⟨hlePart, hleRest⟩ := List.forall_mem_cons.mp hle
      cases k with
      | zero =>
          obtain rfl := Option.some.inj hgroup
          rcases huncounted with hlt | ⟨part', hmem, -⟩
          · exact groupSpan?_firstSlots hslots hlt
          · exact absurd hmem (by simp)
      | succ k =>
          obtain ⟨hnone, hfirst⟩ := hfirst.succ
          rw [firstSlots_of_none hoffset hpart hnone] at hslots
          refine ih hrest hleRest hfirst (by omega) ?_ hslots hgroup
          rcases huncounted with hlt | ⟨part', hmem, hpart'⟩
          · exact .inl (by omega)
          · rw [List.take_succ_cons] at hmem
            rcases List.mem_cons.mp hmem with rfl | hmem
            · exact .inl (by have := lt_of_le_of_ne hlePart hpart'; omega)
            · exact .inr ⟨part', hmem, hpart'⟩

/-- **The match of an alternation** is read off the slots of the first pattern that matches. -/
theorem matchAt_eq_firstSlots {parts : List Part} {first : Nat} {a : Alternation}
    (hbuild : build parts first = .ok a) (h : ∀ part ∈ parts, (expr? {} part.source).isSome)
    (hclosed : ∀ part ∈ parts.dropLast, isClosed part.source = true) (input : Text) (offset : Nat) :
    a.matchAt input offset = (firstSlots input offset 1 parts).bind fun saved =>
      reported saved first (groupNumbers 1 parts) := by
  obtain ⟨⟨e, he, hprogram⟩, hgroups, rfl⟩ := build_ok hbuild
  have hreads : ∀ part ∈ parts, ReadsAs part.source (treeAlone part.source) := by
    intro part hpart
    obtain ⟨e, he⟩ := Option.isSome_iff_exists.mp (h part hpart)
    obtain ⟨tree, -, hreads, -⟩ := exists_readsAs he
    exact hreads.treeAlone_eq.symm ▸ hreads
  rw [matchAt, hprogram, hgroups]
  cases parts with
  | nil =>
      rw [groupNumbers]
      cases searchAt e.program input offset <;> rfl
  | cons part rest =>
      obtain ⟨tree, modes, hparse, htree⟩ := expr?_eq_some_iff.mp he
      obtain rfl := parse?_spliced (by simp) hreads hclosed hparse
      rw [Tree.toExpr?] at htree
      obtain ⟨⟨e'', modes'⟩, hbranches, heq⟩ := Option.bind_eq_some_iff.mp htree
      obtain ⟨rfl, -⟩ := Prod.mk.inj (Option.some.inj heq)
      have hsearch : searchAt e''.program input offset = firstSlots input offset 1 (part :: rest) :=
        searchAt_ofBranches (by simp) h hbranches input offset
      rw [hsearch]
      cases firstSlots input offset 1 (part :: rest) <;> rfl

/-- A source that is accepted has an expression, whose groups are counted. -/
theorem innerGroups_source {pattern : Text} {groups : Nat}
    (h : (Pattern.source pattern).innerGroups = .ok groups) :
    ∃ e, expr? {} pattern = some e ∧ groups = e.maxGroup := by
  rw [Pattern.innerGroups] at h
  cases hregex : Regex.compile {} pattern with
  | error e => exact absurd h (by simp [hregex, Except.map])
  | ok regex =>
      rw [hregex] at h
      obtain rfl := Except.ok.inj h
      obtain ⟨e, he, rfl⟩ := compile_ok hregex
      exact ⟨e, he, rfl⟩

/-- **Splicing keeps what each pattern means**, where no pattern but the last ends in a comment: if
no pattern matches alone then nothing is reported, and the first rule whose pattern matches alone
is reported, with the span that the match has alone, exactly if all groups that are written in the
patterns before it have been counted. -/
theorem spliced_patterns_keep_meaning {parts : List Part} {first : Nat} {a : Alternation}
    (hparts : ∀ part ∈ parts, (Pattern.source part.source).innerGroups = .ok part.groups)
    (hbuild : build parts first = .ok a)
    (hclosed : ∀ part ∈ parts.dropLast, isClosed part.source = true)
    (input : Text) (offset : Nat) (hoffset : input.isBoundary offset = true) :
    (∀ k span, IsFirst input offset parts k span →
      (a.matchAt input offset = some ⟨first + k, span.1, span.2⟩ ↔
        ∀ part ∈ parts.take k, Counted part)) ∧
    ((∀ part ∈ parts, matchAlone? part.source input offset = none) →
      a.matchAt input offset = none) := by
  have hexprs : ∀ part ∈ parts, (expr? {} part.source).isSome := by
    intro part hpart
    obtain ⟨e, he, -⟩ := innerGroups_source (hparts part hpart)
    exact Option.isSome_iff_exists.mpr ⟨e, he⟩
  have hle : ∀ part ∈ parts, part.groups ≤ groupsWritten part.source := by
    intro part hpart
    obtain ⟨e, he, hgroups⟩ := innerGroups_source (hparts part hpart)
    exact hgroups ▸ maxGroup_le_groupsWritten he
  rw [matchAt_eq_firstSlots hbuild hexprs hclosed]
  refine ⟨fun k span hfirst => ⟨fun hmatch => ?_, fun hcounted => ?_⟩, fun hnone => ?_⟩
  · intro part hpart
    by_contra huncounted
    obtain ⟨saved, hslots, hreported⟩ := Option.bind_eq_some_iff.mp hmatch
    obtain ⟨i, group, hgroup, hrule, hspan⟩ := reported_some hreported
    obtain rfl : k = i := Nat.add_left_cancel hrule
    have hnone := groupSpan?_of_uncounted hoffset hexprs hle hfirst (Nat.le_refl 1)
      (.inr ⟨part, hpart, huncounted⟩) hslots hgroup
    exact absurd (hnone.symm.trans hspan) (by simp)
  · obtain ⟨saved, hslots, hreported⟩ :=
      reported_of_counted hoffset hexprs hfirst hcounted 1 first
    rw [hslots, Option.bind_some, hreported]
  · rw [firstSlots_eq_none hoffset hexprs hnone, Option.bind_none]

/-- Patterns with a flag, an alternation and a group, with blanks and a comment, and with
neither. -/
def mixed : List Part :=
  [⟨"(b)|(?i)d".toList, 1⟩, ⟨"(?x) a (?:b|(c)) # (\n".toList, 1⟩, ⟨"AC".toList, 0⟩]

/-- Of these the third is reported where it matches and the others do not. -/
theorem spliced_patterns_keep_meaning_mixed :
    ∃ a, build mixed 0 = .ok a ∧ a.matchAt ['A', 'C'] 0 = some ⟨2, 0, 2⟩ ∧
      a.matchAt ['a', 'C'] 0 = none := by
  have hbuilt : (build mixed 0).toOption.isSome = true := by decide +kernel
  cases hbuild : build mixed 0 with
  | error e => exact absurd hbuilt (by simp [hbuild, Except.toOption])
  | ok a =>
      have hparts : ∀ part ∈ mixed, (Pattern.source part.source).innerGroups = .ok part.groups := by
        decide +kernel
      have hclosed : ∀ part ∈ mixed.dropLast, isClosed part.source = true := by decide +kernel
      have hfirst : IsFirst ['A', 'C'] 0 mixed 2 (0, 2) :=
        ⟨⟨_, rfl, by decide +kernel⟩, by decide +kernel⟩
      refine ⟨a, rfl, ?_, ?_⟩
      · exact ((spliced_patterns_keep_meaning hparts hbuild hclosed ['A', 'C'] 0 rfl).1 2 (0, 2)
          hfirst).mpr (by decide +kernel)
      · exact (spliced_patterns_keep_meaning hparts hbuild hclosed ['a', 'C'] 0 rfl).2
          (by decide +kernel)

/-- A pattern whose last group is written but not counted, and two patterns behind it. -/
def uncounted : List Part :=
  [⟨"((x)\x7b0\x7dy)".toList, 1⟩, ⟨['z'], 0⟩, ⟨['w'], 0⟩]

/-- A pattern that ends in a comment, and one that has a line to end it. -/
def unclosed : List Part :=
  [⟨"(?x)a#".toList, 0⟩, ⟨['b', '\n'], 0⟩]

/-- Neither condition can be left out: with a group that is not counted another rule is reported,
and with a comment that is not closed the rule behind it is not reported. -/
theorem spliced_patterns_lose_meaning :
    ((∀ part ∈ uncounted, (Pattern.source part.source).innerGroups = .ok part.groups) ∧
      IsFirst ['z'] 0 uncounted 1 (0, 1) ∧
      (build uncounted 0).toOption.map (·.matchAt ['z'] 0) = some (some ⟨2, 0, 1⟩)) ∧
    ((∀ part ∈ unclosed, (Pattern.source part.source).innerGroups = .ok part.groups) ∧
      IsFirst ['b', '\n'] 0 unclosed 1 (0, 2) ∧
      (build unclosed 0).toOption.map (·.matchAt ['b', '\n'] 0) = some none) := by
  refine ⟨⟨by decide +kernel, ⟨⟨_, rfl, ?_⟩, ?_⟩, by decide +kernel⟩,
    ⟨by decide +kernel, ⟨⟨_, rfl, ?_⟩, ?_⟩, by decide +kernel⟩⟩
  all_goals decide +kernel

end Alternation

end ModalLex
