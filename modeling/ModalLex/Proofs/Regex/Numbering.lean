import ModalLex.Proofs.Regex.Branches

/-!
# Numbering Groups from Left to Right

The groups of a tree that capture are listed in the order in which they open, an outer group before
the groups inside. To **number them from left to right** is to give them the numbers from some
number on in this order. Such a numbering depends on the shape of the tree alone, and a tree whose
groups already have these numbers in this order is its own numbering.

A reader numbers the groups that it reads in just this way: where it stands behind some groups, the
groups that it reads next have the next numbers, in the order in which their parentheses open.

## Main results

* `Tree.captures_numbered`: the groups of a numbered tree have consecutive numbers.
* `Tree.shift_eq_numbered`: renumbering by a constant is numbering from a later number on.
* `captures_readBranches`: **a reader numbers groups from left to right.**
-/

namespace ModalLex.Regex

namespace Tree

mutual

/-- The numbers of the groups that capture, in the order in which they open. -/
def captures : Tree → List Nat
  | .repetition _ _ _ body => body.captures
  | .group index _ body => index.toList ++ body.captures
  | .alternation branches => capturesList branches
  | .concat items => capturesList items
  | _ => []

/-- The numbers of the groups of some trees that stand side by side. -/
def capturesList : List Tree → List Nat
  | [] => []
  | tree :: rest => tree.captures ++ capturesList rest

end

mutual

/-- A tree with its groups numbered from left to right, from `next` on. -/
def numbered (next : Nat) : Tree → Tree
  | .repetition lo hi greedy body => .repetition lo hi greedy (body.numbered next)
  | .group none change body => .group none change (body.numbered next)
  | .group (some _) change body => .group (some next) change (body.numbered (next + 1))
  | .alternation branches => .alternation (numberedList next branches)
  | .concat items => .concat (numberedList next items)
  | tree => tree

/-- Some trees that stand side by side, numbered from left to right. -/
def numberedList (next : Nat) : List Tree → List Tree
  | [] => []
  | tree :: rest => tree.numbered next :: numberedList (next + tree.captures.length) rest

end

/-! ### Numbers in order -/

/-- Numbering loses no tree. -/
theorem length_numberedList (next : Nat) (trees : List Tree) :
    (numberedList next trees).length = trees.length := by
  induction trees generalizing next with
  | nil => rfl
  | cons tree rest ih => rw [numberedList, List.length_cons, ih, List.length_cons]

mutual

/-- **The groups of a numbered tree have consecutive numbers.** -/
theorem captures_numbered : (tree : Tree) → (next : Nat) →
    (tree.numbered next).captures = List.range' next tree.captures.length
  | .empty, _ | .flags _, _ | .literal _, _ | .dot, _ | .assertion _, _ | .shorthand _ _, _
  | .property _ _, _ | .bracketed _ _, _ => rfl
  | .repetition _ _ _ body, next => captures_numbered body next
  | .group none _ body, next => captures_numbered body next
  | .group (some _) _ body, next => by
      rw [numbered, captures, captures_numbered body (next + 1)]
      rfl
  | .alternation branches, next => captures_numberedList branches next
  | .concat items, next => captures_numberedList items next

/-- The groups of numbered trees have the numbers from the next one on, in the order in which they
open. -/
theorem captures_numberedList : (trees : List Tree) → (next : Nat) →
    capturesList (numberedList next trees) = List.range' next (capturesList trees).length
  | [], _ => rfl
  | tree :: rest, next => by
      rw [numberedList, capturesList, captures_numbered tree, captures_numberedList rest,
        List.range'_append_1, capturesList, List.length_append]

end

mutual

/-- A tree whose groups have consecutive numbers is its own numbering. -/
theorem numbered_eq_self : {tree : Tree} → {next : Nat} →
    tree.captures = List.range' next tree.captures.length → tree.numbered next = tree
  | .empty, _, _ | .flags _, _, _ | .literal _, _, _ | .dot, _, _ | .assertion _, _, _
  | .shorthand _ _, _, _ | .property _ _, _, _ | .bracketed _ _, _, _ => rfl
  | .repetition _ _ _ body, next, h => by
      have hbody : body.captures = List.range' next body.captures.length := h
      rw [numbered, numbered_eq_self hbody]
  | .group none _ body, next, h => by
      have hbody : body.captures = List.range' next body.captures.length := h
      rw [numbered, numbered_eq_self hbody]
  | .group (some _) _ body, _, h => by
      obtain ⟨rfl, hbody⟩ := List.cons.inj h
      rw [numbered, numbered_eq_self hbody]
  | .alternation branches, next, h => by
      have hbranches : capturesList branches =
        List.range' next (capturesList branches).length := h
      rw [numbered, numberedList_eq_self hbranches]
  | .concat items, next, h => by
      have hitems : capturesList items = List.range' next (capturesList items).length := h
      rw [numbered, numberedList_eq_self hitems]

/-- **Trees that have these numbers already are numbered as they are.** -/
theorem numberedList_eq_self : {trees : List Tree} → {next : Nat} →
    capturesList trees = List.range' next (capturesList trees).length →
      numberedList next trees = trees
  | [], _, _ => rfl
  | tree :: rest, next, h => by
      rw [capturesList, List.length_append, ← List.range'_append_1] at h
      obtain ⟨htree, hrest⟩ := List.append_inj h (by simp)
      rw [numberedList, numbered_eq_self htree, numberedList_eq_self hrest]

end

/-! ### Renumbering by a constant -/

mutual

/-- Renumbering a numbered tree by a constant numbers it from a later number on. -/
theorem numbered_shift (w : Nat) : (tree : Tree) → (next : Nat) →
    (tree.numbered next).shift w = tree.numbered (next + w)
  | .empty, _ | .flags _, _ | .literal _, _ | .dot, _ | .assertion _, _ | .shorthand _ _, _
  | .property _ _, _ | .bracketed _ _, _ => rfl
  | .repetition _ _ _ body, next => by rw [numbered, shift, numbered_shift w body, numbered]
  | .group none _ body, next => by
      rw [numbered, shift, numbered_shift w body, numbered, Option.map_none]
  | .group (some _) _ body, next => by
      rw [numbered, shift, numbered_shift w body, numbered, Option.map_some, Nat.add_right_comm]
  | .alternation branches, next => by
      rw [numbered, shift, numberedList_shift w branches, numbered]
  | .concat items, next => by rw [numbered, shift, numberedList_shift w items, numbered]

/-- Numbering from a later number on is numbering and raising all numbers. -/
theorem numberedList_shift (w : Nat) : (trees : List Tree) → (next : Nat) →
    shiftList w (numberedList next trees) = numberedList (next + w) trees
  | [], _ => rfl
  | tree :: rest, next => by
      rw [numberedList, shiftList, numbered_shift w tree, numberedList_shift w rest, numberedList,
        Nat.add_right_comm]

end

/-- **Renumbering by a constant** is numbering from a later number on. -/
theorem shift_eq_numbered {tree : Tree} {next : Nat}
    (h : tree.captures = List.range' next tree.captures.length) (w : Nat) :
    tree.shift w = tree.numbered (next + w) := by
  rw [← numbered_shift, numbered_eq_self h]

mutual

/-- Renumbering raises the number of each group, in the same order. -/
theorem captures_shift (w : Nat) : (tree : Tree) →
    (tree.shift w).captures = tree.captures.map (· + w)
  | .empty | .flags _ | .literal _ | .dot | .assertion _ | .shorthand _ _ | .property _ _
  | .bracketed _ _ => rfl
  | .repetition _ _ _ body => captures_shift w body
  | .group index _ body => by
      rw [shift, captures, captures, captures_shift w body, List.map_append]
      cases index <;> rfl
  | .alternation branches => capturesList_shift w branches
  | .concat items => capturesList_shift w items

/-- So it does in a list of trees. -/
theorem capturesList_shift (w : Nat) : (trees : List Tree) →
    capturesList (shiftList w trees) = (capturesList trees).map (· + w)
  | [] => rfl
  | tree :: rest => by
      rw [shiftList, capturesList, capturesList, captures_shift w tree, capturesList_shift w rest,
        List.map_append]

end

/-- A tree that renumbering does not change has no groups. -/
theorem captures_eq_nil {tree : Tree} (h : tree.shift 1 = tree) : tree.captures = [] := by
  have hmap := captures_shift 1 tree
  rw [h] at hmap
  cases hcaptures : tree.captures with
  | nil => rfl
  | cons index rest =>
      rw [hcaptures] at hmap
      have hindex : index = index + 1 := (List.cons.inj hmap).1
      omega

/-! ### Items and branches -/

/-- The groups of two lists are those of the one and then those of the other. -/
theorem capturesList_append (trees more : List Tree) :
    capturesList (trees ++ more) = capturesList trees ++ capturesList more := by
  induction trees with
  | nil => rfl
  | cons tree rest ih => rw [List.cons_append, capturesList, capturesList, ih, List.append_assoc]

/-- A single tree is a list of one. -/
theorem capturesList_singleton (tree : Tree) : capturesList [tree] = tree.captures :=
  List.append_nil _

/-- Items that are put side by side have the groups that they have one by one. -/
theorem captures_ofItems (items : List Tree) : (ofItems items).captures = capturesList items := by
  match items with
  | [] => rfl
  | [tree] => exact (capturesList_singleton tree).symm
  | _ :: _ :: _ => rfl

/-- So have branches that are put together. -/
theorem captures_ofBranches (branches : List Tree) :
    (ofBranches branches).captures = capturesList branches := by
  match branches with
  | [] => rfl
  | [tree] => exact (capturesList_singleton tree).symm
  | _ :: _ :: _ => rfl

end Tree

open ModalLex.Regex.Tree

/-! ### Reading -/

/-- The groups of some branches of which the last is not finished: those of the branches before, and
then those of its items. -/
theorem captures_branchTree (items branches : List Tree) :
    (branchTree items branches).captures =
      capturesList branches.reverse ++ capturesList items.reverse := by
  rw [branchTree, captures_ofBranches, List.reverse_cons, capturesList_append,
    capturesList_singleton, captures_ofItems]

/-- One more item has its groups behind all others. -/
theorem captures_branchTree_cons (item : Tree) (items branches : List Tree) :
    (branchTree (item :: items) branches).captures =
      (branchTree items branches).captures ++ item.captures := by
  rw [captures_branchTree, captures_branchTree, List.reverse_cons, capturesList_append,
    capturesList_singleton, List.append_assoc]

/-- A finished branch keeps its groups. -/
theorem captures_branchTree_bar (items branches : List Tree) :
    (branchTree [] (ofItems items.reverse :: branches)).captures =
      (branchTree items branches).captures := by
  rw [captures_branchTree, captures_branchTree, List.reverse_cons, capturesList_append,
    capturesList_singleton, captures_ofItems]
  exact List.append_nil _

/-- What a step puts among the items has no groups of its own. -/
theorem captures_put {part : Simple} (hplain : part.Plain) {items items' : List Tree}
    (hput : part.put items = some items') (branches : List Tree) :
    (branchTree items' branches).captures = (branchTree items branches).captures := by
  cases part with
  | single tree =>
      obtain rfl := Option.some.inj hput
      rw [captures_branchTree_cons, captures_eq_nil (hplain 1), List.append_nil]
  | again lo hi greedy =>
      cases items with
      | nil => exact absurd hput (by simp [Simple.put, repeatLast])
      | cons last items =>
          obtain ⟨-, heq⟩ := Option.ite_none_right_eq_some.mp hput
          obtain rfl := Option.some.inj heq
          rw [captures_branchTree_cons, captures_branchTree_cons, captures]

/-- **A reader numbers groups from left to right**: behind the groups that have been read, those
that are read next have the next numbers. -/
theorem captures_readBranches {fuel : Nat} {items branches : List Tree} {place place' : Place}
    {tree : Tree} (hread : readBranches false fuel items branches place = some (tree, place')) :
    ∃ count, place'.groups = place.groups + count ∧
      tree.captures = (branchTree items branches).captures ++
        List.range' (place.groups + 1) count := by
  induction fuel generalizing items branches place tree place' with
  | zero => exact absurd hread (by simp [readBranches])
  | succ fuel ih =>
      -- A group that has the next number or none, its content, and what stands behind it.
      have hcontent : ∀ (opened : Nat) {inner : Place} {index : Option Nat}
          {change : FlagChange} {verbose : Bool},
          ((readBranches false fuel [] [] inner).bind fun q =>
            closeGroup fuel (.group index change q.1 :: items) branches verbose q.2) =
              some (tree, place') →
          inner.groups = place.groups + opened →
          index.toList = List.range' (place.groups + 1) opened →
          ∃ count, place'.groups = place.groups + count ∧
            tree.captures = (branchTree items branches).captures ++
              List.range' (place.groups + 1) count := by
        intro opened inner index change verbose hgroup hinner hindex
        obtain ⟨⟨body, behind⟩, hbody, hclose⟩ := Option.bind_eq_some_iff.mp hgroup
        obtain ⟨inside, hinside, hcaptures⟩ := ih hbody
        rw [closeGroup] at hclose
        split at hclose
        · exact absurd hclose (by simp)
        · obtain ⟨more, hmore, htree⟩ := ih hclose
          dsimp only at hmore htree
          have hstart : inner.groups + 1 = place.groups + 1 + opened := by omega
          have hstop : behind.groups + 1 = place.groups + 1 + (opened + inside) := by omega
          have hbody : body.captures = List.range' (place.groups + 1 + opened) inside :=
            hstart ▸ hcaptures
          refine ⟨opened + inside + more, by omega, ?_⟩
          rw [htree, captures_branchTree_cons, captures, hindex, hbody, hstop, List.append_assoc,
            List.range'_append_1, List.range'_append_1]
      rw [readBranches_step] at hread
      repeat' split at hread
      · obtain ⟨rfl, rfl⟩ := Prod.mk.inj (Option.some.inj hread)
        exact ⟨0, rfl, (List.append_nil _).symm⟩
      · obtain ⟨rfl, rfl⟩ := Prod.mk.inj (Option.some.inj hread)
        exact ⟨0, rfl, (List.append_nil _).symm⟩
      · obtain ⟨count, hgroups, htree⟩ := ih hread
        rw [captures_branchTree_bar] at htree
        exact ⟨count, hgroups, htree⟩
      · obtain ⟨⟨opening, rest⟩, -, hgroup⟩ := Option.bind_eq_some_iff.mp hread
        cases opening with
        | switch change =>
            obtain ⟨count, hgroups, htree⟩ := ih hgroup
            have hflags : (Tree.flags change).captures = [] := rfl
            rw [captures_branchTree_cons, hflags, List.append_nil] at htree
            exact ⟨count, hgroups, htree⟩
        | scope change => exact hcontent 0 hgroup rfl rfl
        | capture name =>
            rw [readGroup] at hgroup
            obtain ⟨-, hgroup⟩ := Option.ite_none_left_eq_some.mp hgroup
            exact hcontent 1 hgroup rfl rfl
      · obtain ⟨⟨part, rest⟩, hpart, hput⟩ := Option.bind_eq_some_iff.mp hread
        obtain ⟨items', hput, hread'⟩ := Option.bind_eq_some_iff.mp hput
        obtain ⟨count, hgroups, htree⟩ := ih hread'
        rw [captures_put (readSimple_plain hpart) hput] at htree
        exact ⟨count, hgroups, htree⟩

end ModalLex.Regex
