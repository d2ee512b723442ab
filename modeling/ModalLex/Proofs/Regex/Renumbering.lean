import ModalLex.Proofs.Regex.Relocation
import ModalLex.Regex.Meaning
import ModalLex.Regex.Parser

/-!
# Renumbering Groups

What a pattern means does not depend on the numbers of its groups: adding a constant to all of
them (`Tree.shift`) adds the same constant in the expression. No smart constructor looks at the
number of a group, except to compare two expressions, and two expressions that are renumbered by
the same constant are the same exactly when they were before.

## Main results

* `Expr.alt_shift`, `Expr.seq_shift`, `Expr.rep_shift`: the smart constructors commute with
  renumbering.
* `Tree.toExpr?_shift`: **renumbering a tree renumbers its expression.**
-/

namespace ModalLex.Regex

namespace Expr

mutual

/-- Two expressions that are renumbered by the same number are the same if they were before. -/
theorem same_shift (w : Nat) : (a b : Expr) → same (a.shift w) (b.shift w) = same a b
  | .empty, b => by cases b <;> rfl
  | .text _, b => by cases b <;> rfl
  | .set _, b => by cases b <;> rfl
  | .look _, b => by cases b <;> rfl
  | .group i a, b => by
      cases b with
      | group j b =>
          simp only [shift, same, same_shift w a b, Nat.add_right_cancel_iff]
      | _ => rfl
  | .concat as, b => by
      cases b with
      | concat bs => simp only [shift, same, sameList_shift w as bs]
      | _ => rfl
  | .alternation as, b => by
      cases b with
      | alternation bs => simp only [shift, same, sameList_shift w as bs]
      | _ => rfl
  | .repetition lo hi greedy a, b => by
      cases b with
      | repetition lo' hi' greedy' b => simp only [shift, same, same_shift w a b]
      | _ => rfl

/-- The same holds of lists of expressions, compared one by one. -/
theorem sameList_shift (w : Nat) :
    (as bs : List Expr) → sameList (shiftList w as) (shiftList w bs) = sameList as bs
  | [], [] => rfl
  | [], _ :: _ => rfl
  | _ :: _, [] => rfl
  | a :: as, b :: bs => by
      simp only [shiftList, sameList, same_shift w a b, sameList_shift w as bs]

end

mutual

/-- An expression keeps its size. -/
theorem nodes_shift (w : Nat) : (e : Expr) → (e.shift w).nodes = e.nodes
  | .empty | .text _ | .set _ | .look _ => rfl
  | .group _ body => by simp only [shift, nodes, nodes_shift w body]
  | .concat items => by simp only [shift, nodes, nodesList_shift w items]
  | .alternation branches => by simp only [shift, nodes, nodesList_shift w branches]
  | .repetition _ _ _ body => by simp only [shift, nodes, nodes_shift w body]

/-- Expressions that are renumbered keep their sizes. -/
theorem nodesList_shift (w : Nat) :
    (items : List Expr) → nodesList (shiftList w items) = nodesList items
  | [] => rfl
  | e :: rest => by simp only [shiftList, nodesList, nodes_shift w e, nodesList_shift w rest]

end

mutual

/-- Whether an expression can only match the empty text is not a matter of numbers. -/
theorem matchesOnlyEmpty_shift (w : Nat) :
    (e : Expr) → (e.shift w).matchesOnlyEmpty = e.matchesOnlyEmpty
  | .empty | .text _ | .set _ | .look _ => rfl
  | .group _ body => by simp only [shift, matchesOnlyEmpty, matchesOnlyEmpty_shift w body]
  | .concat items => by simp only [shift, matchesOnlyEmpty, allMatchOnlyEmpty_shift w items]
  | .alternation branches => by
      simp only [shift, matchesOnlyEmpty, allMatchOnlyEmpty_shift w branches]
  | .repetition _ _ _ body => by simp only [shift, matchesOnlyEmpty, matchesOnlyEmpty_shift w body]

/-- The same holds of each expression of a list. -/
theorem allMatchOnlyEmpty_shift (w : Nat) :
    (items : List Expr) → allMatchOnlyEmpty (shiftList w items) = allMatchOnlyEmpty items
  | [] => rfl
  | e :: rest => by
      simp only [shiftList, allMatchOnlyEmpty, matchesOnlyEmpty_shift w e,
        allMatchOnlyEmpty_shift w rest]

end

/-! ### Smart constructors -/

/-- The expression of a set has no groups. -/
theorem ofSet_shift (w : Nat) (s : CharSet) : (ofSet s).shift w = ofSet s := by
  unfold ofSet
  split <;> rfl

/-- The parts that an expression gives to a sequence are renumbered one by one. -/
theorem parts_shift (w : Nat) (e : Expr) : (e.shift w).parts = e.parts.map (shift w) := by
  cases e with
  | concat items => exact shiftList_eq_map w items
  | _ => rfl

/-- The branches that an expression gives to an alternation are renumbered one by one. -/
theorem choices_shift (w : Nat) (e : Expr) : (e.shift w).choices = e.choices.map (shift w) := by
  cases e with
  | alternation branches => exact shiftList_eq_map w branches
  | _ => rfl

/-- A function into lists that commutes with renumbering does so on every item of a list. -/
theorem flatMap_shift {f : Expr → List Expr} (w : Nat)
    (h : ∀ e : Expr, f (e.shift w) = (f e).map (shift w)) (items : List Expr) :
    (items.map (shift w)).flatMap f = (items.flatMap f).map (shift w) := by
  rw [List.flatMap_map, List.map_flatMap]
  congr 1
  funext e
  exact h e

/-- Texts are joined whatever the numbers of the groups between them are. -/
theorem joinTexts_shift (w : Nat) (items : List Expr) :
    joinTexts (items.map (shift w)) = (joinTexts items).map (shift w) := by
  induction items with
  | nil => rfl
  | cons e rest ih =>
      rw [List.map_cons]
      unfold joinTexts
      rw [ih]
      cases e with
      | text a =>
          cases joinTexts rest with
          | nil => rfl
          | cons e' joined => cases e' <;> rfl
      | _ => rfl

/-- **A sequence of renumbered expressions is the sequence, renumbered.** -/
theorem seq_shift (w : Nat) (items : List Expr) :
    seq (items.map (shift w)) = (seq items).shift w := by
  unfold seq
  rw [flatMap_shift w (parts_shift w), joinTexts_shift]
  cases joinTexts (items.flatMap parts) with
  | nil => rfl
  | cons e rest =>
      cases rest with
      | nil => rfl
      | cons e' rest =>
          dsimp only [List.map_cons]
          rw [shift, shiftList_eq_map]
          rfl

/-- A single character is no group, and so stays what it is. -/
theorem singleChar?_shift (w : Nat) (e : Expr) : (e.shift w).singleChar? = e.singleChar? := by
  cases e <;> rfl

/-- The set of an expression that matches one character does not depend on numbers. -/
theorem charSet?_shift (w : Nat) (e : Expr) : (e.shift w).charSet? = e.charSet? := by
  cases e <;> rfl

/-- What a concatenation is made of is renumbered part by part. -/
theorem concatParts?_shift (w : Nat) (e : Expr) :
    (e.shift w).concatParts? = e.concatParts?.map (List.map (shift w)) := by
  cases e with
  | concat items => exact congrArg some (shiftList_eq_map w items)
  | _ => rfl

/-- Asking each of some renumbered expressions. -/
theorem mapM_shift {α : Type} {f : Expr → Option α} (g : α → α) (w : Nat)
    (h : ∀ e : Expr, f (e.shift w) = (f e).map g) (items : List Expr) :
    (items.map (shift w)).mapM f = (items.mapM f).map (List.map g) := by
  induction items with
  | nil => rfl
  | cons e rest ih =>
      rw [List.map_cons, List.mapM_cons, List.mapM_cons, h, ih]
      cases f e with
      | none => rfl
      | some a =>
          cases rest.mapM f <;> rfl

/-- A question that no renumbering changes the answer to can be asked before or after it. -/
theorem mapM_shift_of_eq {α : Type} {f : Expr → Option α} (w : Nat)
    (h : ∀ e : Expr, f (e.shift w) = f e) (items : List Expr) :
    (items.map (shift w)).mapM f = items.mapM f := by
  have hid : ∀ e : Expr, f (e.shift w) = (f e).map id := fun e => by rw [h, Option.map_id, id]
  have hmap := mapM_shift id w hid items
  rwa [List.map_id_fun, Option.map_id, id] at hmap

/-- Two sequences share as many parts as before, since both are renumbered alike. -/
theorem sharedLength_shift (w : Nat) (as bs : List Expr) :
    sharedLength (as.map (shift w)) (bs.map (shift w)) = sharedLength as bs := by
  induction as generalizing bs with
  | nil => rfl
  | cons a as ih =>
      cases bs with
      | nil => rfl
      | cons b bs =>
          rw [List.map_cons, List.map_cons, sharedLength, sharedLength, same_shift, ih]

/-- So do any number of sequences. -/
theorem sharedByAll_shift (w : Nat) (lists : List (List Expr)) :
    sharedByAll (lists.map (List.map (shift w))) = sharedByAll lists := by
  cases lists with
  | nil => rfl
  | cons first rest =>
      simp only [List.map_cons, sharedByAll, List.foldl_map, List.length_map, sharedLength_shift]

/-- Factoring an alternation commutes with renumbering, whatever the allowance. The induction is on
the allowance; the cases are those of the factoring: a set, a shared prefix, or neither. -/
theorem altWithin_shift (w : Nat) (fuel : Nat) (branches : List Expr) :
    altWithin fuel (branches.map (shift w)) = (altWithin fuel branches).shift w := by
  induction fuel generalizing branches with
  | zero =>
      rw [altWithin, altWithin, shift, shiftList_eq_map]
  | succ fuel ih =>
      unfold altWithin
      rw [flatMap_shift w (choices_shift w)]
      generalize branches.flatMap choices = branches
      match branches with
      | [] => rfl
      | [e] => rfl
      | e :: e' :: rest =>
          have hchars := mapM_shift_of_eq w (singleChar?_shift w) (e :: e' :: rest)
          have hsets := mapM_shift_of_eq w (charSet?_shift w) (e :: e' :: rest)
          have hlists := mapM_shift _ w (concatParts?_shift w) (e :: e' :: rest)
          rw [List.map_cons, List.map_cons] at hchars hsets hlists ⊢
          dsimp only
          rw [hchars, hsets, hlists]
          have halternation : Expr.alternation (e.shift w :: e'.shift w :: rest.map (shift w)) =
              (Expr.alternation (e :: e' :: rest)).shift w := by
            rw [shift, shiftList_eq_map, List.map_cons, List.map_cons]
          cases (e :: e' :: rest).mapM singleChar? with
          | some chars => exact (ofSet_shift w _).symm
          | none =>
              cases (e :: e' :: rest).mapM charSet? with
              | some sets => exact (ofSet_shift w _).symm
              | none =>
                  cases (e :: e' :: rest).mapM concatParts? with
                  | none => exact halternation
                  | some lists =>
                      dsimp only [Option.map_some]
                      rw [sharedByAll_shift]
                      cases sharedByAll lists with
                      | zero => exact halternation
                      | succ n =>
                          dsimp only
                          have hhead : (lists.map (List.map (shift w))).headD [] =
                              (lists.headD []).map (shift w) := by
                            cases lists <;> rfl
                          have htails : (lists.map (List.map (shift w))).map
                                (fun parts => seq (parts.drop (n + 1))) =
                              (lists.map fun parts => seq (parts.drop (n + 1))).map (shift w) := by
                            simp only [List.map_map, Function.comp_def, ← List.map_drop, seq_shift]
                          rw [hhead, htails, ih, ← List.map_take, ← seq_shift, List.map_append]
                          rfl

/-- **An alternation of renumbered branches is the alternation, renumbered.** -/
theorem alt_shift (w : Nat) (branches : List Expr) :
    alt (branches.map (shift w)) = (alt branches).shift w := by
  rw [alt, alt, ← shiftList_eq_map, nodesList_shift, shiftList_eq_map, altWithin_shift]

/-- **A repetition of a renumbered expression is the repetition, renumbered.** -/
theorem rep_shift (w lo : Nat) (hi : Option Nat) (greedy : Bool) (body : Expr) :
    rep lo hi greedy (body.shift w) = (rep lo hi greedy body).shift w := by
  unfold rep
  rw [matchesOnlyEmpty_shift]
  dsimp only
  split
  · rfl
  · rfl
  · rfl

end Expr

/-! ### Trees -/

namespace Tree

mutual

/-- A tree with its groups renumbered by a constant. -/
def shift (w : Nat) : Tree → Tree
  | .repetition lo hi greedy body => .repetition lo hi greedy (body.shift w)
  | .group index change body => .group (index.map (· + w)) change (body.shift w)
  | .alternation branches => .alternation (shiftList w branches)
  | .concat items => .concat (shiftList w items)
  | tree => tree

/-- Some trees with their groups renumbered by a constant. -/
def shiftList (w : Nat) : List Tree → List Tree
  | [] => []
  | tree :: rest => tree.shift w :: shiftList w rest

end

/-- Renumbering a list of trees is renumbering each of them. -/
theorem shiftList_eq_map (w : Nat) (items : List Tree) :
    shiftList w items = items.map (shift w) := by
  induction items with
  | nil => rfl
  | cons tree rest ih => rw [shiftList, ih, List.map_cons]

mutual

/-- Nothing changes if the numbers are raised by zero. -/
@[simp] theorem shift_zero : (tree : Tree) → tree.shift 0 = tree
  | .empty | .flags _ | .literal _ | .dot | .assertion _ | .shorthand _ _ | .property _ _
  | .bracketed _ _ => rfl
  | .repetition _ _ _ body => by rw [shift, shift_zero body]
  | .group index _ body => by
      rw [shift, shift_zero body]
      cases index <;> rfl
  | .alternation branches => by rw [shift, shiftList_zero branches]
  | .concat items => by rw [shift, shiftList_zero items]

/-- The same holds of every tree of a list. -/
theorem shiftList_zero : (items : List Tree) → shiftList 0 items = items
  | [] => rfl
  | tree :: rest => by rw [shiftList, shift_zero tree, shiftList_zero rest]

end

/-- Putting items side by side commutes with renumbering. -/
theorem ofItems_shift (w : Nat) (items : List Tree) :
    ofItems (items.map (shift w)) = (ofItems items).shift w := by
  match items with
  | [] => rfl
  | [_] => rfl
  | a :: b :: rest => exact congrArg Tree.concat (shiftList_eq_map w (a :: b :: rest)).symm

/-- So does putting branches together. -/
theorem ofBranches_shift (w : Nat) (branches : List Tree) :
    ofBranches (branches.map (shift w)) = (ofBranches branches).shift w := by
  match branches with
  | [] => rfl
  | [_] => rfl
  | a :: b :: rest => exact congrArg Tree.alternation (shiftList_eq_map w (a :: b :: rest)).symm

/-- Whether a tree can be repeated does not depend on its numbers. -/
theorem isRepeatable_shift (w : Nat) (tree : Tree) :
    (tree.shift w).isRepeatable = tree.isRepeatable := by
  cases tree <;> rfl

/-- The expression of a character has no groups. -/
theorem charExpr_shift (w : Nat) (modes : Modes) (c : Char) :
    (modes.charExpr c).shift w = modes.charExpr c := by
  rw [Modes.charExpr]
  split
  · exact Expr.ofSet_shift w _
  · rfl

/-- A renumbered expression of a leaf is the same. -/
theorem leaf_shift {α : Type} (w : Nat) (modes : Modes) (meaning : Option α) {expr : α → Expr}
    (h : ∀ a, (expr a).shift w = expr a) :
    meaning.map (fun a => (expr a, modes)) =
      (meaning.map fun a => (expr a, modes)).map fun r => (r.1.shift w, r.2) := by
  cases meaning with
  | none => rfl
  | some a => exact congrArg some (congrArg (·, modes) (h a).symm)

mutual

/-- **Renumbering a tree renumbers its expression.** -/
theorem toExpr?_shift (w : Nat) : (tree : Tree) → (modes : Modes) →
    (tree.shift w).toExpr? modes = (tree.toExpr? modes).map fun r => (r.1.shift w, r.2)
  | .empty, _ | .flags _, _ | .assertion _, _ => rfl
  | .literal _, modes => leaf_shift w modes _ (charExpr_shift w modes)
  | .dot, modes => by
      simp only [shift, toExpr?, Modes.dotExpr]
      split
      · rfl
      · exact congrArg some (congrArg (·, modes) (Expr.ofSet_shift w _).symm)
  | .shorthand _ _, modes => leaf_shift w modes _ (Expr.ofSet_shift w)
  | .property _ _, modes => leaf_shift w modes _ (Expr.ofSet_shift w)
  | .bracketed negated body, modes => by
      simp only [shift, toExpr?]
      cases body.toSet? modes with
      | none => rfl
      | some s =>
          simp only [Option.bind_eq_bind, Option.bind_some]
          cases modes.guardSet (modes.finish negated s) with
          | none => rfl
          | some s => exact congrArg some (congrArg (·, modes) (Expr.ofSet_shift w s).symm)
  | .repetition lo hi greedy body, modes => by
      rw [shift, toExpr?, toExpr?, toExpr?_shift w body modes]
      cases body.toExpr? modes with
      | none => rfl
      | some r => exact congrArg some (congrArg (·, r.2) (Expr.rep_shift w lo hi _ r.1))
  | .group index change body, modes => by
      rw [shift, toExpr?, toExpr?, toExpr?_shift w body _]
      cases body.toExpr? (modes.apply change) with
      | none => rfl
      | some r => cases index <;> rfl
  | .alternation branches, modes => by
      rw [shift, toExpr?, toExpr?, toExprs?_shift w branches modes]
      cases toExprs? modes branches with
      | none => rfl
      | some r => exact congrArg some (congrArg (·, r.2) (Expr.alt_shift w r.1))
  | .concat items, modes => by
      rw [shift, toExpr?, toExpr?, toExprs?_shift w items modes]
      cases toExprs? modes items with
      | none => rfl
      | some r => exact congrArg some (congrArg (·, r.2) (Expr.seq_shift w r.1))

/-- The expressions of renumbered trees are those of the trees, renumbered; the modes between them
are the same. -/
theorem toExprs?_shift (w : Nat) : (items : List Tree) → (modes : Modes) →
    toExprs? modes (shiftList w items) =
      (toExprs? modes items).map fun r => (r.1.map (Expr.shift w), r.2)
  | [], _ => rfl
  | tree :: rest, modes => by
      rw [shiftList, toExprs?, toExprs?, toExpr?_shift w tree modes]
      cases tree.toExpr? modes with
      | none => rfl
      | some r =>
          simp only [Option.map_some, Option.bind_eq_bind, Option.bind_some]
          rw [toExprs?_shift w rest r.2]
          cases toExprs? r.2 rest <;> rfl

end

mutual

/-- A tree that is renumbered is nested as deep as before. -/
theorem depth_shift (w : Nat) : (tree : Tree) → (tree.shift w).depth = tree.depth
  | .empty | .flags _ | .literal _ | .dot | .assertion _ | .shorthand _ _ | .property _ _
  | .bracketed _ _ => rfl
  | .group _ _ body => by simp only [shift, depth, depth_shift w body]
  | .repetition _ _ _ body => by simp only [shift, depth, depth_shift w body]
  | .alternation branches => by simp only [shift, depth, depthList_shift w branches]
  | .concat items => by simp only [shift, depth, depthList_shift w items]

/-- Trees that are renumbered are nested as deep as before. -/
theorem depthList_shift (w : Nat) :
    (items : List Tree) → depthList (shiftList w items) = depthList items
  | [] => rfl
  | tree :: rest => by simp only [shiftList, depthList, depth_shift w tree, depthList_shift w rest]

end

end Tree

end ModalLex.Regex
