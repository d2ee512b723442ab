import ModalLex.Proofs.Regex.Compiling
import ModalLex.Proofs.Regex.Numbering

/-!
# Counting Groups

The groups of a pattern are numbered as they are **written**. When a pattern is compiled its groups
are counted in another way, by the greatest number that is left in the expression. The smart
constructors neither make up numbers nor lose any, but for one case: a repetition of zero copies
is gone with its groups. So what is counted is the number of the last group that is **kept**,
because it stands in no such repetition; groups that are written behind it are **not counted**.

## Main results

* `Expr.maxGroup_seq`, `Expr.maxGroup_alt`, `Expr.maxGroup_rep`: the groups that the smart
  constructors keep.
* `Tree.maxGroup_toExpr?`: **what is counted is the number of the last group that is kept.**
* `ReadsAs.captures_eq`: the groups of a pattern have the numbers from one on.
* `maxGroup_le_groupsWritten`: no more groups are counted than are written.
-/

namespace ModalLex.Regex

namespace Expr

/-- The greatest number in two lists is the greater of the two greatest. -/
theorem maxGroupList_append (items more : List Expr) :
    maxGroupList (items ++ more) = max (maxGroupList items) (maxGroupList more) := by
  induction items with
  | nil => exact (Nat.zero_max _).symm
  | cons e rest ih => rw [List.cons_append, maxGroupList, maxGroupList, ih, Nat.max_assoc]

/-- A single expression is a list of one. -/
theorem maxGroupList_singleton (e : Expr) : maxGroupList [e] = e.maxGroup := Nat.max_zero _

/-- The expression of a set has no groups. -/
theorem maxGroup_ofSet (s : CharSet) : (ofSet s).maxGroup = 0 := by
  rw [ofSet]
  split <;> rfl

/-! ### Sequences -/

/-- What expressions add to a list has their groups if what each adds has its own. -/
theorem maxGroupList_flatMap {f : Expr → List Expr} (h : ∀ e, maxGroupList (f e) = e.maxGroup)
    (items : List Expr) : maxGroupList (items.flatMap f) = maxGroupList items := by
  induction items with
  | nil => rfl
  | cons e rest ih => rw [List.flatMap_cons, maxGroupList_append, h, ih, maxGroupList]

/-- The parts of an expression have its groups. -/
theorem maxGroupList_parts (e : Expr) : maxGroupList e.parts = e.maxGroup := by
  cases e with
  | empty => rfl
  | concat items => rfl
  | _ => exact maxGroupList_singleton _

/-- Joining texts loses no group, since a text has none. -/
theorem maxGroupList_joinTexts (items : List Expr) :
    maxGroupList (joinTexts items) = maxGroupList items := by
  induction items with
  | nil => rfl
  | cons e rest ih =>
      unfold joinTexts
      split
      · next heq =>
          rw [maxGroupList, maxGroupList, ← ih, heq]
          rfl
      · rw [maxGroupList, maxGroupList, ih]

/-- A sequence has the groups of its parts. -/
theorem maxGroup_seq (items : List Expr) : (seq items).maxGroup = maxGroupList items := by
  have hjoined : maxGroupList (joinTexts (items.flatMap parts)) = maxGroupList items := by
    rw [maxGroupList_joinTexts, maxGroupList_flatMap maxGroupList_parts]
  rw [← hjoined, seq]
  split
  · next heq => rw [heq]; rfl
  · next e heq => rw [heq, maxGroupList_singleton]
  · rfl

/-! ### Alternations -/

/-- The branches of an expression have its groups. -/
theorem maxGroupList_choices (e : Expr) : maxGroupList e.choices = e.maxGroup := by
  cases e with
  | alternation branches => rfl
  | _ => exact maxGroupList_singleton _

mutual

/-- Two expressions that are the same have the same greatest number. -/
theorem maxGroup_of_same : {a b : Expr} → same a b = true → a.maxGroup = b.maxGroup
  | .empty, .empty, _ | .text _, .text _, _ | .set _, .set _, _ | .look _, .look _, _ => rfl
  | .group i a, .group j b, h => by
      rw [same, Bool.and_eq_true, decide_eq_true_iff] at h
      rw [maxGroup, maxGroup, h.1, maxGroup_of_same h.2]
  | .concat _, .concat _, h => maxGroupList_of_same h
  | .alternation _, .alternation _, h => maxGroupList_of_same h
  | .repetition _ _ _ a, .repetition _ _ _ b, h => by
      rw [same, Bool.and_eq_true] at h
      rw [maxGroup, maxGroup, maxGroup_of_same h.2]

/-- So have two lists of expressions that are the same one by one. -/
theorem maxGroupList_of_same : {as bs : List Expr} → sameList as bs = true →
    maxGroupList as = maxGroupList bs
  | [], [], _ => rfl
  | a :: as, b :: bs, h => by
      rw [sameList, Bool.and_eq_true] at h
      rw [maxGroupList, maxGroupList, maxGroup_of_same h.1, maxGroupList_of_same h.2]

end

/-- Expressions of a kind without groups have none together. -/
theorem maxGroupList_eq_zero {α : Type} {f : Expr → Option α}
    (hf : ∀ e a, f e = some a → e.maxGroup = 0) {branches : List Expr} {as : List α}
    (h : branches.mapM f = some as) : maxGroupList branches = 0 := by
  induction branches generalizing as with
  | nil => rfl
  | cons e rest ih =>
      rw [List.mapM_cons] at h
      obtain ⟨a, ha, h⟩ := Option.bind_eq_some_iff.mp h
      obtain ⟨as', has, -⟩ := Option.bind_eq_some_iff.mp h
      rw [maxGroupList, hf e a ha, ih has]
      rfl

/-- A single character has no groups. -/
theorem maxGroup_of_singleChar? (e : Expr) (c : Char) (h : e.singleChar? = some c) :
    e.maxGroup = 0 := by
  cases e <;> first | rfl | exact absurd h (by simp [singleChar?])

/-- What matches one character of a set has no groups. -/
theorem maxGroup_of_charSet? (e : Expr) (s : CharSet) (h : e.charSet? = some s) :
    e.maxGroup = 0 := by
  cases e <;> first | rfl | exact absurd h (by simp [charSet?])

/-- Branches that all have parts are the concatenations of these. -/
theorem eq_map_concat {branches : List Expr} {lists : List (List Expr)}
    (h : branches.mapM concatParts? = some lists) : branches = lists.map concat := by
  induction branches generalizing lists with
  | nil =>
      obtain rfl := Option.some.inj h
      rfl
  | cons e rest ih =>
      rw [List.mapM_cons] at h
      obtain ⟨items, hitems, h⟩ := Option.bind_eq_some_iff.mp h
      obtain ⟨lists', hlists, heq⟩ := Option.bind_eq_some_iff.mp h
      obtain rfl := Option.some.inj heq
      rw [List.map_cons, ← ih hlists]
      cases e with
      | concat items' =>
          obtain rfl := Option.some.inj hitems
          rfl
      | _ => exact absurd hitems (by simp [concatParts?])

/-- Parts that two lists share have the same groups. -/
theorem maxGroupList_take_sharedLength {as bs : List Expr} {k : Nat}
    (h : k ≤ sharedLength as bs) : maxGroupList (bs.take k) = maxGroupList (as.take k) := by
  induction as generalizing bs k with
  | nil =>
      obtain rfl : k = 0 := Nat.le_zero.mp h
      rfl
  | cons a as ih =>
      cases k with
      | zero => rfl
      | succ k =>
          cases bs with
          | nil => exact absurd h (by simp [sharedLength])
          | cons b bs =>
              rw [sharedLength] at h
              split at h
              · next hsame =>
                  rw [List.take_succ_cons, List.take_succ_cons, maxGroupList, maxGroupList,
                    maxGroup_of_same hsame, ih (Nat.le_of_succ_le_succ h)]
              · exact absurd h (Nat.not_succ_le_zero k)

/-- A number below a minimum is below everything that it is taken of. -/
theorem le_foldl_min {k n : Nat} {f : List Expr → Nat} {lists : List (List Expr)}
    (h : k ≤ lists.foldl (fun n items => min n (f items)) n) :
    k ≤ n ∧ ∀ items ∈ lists, k ≤ f items := by
  induction lists generalizing n with
  | nil => exact ⟨h, by simp⟩
  | cons items rest ih =>
      obtain ⟨hmin, hrest⟩ := ih h
      obtain ⟨hn, hitems⟩ := Nat.le_min.mp hmin
      exact ⟨hn, List.forall_mem_cons.mpr ⟨hitems, hrest⟩⟩

/-- The leading parts that all branches share have the same groups in each of them. -/
theorem maxGroupList_take_sharedByAll {lists : List (List Expr)} {k : Nat}
    (h : k ≤ sharedByAll lists) :
    ∀ items ∈ lists, maxGroupList (items.take k) = maxGroupList ((lists.headD []).take k) := by
  cases lists with
  | nil => exact fun items hitems => absurd hitems (by simp)
  | cons first rest =>
      rw [sharedByAll] at h
      obtain ⟨-, hrest⟩ := le_foldl_min h
      refine List.forall_mem_cons.mpr ⟨rfl, fun items hitems => ?_⟩
      exact maxGroupList_take_sharedLength (hrest items hitems)

/-- Taking leading parts with the same groups out of all branches leaves the groups of the rest. -/
theorem maxGroupList_factored {lists : List (List Expr)} {k m : Nat}
    (h : ∀ items ∈ lists, maxGroupList (items.take k) = m) :
    max m (maxGroupList (lists.map concat)) =
      max m (maxGroupList (lists.map fun items => seq (items.drop k))) := by
  induction lists with
  | nil => rfl
  | cons items rest ih =>
      obtain ⟨hitems, hrest⟩ := List.forall_mem_cons.mp h
      have hsplit := maxGroupList_append (items.take k) (items.drop k)
      rw [List.take_append_drop, hitems] at hsplit
      have hrest := ih hrest
      simp only [List.map_cons, maxGroupList, maxGroup, maxGroup_seq, hsplit]
      omega

/-- **Factoring an alternation loses no group**, though shared parts are written once: they have
the same groups in every branch. -/
theorem maxGroup_altWithin (fuel : Nat) (branches : List Expr) :
    (altWithin fuel branches).maxGroup = maxGroupList branches := by
  induction fuel generalizing branches with
  | zero => rfl
  | succ fuel ih =>
      rw [← maxGroupList_flatMap maxGroupList_choices branches, altWithin]
      split
      · next heq => rw [heq]; rfl
      · next e heq => rw [heq, maxGroupList_singleton]
      · split
        · next _ _ _ hchars =>
            rw [maxGroup_ofSet, maxGroupList_eq_zero maxGroup_of_singleChar? hchars]
        · next _ _ _ hsets => rw [maxGroup_ofSet, maxGroupList_eq_zero maxGroup_of_charSet? hsets]
        · next lists _ _ hlists =>
            split
            · rfl
            · next n hshared =>
                have hsame := maxGroupList_take_sharedByAll (Nat.le_of_eq hshared.symm)
                have hfactored := maxGroupList_factored hsame
                have hfirst : maxGroupList ((lists.headD []).take (n + 1)) ≤
                    maxGroupList (lists.map concat) := by
                  cases lists with
                  | nil => exact Nat.zero_le _
                  | cons first rest =>
                      have hsplit :=
                        maxGroupList_append (first.take (n + 1)) (first.drop (n + 1))
                      rw [List.take_append_drop] at hsplit
                      simp only [List.headD_cons, List.map_cons, maxGroupList, maxGroup, hsplit]
                      omega
                rw [maxGroup_seq, maxGroupList_append, maxGroupList_singleton, ih,
                  eq_map_concat hlists, ← hfactored]
                exact Nat.max_eq_right hfirst
        · rfl

/-- An alternation has the groups of its branches. -/
theorem maxGroup_alt (branches : List Expr) : (alt branches).maxGroup = maxGroupList branches :=
  maxGroup_altWithin _ branches

/-! ### Repetitions -/

/-- A repetition has the groups of its body, unless there are no copies. -/
theorem maxGroup_rep (lo : Nat) (hi : Option Nat) (greedy : Bool) (body : Expr) :
    (rep lo hi greedy body).maxGroup = if lo = 0 ∧ hi = some 0 then 0 else body.maxGroup := by
  rw [rep]
  split
  next lo' hi' hbounds =>
    -- Bounds that are lowered to one, where more copies match no more, are not lowered to zero.
    have hzero : (lo' = 0 ∧ hi' = some 0) ↔ lo = 0 ∧ hi = some 0 := by
      split at hbounds
      · obtain ⟨rfl, rfl⟩ := Prod.mk.inj hbounds
        cases hi <;> simp
      · obtain ⟨rfl, rfl⟩ := Prod.mk.inj hbounds
        rfl
    split
    · rw [if_pos (hzero.mp ⟨rfl, rfl⟩)]
      rfl
    · rw [if_neg fun h => absurd (hzero.mpr h) (by simp)]
    · next hne _ =>
      rw [if_neg fun h => hne (hzero.mpr h).1 (hzero.mpr h).2]
      rfl

end Expr

namespace Tree

mutual

/-- The number of the last group that stands in no repetition of zero copies, and zero if there is
none. -/
def lastKept : Tree → Nat
  | .repetition lo hi _ body => if lo = 0 ∧ hi = some 0 then 0 else body.lastKept
  | .group index _ body => max (index.getD 0) body.lastKept
  | .alternation branches => lastKeptList branches
  | .concat items => lastKeptList items
  | _ => 0

/-- The number of the last group of some trees that stands in no repetition of zero copies. -/
def lastKeptList : List Tree → Nat
  | [] => 0
  | tree :: rest => max tree.lastKept (lastKeptList rest)

end

mutual

/-- The last group that is kept is one of the groups. -/
theorem lastKept_le {n : Nat} : {tree : Tree} → (∀ index ∈ tree.captures, index ≤ n) →
    tree.lastKept ≤ n
  | .empty, _ | .flags _, _ | .literal _, _ | .dot, _ | .assertion _, _ | .shorthand _ _, _
  | .property _ _, _ | .bracketed _ _, _ => Nat.zero_le n
  | .repetition _ _ _ body, h => by
      rw [lastKept]
      split
      · exact Nat.zero_le n
      · have hbody : ∀ index ∈ body.captures, index ≤ n := h
        exact lastKept_le hbody
  | .group index _ body, h => by
      obtain ⟨hindex, hbody⟩ := List.forall_mem_append.mp h
      refine Nat.max_le.mpr ⟨?_, lastKept_le hbody⟩
      cases index with
      | none => exact Nat.zero_le n
      | some i => exact hindex i (List.mem_singleton_self i)
  | .alternation branches, h => by
      have hbranches : ∀ index ∈ capturesList branches, index ≤ n := h
      exact lastKeptList_le hbranches
  | .concat items, h => by
      have hitems : ∀ index ∈ capturesList items, index ≤ n := h
      exact lastKeptList_le hitems

/-- The last group that is kept is one of those that are there. -/
theorem lastKeptList_le {n : Nat} : {trees : List Tree} →
    (∀ index ∈ capturesList trees, index ≤ n) → lastKeptList trees ≤ n
  | [], _ => Nat.zero_le n
  | tree :: rest, h => by
      obtain ⟨htree, hrest⟩ := List.forall_mem_append.mp h
      exact Nat.max_le.mpr ⟨lastKept_le htree, lastKeptList_le hrest⟩

end

/-- The expression of a leaf has no groups. -/
theorem maxGroup_leaf {α : Type} {modes modes' : Modes} {meaning : Option α} {expr : α → Expr}
    {e : Expr} (hexpr : ∀ a, (expr a).maxGroup = 0)
    (h : meaning.map (fun a => (expr a, modes)) = some (e, modes')) : e.maxGroup = 0 := by
  obtain ⟨a, -, heq⟩ := Option.map_eq_some_iff.mp h
  obtain ⟨rfl, -⟩ := Prod.mk.inj heq
  exact hexpr a

/-- The expression of a character has no groups. -/
theorem maxGroup_charExpr (modes : Modes) (c : Char) : (modes.charExpr c).maxGroup = 0 := by
  rw [Modes.charExpr]
  split
  · exact Expr.maxGroup_ofSet _
  · rfl

/-- The expression of any character has no groups. -/
theorem maxGroup_dotExpr {modes : Modes} {e : Expr} (h : modes.dotExpr = some e) :
    e.maxGroup = 0 := by
  rw [Modes.dotExpr] at h
  split at h
  · exact absurd h (by simp)
  · obtain rfl := Option.some.inj h
    exact Expr.maxGroup_ofSet _

mutual

/-- **What is counted is the number of the last group that is kept.** -/
theorem maxGroup_toExpr? : (tree : Tree) → {modes modes' : Modes} → {e : Expr} →
    tree.toExpr? modes = some (e, modes') → e.maxGroup = tree.lastKept
  | .empty, _, _, _, h | .flags _, _, _, _, h | .assertion _, _, _, _, h => by
      obtain ⟨rfl, -⟩ := Prod.mk.inj (Option.some.inj h)
      rfl
  | .literal _, modes, _, _, h => maxGroup_leaf (maxGroup_charExpr modes) h
  | .dot, _, _, _, h => by
      obtain ⟨e, hdot, heq⟩ := Option.map_eq_some_iff.mp h
      obtain ⟨rfl, -⟩ := Prod.mk.inj heq
      exact maxGroup_dotExpr hdot
  | .shorthand _ _, _, _, _, h | .property _ _, _, _, _, h => maxGroup_leaf Expr.maxGroup_ofSet h
  | .bracketed _ _, _, _, _, h => by
      obtain ⟨s, -, hguard⟩ := Option.bind_eq_some_iff.mp h
      obtain ⟨s, -, heq⟩ := Option.bind_eq_some_iff.mp hguard
      obtain ⟨rfl, -⟩ := Prod.mk.inj (Option.some.inj heq)
      exact Expr.maxGroup_ofSet s
  | .repetition lo hi _ body, _, _, _, h => by
      rw [toExpr?] at h
      obtain ⟨⟨e, modes⟩, hbody, heq⟩ := Option.bind_eq_some_iff.mp h
      obtain ⟨rfl, -⟩ := Prod.mk.inj (Option.some.inj heq)
      rw [lastKept, Expr.maxGroup_rep, maxGroup_toExpr? body hbody]
  | .group index _ body, _, _, _, h => by
      rw [toExpr?] at h
      obtain ⟨⟨e, modes⟩, hbody, heq⟩ := Option.bind_eq_some_iff.mp h
      have hkept := maxGroup_toExpr? body hbody
      rw [lastKept, ← hkept]
      cases index with
      | none =>
          obtain ⟨rfl, -⟩ := Prod.mk.inj (Option.some.inj heq)
          exact (Nat.zero_max _).symm
      | some i =>
          obtain ⟨rfl, -⟩ := Prod.mk.inj (Option.some.inj heq)
          rfl
  | .alternation branches, _, _, _, h => by
      rw [toExpr?] at h
      obtain ⟨⟨es, modes⟩, hbranches, heq⟩ := Option.bind_eq_some_iff.mp h
      obtain ⟨rfl, -⟩ := Prod.mk.inj (Option.some.inj heq)
      rw [lastKept, Expr.maxGroup_alt, maxGroupList_toExprs? branches hbranches]
  | .concat items, _, _, _, h => by
      rw [toExpr?] at h
      obtain ⟨⟨es, modes⟩, hitems, heq⟩ := Option.bind_eq_some_iff.mp h
      obtain ⟨rfl, -⟩ := Prod.mk.inj (Option.some.inj heq)
      rw [lastKept, Expr.maxGroup_seq, maxGroupList_toExprs? items hitems]

/-- The greatest number in the expressions of some trees is the last that is kept in the trees. -/
theorem maxGroupList_toExprs? : (trees : List Tree) → {modes modes' : Modes} →
    {es : List Expr} → toExprs? modes trees = some (es, modes') →
      Expr.maxGroupList es = lastKeptList trees
  | [], _, _, _, h => by
      obtain ⟨rfl, -⟩ := Prod.mk.inj (Option.some.inj h)
      rfl
  | tree :: rest, _, _, _, h => by
      rw [toExprs?] at h
      obtain ⟨⟨e, modes⟩, htree, h⟩ := Option.bind_eq_some_iff.mp h
      obtain ⟨⟨es, modes'⟩, hrest, heq⟩ := Option.bind_eq_some_iff.mp h
      obtain ⟨rfl, -⟩ := Prod.mk.inj (Option.some.inj heq)
      rw [Expr.maxGroupList, lastKeptList, maxGroup_toExpr? tree htree,
        maxGroupList_toExprs? rest hrest]

end

end Tree

/-! ### Patterns alone -/

/-- The place of a reader in front of a pattern, behind some groups and names. -/
def Place.start (pattern : Text) (groups : Nat) (names : List Text) : Place :=
  ⟨pattern, false, groups, names⟩

/-- The number of groups that are written in a pattern. -/
def groupsWritten (pattern : Text) : Nat :=
  match readBranches false (pattern.length + 1) [] [] (.start pattern 0 []) with
  | some (_, place) => place.groups
  | none => 0

/-- Reading a pattern alone gives a tree and comes to the end of the pattern. -/
def ReadsAs (pattern : Text) (tree : Tree) : Prop :=
  ∃ place, readBranches false (pattern.length + 1) [] [] (.start pattern 0 []) =
    some (tree, place) ∧ place.rest = []

/-- A pattern with a tree has been read to its end. -/
theorem ReadsAs.of_parse? {pattern : Text} {tree : Tree}
    (h : Tree.parse? false false pattern = some tree) : ReadsAs pattern tree := by
  obtain ⟨⟨tree', place⟩, hread, hend⟩ := Option.bind_eq_some_iff.mp h
  simp only [Option.ite_none_right_eq_some, Bool.and_eq_true, List.isEmpty_iff] at hend
  obtain ⟨⟨hrest, -⟩, heq⟩ := hend
  obtain rfl := Option.some.inj heq
  exact ⟨place, hread, hrest⟩

/-- A pattern with an expression has been read to its end, and its tree has the expression. -/
theorem exists_readsAs {pattern : Text} {e : Expr} (h : expr? {} pattern = some e) :
    ∃ tree modes, ReadsAs pattern tree ∧ tree.toExpr? {} = some (e, modes) := by
  obtain ⟨tree, modes, hparse, htree⟩ := expr?_eq_some_iff.mp h
  exact ⟨tree, modes, .of_parse? hparse, htree⟩

/-- The groups of a pattern have the numbers from one on, in the order in which they open. -/
theorem ReadsAs.captures_eq {pattern : Text} {tree : Tree} (h : ReadsAs pattern tree) :
    tree.captures = List.range' 1 (groupsWritten pattern) := by
  obtain ⟨place, hread, -⟩ := h
  obtain ⟨count, hgroups, hcaptures⟩ := captures_readBranches hread
  have hwritten : groupsWritten pattern = count := by
    rw [groupsWritten, hread]
    exact hgroups.trans (Nat.zero_add count)
  rw [hwritten]
  exact hcaptures

/-- The tree of a pattern is numbered from left to right, from one on. -/
theorem ReadsAs.numbered_eq {pattern : Text} {tree : Tree} (h : ReadsAs pattern tree) :
    tree.numbered 1 = tree := by
  refine Tree.numbered_eq_self ?_
  rw [h.captures_eq, List.length_range']

/-- **No more groups are counted than are written.** -/
theorem maxGroup_le_groupsWritten {pattern : Text} {e : Expr} (h : expr? {} pattern = some e) :
    e.maxGroup ≤ groupsWritten pattern := by
  obtain ⟨tree, modes, hreads, hexpr⟩ := exists_readsAs h
  rw [tree.maxGroup_toExpr? hexpr]
  refine Tree.lastKept_le fun index hindex => ?_
  rw [hreads.captures_eq, List.mem_range'_1] at hindex
  omega

end ModalLex.Regex
