import ModalLex.Regex.Program

/-!
# Moving Code

The code of an expression depends on the address that it is laid out from only by its jumps, and
on the numbers of its groups only by its slots. So the code of the same expression with all
groups renumbered by some constant (`Expr.shift`), laid out elsewhere, is the same code with jumps
and slots moved (`Instr.move`). In particular the length of a code does not depend on where it is
laid out.

## Main results

* `Expr.code_shift`: **moving an expression moves its code.**
* `Expr.length_code`: the length of a code does not depend on its address.
-/

namespace ModalLex.Regex

/-- An instruction whose addresses are moved by one number and whose slots by another. -/
def Instr.move (distance slots : Nat) : Instr → Instr
  | .split first second => .split (first + distance) (second + distance)
  | .jump target => .jump (target + distance)
  | .save slot => .save (slot + slots)
  | instr => instr

/-- A choice is moved by moving the two addresses it chooses between. -/
@[simp] theorem Instr.move_choose (d w : Nat) (greedy : Bool) (first second : Nat) :
    (choose greedy first second).move d w = choose greedy (first + d) (second + d) := by
  cases greedy <;> rfl

namespace Expr

mutual

/-- An expression with its groups renumbered by a constant. -/
def shift (w : Nat) : Expr → Expr
  | .group index body => .group (index + w) (body.shift w)
  | .concat items => .concat (shiftList w items)
  | .alternation branches => .alternation (shiftList w branches)
  | .repetition lo hi greedy body => .repetition lo hi greedy (body.shift w)
  | e => e

/-- Some expressions with their groups renumbered by a constant. -/
def shiftList (w : Nat) : List Expr → List Expr
  | [] => []
  | e :: rest => e.shift w :: shiftList w rest

end

/-- Renumbering a list of expressions is renumbering each of them. -/
theorem shiftList_eq_map (w : Nat) (items : List Expr) :
    shiftList w items = items.map (shift w) := by
  induction items with
  | nil => rfl
  | cons e rest ih => rw [shiftList, ih, List.map_cons]

mutual

/-- Nothing changes if the numbers are raised by zero. -/
@[simp] theorem shift_zero : (e : Expr) → e.shift 0 = e
  | .empty | .text _ | .set _ | .look _ => rfl
  | .group index body => by rw [shift, shift_zero body]; rfl
  | .concat items => by rw [shift, shiftList_zero items]
  | .alternation branches => by rw [shift, shiftList_zero branches]
  | .repetition lo hi greedy body => by rw [shift, shift_zero body]

/-- The same holds of every expression of a list. -/
theorem shiftList_zero : (items : List Expr) → shiftList 0 items = items
  | [] => rfl
  | e :: rest => by rw [shiftList, shift_zero e, shiftList_zero rest]

end

mutual

/-- Whether an expression always consumes something does not depend on its numbers. -/
@[simp] theorem consumes_shift (w : Nat) : (e : Expr) → (e.shift w).consumes = e.consumes
  | .empty | .text _ | .set _ | .look _ => rfl
  | .group index body => by rw [shift, consumes, consumes, consumes_shift w body]
  | .concat items => by rw [shift, consumes, consumes, anyConsumes_shift w items]
  | .alternation branches => by rw [shift, consumes, consumes, allConsume_shift w branches]
  | .repetition lo hi greedy body => by rw [shift, consumes, consumes, consumes_shift w body]

/-- Nor does whether one of several expressions does. -/
theorem anyConsumes_shift (w : Nat) :
    (items : List Expr) → anyConsumes (shiftList w items) = anyConsumes items
  | [] => rfl
  | e :: rest => by
      rw [shiftList, anyConsumes, anyConsumes, consumes_shift w e, anyConsumes_shift w rest]

/-- Nor does whether all of them do. -/
theorem allConsume_shift (w : Nat) :
    (items : List Expr) → allConsume (shiftList w items) = allConsume items
  | [] => rfl
  | e :: rest => by
      rw [shiftList, allConsume, allConsume, consumes_shift w e, allConsume_shift w rest]

end

/-! ### Layouts of repetitions -/

section Repetition

variable {code code' : Nat → List Instr} {w : Nat}

/-- A layout that moves with its address. -/
def Moves (w : Nat) (code' code : Nat → List Instr) : Prop :=
  ∀ base distance, code' (base + distance) = (code base).map (Instr.move distance (2 * w))

/-- A code that can be moved has the same length everywhere. -/
theorem Moves.length_eq (h : Moves w code' code) (base : Nat) :
    (code' base).length = (code 0).length := by
  have h' := h 0 base
  rw [Nat.zero_add] at h'
  rw [h', List.length_map]

/-- Copies of a code move if the code does. -/
theorem Moves.copies (h : Moves w code' code) (length count base distance : Nat) :
    copies code' length count (base + distance) =
      (copies code length count base).map (Instr.move distance (2 * w)) := by
  unfold Expr.copies
  rw [List.map_flatMap]
  congr 1
  funext i
  rw [← h, Nat.add_right_comm]

/-- So do copies that can be left out, each with a choice in front. -/
theorem Moves.optionalCopies (h : Moves w code' code) (greedy : Bool)
    (length count base distance : Nat) :
    optionalCopies greedy code' length count (base + distance) =
      (optionalCopies greedy code length count base).map (Instr.move distance (2 * w)) := by
  unfold Expr.optionalCopies
  dsimp only
  rw [List.map_flatMap]
  congr 1
  funext i
  rw [List.map_cons, Instr.move_choose, ← h]
  congr 2 <;> omega

/-- The loop that runs at least once moves with its body. -/
theorem Moves.plusCode (h : Moves w code' code) (greedy : Bool) (length base distance : Nat) :
    plusCode greedy code' length (base + distance) =
      (plusCode greedy code length base).map (Instr.move distance (2 * w)) := by
  unfold Expr.plusCode
  rw [List.map_append, List.map_singleton, Instr.move_choose, ← h]
  congr 3
  omega

/-- The loop that can be skipped moves with its body, with or without a guard against empty rounds.
-/
theorem Moves.starCode (h : Moves w code' code) (greedy consumes : Bool)
    (length base distance : Nat) :
    starCode greedy consumes code' length (base + distance) =
      (starCode greedy consumes code length base).map (Instr.move distance (2 * w)) := by
  have hnext : base + distance + 1 = base + 1 + distance := by omega
  have hexit : base + distance + length + 2 = base + length + 2 + distance := by omega
  unfold Expr.starCode
  cases consumes with
  | true =>
      simp only [if_true, List.map_cons, List.map_append, List.map_nil, Instr.move_choose, hnext,
        hexit, h _ distance]
      rfl
  | false =>
      simp only [Bool.false_eq_true, if_false, List.map_cons, Instr.move_choose, hnext, hexit,
        h.plusCode]

/-- **A counted repetition moves with its body**, in each of the ways in which its bounds lay it
out. -/
theorem Moves.repeatCode (h : Moves w code' code) (lo : Nat) (hi : Option Nat)
    (greedy consumes : Bool) : Moves w (repeatCode lo hi greedy consumes code')
      (repeatCode lo hi greedy consumes code) := by
  intro base distance
  have hbase : ∀ n, base + distance + n = base + n + distance := fun n => by omega
  unfold Expr.repeatCode
  rw [h.length_eq 0]
  cases hi with
  | none =>
      cases lo with
      | zero => exact h.starCode ..
      | succ lo =>
          dsimp only
          rw [List.map_append, h.copies, hbase, h.plusCode]
  | some hi =>
      cases lo <;>
        (dsimp only
         rw [List.map_append, h.copies, hbase, h.optionalCopies])

end Repetition

mutual

/-- **Moving an expression moves its code.** -/
theorem code_shift (w : Nat) : (e : Expr) → Moves w (e.shift w).code e.code
  | .empty, _, _ => rfl
  | .text chars, _, _ => by simp [shift, code, Instr.move]
  | .set _, _, _ => rfl
  | .look _, _, _ => rfl
  | .group index body, base, distance => by
      have hnext : base + distance + 1 = base + 1 + distance := by omega
      have hslot : 2 * (index + w) = 2 * index + 2 * w := by omega
      simp only [shift, code, hnext, hslot, code_shift w body (base + 1) distance,
        List.map_cons, List.map_append, List.map_nil, Instr.move, Nat.add_right_comm _ _ 1]
  | .concat items, base, distance => seqCode_shift w items base distance
  | .alternation branches, base, distance => altCode_shift w branches base distance
  | .repetition lo hi greedy body, base, distance => by
      rw [shift, code, code, consumes_shift]
      exact (code_shift w body).repeatCode lo hi greedy body.consumes base distance

/-- The code of a sequence moves part by part. -/
theorem seqCode_shift (w : Nat) : (items : List Expr) →
    Moves w (seqCode (shiftList w items)) (seqCode items)
  | [], _, _ => rfl
  | e :: rest, base, distance => by
      have hnext : ∀ n, base + distance + n = base + n + distance := fun n => by omega
      simp only [shiftList, seqCode, List.map_append, code_shift w e base distance,
        List.length_map, hnext, seqCode_shift w rest _ distance]

/-- The code of an alternation moves branch by branch. -/
theorem altCode_shift (w : Nat) : (branches : List Expr) →
    Moves w (altCode (shiftList w branches)) (altCode branches)
  | [], _, _ => rfl
  | e :: rest, base, distance => by
      cases rest with
      | nil => exact code_shift w e base distance
      | cons e' rest' =>
          have hnext : ∀ n, base + distance + n = base + n + distance := fun n => by omega
          have hothers := altCode_shift w (e' :: rest')
          rw [shiftList] at hothers
          rw [shiftList, shiftList, altCode, altCode]
          rw [hnext 1, code_shift w e (base + 1) distance, List.length_map]
          have hsecond : base + distance + (e.code (base + 1)).length + 2 =
            base + (e.code (base + 1)).length + 2 + distance := by omega
          rw [hsecond, hothers, List.length_map]
          simp [Instr.move]
          omega

end

/-- The length of a code does not depend on its address. -/
theorem length_code (e : Expr) (base : Nat) : (e.code base).length = (e.code 0).length := by
  have h := (code_shift 0 e).length_eq base
  rwa [shift_zero] at h

end Expr

end ModalLex.Regex
