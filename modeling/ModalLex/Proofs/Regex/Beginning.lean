import ModalLex.Proofs.Regex.Counting
import ModalLex.Proofs.Regex.Embedding

/-!
# Where Matches Begin

The number zero is that of the whole match, and groups are numbered from one on. So the tree of a
pattern is the tree that is numbered from zero on, with all numbers **raised** by one. Then so is
its expression, and the code of a pattern saves no slot of the group zero. In the program of a whole
match the start is saved by the first instruction, before anything is consumed, and no instruction
behind it saves that slot again.

A match of a pattern by itself is therefore anchored: it **begins at the offset of the search**,
and only its end has to be looked for.

## Main results

* `exists_shift_expr?`: no group of a pattern has the number zero.
* `searchAt_begin`: the span of a whole match begins at the offset of the search.
-/

namespace ModalLex.Regex

/-! ### Numbers of groups -/

/-- The expression of a pattern is one with all numbers of groups raised by one. -/
theorem exists_shift_expr? {pattern : Text} {e : Expr} (h : expr? {} pattern = some e) :
    ∃ lower : Expr, e = lower.shift 1 := by
  obtain ⟨tree, modes, hreads, hexpr⟩ := exists_readsAs h
  have hself : tree.numbered 1 = tree := hreads.numbered_eq
  rw [← hself, ← Tree.numbered_shift 1 tree 0, Tree.toExpr?_shift] at hexpr
  obtain ⟨⟨e', modes'⟩, -, heq⟩ := Option.map_eq_some_iff.mp hexpr
  exact ⟨e', (Prod.mk.inj heq).1.symm⟩

/-- The code of such an expression saves no slot of the group zero. -/
theorem two_le_of_save {lower : Expr} {base slot : Nat}
    (h : Instr.save slot ∈ (lower.shift 1).code base) : 2 ≤ slot := by
  have hmoved := lower.code_shift 1 0 base
  rw [Nat.zero_add] at hmoved
  rw [hmoved] at h
  obtain ⟨instr, -, heq⟩ := List.mem_map.mp h
  cases instr with
  | save slot' =>
      injection heq with heq
      omega
  | _ => exact absurd heq (by simp [Instr.move])

/-! ### The start of a match -/

/-- A thread stands at the beginning of a search, or has saved where this was. -/
def Begun (start address offset : Nat) (saved : List (Nat × Nat)) : Prop :=
  (address = 0 ∧ offset = start) ∨ (1 ≤ address ∧ saved.lookup 0 = some start)

section Beginning

variable {lower : Expr} {start a offset : Nat} {saved : List (Nat × Nat)}

/-- Instructions that do not save lead behind the beginning. -/
theorem Begun.advance {instr : Instr} (h : Begun start a offset saved)
    (ha : (Expr.group 0 (lower.shift 1)).program[a]? = some instr)
    (hsave : ∀ slot, instr ≠ .save slot) {target : Nat} (offset' : Nat)
    (htarget : ∀ length, instr.Between 1 (1 + length) → 1 ≤ a → 1 ≤ target)
    (haccept : instr ≠ .accept) : Begun start target offset' saved := by
  rcases Expr.program_group ha with ⟨-, rfl⟩ | ⟨⟨hge, -⟩, hbetween⟩ | ⟨-, rfl⟩ | ⟨-, rfl⟩
  · exact absurd rfl (hsave _)
  · obtain ⟨-, hstart⟩ := h.resolve_left (by omega)
    exact .inr ⟨htarget _ hbetween hge, hstart⟩
  · exact absurd rfl (hsave _)
  · exact absurd rfl haccept

/-- The start is saved by the first instruction, and by none behind it. -/
theorem Begun.save {slot : Nat} (h : Begun start a offset saved)
    (ha : (Expr.group 0 (lower.shift 1)).program[a]? = some (.save slot)) :
    Begun start (a + 1) offset ((slot, offset) :: saved) := by
  refine .inr ⟨by omega, ?_⟩
  have hbehind : 1 ≤ a → slot ≠ 0 → ((slot, offset) :: saved).lookup 0 = some start := by
    intro hge hne
    have hslot : ((0 : Nat) == slot) = false := by simpa using Ne.symm hne
    rw [List.lookup_cons, hslot]
    exact (h.resolve_left (by omega)).2
  have hmem := ha
  simp only [Expr.program, Expr.code, List.getElem?_toArray, List.cons_append,
    List.append_assoc] at hmem
  cases a with
  | zero =>
      obtain ⟨-, rfl⟩ := h.resolve_right (by omega)
      injection Option.some.inj hmem with hslot
      simp [← hslot]
  | succ a =>
      rw [List.getElem?_cons_succ] at hmem
      rcases List.mem_append.mp (List.mem_of_getElem? hmem) with hbody | hend
      · have hslot := two_le_of_save hbody
        exact hbehind (by omega) (by omega)
      · have hslot : slot = 1 := by simpa using hend
        exact hbehind (by omega) (by omega)

/-- **No step of a thread saves a start of the whole match but the first one.** -/
theorem kept_begun (lower : Expr) (start : Nat) (input : Text) :
    Kept (Expr.group 0 (lower.shift 1)).program input (Begun start) where
  jump ha h := h.advance ha (by simp) _ (fun _ hbetween _ => hbetween.1) (by simp)
  split ha h :=
    ⟨h.advance ha (by simp) _ (fun _ hbetween _ => hbetween.1.1) (by simp),
      h.advance ha (by simp) _ (fun _ hbetween _ => hbetween.2.1) (by simp)⟩
  save ha h := h.save ha
  look ha h := h.advance ha (by simp) _ (fun _ _ _ => by omega) (by simp)
  char ha h _ := h.advance ha (by simp) _ (fun _ _ _ => by omega) (by simp)
  set ha h _ := h.advance ha (by simp) _ (fun _ _ _ => by omega) (by simp)

end Beginning

/-- **A match of a pattern begins at the offset of the search.** -/
theorem searchAt_begin {pattern input : Text} {offset : Nat} {e : Expr}
    {saved : List (Nat × Nat)} {span : Nat × Nat} (he : expr? {} pattern = some e)
    (hoffset : input.isBoundary offset = true)
    (hsearch : searchAt (Expr.group 0 e).program input offset = some saved)
    (hspan : groupSpan? saved 0 = some span) : span.1 = offset := by
  obtain ⟨lower, rfl⟩ := exists_shift_expr? he
  obtain ⟨a, o, haccept, hbegun⟩ :=
    searchAt_kept (kept_begun lower offset input) hoffset (.inl ⟨rfl, rfl⟩) hsearch
  have hstart : saved.lookup 0 = some offset := by
    rcases hbegun with ⟨rfl, -⟩ | ⟨-, hstart⟩
    · rcases Expr.program_group haccept with ⟨-, heq⟩ | ⟨hge, -⟩ | ⟨heq, -⟩ | ⟨heq, -⟩
      · exact absurd heq (by simp)
      · omega
      · omega
      · omega
    · exact hstart
  rw [groupSpan?, Nat.mul_zero, hstart] at hspan
  split at hspan
  · next s t hs _ =>
      obtain rfl := Option.some.inj hspan
      exact (Option.some.inj hs).symm
  · exact absurd hspan (by simp)

end ModalLex.Regex
