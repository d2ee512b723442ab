import ModalLex.Regex.Basic

/-!
# Patterns That Compile

A pattern is compiled in three steps, and the first of them that fails is the one that the error
tells: the text cannot be read, what was read has no meaning, or the program is too large. Each
question about `Regex.compile` is answered here once, in terms of the three steps.

## Main results

* `Regex.expr?_eq_some_iff`, `Regex.compile_ok`: what is known of a pattern that is accepted.
* `Regex.expr_eq_error_iff`, `Regex.compile_eq_error_iff`: **when a pattern is refused, and for
  what**; an error of its syntax names its own text.
-/

namespace ModalLex.Regex

variable {options : PatternOptions} {pattern : Text} {e : Expr} {cause : PatternError}

/-- A pattern that has an expression has it without an error. -/
theorem expr_eq_ok_iff : expr options pattern = .ok e ↔ expr? options pattern = some e := by
  rw [expr?]
  cases expr options pattern with
  | error cause => simp [Except.toOption]
  | ok e' => simp [Except.toOption]

/-- A pattern has an expression if both steps of its syntax succeed. -/
theorem expr?_eq_some_iff : expr? options pattern = some e ↔
    ∃ tree modes, Tree.parse? options.octal options.verbose pattern = some tree ∧
      tree.toExpr? options.modes = some (e, modes) := by
  rw [← expr_eq_ok_iff, expr]
  cases Tree.parse? options.octal options.verbose pattern with
  | none => simp
  | some tree =>
      cases htree : tree.toExpr? options.modes with
      | none => simp [htree]
      | some r => simp [htree, Prod.ext_iff]

/-- **An error of the syntax** names the text of the pattern and tells which step fails: the text
cannot be read, or its tree has no meaning. -/
theorem expr_eq_error_iff : expr options pattern = .error cause ↔
    (cause = .unreadable pattern ∧
      Tree.parse? options.octal options.verbose pattern = none) ∨
    (cause = .meaningless pattern ∧ ∃ tree,
      Tree.parse? options.octal options.verbose pattern = some tree ∧
        tree.toExpr? options.modes = none) := by
  rw [expr]
  cases Tree.parse? options.octal options.verbose pattern with
  | none => simp [eq_comm]
  | some tree =>
      cases htree : tree.toExpr? options.modes with
      | none => simp [htree, eq_comm]
      | some r => simp [htree]

/-- A pattern that is compiled has an expression, of which the program is kept with the greatest
number of a group. -/
theorem compile_ok {regex : Regex} (h : compile options pattern = .ok regex) :
    ∃ e, expr? options pattern = some e ∧ regex = ⟨e.program, e.maxGroup⟩ := by
  rw [compile] at h
  split at h
  · exact absurd h (by simp)
  · next e he =>
      split at h
      · exact ⟨e, expr_eq_ok_iff.mp he, (Except.ok.inj h).symm⟩
      · exact absurd h (by simp)

/-- **When a pattern is refused, and for what**: its text cannot be read, or it has no meaning, or
it has one but the program of it would be too large. -/
theorem compile_eq_error_iff : compile options pattern = .error cause ↔
    (cause = .unreadable pattern ∧
      Tree.parse? options.octal options.verbose pattern = none) ∨
    (cause = .meaningless pattern ∧ ∃ tree,
      Tree.parse? options.octal options.verbose pattern = some tree ∧
        tree.toExpr? options.modes = none) ∨
    (cause = .tooLarge ∧ ∃ e, expr? options pattern = some e ∧ e.fits = false) := by
  rw [← or_assoc, ← expr_eq_error_iff]
  simp only [compile, ← expr_eq_ok_iff]
  cases expr options pattern with
  | error cause' => simp
  | ok e =>
      cases hfits : e.fits with
      | true => simp [hfits]
      | false =>
          simp only [hfits, Bool.false_eq_true, if_false, Except.error.injEq, reduceCtorEq,
            false_or, Except.ok.injEq, exists_eq_left', and_true]
          exact eq_comm

end ModalLex.Regex
