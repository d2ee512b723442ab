import ModalLex.Proofs.Text
import ModalLex.Window

/-!
# The Fetch Window in Bounds

However a hook moves the cursor of a window, by steps ahead, steps back or a jump, the cursor
stays on a boundary of the input and never goes behind the place that it started from
(`Within`).
-/

namespace ModalLex.Window

/-- A window whose cursor is on a boundary of the input and not before its own boundary. -/
structure Within (w : Window) : Prop where
  cursor_isBoundary : w.input.isBoundary w.cursor = true
  boundary_le : w.boundary ≤ w.cursor

variable {w : Window}

@[simp] theorem next_input (w : Window) : w.next.2.input = w.input := by
  rw [next]
  split <;> rfl

@[simp] theorem next_boundary (w : Window) : w.next.2.boundary = w.boundary := by
  rw [next]
  split <;> rfl

/-- A step ahead stays in bounds. -/
theorem Within.next (h : w.Within) : w.next.2.Within := by
  rw [Window.next]
  split
  · exact h
  · next c hc =>
      obtain ⟨rest, hrest⟩ : ∃ rest, w.rest = c :: rest := by
        rw [peek] at hc
        cases hw : w.rest with
        | nil => simp [hw] at hc
        | cons d rest =>
            simp only [hw, List.head?_cons, Option.some.injEq] at hc
            exact ⟨rest, by rw [hc]⟩
      refine ⟨Text.isBoundary_add_utf8Size h.cursor_isBoundary hrest, ?_⟩
      have := h.boundary_le
      show w.boundary ≤ w.cursor + c.utf8Size
      omega

/-- Steps back end at the end of an initial part, and not behind the boundary. `before` is what
lies before the target, in reverse. -/
theorem stepBack_some {boundary : Nat} {before : Text} {count target stop : Nat}
    (htarget : Text.byteLength before.reverse = target) (hle : boundary ≤ target)
    (h : stepBack boundary before count target = some stop) :
    boundary ≤ stop ∧ ∃ front back, before.reverse = front ++ back ∧
      Text.byteLength front = stop := by
  induction before generalizing count target with
  | nil =>
      cases count with
      | zero =>
          obtain rfl := Option.some.inj h
          exact ⟨hle, [], [], by simp, htarget⟩
      | succ count => exact absurd h (by simp [stepBack])
  | cons c before ih =>
      cases count with
      | zero =>
          obtain rfl := Option.some.inj h
          exact ⟨hle, (c :: before).reverse, [], by simp, htarget⟩
      | succ count =>
          rw [stepBack] at h
          split at h
          · exact absurd h (by simp)
          · next hnot =>
              have hbefore : Text.byteLength before.reverse = target - c.utf8Size := by
                rw [← htarget, List.reverse_cons, Text.byteLength_append, Text.byteLength_cons]
                simp
              obtain ⟨hstop, front, back, hfront, hlen⟩ := ih hbefore (by omega) h
              exact ⟨hstop, front, back ++ [c], by simp [hfront], hlen⟩

/-- Steps back that succeed stay in bounds. -/
theorem Within.back (h : w.Within) {count : Nat} {moved : Window}
    (hm : w.back count = .ok moved) :
    moved.Within ∧ moved.input = w.input ∧ moved.boundary = w.boundary := by
  rw [Window.back] at hm
  split at hm
  · next target htarget =>
      obtain rfl := Except.ok.inj hm
      obtain ⟨front, back, hinput, hcursor⟩ := Text.isBoundary_iff.mp h.cursor_isBoundary
      rw [hinput, ← hcursor, Text.takeBytes_append] at htarget
      obtain ⟨hle, front', back', hfront, hstop⟩ :=
        stepBack_some (by simp) (by rw [hcursor]; exact h.boundary_le) htarget
      rw [List.reverse_reverse] at hfront
      refine ⟨⟨?_, hle⟩, rfl, rfl⟩
      exact Text.isBoundary_iff.mpr ⟨front', back' ++ back, by simp [hinput, hfront], hstop⟩
  · exact absurd hm (by simp)

/-- A jump that succeeds stays in bounds. -/
theorem Within.advanceTo (h : w.Within) {offset : Nat} {moved : Window}
    (hm : w.advanceTo offset = .ok moved) :
    moved.Within ∧ moved.input = w.input ∧ moved.boundary = w.boundary := by
  rw [Window.advanceTo] at hm
  have := h.boundary_le
  split at hm
  · exact absurd hm (by simp)
  · split at hm
    · exact absurd hm (by simp)
    · split at hm
      · exact absurd hm (by simp)
      · next hnot _ hboundary =>
          obtain rfl := Except.ok.inj hm
          refine ⟨⟨by simpa using hboundary, ?_⟩, rfl, rfl⟩
          show w.boundary ≤ offset
          omega

end ModalLex.Window
