import ModalLex.Proofs.StateTable
import ModalLex.StateStack

/-!
# Stacks in Order

A stack of a resolved table only names states of the table and has an anchor for each of them
(`Valid`). What hooks can do to a stack is a sequence of pushes and pops, those that fail left
out (`Switched`), and such a sequence **carries the current anchor along**: whatever state is
current in the end goes on where the first one stood. The anchors of all other states are
anchors that the stack had before.

## Main results

* `Valid.moved_switched`: **switching states keeps the current anchor**, keeps a stack in order and
  invents no anchor.
-/

namespace ModalLex

namespace StateStack

/-- A stack that only names states of its table, with an anchor for each of them. -/
structure Valid (s : StateStack) : Prop where
  resolved : s.names.Resolved
  stack_lt : ∀ state ∈ s.stack, state < s.names.count
  anchors_length : s.anchors.length = s.names.count

variable {s t : StateStack}

/-- The stack that a run starts with is in order. -/
theorem valid_start {names : StateNames} (h : names.Resolved) (offset : Nat) :
    (start names offset).Valid :=
  ⟨h, by simp [start], by simp [start]⟩

/-- At the start the anchor of the base state is the offset of the start. -/
@[simp] theorem anchor_start {names : StateNames} (h : names.Resolved)
    (offset : Nat) : (start names offset).anchor = offset := by
  simp [anchor, anchorOf, current, start, h.base_lt]

/-- The current state is one that exists. -/
theorem Valid.current_lt (h : s.Valid) : s.current < s.names.count := by
  rw [current]
  cases hs : s.stack with
  | nil => exact h.resolved.base_lt
  | cons state rest => exact h.stack_lt state (by simp [hs])

/-! ### Anchors -/

/-- Setting an anchor does not touch the names. -/
@[simp] theorem setAnchor_names (s : StateStack) (p : Nat) : (s.setAnchor p).names = s.names := rfl

/-- Setting an anchor does not touch the stack. -/
@[simp] theorem setAnchor_stack (s : StateStack) (p : Nat) : (s.setAnchor p).stack = s.stack := rfl

/-- Setting an anchor does not change the state. -/
@[simp] theorem setAnchor_current (s : StateStack) (p : Nat) :
    (s.setAnchor p).current = s.current := rfl

/-- Setting an anchor does not change the name of the state. -/
@[simp] theorem setAnchor_currentName (s : StateStack) (p : Nat) :
    (s.setAnchor p).currentName = s.currentName := rfl

/-- A stack stays well formed when an anchor is set. -/
theorem Valid.setAnchor (h : s.Valid) (p : Nat) : (s.setAnchor p).Valid :=
  ⟨h.resolved, h.stack_lt, by simp [StateStack.setAnchor, h.anchors_length]⟩

/-- The anchor that was set is the current one. -/
theorem Valid.anchor_setAnchor (h : s.Valid) (p : Nat) : (s.setAnchor p).anchor = p := by
  have hlt : s.current < s.anchors.length := h.anchors_length ▸ h.current_lt
  rw [anchor, anchorOf, setAnchor_current]
  simp [StateStack.setAnchor, hlt]

/-- The anchor of the current state is one of the anchors. -/
theorem Valid.anchor_mem (h : s.Valid) : s.anchor ∈ s.anchors := by
  have hlt : s.current < s.anchors.length := h.anchors_length ▸ h.current_lt
  rw [anchor, anchorOf, List.getD_eq_getElem?_getD, List.getElem?_eq_getElem hlt]
  exact List.getElem_mem hlt

/-- Setting an anchor brings in no anchor but the new one. -/
theorem mem_anchors_setAnchor {a p : Nat} (h : a ∈ (s.setAnchor p).anchors) :
    a = p ∨ a ∈ s.anchors :=
  (List.mem_or_eq_of_mem_set h).symm

/-! ### Switches -/

/-- A stack that differs from another by pushes and pops that succeeded. -/
inductive Switched (s : StateStack) : StateStack → Prop
  | refl : Switched s s
  | push {t u : StateStack} {name : String} : Switched s t → t.push name = .ok u → Switched s u
  | pop {t u : StateStack} : Switched s t → t.pop = .ok u → Switched s u

/-- What a push that succeeds does. -/
theorem push_ok {name : String} (h : s.push name = .ok t) :
    ∃ state, s.names.lookup? name = some state ∧
      t = { s with stack := state :: s.stack }.setAnchor s.anchor := by
  rw [push] at h
  split at h
  · exact absurd h (by simp)
  · split at h
    · exact absurd h (by simp)
    · next state hstate => exact ⟨state, hstate, (Except.ok.inj h).symm⟩

/-- What a pop that succeeds does. -/
theorem pop_ok (h : s.pop = .ok t) :
    ∃ top rest, s.stack = top :: rest ∧ t = { s with stack := rest }.setAnchor s.anchor := by
  rw [pop] at h
  split at h
  · exact absurd h (by simp)
  · next top rest hstack => exact ⟨top, rest, hstack, (Except.ok.inj h).symm⟩

/-- One switch: another stack in order over the same table, in which the current anchor goes
along. -/
structure Moved (s t : StateStack) : Prop where
  valid : t.Valid
  names : t.names = s.names
  anchor : t.anchor = s.anchor
  anchors : ∀ a ∈ t.anchors, a ∈ s.anchors

/-- Moves can be put together. -/
theorem Moved.trans {u : StateStack} (h₁ : Moved s t) (h₂ : Moved t u) : Moved s u :=
  ⟨h₂.valid, h₂.names.trans h₁.names, h₂.anchor.trans h₁.anchor,
    fun a ha => h₁.anchors a (h₂.anchors a ha)⟩

/-- Changing the stack to one of states that exist, and carrying the anchor along, is a move. -/
theorem Valid.moved (h : s.Valid) {stack : List Nat}
    (hstack : ∀ state ∈ stack, state < s.names.count) :
    Moved s ({ s with stack := stack }.setAnchor s.anchor) := by
  have hvalid : { s with stack := stack }.Valid := ⟨h.resolved, hstack, h.anchors_length⟩
  refine ⟨hvalid.setAnchor _, rfl, hvalid.anchor_setAnchor _, ?_⟩
  intro a ha
  rcases mem_anchors_setAnchor ha with rfl | ha
  · exact h.anchor_mem
  · exact ha

/-- **Entering a state is a move**: the anchor is carried into the state that is entered. -/
theorem Valid.moved_push (h : s.Valid) {name : String} (hp : s.push name = .ok t) :
    Moved s t := by
  obtain ⟨state, hstate, rfl⟩ := push_ok hp
  exact h.moved (List.forall_mem_cons.mpr ⟨StateNames.lookup?_lt h.resolved hstate, h.stack_lt⟩)

/-- **Leaving a state is a move** as well. -/
theorem Valid.moved_pop (h : s.Valid) (hp : s.pop = .ok t) : Moved s t := by
  obtain ⟨top, rest, hstack, rfl⟩ := pop_ok hp
  exact h.moved fun state hstate => h.stack_lt state (by simp [hstack, hstate])

/-- Any sequence of switches is like one. -/
theorem Valid.moved_switched (h : s.Valid) (hs : Switched s t) : Moved s t := by
  induction hs with
  | refl => exact ⟨h, rfl, rfl, fun _ ha => ha⟩
  | push _ hp ih => exact ih.trans (ih.valid.moved_push hp)
  | pop _ hp ih => exact ih.trans (ih.valid.moved_pop hp)

end StateStack

end ModalLex
