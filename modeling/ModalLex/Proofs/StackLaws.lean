import Mathlib.Data.List.Infix
import ModalLex.Lexer
import ModalLex.Proofs.StateStack

/-!
# The Laws of the State Stack

Whoever holds a stack calls it to push a state by any name, to pop, and to set the current anchor,
in any order; a call that is refused leaves the stack as it is. `Performed` lists all that one call
can do, with the guards of each case, and every law is read off that list: the laws of one call at
once, the laws of a sequence of calls by induction on the calls.

A state that is stacked several times has one anchor, so an anchor is not restored by going back:
what goes back and forth is the *value* of the current anchor, which every switch carries along.
That is why the anchor after a sequence only depends on what was set in it last, and why the stack
after it only depends on how its switches are nested.

## Main results

* `performed`: what a call does.
* `Stacked.performed`, `Stacked.switched`: what every call preserves, and what a switch carries
  along.
* `stack_performAll`: what a sequence leaves of the stack it started with.
* `Stacked.anchor_performAll`: **the last anchor set stays the current one**.
* `state_stack_laws`: the laws, for every stack that a resolved table gives rise to.
-/

namespace ModalLex

/-- A call to a stack. -/
inductive StackCall where
  | push (name : String)
  | pop
  | setAnchor (offset : Nat)
deriving DecidableEq, Repr

namespace StackCall

/-- Whether a call is a push. -/
def isPush : StackCall → Bool
  | .push _ => true
  | _ => false

/-- Whether a call is a pop. -/
def isPop : StackCall → Bool
  | .pop => true
  | _ => false

/-- The anchor that a call sets. -/
def offset? : StackCall → Option Nat
  | .setAnchor offset => some offset
  | _ => none

/-- The number of pushes among calls. -/
def pushes (calls : List StackCall) : Nat := calls.countP isPush

/-- The number of pops among calls. -/
def pops (calls : List StackCall) : Nat := calls.countP isPop

variable {name : String} {offset room : Nat} {calls : List StackCall}

/-- A push is counted as one. -/
@[simp] theorem pushes_push : pushes (.push name :: calls) = pushes calls + 1 :=
  List.countP_cons_of_pos rfl

/-- A pop is no push. -/
@[simp] theorem pushes_pop : pushes (.pop :: calls) = pushes calls :=
  List.countP_cons_of_neg Bool.false_ne_true

/-- Setting an anchor is no push. -/
@[simp] theorem pushes_setAnchor : pushes (.setAnchor offset :: calls) = pushes calls :=
  List.countP_cons_of_neg Bool.false_ne_true

/-- A push is no pop. -/
@[simp] theorem pops_push : pops (.push name :: calls) = pops calls :=
  List.countP_cons_of_neg Bool.false_ne_true

/-- A pop is counted as one. -/
@[simp] theorem pops_pop : pops (.pop :: calls) = pops calls + 1 :=
  List.countP_cons_of_pos rfl

/-- Setting an anchor is no pop. -/
@[simp] theorem pops_setAnchor : pops (.setAnchor offset :: calls) = pops calls :=
  List.countP_cons_of_neg Bool.false_ne_true

/-- Calls that at no time have popped more than they pushed and what there was `room` for. -/
def Within (room : Nat) (calls : List StackCall) : Prop :=
  ∀ before ∈ calls.inits, pops before ≤ room + pushes before

/-- Calls that at no time have popped more than they pushed, and have popped as much in the end. -/
structure Balanced (calls : List StackCall) : Prop where
  above : ∀ before ∈ calls.inits, pops before ≤ pushes before
  level : pops calls = pushes calls

/-- Balanced calls need no room. -/
theorem Balanced.within (h : Balanced calls) : Within 0 calls := by
  intro before hbefore
  rw [Nat.zero_add]
  exact h.above before hbefore

/-- What comes before in the other calls comes before in all, behind the first. -/
theorem mem_inits_cons {call : StackCall} {before : List StackCall} (h : before ∈ calls.inits) :
    call :: before ∈ (call :: calls).inits := by
  rw [List.mem_inits] at h ⊢
  exact List.cons_prefix_cons.mpr ⟨rfl, h⟩

/-- Behind a push there is room for one more pop. -/
theorem Within.push (h : Within room (.push name :: calls)) : Within (room + 1) calls := by
  intro before hbefore
  have hbound := h _ (mem_inits_cons hbefore)
  rw [pops_push, pushes_push] at hbound
  omega

/-- A pop takes room that there was. -/
theorem Within.pop (h : Within room (.pop :: calls)) :
    ∃ left, room = left + 1 ∧ Within left calls := by
  have hone := h _ (mem_inits_cons ((List.mem_inits _ _).mpr List.nil_prefix))
  rw [pops_pop, pushes_pop] at hone
  have hroom : room = room - 1 + 1 := by
    simp only [pops, pushes, List.countP_nil] at hone
    omega
  refine ⟨room - 1, hroom, ?_⟩
  intro before hbefore
  have hbound := h _ (mem_inits_cons hbefore)
  rw [pops_pop, pushes_pop] at hbound
  omega

/-- An anchor needs no room. -/
theorem Within.setAnchor (h : Within room (.setAnchor offset :: calls)) : Within room calls := by
  intro before hbefore
  have hbound := h _ (mem_inits_cons hbefore)
  rwa [pops_setAnchor, pushes_setAnchor] at hbound

end StackCall

namespace StateStack

variable {s t : StateStack}

/-- What a switch that may be refused leaves: a refusal leaves the stack as it is. -/
def settle (s : StateStack) : Except StateError StateStack → Except StateError Unit × StateStack
  | .ok t => (.ok (), t)
  | .error e => (.error e, s)

/-- Carries out one call: its reply, and the stack it leaves. -/
def perform (s : StateStack) : StackCall → Except StateError Unit × StateStack
  | .push name => s.settle (s.push name)
  | .pop => s.settle s.pop
  | .setAnchor offset => (.ok (), s.setAnchor offset)

/-- Carries out calls one after the other. -/
def performAll (s : StateStack) : List StackCall → StateStack
  | [] => s
  | call :: calls => (s.perform call).2.performAll calls

/-- The calls of a sequence that are not refused. -/
def granted (s : StateStack) : List StackCall → List StackCall
  | [] => []
  | call :: calls =>
    match s.perform call with
    | (.ok (), t) => call :: t.granted calls
    | (.error _, t) => t.granted calls

/-- The questions of hooks about states are such calls. -/
theorem answerSwitch_push (name : String) (s : Lexer.Switching) :
    (Lexer.answerSwitch (.push name) s).1 = (s.stack.perform (.push name)).1 ∧
      (Lexer.answerSwitch (.push name) s).2.stack = (s.stack.perform (.push name)).2 := by
  simp only [Lexer.answerSwitch, perform]
  cases s.stack.push name <;> exact ⟨rfl, rfl⟩

/-- So is the question to leave a state. -/
theorem answerSwitch_pop (s : Lexer.Switching) :
    (Lexer.answerSwitch .pop s).1 = (s.stack.perform .pop).1 ∧
      (Lexer.answerSwitch .pop s).2.stack = (s.stack.perform .pop).2 := by
  simp only [Lexer.answerSwitch, perform]
  cases s.stack.pop <;> exact ⟨rfl, rfl⟩

/-! ### One call -/

/-- The states of a stack changed, and the current anchor carried along. -/
def switchTo (s : StateStack) (stack : List Nat) : StateStack :=
  { s with stack }.setAnchor s.anchor

/-- Switching to a stack gives this stack. -/
@[simp] theorem switchTo_stack (s : StateStack) (stack : List Nat) :
    (s.switchTo stack).stack = stack := rfl

/-- All that a call can do: the call, its reply and the stack it leaves. -/
inductive Performed (s : StateStack) :
    StackCall → Except StateError Unit → StateStack → Prop
  | pushed {name : String} {state : Nat} : name ≠ s.names.baseName →
      s.names.lookup? name = some state →
      Performed s (.push name) (.ok ()) (s.switchTo (state :: s.stack))
  | popped {top : Nat} {rest : List Nat} : s.stack = top :: rest →
      Performed s .pop (.ok ()) (s.switchTo rest)
  | set {offset : Nat} : Performed s (.setAnchor offset) (.ok ()) (s.setAnchor offset)
  | base {name : String} : name = s.names.baseName →
      Performed s (.push name) (.error (.pushBase name)) s
  | unknown {name : String} : name ≠ s.names.baseName → s.names.lookup? name = none →
      Performed s (.push name) (.error (.unknown name)) s
  | empty : s.stack = [] → Performed s .pop (.error .popEmpty) s

/-- **What a call does.** -/
theorem performed (s : StateStack) (call : StackCall) :
    Performed s call (s.perform call).1 (s.perform call).2 := by
  cases call with
  | push name =>
      rw [perform, push]
      by_cases hbase : name = s.names.baseName
      · rw [if_pos hbase]
        exact .base hbase
      · rw [if_neg hbase]
        cases hfound : s.names.lookup? name with
        | none => exact .unknown hbase hfound
        | some state => exact .pushed hbase hfound
  | pop =>
      rw [perform, pop]
      cases hstack : s.stack with
      | nil => exact .empty hstack
      | cons top rest => exact .popped hstack
  | setAnchor offset => exact .set

/-- A call that is refused leaves the stack and all anchors. -/
theorem Performed.refused {call : StackCall} {e : StateError}
    (h : Performed s call (.error e) t) : t = s := by
  cases h <;> rfl

/-! ### Anchors of one switch -/

/-- A switch to states that exist leaves a well formed stack with the same current anchor. -/
theorem Valid.switchTo (h : s.Valid) {stack : List Nat}
    (hstack : ∀ state ∈ stack, state < s.names.count) :
    (s.switchTo stack).Valid ∧ (s.switchTo stack).anchor = s.anchor :=
  have hmoved := h.moved hstack
  ⟨hmoved.valid, hmoved.anchor⟩

/-- Setting an anchor changes that of the current state alone. -/
theorem anchorOf_setAnchor {state : Nat} (h : state ≠ s.current) (offset : Nat) :
    (s.setAnchor offset).anchorOf state = s.anchorOf state := by
  rw [anchorOf, anchorOf, StateStack.setAnchor, List.getD_eq_getElem?_getD,
    List.getD_eq_getElem?_getD, List.getElem?_set_ne (Ne.symm h)]

/-- Only the anchor of the state that becomes the current one changes. -/
theorem anchorOf_switchTo {stack : List Nat} {state : Nat}
    (h : state ≠ (s.switchTo stack).current) :
    (s.switchTo stack).anchorOf state = s.anchorOf state :=
  anchorOf_setAnchor (s := { s with stack }) h s.anchor

/-! ### Stacks of a resolved table -/

/-- A stack that a table with these names can have: in order, and without the base state. -/
structure Stacked (names : StateNames) (s : StateStack) : Prop where
  names_eq : s.names = names
  valid : s.Valid
  above : ∀ state ∈ s.stack, state ≠ names.base

variable {names : StateNames}

/-- The stack of a fresh run is one of the table. -/
theorem stacked_start (h : names.Resolved) (offset : Nat) :
    Stacked names (start names offset) :=
  ⟨rfl, valid_start h offset, by simp [start]⟩

/-- A state that is found by another name than that of the base state is not the base state. -/
theorem ne_base_of_lookup? (hnames : names.Resolved) {name : String} {state : Nat}
    (hne : name ≠ names.baseName) (h : names.lookup? name = some state) : state ≠ names.base := by
  rintro rfl
  exact hne (StateNames.name_of_lookup? hnames h).symm

/-- No call leads out of the stacks of a table. -/
theorem Stacked.performed {call : StackCall} {reply : Except StateError Unit}
    (h : Stacked names s) (hp : Performed s call reply t) : Stacked names t := by
  obtain ⟨rfl, hvalid, habove⟩ := h
  cases hp with
  | pushed hne hfound =>
      refine ⟨rfl, (hvalid.switchTo ?_).1, ?_⟩
      · exact List.forall_mem_cons.mpr
          ⟨StateNames.lookup?_lt hvalid.resolved hfound, hvalid.stack_lt⟩
      · exact List.forall_mem_cons.mpr ⟨ne_base_of_lookup? hvalid.resolved hne hfound, habove⟩
  | popped hstack =>
      refine ⟨rfl, (hvalid.switchTo ?_).1, ?_⟩
      · exact fun state hmem => hvalid.stack_lt state (by simp [hstack, hmem])
      · exact fun state hmem => habove state (hstack ▸ List.mem_cons_of_mem _ hmem)
  | set => exact ⟨rfl, hvalid.setAnchor _, habove⟩
  | base _ => exact ⟨rfl, hvalid, habove⟩
  | unknown _ _ => exact ⟨rfl, hvalid, habove⟩
  | empty _ => exact ⟨rfl, hvalid, habove⟩

/-- **Every list of calls leaves a stack of the table**, by induction on the calls. -/
theorem Stacked.performAll (h : Stacked names s) (calls : List StackCall) :
    Stacked names (s.performAll calls) := by
  induction calls generalizing s with
  | nil => exact h
  | cons call calls ih => exact ih (h.performed (s.performed call))

/-- The base state is current exactly while nothing is stacked. -/
theorem Stacked.current_eq_base_iff (h : Stacked names s) :
    s.current = names.base ↔ s.depth = 0 := by
  rw [current, depth, h.names_eq]
  cases hstack : s.stack with
  | nil => simp
  | cons top rest =>
      have hne := h.above top (by simp [hstack])
      simp [hne]

/-- A switch that succeeds carries the current anchor along, and leaves the anchors of all states
but that which it makes current. -/
theorem Stacked.switched {call : StackCall} (h : Stacked names s)
    (hp : Performed s call (.ok ()) t) (hcall : call.isPush ∨ call.isPop) :
    t.anchor = s.anchor ∧ ∀ state, state ≠ t.current → t.anchorOf state = s.anchorOf state := by
  cases hp with
  | pushed _ hfound =>
      refine ⟨(h.valid.switchTo ?_).2, fun state => anchorOf_switchTo⟩
      exact List.forall_mem_cons.mpr
        ⟨StateNames.lookup?_lt h.valid.resolved hfound, h.valid.stack_lt⟩
  | popped hstack =>
      refine ⟨(h.valid.switchTo ?_).2, fun state => anchorOf_switchTo⟩
      exact fun state hmem => h.valid.stack_lt state (by simp [hstack, hmem])
  | set => simp [StackCall.isPush, StackCall.isPop] at hcall

/-- A call that sets no anchor carries the current one along, also if it is refused. -/
theorem Stacked.anchor_eq {call : StackCall} {reply : Except StateError Unit}
    (h : Stacked names s) (hp : Performed s call reply t) (hcall : call.offset? = none) :
    t.anchor = s.anchor := by
  cases hp with
  | pushed hne hfound => exact (h.switched (.pushed hne hfound) (.inl rfl)).1
  | popped hstack => exact (h.switched (.popped hstack) (.inr rfl)).1
  | set => simp [StackCall.offset?] at hcall
  | base _ => rfl
  | unknown _ _ => rfl
  | empty _ => rfl

/-! ### Sequences of calls -/

/-- **The last anchor set stays the current one**, whatever is pushed, popped or refused. -/
theorem Stacked.anchor_performAll (h : Stacked names s) (calls : List StackCall) :
    (s.performAll calls).anchor = (calls.filterMap StackCall.offset?).getLast?.getD s.anchor := by
  induction calls generalizing s with
  | nil => rfl
  | cons call calls ih =>
      have hp := s.performed call
      rw [StateStack.performAll, ih (h.performed hp)]
      cases hcall : call.offset? with
      | some offset =>
          cases call with
          | push _ | pop => simp [StackCall.offset?] at hcall
          | setAnchor p => simp [StackCall.offset?, perform, h.valid.anchor_setAnchor,
              List.getLast?_cons]
      | none => rw [h.anchor_eq hp hcall, List.filterMap_cons_none hcall]

/-- A call that succeeds is granted. -/
theorem granted_cons_ok {call : StackCall} (h : s.perform call = (.ok (), t))
    (calls : List StackCall) : s.granted (call :: calls) = call :: t.granted calls := by
  rw [granted, h]

/-- A call that fails is left out. -/
theorem granted_cons_error {call : StackCall} {e : StateError}
    (h : s.perform call = (.error e, t)) (calls : List StackCall) :
    s.granted (call :: calls) = t.granted calls := by
  rw [granted, h]

/-- **What a sequence leaves of the stack.** As long as no more is popped than `upper` and what the
sequence itself has pushed, the states of `lower` stay, and above them there are as many as the
numbers of pushes and pops tell. -/
theorem stack_performAll {upper lower : List Nat} (hstack : s.stack = upper ++ lower)
    {calls : List StackCall} (h : StackCall.Within upper.length (s.granted calls)) :
    ∃ left, (s.performAll calls).stack = left ++ lower ∧
      left.length + StackCall.pops (s.granted calls) =
        upper.length + StackCall.pushes (s.granted calls) := by
  induction calls generalizing s upper with
  | nil => exact ⟨upper, hstack, rfl⟩
  | cons call calls ih =>
      have hp := s.performed call
      rw [performAll]
      cases hperform : s.perform call with
      | mk reply t =>
          rw [hperform] at hp
          dsimp only at hp
          cases hp with
          | @pushed name state _ _ =>
              rw [granted_cons_ok hperform] at h ⊢
              have hnext : (s.switchTo (state :: s.stack)).stack = (state :: upper) ++ lower := by
                rw [switchTo_stack, hstack, List.cons_append]
              obtain ⟨left, hleft, hcount⟩ := ih hnext h.push
              refine ⟨left, hleft, ?_⟩
              rw [StackCall.pops_push, StackCall.pushes_push]
              rw [List.length_cons] at hcount
              omega
          | @popped top rest htop =>
              rw [granted_cons_ok hperform] at h ⊢
              obtain ⟨room, hroom, hwithin⟩ := h.pop
              obtain ⟨state, upper, rfl⟩ := List.exists_cons_of_length_eq_add_one hroom
              rw [hstack, List.cons_append] at htop
              obtain rfl : upper.length = room := Nat.succ.inj hroom
              have hnext : (s.switchTo rest).stack = upper ++ lower := (List.cons.inj htop).2.symm
              obtain ⟨left, hleft, hcount⟩ := ih hnext hwithin
              refine ⟨left, hleft, ?_⟩
              rw [StackCall.pops_pop, StackCall.pushes_pop, List.length_cons]
              omega
          | set =>
              rw [granted_cons_ok hperform] at h ⊢
              rw [StackCall.pops_setAnchor, StackCall.pushes_setAnchor]
              exact ih hstack h.setAnchor
          | base _ | unknown _ _ | empty _ =>
              rw [granted_cons_error hperform] at h ⊢
              exact ih hstack h

/-- A balanced sequence leaves the stack that there was. -/
theorem stack_of_balanced {calls : List StackCall}
    (h : StackCall.Balanced (s.granted calls)) : (s.performAll calls).stack = s.stack := by
  have hnone : s.stack = [] ++ s.stack := rfl
  obtain ⟨left, hleft, hcount⟩ := stack_performAll hnone h.within
  rw [h.level] at hcount
  obtain rfl : left = [] := List.eq_nil_of_length_eq_zero (Nat.add_right_cancel hcount)
  exact hleft

/-! ### The laws -/

/-- What can be relied on of a stack that a table gave rise to. -/
structure Lawful {ρ : Type} (table : StateTable ρ) (base : String) (names : StateNames)
    (s : StateStack) : Prop where
  /-- Only declared states are stacked, and never the base state. -/
  stacked : ∀ state ∈ s.stack, state ≠ names.base ∧
    ∃ name rules, table.entries[state]? = some (some name, rules)
  current_eq_base_iff : s.current = names.base ↔ s.depth = 0
  /-- When a push is refused, and why. -/
  push_reply : ∀ name, (s.perform (.push name)).1 =
    if name = base then .error (.pushBase name)
    else if name ∈ table.effectiveNames base then .ok ()
    else .error (.unknown name)
  /-- When a pop is refused. -/
  pop_reply : (s.perform .pop).1 = if s.stack = [] then .error .popEmpty else .ok ()
  /-- A refusal leaves the stack and every anchor. -/
  refused : ∀ call e, (s.perform call).1 = .error e → (s.perform call).2 = s
  /-- A switch that succeeds carries the current anchor along and leaves the others. -/
  switched : ∀ call, call.isPush ∨ call.isPop → (s.perform call).1 = .ok () →
    (s.perform call).2.anchor = s.anchor ∧
      ∀ state, state ≠ (s.perform call).2.current →
        (s.perform call).2.anchorOf state = s.anchorOf state
  /-- A balanced sequence leaves the stack that there was, and the anchor that was set last. -/
  balanced : ∀ calls, StackCall.Balanced (s.granted calls) →
    (s.performAll calls).stack = s.stack ∧
      (s.performAll calls).anchor = (calls.filterMap StackCall.offset?).getLast?.getD s.anchor

variable {ρ : Type} {table : StateTable ρ} {base : String} {rules : List (List ρ)}

/-- The base state has the name that the table was resolved for. -/
theorem baseName_of_resolve (h : table.resolve base = .ok (names, rules)) :
    names.baseName = base := by
  obtain ⟨-, -, hnames, hbase⟩ := StateTable.resolve_ok h
  exact StateNames.name_of_lookup? hnames hbase

/-- Every state of a table but the base state is declared under a name of its own. -/
theorem declared_of_ne_base (h : table.resolve base = .ok (names, rules)) {state : Nat}
    (hlt : state < names.count) (hne : state ≠ names.base) :
    ∃ name own, table.entries[state]? = some (some name, own) := by
  obtain ⟨hnames, -, hresolved, hbase⟩ := StateTable.resolve_ok h
  have hname := StateNames.getElem?_eq_name hlt
  have hother : names.name state ≠ base := by
    intro heq
    have hfound := (StateNames.lookup?_eq_some_iff hresolved).mpr ⟨hlt, heq⟩
    exact hne (Option.some.inj (hfound.symm.trans hbase))
  rw [hnames, StateTable.effectiveNames, List.getElem?_map] at hname
  obtain ⟨⟨declared, own⟩, hentry, hown⟩ := Option.map_eq_some_iff.mp hname
  cases declared with
  | none => exact absurd hown.symm hother
  | some name => exact ⟨name, own, hentry⟩

/-- A push is refused for the base name first, and else for a name that is not declared. -/
theorem Stacked.push_reply (h : Stacked names s)
    (hresolve : table.resolve base = .ok (names, rules)) (name : String) :
    (s.perform (.push name)).1 =
      if name = base then .error (.pushBase name)
      else if name ∈ table.effectiveNames base then .ok ()
      else .error (.unknown name) := by
  obtain ⟨hnames, -, -, -⟩ := StateTable.resolve_ok hresolve
  rw [← hnames, ← baseName_of_resolve hresolve, ← h.names_eq]
  have hp := s.performed (.push name)
  generalize (s.perform (.push name)).1 = reply at hp ⊢
  generalize (s.perform (.push name)).2 = t at hp
  cases hp with
  | pushed hne hfound =>
      have hmem : name ∈ s.names.names := by
        by_contra hnot
        rw [(StateNames.lookup?_eq_none_iff h.valid.resolved).mpr hnot] at hfound
        cases hfound
      rw [if_neg hne, if_pos hmem]
  | base heq => rw [if_pos heq]
  | unknown hne hfound =>
      have hnot := (StateNames.lookup?_eq_none_iff h.valid.resolved).mp hfound
      rw [if_neg hne, if_neg hnot]

/-- A pop is refused exactly by the empty stack. -/
theorem pop_reply (s : StateStack) :
    (s.perform .pop).1 = if s.stack = [] then .error .popEmpty else .ok () := by
  have hp := s.performed .pop
  generalize (s.perform .pop).1 = reply at hp ⊢
  generalize (s.perform .pop).2 = t at hp
  cases hp with
  | popped hstack => rw [if_neg (by simp [hstack])]
  | empty hstack => rw [if_pos hstack]

/-- **The laws of the state stack.** Take the stack that a run over any resolved table starts with,
at any offset, and let any calls be made to it. The stack they leave only holds declared states
other than the base state, which is current exactly at depth 0. A push is refused exactly for the
base name, which comes first, and for names that are not declared; a pop exactly by the empty
stack; and a refusal changes nothing. A switch that succeeds keeps the value of the current anchor
and changes at most the anchor of the state that becomes current. Calls of which those that were
granted are balanced leave the stack as it was, and as its anchor the last one they set, or else the
one there was. -/
theorem state_stack_laws (hresolve : table.resolve base = .ok (names, rules)) (offset : Nat)
    (calls : List StackCall) :
    Lawful table base names ((start names offset).performAll calls) := by
  obtain ⟨-, -, hnames, -⟩ := StateTable.resolve_ok hresolve
  have hs : Stacked names ((start names offset).performAll calls) :=
    (stacked_start hnames offset).performAll calls
  generalize (start names offset).performAll calls = s at hs ⊢
  constructor
  · intro state hmem
    have hdeclared : state < names.count := hs.names_eq ▸ hs.valid.stack_lt state hmem
    exact ⟨hs.above state hmem, declared_of_ne_base hresolve hdeclared (hs.above state hmem)⟩
  · exact hs.current_eq_base_iff
  · exact hs.push_reply hresolve
  · exact s.pop_reply
  · intro call e hreply
    exact (hreply ▸ s.performed call).refused
  · intro call hcall hreply
    exact hs.switched (hreply ▸ s.performed call) hcall
  · intro later hlater
    exact ⟨stack_of_balanced hlater, hs.anchor_performAll later⟩

/-- The calls of a sequence in which one state is stacked twice, the base name and a name that is
not declared are refused, and an anchor is set at depth 2. -/
def nestedCalls : List StackCall :=
  [.push "inner", .push "start", .push "inner", .setAnchor 7, .push "outer", .pop, .pop]

/-- From one state down the same state is stacked twice more and left again: the stack is as before,
and goes on at the anchor that was set on top. -/
theorem state_stack_laws_nested :
    ∃ names : StateNames,
      (⟨[(none, []), (some "inner", [])]⟩ : StateTable Unit).resolve "start" =
        .ok (names, [[], []]) ∧
      ∃ s : StateStack, s = (start names 3).performAll [.push "inner"] ∧ s.anchor = 3 ∧
        s.stack = [1] ∧ (s.granted nestedCalls).length = 5 ∧
        (s.performAll nestedCalls).stack = [1] ∧ (s.performAll nestedCalls).anchor = 7 := by
  have hresolve : (⟨[(none, []), (some "inner", [])]⟩ : StateTable Unit).resolve "start" =
      .ok (⟨["start", "inner"], ⟨[("inner", 1), ("start", 0)]⟩, 0⟩, [[], []]) := by
    decide +kernel
  have hlaws := state_stack_laws hresolve 3 [.push "inner"]
  have hbalanced : StackCall.Balanced
      (((start ⟨["start", "inner"], ⟨[("inner", 1), ("start", 0)]⟩, 0⟩ 3).performAll
        [.push "inner"]).granted nestedCalls) :=
    ⟨by decide +kernel, by decide +kernel⟩
  obtain ⟨hstack, hanchor⟩ := hlaws.balanced nestedCalls hbalanced
  refine ⟨_, hresolve, _, rfl, by decide +kernel, by decide +kernel, by decide +kernel, ?_, ?_⟩
  · rw [hstack]
    decide +kernel
  · rw [hanchor]
    decide +kernel

end StateStack

end ModalLex
