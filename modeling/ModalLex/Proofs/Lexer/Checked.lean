import ModalLex.Proofs.Lexer.Run

/-!
# No Slice or Index Out of Range

The functions of the engine are total: a slice between offsets that are not boundaries is rounded,
and an index that is out of range is answered with a default. The engine defined here **stops**
instead. Every slice asks that its ends are boundaries of the text in order, every index that it
is in range, and a hook that extends a token is checked at every question for the text and the
rest that it may read. On every stream that a run can reach it does not stop, and it answers what
the engine answers; so no answer of the engine is owed to rounding or to a default.

## Main results

* `Alternation.build_matchAt`: a match of a built alternation has a rule that exists and a span in
  order.
* `Ready.attempt?_eq`, `Rested.pull?_eq`: an attempt and a pull are in range.
* `slices_and_indices_in_range`: **no slice and no index of a run is out of range.**
-/

namespace ModalLex

/-! ### Texts and windows -/

/-- The part of a text between two offsets, which have to be boundaries in order. -/
def Text.slice? (t : Text) (start stop : Nat) : Option Text :=
  if start ≤ stop ∧ t.isBoundary start = true ∧ t.isBoundary stop = true then
    some (t.slice start stop)
  else none

/-- Between boundaries in order the slice is the one that is never refused. -/
theorem Text.slice?_eq {t : Text} {start stop : Nat} (hle : start ≤ stop)
    (hstart : t.isBoundary start = true) (hstop : t.isBoundary stop = true) :
    t.slice? start stop = some (t.slice start stop) := if_pos ⟨hle, hstart, hstop⟩

/-- The rest of a text from a boundary on can be taken. -/
theorem Text.slice?_rest {t : Text} {start : Nat} (hstart : t.isBoundary start = true) :
    t.slice? start t.byteLength = some (t.dropBytes start) := by
  rw [slice?_eq (le_byteLength_of_isBoundary hstart) hstart (isBoundary_byteLength t),
    slice_byteLength hstart]

namespace Window

/-- The character at the cursor. -/
def peek? (w : Window) : Option (Option Char) := do
  let rest ← w.input.slice? w.cursor w.input.byteLength
  return rest.head?

/-- Steps over one character. -/
def next? (w : Window) : Option (Option Char × Window) := do
  match ← w.peek? with
  | none => return (none, w)
  | some c => return (some c, { w with cursor := w.cursor + c.utf8Size })

/-- Steps back over characters one by one. Each step looks at the text before it. -/
def stepBack? (input : Text) (boundary : Nat) : (count target : Nat) → Option (Option Nat)
  | 0, target => some (some target)
  | count + 1, target => do
    let before ← input.slice? 0 target
    match before.getLast? with
    | none => return none
    | some c =>
      if target < c.utf8Size then none
      else if target - c.utf8Size < boundary then return none
      else stepBack? input boundary count (target - c.utf8Size)

/-- Steps back over some characters. -/
def back? (w : Window) (count : Nat) : Option (Except CursorError Window) := do
  match ← stepBack? w.input w.boundary count w.cursor with
  | some target => return .ok { w with cursor := target }
  | none => return .error (.beforeBoundary w.cursor count w.boundary)

variable {w : Window}

/-- Looking at the next character is in range. -/
theorem Within.peek?_eq (h : w.Within) : w.peek? = some w.peek := by
  rw [peek?, Text.slice?_rest h.cursor_isBoundary]
  rfl

/-- Stepping over a character is in range. -/
theorem Within.next?_eq (h : w.Within) : w.next? = some w.next := by
  rw [next?, h.peek?_eq, Window.next]
  cases w.peek <;> rfl

/-- `before` is what lies before the target, in reverse. -/
theorem stepBack?_eq {input : Text} (boundary count : Nat) (before back : Text)
    (hinput : input = before.reverse ++ back) :
    stepBack? input boundary count (Text.byteLength before.reverse) =
      some (stepBack boundary before count (Text.byteLength before.reverse)) := by
  induction count generalizing before back with
  | zero => cases before <;> rfl
  | succ count ih =>
      have hboundary : input.isBoundary (Text.byteLength before.reverse) = true :=
        Text.isBoundary_iff.mpr ⟨before.reverse, back, hinput, rfl⟩
      have hslice : input.slice? 0 (Text.byteLength before.reverse) = some before.reverse := by
        rw [Text.slice?_eq (Nat.zero_le _) (Text.isBoundary_zero input) hboundary, hinput]
        simpa using Text.slice_append [] before.reverse back
      rw [stepBack?, hslice]
      cases before with
      | nil => rfl
      | cons c before =>
          have hlength : Text.byteLength (c :: before).reverse =
              Text.byteLength before.reverse + c.utf8Size := by
            simp
          have hnot : ¬Text.byteLength before.reverse + c.utf8Size < c.utf8Size := by omega
          have hnext := ih before (c :: back) (by simp [hinput])
          rw [hlength, stepBack, Nat.add_sub_cancel]
          simp only [List.reverse_cons, Option.bind_eq_bind, Option.bind_some,
            List.getLast?_append, List.getLast?_singleton, Option.some_or, if_neg hnot,
            Nat.add_sub_cancel, hnext]
          split <;> rfl

/-- Going back is in range: every step looks at the text before a boundary. -/
theorem Within.back?_eq (h : w.Within) (count : Nat) : w.back? count = some (w.back count) := by
  obtain ⟨front, back, hinput, hcursor⟩ := Text.isBoundary_iff.mp h.cursor_isBoundary
  have hreverse : w.input = front.reverse.reverse ++ back := by rw [hinput, List.reverse_reverse]
  have hstep := stepBack?_eq w.boundary count front.reverse back hreverse
  rw [List.reverse_reverse, hcursor] at hstep
  have htake : w.input.takeBytes w.cursor = front := by
    rw [hinput, ← hcursor, Text.takeBytes_append]
  rw [back?, hstep, Window.back, htake]
  cases stepBack w.boundary (List.reverse front) count w.cursor <;> rfl

end Window

/-! ### Stacks -/

namespace StateStack

/-- The name of the current state. -/
def currentName? (s : StateStack) : Option String := s.names.names[s.current]?

/-- The anchor of the current state. -/
def anchor? (s : StateStack) : Option Nat := s.anchors[s.current]?

/-- Sets the anchor of the current state. -/
def setAnchor? (s : StateStack) (offset : Nat) : Option StateStack :=
  if s.current < s.anchors.length then some (s.setAnchor offset) else none

/-- Goes on where a state stands that was current before. -/
def resume? (s : StateStack) (previous : Nat) : Option StateStack := do
  let position ← s.anchors[previous]?
  s.setAnchor? position

/-- Enters a state that is not the base state. -/
def push? (s : StateStack) (name : String) : Option (Except StateError StateStack) := do
  let base ← s.names.names[s.names.base]?
  if name = base then return .error (.pushBase name)
  else match s.names.lookup? name with
    | none => return .error (.unknown name)
    | some state =>
      let moved ← { s with stack := state :: s.stack }.resume? s.current
      return .ok moved

/-- Goes back to the state before the current one. -/
def pop? (s : StateStack) : Option (Except StateError StateStack) :=
  match s.stack with
  | [] => some (.error .popEmpty)
  | _ :: rest => do
    let moved ← { s with stack := rest }.resume? s.current
    return .ok moved

variable {s : StateStack}

/-- A state that exists has a name. -/
theorem name?_eq {names : StateNames} {state : Nat} (h : state < names.count) :
    names.names[state]? = some (names.name state) := by
  rw [StateNames.name, List.getD_eq_getElem?_getD, List.getElem?_eq_getElem h]
  rfl

/-- So has the current one. -/
theorem Valid.currentName?_eq (h : s.Valid) : s.currentName? = some s.currentName :=
  name?_eq h.current_lt

/-- The current state has an anchor. -/
theorem Valid.anchor?_eq (h : s.Valid) : s.anchor? = some s.anchor := by
  have hlt : s.current < s.anchors.length := h.anchors_length ▸ h.current_lt
  rw [anchor?, anchor, anchorOf, List.getD_eq_getElem?_getD, List.getElem?_eq_getElem hlt]
  rfl

/-- An anchor is set in range. -/
theorem Valid.setAnchor?_eq (h : s.Valid) (offset : Nat) :
    s.setAnchor? offset = some (s.setAnchor offset) :=
  if_pos (h.anchors_length ▸ h.current_lt)

/-- Carrying the anchor into another state that exists is in range. -/
theorem Valid.resume?_eq (h : s.Valid) {stack : List Nat}
    (hstack : ∀ state ∈ stack, state < s.names.count) :
    { s with stack := stack }.resume? s.current =
      some ({ s with stack := stack }.setAnchor s.anchor) := by
  have hanchor : s.anchors[s.current]? = some s.anchor := h.anchor?_eq
  have hvalid : { s with stack := stack }.Valid := ⟨h.resolved, hstack, h.anchors_length⟩
  rw [resume?, hanchor]
  exact hvalid.setAnchor?_eq s.anchor

/-- Entering a state is in range: the table gives no number beyond its states. -/
theorem Valid.push?_eq (h : s.Valid) (name : String) : s.push? name = some (s.push name) := by
  have hname : s.names.names[s.names.base]? = some s.names.baseName := name?_eq h.resolved.base_lt
  rw [push?, push, hname]
  by_cases hbase : name = s.names.baseName
  · simp only [Option.bind_eq_bind, Option.bind_some, hbase, if_true]
    rfl
  · simp only [Option.bind_eq_bind, Option.bind_some, hbase, if_false]
    cases hstate : s.names.lookup? name with
    | none => rfl
    | some state =>
        dsimp only
        rw [h.resume?_eq (List.forall_mem_cons.mpr
          ⟨StateNames.lookup?_lt h.resolved hstate, h.stack_lt⟩)]
        rfl

/-- Leaving a state is in range: only states that exist have been entered. -/
theorem Valid.pop?_eq (h : s.Valid) : s.pop? = some s.pop := by
  rw [pop?, pop]
  cases hstack : s.stack with
  | nil => rfl
  | cons top rest =>
      dsimp only
      rw [h.resume?_eq fun state hstate => h.stack_lt state (by simp [hstack, hstate])]
      rfl

end StateStack

/-! ### Hooks -/

/-- Runs a dialogue with answers that may stop. -/
def Dialogue.run? {Ask : Type} {Reply : Ask → Type} {α β : Type}
    (answer : (q : Ask) → β → Option (Reply q × β)) : Dialogue Ask Reply α → β → Option (α × β)
  | .done result, s => some (result, s)
  | .ask q next, s => do
    let (reply, s) ← answer q s
    (next reply).run? answer s

/-- Answers that do not stop, where something is kept, run a dialogue to its end. -/
theorem Dialogue.run?_eq {Ask : Type} {Reply : Ask → Type} {α β : Type}
    {answer? : (q : Ask) → β → Option (Reply q × β)} {answer : (q : Ask) → β → Reply q × β}
    (kept : β → Prop) (h : ∀ q s, kept s → answer? q s = some (answer q s))
    (hkept : ∀ q s, kept s → kept (answer q s).2) (d : Dialogue Ask Reply α) {s : β}
    (hs : kept s) : d.run? answer? s = some (d.run answer s) := by
  induction d generalizing s with
  | done result => rfl
  | ask q next ih =>
      rw [Dialogue.run?, Dialogue.run, h q s hs]
      exact ih _ (hkept q s hs)

variable {σ τ : Type}

namespace Lexer

/-- Answers a question about states. -/
def answerSwitch? : (ask : SwitchAsk) → Switching → Option (ask.Reply × Switching)
  | .push name, s => do
    match ← s.stack.push? name with
    | .error e => return (.error e, s)
    | .ok stack =>
      let anchor ← stack.anchor?
      return (.ok (), { s with
        stack, journal := s.journal.push (.pushedState name stack.depth anchor) })
  | .pop, s => do
    match ← s.stack.pop? with
    | .error e => return (.error e, s)
    | .ok stack =>
      let name ← stack.currentName?
      let anchor ← stack.anchor?
      return (.ok (), { s with
        stack, journal := s.journal.push (.poppedState name stack.depth anchor) })
  | .currentState, s => do
    let name ← s.stack.currentName?
    return (name, s)

/-- Answers a question of a `before` hook. -/
def answerBefore? : (ask : BeforeAsk) → Switching → Option (ask.Reply × Switching)
  | .switch ask, s => answerSwitch? ask s
  | .abort, s => some ((), { s with aborted := true })

/-- The text of the token so far and the rest of the input, which a `fetch` hook may read. -/
def readable? (start : Nat) (w : Window) : Option (Text × Text) := do
  let text ← w.input.slice? start w.cursor
  let rest ← w.input.slice? w.cursor w.input.byteLength
  return (text, rest)

/-- Answers a question of a `fetch` hook. -/
def moveFetch? : (ask : FetchAsk) → Window → Option (ask.Reply × Window)
  | .peek, w => do
    let c ← w.peek?
    return (c, w)
  | .next, w => w.next?
  | .back count, w => do
    match ← w.back? count with
    | .ok moved => return (.ok (), moved)
    | .error e => return (.error e, w)
  | .advanceTo offset, w =>
    match w.advanceTo offset with
    | .ok moved => some (.ok (), moved)
    | .error e => some (.error e, w)
  | .position, w => some (w.cursor, w)

/-- Answers a question of a `fetch` hook that can read its text and the rest. -/
def answerFetch? (start : Nat) (ask : FetchAsk) (w : Window) : Option (ask.Reply × Window) := do
  let _ ← readable? start w
  moveFetch? ask w

/-- What a hook asks about states is answered in range. -/
theorem answerSwitch?_eq (ask : SwitchAsk) {s : Switching} (h : s.stack.Valid) :
    answerSwitch? ask s = some (answerSwitch ask s) := by
  cases ask with
  | push name =>
      rw [answerSwitch?, answerSwitch, h.push?_eq]
      cases hpush : s.stack.push name with
      | error e => rfl
      | ok stack =>
          simp only [Option.bind_eq_bind, Option.bind_some, (h.moved_push hpush).valid.anchor?_eq]
          rfl
  | pop =>
      rw [answerSwitch?, answerSwitch, h.pop?_eq]
      cases hpop : s.stack.pop with
      | error e => rfl
      | ok stack =>
          have hvalid := (h.moved_pop hpop).valid
          simp only [Option.bind_eq_bind, Option.bind_some, hvalid.anchor?_eq,
            hvalid.currentName?_eq]
          rfl
  | currentState =>
      rw [answerSwitch?, answerSwitch, h.currentName?_eq]
      rfl

/-- So is what a hook asks before a match. -/
theorem answerBefore?_eq (ask : BeforeAsk) {s : Switching} (h : s.stack.Valid) :
    answerBefore? ask s = some (answerBefore ask s) := by
  cases ask with
  | switch ask => exact answerSwitch?_eq ask h
  | abort => rfl

/-- A hook that switches states keeps the stack in order. -/
theorem answerSwitch_valid (ask : SwitchAsk) (s : Switching) (h : s.stack.Valid) :
    (answerSwitch ask s).2.stack.Valid :=
  (h.moved_switched (answerSwitch_switched ask s .refl)).valid

/-- What a hook asks before a match leaves the stack well formed. -/
theorem answerBefore_valid (ask : BeforeAsk) (s : Switching) (h : s.stack.Valid) :
    (answerBefore ask s).2.stack.Valid :=
  (h.moved_switched (answerBefore_switched ask s .refl)).valid

/-- A window of a `fetch` hook that begins at or behind the start of the match. -/
def Readable (start : Nat) (w : Window) : Prop :=
  w.Within ∧ start ≤ w.boundary ∧ w.input.isBoundary start = true

/-- A readable window shows the text of its token and the rest. -/
theorem readable?_some {start : Nat} {w : Window} (h : Readable start w) :
    ∃ texts, readable? start w = some texts := by
  obtain ⟨hw, hle, hstart⟩ := h
  rw [readable?, Text.slice?_eq (Nat.le_trans hle hw.boundary_le) hstart hw.cursor_isBoundary,
    Text.slice?_rest hw.cursor_isBoundary]
  exact ⟨_, rfl⟩

/-- What a hook asks while it extends a token is answered in range. -/
theorem answerFetch?_eq {start : Nat} (ask : FetchAsk) (w : Window) (h : Readable start w) :
    answerFetch? start ask w = some (answerFetch ask w) := by
  obtain ⟨texts, htexts⟩ := readable?_some h
  rw [answerFetch?, htexts]
  simp only [Option.bind_eq_bind, Option.bind_some]
  cases ask with
  | peek =>
      rw [moveFetch?, h.1.peek?_eq]
      rfl
  | next => exact h.1.next?_eq
  | back count =>
      rw [moveFetch?, h.1.back?_eq, answerFetch]
      cases w.back count <;> rfl
  | advanceTo offset =>
      rw [moveFetch?, answerFetch]
      cases w.advanceTo offset <;> rfl
  | position => rfl

/-- After each question the window can be read again. -/
theorem answerFetch_readable {start : Nat} (ask : FetchAsk) (w : Window) (h : Readable start w) :
    Readable start (answerFetch ask w).2 := by
  obtain ⟨hw, hle, hstart⟩ := h
  obtain ⟨hw', hinput, hboundary⟩ := answerFetch_within ask w ⟨hw, rfl, rfl⟩
  exact ⟨hw', hboundary ▸ hle, hinput ▸ hstart⟩

end Lexer

/-! ### Resolving -/

namespace Alternation

/-- The match of an alternation at an offset, which has to lie in the input. -/
def matchAt? (a : Alternation) (input : Text) (offset : Nat) : Option (Option Found) :=
  if offset ≤ input.byteLength then some (a.matchAt input offset) else none

end Alternation

namespace Query

/-- The alternation from a rule on. -/
def alternation? (q : Query σ τ) (first : Nat) (ambient : Ambient σ) :
    Option (Except ConfigError (Option Alternation) × Ambient σ) := do
  let _ ← q.compiler.parts[q.state]?
  let _ ← q.compiler.names.names[q.state]?
  return q.alternation first ambient

/-- Whether a rule accepts a match. -/
def accepts? (q : Query σ τ) (rule : Rule σ τ) (found : Found) (host : σ) :
    Option (Bool × σ) :=
  match rule.test with
  | none => some (true, host)
  | some test => do
    let matched ← q.input.slice? found.start found.stop
    return test { q.testContext found with matched } host

/-- Tries the rules from `first` on, with an allowance of attempts. -/
def resolveFrom? (q : Query σ τ) : (attempts : Nat) → (first : Nat) → Ambient σ →
    Option (Except ConfigError (Option (Found × Rule σ τ)) × Ambient σ)
  | 0, _, ambient => some (.ok none, ambient)
  | attempts + 1, first, ambient => do
    match ← q.alternation? first ambient with
    | (.error e, ambient) => return (.error e, ambient)
    | (.ok none, ambient) => return (.ok none, ambient)
    | (.ok (some a), ambient) =>
      match ← a.matchAt? q.input q.offset with
      | none => return (.ok none, ambient.note (.noAlternativeMatched q.stateName q.offset first))
      | some found =>
        let rule ← q.rules[found.rule]?
        let (accepted, host) ← q.accepts? rule found ambient.host
        let ambient := { ambient with host }
        if accepted then
          return (.ok (some (found, rule)),
            ambient.note (.resolvedRule q.stateName found.rule found.start found.stop))
        else
          q.resolveFrom? attempts (found.rule + 1)
            (ambient.note (.predicateRejected q.stateName found.rule q.offset))

/-- The winning rule and its match. -/
def resolve? (q : Query σ τ) (ambient : Ambient σ) :
    Option (Except ConfigError (Option (Found × Rule σ τ)) × Ambient σ) :=
  q.resolveFrom? (q.rules.length + 1) 0 ambient

/-- A query that an attempt makes: its state exists, with a part for each rule, and its offset is
a boundary. -/
structure Posed (q : Query σ τ) : Prop where
  state_lt : q.state < q.compiler.names.count
  parts_length : q.compiler.parts.length = q.compiler.names.count
  partsOf_length : (q.compiler.partsOf q.state).length = q.rules.length
  offset_isBoundary : q.input.isBoundary q.offset = true

variable {q : Query σ τ} {ambient : Ambient σ}

/-- The compiler is asked about a state that has parts. -/
theorem Posed.alternation?_eq (h : q.Posed) (first : Nat) (ambient : Ambient σ) :
    q.alternation? first ambient = some (q.alternation first ambient) := by
  have hlt : q.state < q.compiler.parts.length := h.parts_length ▸ h.state_lt
  rw [alternation?, List.getElem?_eq_getElem hlt, StateStack.name?_eq h.state_lt]
  rfl

/-- A match that is found for a query has a rule that exists and a span in order. -/
theorem Posed.matchAt (h : q.Posed) (hcoherent : q.compiler.Coherent ambient.cache)
    {first : Nat} {a : Alternation} {found : Found}
    (ha : (q.alternation first ambient).1 = .ok (some a))
    (hmatch : a.matchAt q.input q.offset = some found) :
    found.rule < q.rules.length ∧ q.input.slice? found.start found.stop =
      some (q.input.slice found.start found.stop) := by
  obtain ⟨-, hbuild⟩ := Compiler.alternation_ok hcoherent ha
  obtain ⟨⟨hge, hlt⟩, hle⟩ := Alternation.build_matchAt hbuild h.offset_isBoundary hmatch
  obtain ⟨⟨-, hstart⟩, -, hstop⟩ := Alternation.matchAt_span h.offset_isBoundary hmatch
  rw [List.length_drop, h.partsOf_length] at hlt
  exact ⟨by omega, Text.slice?_eq hle hstart hstop⟩

/-- The text that a predicate is shown can be taken. -/
theorem accepts?_eq {rule : Rule σ τ} {found : Found}
    (h : q.input.slice? found.start found.stop = some (q.input.slice found.start found.stop))
    (host : σ) : q.accepts? rule found host = some (q.accepts rule found host) := by
  rw [accepts?, accepts]
  cases rule.test with
  | none => rfl
  | some test =>
      dsimp only
      rw [h]
      rfl

/-- Resolving a match is in range. -/
theorem Posed.resolveFrom?_eq (h : q.Posed) {attempts first : Nat}
    {out : Except ConfigError (Option (Found × Rule σ τ)) × Ambient σ}
    (hruns : q.Runs attempts first ambient out) (hcoherent : q.compiler.Coherent ambient.cache) :
    q.resolveFrom? attempts first ambient = some out := by
  have hoffset := Text.le_byteLength_of_isBoundary h.offset_isBoundary
  induction hruns with
  | spent => rfl
  | unbuilt hq =>
      rw [resolveFrom?, h.alternation?_eq, hq]
      rfl
  | exhausted hq =>
      rw [resolveFrom?, h.alternation?_eq, hq]
      rfl
  | unmatched hq hmatch =>
      simp only [resolveFrom?, h.alternation?_eq, hq, Option.bind_eq_bind, Option.bind_some,
        Alternation.matchAt?, if_pos hoffset, hmatch]
      rfl
  | unowned hq hmatch hrule =>
      obtain ⟨hlt, -⟩ := h.matchAt hcoherent (congrArg Prod.fst hq) hmatch
      exact absurd (List.getElem?_eq_none_iff.mp hrule) (Nat.not_le.mpr hlt)
  | accepted hq hmatch hrule haccepts =>
      obtain ⟨-, hslice⟩ := h.matchAt hcoherent (congrArg Prod.fst hq) hmatch
      simp only [resolveFrom?, h.alternation?_eq, hq, Option.bind_eq_bind, Option.bind_some,
        Alternation.matchAt?, if_pos hoffset, hmatch, hrule, accepts?_eq hslice, haccepts, if_true]
      rfl
  | rejected hq hmatch hrule haccepts _ ih =>
      obtain ⟨-, hslice⟩ := h.matchAt hcoherent (congrArg Prod.fst hq) hmatch
      simp only [resolveFrom?, h.alternation?_eq, hq, Option.bind_eq_bind, Option.bind_some,
        Alternation.matchAt?, if_pos hoffset, hmatch, hrule, accepts?_eq hslice, haccepts,
        Bool.false_eq_true, if_false]
      exact ih (alternation_coherent hcoherent hq :)

/-- **Resolving a match is in range.** -/
theorem Posed.resolve?_eq (h : q.Posed) (hcoherent : q.compiler.Coherent ambient.cache) :
    q.resolve? ambient = some (q.resolve ambient) :=
  h.resolveFrom?_eq (q.resolveFrom_runs _ _ _) hcoherent

end Query

/-! ### The engine that stops -/

namespace Lexer

/-- Runs the `before` hook of a rule. -/
def runBefore? (rule : Rule σ τ) (context : BeforeContext) (stack : StateStack)
    (ambient : Ambient σ) : Option (Except LexError Bool × StateStack × Ambient σ) :=
  match rule.before with
  | none => some (.ok false, stack, ambient)
  | some hook => do
    let ((result, host), s) ←
      (hook context ambient.host).run? answerBefore? ⟨stack, ambient.journal, false⟩
    return (result.map fun _ => s.aborted, s.stack, { ambient with host, journal := s.journal })

/-- Runs the `fetch` hook of a rule, which can read its text and the rest to its end. -/
def runFetch? (rule : Rule σ τ) (context : FetchContext) (cursor : Nat) (ambient : Ambient σ) :
    Option (Except LexError Nat × Ambient σ) :=
  match rule.fetch with
  | none => some (.ok cursor, ambient)
  | some hook => do
    let ((result, host), w) ← (hook context ambient.host).run? (answerFetch? context.start)
      ⟨context.input, cursor, cursor⟩
    let _ ← readable? context.start w
    return (result.map fun _ => w.cursor, { ambient with host })

/-- The value of a token, whose text can be read. -/
def valueOf? (rule : Rule σ τ) (context : ValueContext) (host : σ) : Option (Value × σ) := do
  let text ← context.input.slice? context.start context.position
  match rule.value with
  | none => return (.text text, host)
  | some hook => return hook context host

/-- Runs the `after` hook of a rule on the token just emitted. -/
def runAfter? (rule : Rule σ τ) (pending : Pending) (stream : TokenStream τ)
    (ambient : Ambient σ) : Option (Except LexError Unit × StateStack × Ambient σ) :=
  match rule.after, stream.lastToken with
  | some hook, some token => do
    let matched ← stream.input.slice? pending.start pending.matchEnd
    let context : AfterContext τ :=
      { input := stream.input, matched, start := pending.start, position := stream.cursor, token }
    let ((result, host), s) ←
      (hook context ambient.host).run? answerSwitch? ⟨stream.stack, ambient.journal, false⟩
    return (result, s.stack, { ambient with host, journal := s.journal })
  | _, _ => some (.ok (), stream.stack, ambient)

/-- Finishes the token before. -/
def finishPending? (lexer : Lexer σ τ) (stream : TokenStream τ) (ambient : Ambient σ) :
    Option (Except LexError Unit × TokenStream τ × Ambient σ) :=
  match stream.pending with
  | none => some (.ok (), stream, ambient)
  | some pending => do
    let rules ← lexer.rules[pending.state]?
    let rule ← rules[pending.rule]?
    let (result, stack, ambient) ← runAfter? rule pending stream ambient
    match result with
    | .error e => return (.error e, { stream with pending := none, stack }, ambient)
    | .ok () =>
      let stack ← stack.setAnchor? stream.cursor
      return (.ok (), { stream with pending := none, stack }, ambient)

/-- Makes the token of a match that was not aborted. The text of the token can be read. -/
def produce? (lexer : Lexer σ τ) (rule : Rule σ τ) (matched : MatchContext) (found : Found)
    (state : Nat) (stream : TokenStream τ) (ambient : Ambient σ) :
    Option (Attempt τ × TokenStream τ × Ambient σ) := do
  let cursor ← stream.stack.anchor?
  let here ← stream.stack.currentName?
  match ← runFetch? rule { matched with state := here } cursor ambient with
  | (.error e, ambient) => return (.failed e, { stream with cursor }, ambient)
  | (.ok cursor, ambient) =>
    let (value, host) ←
      valueOf? rule { matched with state := here, position := cursor } ambient.host
    let (kind, host) := kindOf rule matched.matched host
    let name ← lexer.names.names[state]?
    let ambient := { ambient with host }.note
      (.producedToken kind matched.start cursor name)
    let _ ← stream.input.slice? matched.start cursor
    let token :=
      lexer.factory { kind, value, start := matched.start, stop := cursor } stream.input
    return (.token token,
      { stream with
        cursor
        lastToken := some token
        pending := some
          { state, rule := found.rule, start := matched.start, matchEnd := found.stop } },
      ambient)

/-- One attempt to match at the anchor of the current state. -/
def attempt? (lexer : Lexer σ τ) (stream : TokenStream τ) (ambient : Ambient σ) :
    Option (Attempt τ × TokenStream τ × Ambient σ) := do
  let state := stream.stack.current
  let name ← lexer.names.names[state]?
  let rules ← lexer.rules[state]?
  let start ← stream.stack.anchor?
  let query : Query σ τ :=
    { compiler := lexer.compiler
      rules
      state
      input := stream.input
      offset := start
      lastToken := stream.lastToken }
  match ← query.resolve? ambient with
  | (.error e, ambient) => return (.failed (.config e), stream, ambient)
  | (.ok none, ambient) => return (.failed (.noMatch start name), stream, ambient)
  | (.ok (some (found, rule)), ambient) =>
    let moved ← stream.stack.setAnchor? found.stop
    let text ← stream.input.slice? start found.stop
    let matched : MatchContext := { input := stream.input, matched := text, start }
    let (result, stack, ambient) ←
      runBefore? rule { matched with position := stream.cursor } moved ambient
    match result with
    | .error e => return (.failed e, { stream with stack }, ambient)
    | .ok true =>
      let name ← stack.currentName?
      let back ← stack.setAnchor? start
      return (.aborted, { stream with cursor := start, stack := back },
        ambient.note (.matchAborted found.rule start name))
    | .ok false => lexer.produce? rule matched found state { stream with stack } ambient

/-- Attempts matches until one is not aborted or the input is at its end. -/
def scan? (lexer : Lexer σ τ) : (attempts : Nat) → TokenStream τ → Ambient σ →
    Option (Pull τ × TokenStream τ × Ambient σ)
  | 0, stream, ambient => some (.stalled, stream, ambient)
  | attempts + 1, stream, ambient =>
    if stream.cursor < stream.input.byteLength then do
      match ← lexer.attempt? stream ambient with
      | (.token token, stream, ambient) => return (.token token, stream, ambient)
      | (.failed e, stream, ambient) => return (.failed e, stream, ambient)
      | (.aborted, stream, ambient) => lexer.scan? attempts stream ambient
    else some (.ended, stream, ambient.note (.reachedEnd stream.cursor))

/-- One step of a run that is not finished. -/
def step? (lexer : Lexer σ τ) (attempts : Nat) (stream : TokenStream τ) (ambient : Ambient σ) :
    Option (Pull τ × TokenStream τ × Ambient σ) :=
  match stream.startError with
  | some e => some (.failed e, { stream with startError := none }, ambient)
  | none => do
    match ← lexer.finishPending? stream ambient with
    | (.error e, stream, ambient) => return (.failed e, stream, ambient)
    | (.ok (), stream, ambient) => lexer.scan? attempts stream ambient

/-- Pulls the next token. -/
def pull? (lexer : Lexer σ τ) (attempts : Nat) (stream : TokenStream τ) (ambient : Ambient σ) :
    Option (Pull τ × TokenStream τ × Ambient σ) :=
  if stream.finished then some (.ended, stream, ambient)
  else do
    match ← lexer.step? attempts stream ambient with
    | (.failed e, stream, ambient) =>
      let name ← stream.stack.currentName?
      return (.failed e, { stream with finished := true },
        ambient.note (.tokenizationFailed e stream.cursor name))
    | (.ended, stream, ambient) => return (.ended, { stream with finished := true }, ambient)
    | answer => return answer

/-! ### It does not stop -/

/-- All of a hook before a match is in range. -/
theorem runBefore?_eq {stack : StateStack} (h : stack.Valid) (rule : Rule σ τ)
    (context : BeforeContext) (ambient : Ambient σ) :
    runBefore? rule context stack ambient = some (runBefore rule context stack ambient) := by
  rw [runBefore?, runBefore]
  cases rule.before with
  | none => rfl
  | some hook =>
      have hrun := Dialogue.run?_eq (fun s : Switching => s.stack.Valid)
        (fun ask s hs => answerBefore?_eq ask hs) answerBefore_valid (hook context ambient.host)
        (s := ⟨stack, ambient.journal, false⟩) h
      dsimp only
      rw [hrun]
      rfl

/-- All of a hook that extends a token is in range. -/
theorem runFetch?_eq {context : FetchContext} {cursor : Nat}
    (hstart : context.input.isBoundary context.start = true) (hle : context.start ≤ cursor)
    (hcursor : context.input.isBoundary cursor = true) (rule : Rule σ τ) (ambient : Ambient σ) :
    runFetch? rule context cursor ambient = some (runFetch rule context cursor ambient) := by
  rw [runFetch?, runFetch]
  cases rule.fetch with
  | none => rfl
  | some hook =>
      have hreadable : Readable context.start ⟨context.input, cursor, cursor⟩ :=
        ⟨⟨hcursor, Nat.le_refl _⟩, hle, hstart⟩
      have hrun := Dialogue.run?_eq (Readable context.start) (@answerFetch?_eq context.start)
        answerFetch_readable (hook context ambient.host) hreadable
      obtain ⟨texts, htexts⟩ := readable?_some (Dialogue.run_kept (Readable context.start)
        answerFetch_readable (hook context ambient.host) hreadable)
      dsimp only
      rw [hrun]
      simp only [Option.bind_eq_bind, Option.bind_some, htexts]
      rfl

/-- The value of a token is made of a text that can be taken. -/
theorem valueOf?_eq {context : ValueContext}
    (hstart : context.input.isBoundary context.start = true)
    (hle : context.start ≤ context.position)
    (hposition : context.input.isBoundary context.position = true) (rule : Rule σ τ) (host : σ) :
    valueOf? rule context host = some (valueOf rule context host) := by
  rw [valueOf?, Text.slice?_eq hle hstart hposition, valueOf]
  cases rule.value <;> rfl

variable {lexer : Lexer σ τ} {stream : TokenStream τ} {ambient : Ambient σ}

/-- The hook after a token is shown the token that is pending, which is in range. -/
theorem runAfter?_eq {pending : Pending} (hvalid : stream.stack.Valid)
    (hfits : lexer.PendingFits stream.input stream.cursor stream.stack.anchor pending)
    (rule : Rule σ τ) (ambient : Ambient σ) :
    runAfter? rule pending stream ambient = some (runAfter (some rule) pending stream ambient) := by
  rw [runAfter?, runAfter]
  rw [Option.bind_some]
  cases rule.after with
  | none => rfl
  | some hook =>
      cases stream.lastToken with
      | none => rfl
      | some token =>
          dsimp only
          rw [Text.slice?_eq hfits.start_le hfits.start_isBoundary hfits.matchEnd_isBoundary]
          simp only [Option.bind_eq_bind, Option.bind_some]
          rw [Dialogue.run?_eq (fun s : Switching => s.stack.Valid)
            (fun ask s hs => answerSwitch?_eq ask hs) answerSwitch_valid _
            (s := ⟨stream.stack, ambient.journal, false⟩) hvalid]
          rfl

/-- A state that exists has rules. -/
theorem WellMade.rules?_eq (h : WellMade lexer) {state : Nat} (hstate : state < lexer.names.count) :
    lexer.rules[state]? = some (lexer.rulesOf state) := by
  have hlt : state < lexer.rules.length := h.rules_length ▸ hstate
  rw [rulesOf, List.getD_eq_getElem?_getD, List.getElem?_eq_getElem hlt]
  rfl

/-- The rule of a pending token exists, so finishing it is in range. -/
theorem Sound.finishPending?_eq (h : Sound lexer stream) (hmade : WellMade lexer)
    {out : Except LexError Unit × TokenStream τ × Ambient σ}
    (hruns : FinishRuns lexer stream ambient out) :
    lexer.finishPending? stream ambient = some out := by
  have hafter? (p : Pending) (hpending : stream.pending = some p) :
      lexer.rules[p.state]? = some (lexer.rulesOf p.state) ∧
        ∃ rule, (lexer.rulesOf p.state)[p.rule]? = some rule ∧
          runAfter? rule p stream ambient = some (runAfter (some rule) p stream ambient) := by
    have hfits := h.pending_fits p hpending
    exact ⟨hmade.rules?_eq hfits.state_lt, _, List.getElem?_eq_getElem hfits.rule_lt,
      runAfter?_eq h.valid hfits _ ambient⟩
  cases hruns with
  | idle hpending => rw [finishPending?, hpending]
  | @afterFailed p _ _ _ hpending hafter =>
      obtain ⟨hrules, rule, hrule, hrun⟩ := hafter? p hpending
      rw [hrule] at hafter
      simp only [finishPending?, hpending, hrules, hrule, hrun, hafter, Option.bind_eq_bind,
        Option.bind_some]
      rfl
  | @finished p _ _ hpending hafter =>
      have hvalid := (h.valid.moved_switched (runAfter_switched hafter)).valid
      obtain ⟨hrules, rule, hrule, hrun⟩ := hafter? p hpending
      rw [hrule] at hafter
      simp only [finishPending?, hpending, hrules, hrule, hrun, hafter, hvalid.setAnchor?_eq,
        Option.bind_eq_bind, Option.bind_some]
      rfl

/-- Making a token is in range. -/
theorem produce?_eq {matched : MatchContext} {state : Nat} (hvalid : stream.stack.Valid)
    (hinput : matched.input = stream.input) (hstate : state < lexer.names.count)
    (hstart : stream.input.isBoundary matched.start = true)
    (hle : matched.start ≤ stream.stack.anchor)
    (hanchor : stream.input.isBoundary stream.stack.anchor = true) (rule : Rule σ τ)
    (found : Found) (ambient : Ambient σ) :
    lexer.produce? rule matched found state stream ambient =
      some (lexer.produce rule matched found state stream ambient) := by
  obtain ⟨input, text, start⟩ := matched
  obtain rfl : input = stream.input := hinput
  have hfetch : runFetch? rule ⟨⟨stream.input, text, start⟩, stream.stack.currentName⟩
      stream.stack.anchor ambient = _ := runFetch?_eq hstart hle hanchor rule ambient
  rw [produce?, produce]
  rw [hvalid.anchor?_eq, hvalid.currentName?_eq]
  simp only [Option.bind_eq_bind, Option.bind_some, hfetch]
  cases hresult : runFetch rule ⟨⟨stream.input, text, start⟩, stream.stack.currentName⟩
      stream.stack.anchor ambient with
  | mk result ambient₁ =>
      cases result with
      | error e => rfl
      | ok cursor =>
          obtain ⟨hcursor, hboundary⟩ := runFetch_ok hanchor hresult
          have hle' : start ≤ cursor := Nat.le_trans hle hcursor
          have hvalue : valueOf? rule ⟨⟨stream.input, text, start⟩, stream.stack.currentName,
              cursor⟩ ambient₁.host = _ := valueOf?_eq hstart hle' hboundary rule ambient₁.host
          simp only [hvalue, Option.bind_some, StateStack.name?_eq hstate,
            Text.slice?_eq hle' hstart hboundary]
          rfl

/-- **One attempt is in range**, from a stream that is ready. -/
theorem Ready.attempt?_eq (h : Ready lexer stream) (hmade : WellMade lexer)
    (hcoherent : lexer.compiler.Coherent ambient.cache) :
    lexer.attempt? stream ambient = some (lexer.attempt stream ambient) := by
  have hstate : stream.stack.current < lexer.names.count := h.names_eq ▸ h.valid.current_lt
  have hposed : (lexer.query stream).Posed :=
    ⟨hstate, hmade.parts_length, hmade.partsOf_length _, h.anchor_isBoundary⟩
  have hresolve : Query.resolve?
      ⟨lexer.compiler, lexer.rulesOf stream.stack.current, stream.stack.current, stream.input,
        stream.stack.anchor, stream.lastToken⟩ ambient = _ := hposed.resolve?_eq hcoherent
  have hname : lexer.names.name stream.stack.current = stream.stack.currentName := by
    rw [StateStack.currentName, h.names_eq]
  rw [attempt?, attempt]
  simp only [StateStack.name?_eq hstate, hmade.rules?_eq hstate, h.valid.anchor?_eq, hname,
    Option.bind_eq_bind, Option.bind_some, hresolve]
  rw [query]
  cases hresult : Query.resolve _ ambient with
  | mk result ambient₁ =>
      cases result with
      | error e => rfl
      | ok found? =>
          cases found? with
          | none => rfl
          | some p =>
              obtain ⟨found, rule⟩ := p
              obtain ⟨hle, hstop, -⟩ := h.resolves ⟨ambient₁, hresult⟩
              have hvalid := h.valid.setAnchor found.stop
              simp only [h.valid.setAnchor?_eq, Text.slice?_eq hle h.anchor_isBoundary hstop,
                Option.bind_some, runBefore?_eq hvalid]
              generalize hbefore : runBefore rule _ _ ambient₁ = ended
              obtain ⟨result, stack, ambient₂⟩ := ended
              obtain ⟨hvalid', -, hanchor, -⟩ := h.switched hstop (runBefore_switched hbefore)
              cases result with
              | error e => rfl
              | ok aborted =>
                  cases aborted with
                  | true =>
                      simp only [hvalid'.currentName?_eq, hvalid'.setAnchor?_eq, Option.bind_some]
                      rfl
                  | false =>
                      exact produce?_eq hvalid' rfl hstate h.anchor_isBoundary (hanchor ▸ hle)
                        (hanchor ▸ hstop) rule found ambient₂

/-- A search is in range, by induction on its course: every attempt leaves a stream that is ready
again. -/
theorem Ready.scan?_eq (h : Ready lexer stream) (hmade : WellMade lexer)
    (hcoherent : lexer.compiler.Coherent ambient.cache) {attempts : Nat}
    {out : Pull τ × TokenStream τ × Ambient σ}
    (hruns : ScanRuns lexer attempts stream ambient out) :
    lexer.scan? attempts stream ambient = some out := by
  induction hruns with
  | stalled => rfl
  | ended hends => rw [scan?, if_neg hends]
  | token hgoes hattempt =>
      rw [scan?, if_pos hgoes, h.attempt?_eq hmade hcoherent, hattempt.eq]
      rfl
  | failed hgoes hattempt =>
      rw [scan?, if_pos hgoes, h.attempt?_eq hmade hcoherent, hattempt.eq]
      rfl
  | again hgoes hattempt _ ih =>
      rw [scan?, if_pos hgoes, h.attempt?_eq hmade hcoherent, hattempt.eq]
      exact ih (h.aborted hattempt).1 (hattempt.coherent hcoherent)

/-- An answer is closed without a stop: only the name of the current state is read. -/
theorem pull?_eq_of_step? {attempts : Nat} {out : Pull τ × TokenStream τ × Ambient σ}
    (hopen : stream.finished = false) (hstep : lexer.step? attempts stream ambient = some out)
    (hvalid : ∀ e, out.1 = .failed e → out.2.1.stack.Valid) :
    lexer.pull? attempts stream ambient = some (close out) := by
  rw [pull?, hopen, if_neg Bool.false_ne_true, hstep]
  obtain ⟨answer, stream', ambient'⟩ := out
  cases answer with
  | token => rfl
  | failed e =>
      simp only [Option.bind_eq_bind, Option.bind_some, (hvalid e rfl).currentName?_eq]
      rfl
  | ended => rfl
  | stalled => rfl

/-- **One pull is in range**, from a stream between pulls. -/
theorem Rested.pull?_eq (h : Rested lexer stream) (hmade : WellMade lexer)
    (hcoherent : lexer.compiler.Coherent ambient.cache) (attempts : Nat) :
    lexer.pull? attempts stream ambient = some (lexer.pull attempts stream ambient) := by
  have hruns := lexer.pull_runs attempts stream ambient
  generalize lexer.pull attempts stream ambient = out at hruns
  cases hruns with
  | closed hclosed => rw [pull?, if_pos hclosed]
  | misplaced hopen herror =>
      refine pull?_eq_of_step? hopen ?_ fun _ _ => h.valid
      rw [step?, herror]
  | unfinished hopen herror hfinish =>
      obtain ⟨-, -, -, hsound, -⟩ := h.finishRuns hopen hfinish
      refine pull?_eq_of_step? hopen ?_ fun _ _ => hsound.valid
      rw [step?, herror]
      dsimp only
      rw [h.finishPending?_eq hmade hfinish]
      rfl
  | searched hopen herror hfinish hscan =>
      obtain ⟨-, -, -, -, hready⟩ := h.finishRuns hopen hfinish
      have hpulled := (hready rfl).scanned hscan
      refine pull?_eq_of_step? hopen ?_ fun e he => ?_
      · rw [step?, herror]
        dsimp only
        rw [h.finishPending?_eq hmade hfinish]
        exact (hready rfl).scan?_eq hmade (hfinish.cache_eq ▸ hcoherent) hscan
      · rw [he] at hpulled
        cases hpulled with
        | failed hsound => exact hsound.valid

/-- **No slice and no index is out of range.** On every stream that a run reaches, the cursor and
all anchors are boundaries of the input, the states on the stack have rules, and the match whose
`after` hook has still to run is a match of a rule that exists and lies in order before the cursor;
and the engine that stops at a slice or an index out of range does not stop. Whenever the search
for a match begins and a match is resolved, its rule exists and it ends at or behind its start. -/
theorem slices_and_indices_in_range {table : StateTable (Rule σ τ)} {config : LexerConfig}
    {factory : BaseToken → Text → τ} {lexer : Lexer σ τ} {cache : AlternationCache}
    {journal : Journal} (hmake : Lexer.make table config factory = (.ok (lexer, cache), journal))
    (input : Text) (start : Nat) :
    (∀ items stream, Reaches lexer input start items stream →
      (stream.cursor ≤ input.byteLength ∧ input.isBoundary stream.cursor = true) ∧
      (∀ a ∈ stream.stack.anchors, a ≤ input.byteLength ∧ input.isBoundary a = true) ∧
      (stream.stack.anchors.length = lexer.rules.length ∧
        stream.stack.current < lexer.rules.length ∧
        ∀ state ∈ stream.stack.stack, state < lexer.rules.length) ∧
      (∀ p ∈ stream.pending, p.state < lexer.rules.length ∧
        p.rule < (lexer.rulesOf p.state).length ∧ p.start ≤ p.matchEnd ∧
        p.matchEnd ≤ stream.cursor) ∧
      ∀ attempts ambient, lexer.compiler.Coherent ambient.cache →
        lexer.pull? attempts stream ambient = some (lexer.pull attempts stream ambient)) ∧
    ∀ stream, AtLoopHead lexer input start stream →
      ∀ ambient found rule, lexer.Resolves stream ambient found rule →
        found.rule < (lexer.rulesOf stream.stack.current).length ∧
          stream.stack.anchor ≤ found.stop := by
  have hmade := make_wellMade hmake
  refine ⟨?_, ?_⟩
  · intro items stream hreach
    obtain ⟨rfl, hrested⟩ := hreach.rested hmade.resolved
    have hcount : stream.stack.names.count = lexer.rules.length := by
      rw [hrested.names_eq, hmade.rules_length]
    refine ⟨⟨Text.le_byteLength_of_isBoundary hrested.cursor_isBoundary,
      hrested.cursor_isBoundary⟩, ?_, ⟨?_, ?_, ?_⟩, ?_, ?_⟩
    · intro a ha
      have hboundary := hrested.anchors_isBoundary a ha
      exact ⟨Text.le_byteLength_of_isBoundary hboundary, hboundary⟩
    · exact hrested.valid.anchors_length.trans hcount
    · exact hcount ▸ hrested.valid.current_lt
    · intro state hstate
      exact hcount ▸ hrested.valid.stack_lt state hstate
    · intro p hp
      have hfits := hrested.pending_fits p hp
      exact ⟨hmade.rules_length ▸ hfits.state_lt, hfits.rule_lt, hfits.start_le,
        hfits.matchEnd_le⟩
    · intro attempts ambient hcoherent
      exact hrested.pull?_eq hmade hcoherent attempts
  · intro stream hhead ambient found rule hresolves
    obtain ⟨hle, -, hlt⟩ := (hhead.ready hmade.resolved).resolves hresolves
    exact ⟨hlt, hle⟩

/-- A rule that was compiled with a wrong number of groups and whose `fetch` hook goes ahead, back
and ahead again, and a second rule. -/
def unevenRules : List (Rule Unit Token) :=
  [{ pattern := .compiled ['(', 'é', ')'] 0
     fetch := some fun _ host =>
       .ask .next fun _ => .ask (.back 1) fun _ => .ask .next fun _ => .done (.ok (), host) },
    { pattern := .source ['b'] }]

/-- Behind the first token of `ébb`, which the hook has extended. -/
theorem slices_and_indices_in_range_uneven :
    ∃ (lexer : Lexer Unit Token) (items : List (Pull Token)) (stream : TokenStream Token)
      (ambient : Ambient Unit), Reaches lexer ['é', 'b', 'b'] 0 items stream ∧
        stream.pending = some ⟨0, 0, 0, 2⟩ ∧ stream.cursor = 3 ∧
        lexer.pull? 1 stream ambient = some (lexer.pull 1 stream ambient) := by
  have hrun : (match (Lexer.make (.flat unevenRules) {} Token.make).1 with
      | .ok (lexer, cache) => decide
          ((lexer.pull 1 (lexer.tokenizeFrom ['é', 'b', 'b'] 0).1
              ⟨cache, (), #[]⟩).2.1.pending = some ⟨0, 0, 0, 2⟩ ∧
            (lexer.pull 1 (lexer.tokenizeFrom ['é', 'b', 'b'] 0).1
              ⟨cache, (), #[]⟩).2.1.cursor = 3)
      | .error _ => false) = true := by
    decide +kernel
  split at hrun
  · next lexer cache hmake =>
      have hmake' : Lexer.make (.flat unevenRules) {} Token.make = (.ok (lexer, cache), _) :=
        Prod.ext hmake rfl
      have hcoherent := (make_ok hmake').2.2.2.2
      have hstart : Reaches lexer ['é', 'b', 'b'] 0 [] _ := .start
      have hreach := hstart.pull 1 ⟨cache, (), #[]⟩ hcoherent
      obtain ⟨hpending, hcursor⟩ := of_decide_eq_true hrun
      obtain ⟨-, -, -, -, hpull⟩ :=
        (slices_and_indices_in_range hmake' ['é', 'b', 'b'] 0).1 _ _ hreach
      exact ⟨lexer, _, _, ⟨cache, (), #[]⟩, hreach, hpending, hcursor, hpull 1 _ hcoherent⟩
  · exact absurd hrun (by simp)

end Lexer

end ModalLex
