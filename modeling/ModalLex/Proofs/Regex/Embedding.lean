import ModalLex.Proofs.Regex.Layout
import ModalLex.Proofs.Regex.Sweep

/-!
# Programs Inside of Programs

The code of a branch stands in the program of an alternation at another address, with its slots
renumbered, and leaves it by a jump to the accepting address of the whole (`Embeds`). Threads in
that code and threads in the program of the branch alone go **in lockstep**: they are followed in
the same order, rest at the same places and consume the same characters. So a run that starts at
the branch finds what the branch finds by itself, up to the numbers of the slots, and a run of
the alternation finds what the first of the branches finds that finds anything.

## Main results

* `Embeds.runThreads_map`: a run inside of a larger program is the run of the part by itself.
* `searchAt_shift`: renumbering the groups of an expression renumbers the slots of its matches.
* `searchAt_alternation`: **an alternation matches what its first matching branch matches.**
* `searchAt_group`: where a whole program is a group, every match has the span of that group.
-/

namespace ModalLex.Regex

/-- Saved slots with other numbers. -/
def moveSlots (slots : Nat) (saved : List (Nat × Nat)) : List (Nat × Nat) :=
  saved.map fun entry => (entry.1 + slots, entry.2)

/-- A thread at another address with its slots renumbered. -/
def Thread.move (distance slots : Nat) (thread : Thread) : Thread :=
  ⟨thread.address + distance, moveSlots slots thread.saved⟩

/-! ### Regions by their instructions -/

/-- An instruction at an address leads to addresses of a set only. -/
def Instr.Leads (inside : Nat → Prop) (address : Nat) : Instr → Prop
  | .split first second => inside first ∧ inside second
  | .jump target => inside target
  | .accept => True
  | _ => inside (address + 1)

/-- A set of addresses whose instructions lead to addresses of the set. -/
theorem Region.of_leads {program : Program} {inside : Nat → Prop}
    (h : ∀ a instr, inside a → program[a]? = some instr → instr.Leads inside a) :
    Region program inside := by
  constructor
  · intro spot thread hthread t ht
    unfold Thread.next at ht
    cases hinstr : program[thread.address]? with
    | none => exact absurd ht (by simp [hinstr])
    | some instr =>
        have hleads := h _ _ hthread hinstr
        rw [hinstr] at ht
        cases instr with
        | jump target =>
            obtain rfl := List.mem_singleton.mp ht
            exact hleads
        | split first second =>
            rcases List.mem_cons.mp ht with rfl | ht
            · exact hleads.1
            · obtain rfl := List.mem_singleton.mp ht
              exact hleads.2
        | save slot =>
            obtain rfl := List.mem_singleton.mp ht
            exact hleads
        | look place =>
            dsimp only at ht
            split at ht
            · obtain rfl := List.mem_singleton.mp ht
              exact hleads
            · exact absurd ht (by simp)
        | char => exact absurd ht (by simp)
        | set => exact absurd ht (by simp)
        | accept => exact absurd ht (by simp)
  · intro c thread hthread t ht
    unfold Thread.consume? at ht
    split at ht
    · next d hinstr =>
        obtain ⟨-, heq⟩ := Option.ite_none_right_eq_some.mp ht
        obtain rfl := Option.some.inj heq
        exact h _ _ hthread hinstr
    · next s hinstr =>
        obtain ⟨-, heq⟩ := Option.ite_none_right_eq_some.mp ht
        obtain rfl := Option.some.inj heq
        exact h _ _ hthread hinstr
    · exact absurd ht (by simp)

/-- An instruction of a layout does not accept, and its jumps stay between two bounds. -/
def Instr.Between (lo hi : Nat) : Instr → Prop
  | .split first second => (lo ≤ first ∧ first ≤ hi) ∧ lo ≤ second ∧ second ≤ hi
  | .jump target => lo ≤ target ∧ target ≤ hi
  | .accept => False
  | _ => True

/-- An instruction that stays is between the bounds. -/
theorem Instr.Stays.between {instr : Instr} {lo hi : Nat} (h : instr.Stays lo hi) :
    instr.Between lo hi := by
  cases instr with
  | save => exact absurd h id
  | accept => exact h
  | _ => exact h

/-- What is between two bounds is between wider ones. -/
theorem Instr.Between.mono {instr : Instr} {lo hi lo' hi' : Nat} (h : instr.Between lo hi)
    (hlo : lo' ≤ lo) (hhi : hi ≤ hi') : instr.Between lo' hi' := by
  cases instr with
  | split first second =>
      simp only [Instr.Between] at h ⊢
      omega
  | jump target =>
      simp only [Instr.Between] at h ⊢
      omega
  | accept => exact h
  | save => trivial
  | char => trivial
  | set => trivial
  | look => trivial

/-- All jumps of a layout stay between its bounds. -/
theorem Layout.between {lo hi base : Nat} {code : List Instr} (h : Layout lo hi base code)
    (hlo : lo ≤ base) (hhi : base + code.length ≤ hi) : ∀ instr ∈ code, instr.Between lo hi := by
  induction h with
  | nil => simp
  | instr hi _ ih =>
      rw [List.length_cons] at hhi
      exact List.forall_mem_cons.mpr ⟨hi.between, ih (by omega) (by omega)⟩
  | group _ _ ihbody ih =>
      simp only [List.length_cons, List.length_append] at hhi
      refine List.forall_mem_cons.mpr ⟨trivial, List.forall_mem_append.mpr ⟨?_, ?_⟩⟩
      · intro instr hinstr
        exact (ihbody (Nat.le_refl _) (Nat.le_refl _) instr hinstr).mono (by omega) (by omega)
      · exact List.forall_mem_cons.mpr ⟨trivial, ih (by omega) (by omega)⟩

/-- All jumps of the code of an expression stay in it. -/
theorem Expr.between_code (e : Expr) (base : Nat) :
    ∀ instr ∈ e.code base, instr.Between base (base + (e.code base).length) :=
  (e.layout_code base).between (Nat.le_refl _) (Nat.le_refl _)

/-! ### Lockstep -/

/-- The code of a program, up to its accepting address, stands in another program from a base on,
with the slots renumbered, and is left by way of the accepting address of that program. -/
structure Embeds (part program : Program) (length base stop slots : Nat) : Prop where
  code : ∀ a, a < length → ∃ instr, part[a]? = some instr ∧ instr.Between 0 length ∧
    program[a + base]? = some (instr.move base slots)
  accept : part[length]? = some .accept
  stops : program[stop]? = some .accept
  leaves : length + base = stop ∨ program[length + base]? = some (.jump stop)

/-- Where a resting thread of the part rests in the larger program. -/
def Thread.settle (length base stop slots : Nat) (thread : Thread) : Thread :=
  if thread.address = length then ⟨stop, moveSlots slots thread.saved⟩ else thread.move base slots

namespace Embeds

variable {part program : Program} {length base stop slots : Nat} {spot : Spot}

/-- The accepting address is outside of the embedded code. -/
theorem ne_stop (h : Embeds part program length base stop slots) {a : Nat} (ha : a < length) :
    a + base ≠ stop := by
  rintro rfl
  obtain ⟨instr, -, hbetween, hinstr⟩ := h.code a ha
  have haccept := Option.some.inj (hinstr.symm.trans h.stops)
  cases instr with
  | accept => exact hbetween
  | _ => exact absurd haccept (by simp [Instr.move])

/-- In the part no thread gets beyond its end. -/
theorem region_part (h : Embeds part program length base stop slots) :
    Region part fun a => a ≤ length := by
  refine .of_leads fun a instr ha hinstr => ?_
  rcases Nat.lt_or_eq_of_le ha with hlt | rfl
  · obtain ⟨instr', hinstr', hbetween, -⟩ := h.code a hlt
    obtain rfl := Option.some.inj (hinstr.symm.trans hinstr')
    cases instr with
    | split first second => exact ⟨hbetween.1.2, hbetween.2.2⟩
    | jump target => exact hbetween.2
    | accept => trivial
    | _ => exact hlt
  · obtain rfl := Option.some.inj (hinstr.symm.trans h.accept)
    trivial

/-- The embedded code and the accepting address are not left. -/
theorem region (h : Embeds part program length base stop slots) :
    Region program fun a => (base ≤ a ∧ a ≤ length + base) ∨ a = stop := by
  refine .of_leads fun a instr ha hinstr => ?_
  by_cases hstop : a = stop
  · obtain rfl := Option.some.inj (hinstr.symm.trans (hstop ▸ h.stops))
    trivial
  · obtain ⟨hge, hle⟩ := ha.resolve_right hstop
    obtain ⟨k, rfl⟩ := Nat.exists_eq_add_of_le' hge
    rcases Nat.lt_or_eq_of_le (Nat.le_of_add_le_add_right hle) with hlt | rfl
    · obtain ⟨instr', -, hbetween, hinstr'⟩ := h.code k hlt
      obtain rfl := Option.some.inj (hinstr.symm.trans hinstr')
      cases instr' with
      | split first second =>
          obtain ⟨⟨-, hfirst⟩, -, hsecond⟩ := hbetween
          exact ⟨.inl ⟨by omega, by omega⟩, .inl ⟨by omega, by omega⟩⟩
      | jump target =>
          have htarget := hbetween.2
          exact .inl ⟨by omega, by omega⟩
      | accept => trivial
      | _ => exact .inl ⟨by omega, by omega⟩
    · rcases h.leaves with heq | hjump
      · exact absurd heq hstop
      · obtain rfl := Option.some.inj (hinstr.symm.trans hjump)
        exact .inr rfl

/-- Moved threads lead to moved threads. -/
theorem next_move (h : Embeds part program length base stop slots) {thread : Thread}
    (hlt : thread.address < length) :
    (thread.move base slots).next program spot =
      (thread.next part spot).map (Thread.move base slots) := by
  obtain ⟨instr, hinstr, -, hmoved⟩ := h.code _ hlt
  have haddress : (thread.move base slots).address = thread.address + base := rfl
  unfold Thread.next
  rw [haddress, hmoved, hinstr]
  cases instr with
  | save slot =>
      simp only [Instr.move, Thread.move, moveSlots, List.map_cons, List.map_nil,
        Nat.add_right_comm]
  | look place =>
      simp only [Instr.move]
      split
      · simp only [Thread.move, List.map_cons, List.map_nil, Nat.add_right_comm]
      · rfl
  | _ => rfl

/-- A moved thread rests where the thread rests. -/
theorem rests_move (h : Embeds part program length base stop slots) {thread : Thread}
    (hlt : thread.address < length) :
    (thread.move base slots).rests program = thread.rests part := by
  obtain ⟨instr, hinstr, -, hmoved⟩ := h.code _ hlt
  have haddress : (thread.move base slots).address = thread.address + base := rfl
  unfold Thread.rests
  rw [haddress, hmoved, hinstr]
  cases instr <;> rfl

/-- Where the part accepts, the larger program gets to its accepting address, perhaps by a jump. -/
theorem sweeps_accept (h : Embeds part program length base stop slots) {thread : Thread}
    {waiting resting : List Thread} {seen : Nat} (heq : thread.address = length)
    (hbit : seen.testBit (length + base) = false) (hstop : seen.testBit stop = false)
    (hrest : ∃ seen', Sweeps program spot waiting (opened (opened seen (length + base)) stop)
      resting seen') :
    ∃ seen', Sweeps program spot (thread.move base slots :: waiting) seen
      (⟨stop, moveSlots slots thread.saved⟩ :: resting) seen' := by
  obtain ⟨seen', hrest⟩ := hrest
  have hrests : (⟨stop, moveSlots slots thread.saved⟩ : Thread).rests program = true := by
    simp [Thread.rests, h.stops]
  have hmoved : thread.move base slots = ⟨length + base, moveSlots slots thread.saved⟩ := by
    rw [Thread.move, heq]
  rw [hmoved]
  rcases h.leaves with rfl | hjump
  · rw [opened_opened_self] at hrest
    exact ⟨seen', .rest hbit hrests hrest⟩
  · have hne : stop ≠ length + base := by
      rintro rfl
      exact absurd (h.stops.symm.trans hjump) (by simp)
    refine ⟨seen', .next hbit (by simp [Thread.rests, hjump]) ?_⟩
    have hnext : (⟨length + base, moveSlots slots thread.saved⟩ : Thread).next program spot =
        [⟨stop, moveSlots slots thread.saved⟩] := by
      unfold Thread.next
      rw [hjump]
    rw [hnext]
    refine .rest ?_ hrests hrest
    rw [testBit_opened, hstop, decide_eq_false hne]
    rfl

/-- **Lockstep**: a sweep of the part is a sweep of the larger program. -/
theorem sweeps (h : Embeds part program length base stop slots) {waiting resting : List Thread}
    {seen seen' seen₂ : Nat} (hsweeps : Sweeps part spot waiting seen resting seen')
    (hwaiting : ∀ t ∈ waiting, t.address ≤ length)
    (hseen : ∀ a, a ≤ length → seen₂.testBit (a + base) = seen.testBit a)
    (hstop : seen₂.testBit stop = seen.testBit length) :
    ∃ seen₂', Sweeps program spot (waiting.map (Thread.move base slots)) seen₂
      (resting.map (Thread.settle length base stop slots)) seen₂' := by
  have hopened : ∀ {seen seen₂ : Nat} {k : Nat}, k < length →
      (∀ a, a ≤ length → seen₂.testBit (a + base) = seen.testBit a) →
      seen₂.testBit stop = seen.testBit length →
      (∀ a, a ≤ length → (opened seen₂ (k + base)).testBit (a + base) =
        (opened seen k).testBit a) ∧
      (opened seen₂ (k + base)).testBit stop = (opened seen k).testBit length := by
    intro seen seen₂ k hk hseen hstop
    have hne := h.ne_stop hk
    constructor
    · intro a ha
      rw [testBit_opened, testBit_opened, hseen a ha]
      simp
    · rw [testBit_opened, testBit_opened, hstop, decide_eq_false (Ne.symm hne),
        decide_eq_false (by omega)]
  induction hsweeps generalizing seen₂ with
  | nil => exact ⟨_, .nil⟩
  | skip hbit _ ih =>
      obtain ⟨hthread, hwaiting⟩ := List.forall_mem_cons.mp hwaiting
      obtain ⟨_, hrest⟩ := ih hwaiting hseen hstop
      exact ⟨_, .skip ((hseen _ hthread).trans hbit) hrest⟩
  | @rest thread waiting resting seen seen' hbit hrests _ ih =>
      obtain ⟨hthread, hwaiting⟩ := List.forall_mem_cons.mp hwaiting
      have hbit' := (hseen _ hthread).trans hbit
      rcases Nat.lt_or_eq_of_le hthread with hlt | heq
      · obtain ⟨hseen, hstop⟩ := hopened hlt hseen hstop
        obtain ⟨_, hrest⟩ := ih hwaiting hseen hstop
        rw [List.map_cons, List.map_cons, Thread.settle, if_neg (Nat.ne_of_lt hlt)]
        exact ⟨_, .rest hbit' ((h.rests_move hlt).trans hrests) hrest⟩
      · rw [List.map_cons, List.map_cons, Thread.settle, if_pos heq]
        rw [heq] at ih hbit hbit'
        refine h.sweeps_accept heq hbit' (hstop.trans hbit) (ih hwaiting ?_ ?_)
        · intro a ha
          have hstop_eq : a + base = stop → a = length := fun hend =>
            Nat.le_antisymm ha (Nat.le_of_not_lt fun hlt => h.ne_stop hlt hend)
          rw [testBit_opened, testBit_opened, testBit_opened, hseen a ha]
          by_cases hlast : a = length
          · simp [hlast]
          · simp [hlast, mt hstop_eq hlast]
        · rw [testBit_opened, testBit_opened, testBit_opened]
          simp
  | @next thread waiting resting seen seen' hbit hnot _ ih =>
      obtain ⟨hthread, hwaiting⟩ := List.forall_mem_cons.mp hwaiting
      have hlt : thread.address < length := by
        rcases Nat.lt_or_eq_of_le hthread with hlt | heq
        · exact hlt
        · exact absurd hnot (by simp [Thread.rests, heq, h.accept])
      obtain ⟨hseen', hstop⟩ := hopened hlt hseen hstop
      obtain ⟨_, hrest⟩ := ih (List.forall_mem_append.mpr
        ⟨h.region_part.next spot thread hthread, hwaiting⟩) hseen' hstop
      rw [List.map_append, ← h.next_move hlt] at hrest
      exact ⟨_, .next ((hseen _ hthread).trans hbit) ((h.rests_move hlt).trans hnot) hrest⟩

/-- The threads that rest in the larger program are those that rest in the part. -/
theorem closure_map (h : Embeds part program length base stop slots) (spot : Spot)
    {threads : List Thread} (hthreads : ∀ t ∈ threads, t.address ≤ length) :
    closure program spot (threads.map (Thread.move base slots)) =
      (closure part spot threads).map (Thread.settle length base stop slots) := by
  obtain ⟨_, hsweeps⟩ := closure_sweeps part spot threads
  obtain ⟨_, hmoved⟩ := @sweeps _ _ _ _ _ _ _ h _ _ _ _ 0 hsweeps hthreads (by simp) (by simp)
  exact hmoved.closure_eq

/-- A settled thread accepts where the thread accepts. -/
theorem accepts_settle (h : Embeds part program length base stop slots) {thread : Thread}
    (hle : thread.address ≤ length) :
    (thread.settle length base stop slots).accepts program = thread.accepts part := by
  unfold Thread.settle
  split
  · next heq => simp [Thread.accepts, h.stops, heq, h.accept]
  · next hne =>
      obtain ⟨instr, hinstr, -, hmoved⟩ := h.code thread.address (by omega)
      simp only [Thread.accepts, Thread.move, hmoved, hinstr]
      cases instr <;> rfl

/-- A settled thread consumes what the thread consumes. -/
theorem consume?_settle (h : Embeds part program length base stop slots) (c : Char)
    {thread : Thread} (hle : thread.address ≤ length) :
    (thread.settle length base stop slots).consume? program c =
      (thread.consume? part c).map (Thread.move base slots) := by
  unfold Thread.settle
  split
  · next heq => simp [Thread.consume?, h.stops, heq, h.accept]
  · next hne =>
      obtain ⟨instr, hinstr, -, hmoved⟩ := h.code thread.address (by omega)
      simp only [Thread.consume?, Thread.move, hmoved, hinstr]
      cases instr with
      | char d =>
          simp only [Instr.move]
          split
          · simp [Thread.move, Nat.add_right_comm]
          · rfl
      | set s =>
          simp only [Instr.move]
          split
          · simp [Thread.move, Nat.add_right_comm]
          · rfl
      | _ => rfl

/-- The first settled thread that accepts is the first thread that accepts, settled. -/
theorem find?_settle (h : Embeds part program length base stop slots) {resting : List Thread}
    (hresting : ∀ t ∈ resting, t.address ≤ length) :
    (resting.map (Thread.settle length base stop slots)).find? (Thread.accepts program) =
      (resting.find? (Thread.accepts part)).map (Thread.settle length base stop slots) := by
  induction resting with
  | nil => rfl
  | cons t resting ih =>
      obtain ⟨ht, hresting⟩ := List.forall_mem_cons.mp hresting
      rw [List.map_cons, List.find?_cons, List.find?_cons, h.accepts_settle ht, ih hresting]
      cases t.accepts part <;> rfl

/-- The threads that live on behind a character are the same in both programs. -/
theorem live_settle (h : Embeds part program length base stop slots) (c : Char)
    {resting : List Thread} (hresting : ∀ t ∈ resting, t.address ≤ length) :
    ((resting.map (Thread.settle length base stop slots)).takeWhile
        fun t => !t.accepts program).filterMap (Thread.consume? program c) =
      ((resting.takeWhile fun t => !t.accepts part).filterMap (Thread.consume? part c)).map
        (Thread.move base slots) := by
  induction resting with
  | nil => rfl
  | cons t resting ih =>
      obtain ⟨ht, hresting⟩ := List.forall_mem_cons.mp hresting
      rw [List.map_cons, List.takeWhile_cons, List.takeWhile_cons, h.accepts_settle ht]
      cases t.accepts part with
      | true => rfl
      | false =>
          simp only [Bool.not_false, if_true, List.filterMap_cons, h.consume?_settle c ht]
          rw [ih hresting]
          cases t.consume? part c <;> rfl

/-- Settling moves the slots that were saved, and nothing else that is saved. -/
theorem saved_settle (thread : Thread) :
    (thread.settle length base stop slots).saved = moveSlots slots thread.saved := by
  unfold Thread.settle
  split <;> rfl

/-- The match kept at one offset, in the larger program and in the part. -/
theorem best_settle (h : Embeds part program length base stop slots) {resting : List Thread}
    (hresting : ∀ t ∈ resting, t.address ≤ length) (best : Option (List (Nat × Nat))) :
    (((resting.map (Thread.settle length base stop slots)).find? (Thread.accepts program)).map
        (·.saved)).or (best.map (moveSlots slots)) =
      (((resting.find? (Thread.accepts part)).map (·.saved)).or best).map (moveSlots slots) := by
  rw [h.find?_settle hresting]
  cases resting.find? (Thread.accepts part) with
  | none => rfl
  | some t => simp [saved_settle]

/-- **A run inside of a larger program** is the run of the part by itself. -/
theorem runThreads_map (h : Embeds part program length base stop slots) (rest : Text)
    (before : Option Char) (offset : Nat) (threads : List Thread)
    (best : Option (List (Nat × Nat))) (hthreads : ∀ t ∈ threads, t.address ≤ length) :
    runThreads program rest before offset (threads.map (Thread.move base slots))
        (best.map (moveSlots slots)) =
      (runThreads part rest before offset threads best).map (moveSlots slots) := by
  induction rest generalizing before offset threads best with
  | nil =>
      have hresting := h.region_part.closure ⟨before, none, offset⟩ hthreads
      rw [runThreads_end, runThreads_end, h.closure_map _ hthreads, h.best_settle hresting]
  | cons c rest ih =>
      have hresting := h.region_part.closure ⟨before, some c, offset⟩ hthreads
      rw [runThreads_cons, runThreads_cons, h.closure_map _ hthreads, h.best_settle hresting,
        h.live_settle c hresting]
      exact ih _ _ _ _ (h.region_part.consume_live c hresting)

end Embeds

/-! ### Branches -/

variable {program : Program}

/-- Two regions together are a region. -/
theorem Region.or {first second : Nat → Prop} (h₁ : Region program first)
    (h₂ : Region program second) : Region program fun a => first a ∨ second a where
  next := fun spot thread hthread t ht =>
    hthread.imp (h₁.next spot thread · t ht) (h₂.next spot thread · t ht)
  consume := fun c thread hthread t ht =>
    hthread.imp (h₁.consume c thread · t ht) (h₂.consume c thread · t ht)

/-- Code that stands in front of an accepting address is not left. -/
theorem region_code {base : Nat} {code : List Instr} (hcode : CodeAt program base code)
    (hbetween : ∀ instr ∈ code, instr.Between base (base + code.length))
    (hstop : program[base + code.length]? = some .accept) :
    Region program fun a => base ≤ a ∧ a ≤ base + code.length := by
  refine .of_leads fun a instr ha hinstr => ?_
  obtain ⟨hge, hle⟩ := ha
  rcases Nat.lt_or_eq_of_le hle with hlt | rfl
  · have hinside := hbetween instr (hcode.mem hge hlt hinstr)
    cases instr with
    | split first second => exact hinside
    | jump target => exact hinside
    | accept => trivial
    | _ => exact ⟨by omega, by omega⟩
  · obtain rfl := Option.some.inj (hinstr.symm.trans hstop)
    trivial

/-- A run from a split to which nothing leads back is a run from the two addresses. -/
theorem runThreads_split {inside : Nat → Prop} {base first second : Nat}
    (hsplit : program[base]? = some (.split first second)) (hregion : Region program inside)
    (hbase : ¬inside base) (hfirst : inside first) (hsecond : inside second) (rest : Text)
    (before : Option Char) (offset : Nat) (saved : List (Nat × Nat))
    (best : Option (List (Nat × Nat))) :
    runThreads program rest before offset [⟨base, saved⟩] best =
      runThreads program rest before offset ([⟨first, saved⟩] ++ [⟨second, saved⟩]) best := by
  have hclosure : ∀ spot, closure program spot [⟨base, saved⟩] =
      closure program spot ([⟨first, saved⟩] ++ [⟨second, saved⟩]) := by
    intro spot
    obtain ⟨_, hsweeps⟩ := closure_sweeps program spot ([⟨first, saved⟩] ++ [⟨second, saved⟩])
    have hagree : ∀ a, inside a → (opened 0 base).testBit a = (0 : Nat).testBit a := by
      intro a ha
      have hne : a ≠ base := fun heq => hbase (heq ▸ ha)
      rw [testBit_opened, decide_eq_false hne, Bool.or_false]
    obtain ⟨seen, hopened⟩ := hsweeps.agree hregion (by simp [hfirst, hsecond]) hagree
    have hnext : (⟨base, saved⟩ : Thread).next program spot ++ [] =
        [⟨first, saved⟩] ++ [⟨second, saved⟩] := by
      unfold Thread.next
      rw [hsplit]
      rfl
    have hsweeps' : Sweeps program spot [⟨base, saved⟩] 0
        (closure program spot ([⟨first, saved⟩] ++ [⟨second, saved⟩])) seen := by
      refine .next (Nat.zero_testBit _) (by simp [Thread.rests, hsplit]) ?_
      rw [hnext]
      exact hopened
    exact hsweeps'.closure_eq
  cases rest with
  | nil => rw [runThreads_end, runThreads_end, hclosure]
  | cons c rest => rw [runThreads_cons, runThreads_cons, hclosure]

/-- An expression with renumbered groups, laid out in front of a way to an accepting address. -/
theorem embeds_code {e : Expr} {w base stop : Nat}
    (hcode : CodeAt program base ((e.shift w).code base))
    (hstop : program[stop]? = some .accept)
    (hleaves : (e.code 0).length + base = stop ∨
      program[(e.code 0).length + base]? = some (.jump stop)) :
    Embeds e.program program (e.code 0).length base stop (2 * w) where
  code := by
    intro a ha
    have hinstr : (e.code 0)[a]? = some (e.code 0)[a] := List.getElem?_eq_getElem ha
    have hmoved := e.code_shift w 0 base
    rw [Nat.zero_add] at hmoved
    refine ⟨(e.code 0)[a], ?_, ?_, ?_⟩
    · have hpart := (codeAt_program e).append_left a _ hinstr
      rwa [Nat.zero_add] at hpart
    · have hbetween := e.between_code 0 _ (List.getElem_mem ha)
      rwa [Nat.zero_add] at hbetween
    · rw [Nat.add_comm]
      exact hcode a _ (by rw [hmoved, List.getElem?_map, hinstr]; rfl)
  accept := by
    have haccept := (codeAt_program e).append_right.head
    rwa [Nat.zero_add] at haccept
  stops := hstop
  leaves := hleaves

/-- A run from the address of an embedded expression. -/
theorem Embeds.runThreads_entry {e : Expr} {length base stop slots : Nat}
    (h : Embeds e.program program length base stop slots) (rest : Text) (before : Option Char)
    (offset : Nat) :
    runThreads program rest before offset [⟨base, []⟩] none =
      (runThreads e.program rest before offset [⟨0, []⟩] none).map (moveSlots slots) := by
  have hrun := h.runThreads_map rest before offset [⟨0, []⟩] none (by simp)
  simpa [Thread.move, moveSlots] using hrun

/-- The code of two or more branches: a split, the first branch with a jump over the others, and
the others. -/
theorem CodeAt.altCode_cons {e e' : Expr} {rest : List Expr} {base length : Nat}
    (h : CodeAt program base (Expr.altCode (e :: e' :: rest) base))
    (hlength : (e.code (base + 1)).length = length) :
    program[base]? = some (.split (base + 1) (base + length + 2)) ∧
      CodeAt program (base + 1) (e.code (base + 1)) ∧
      program[length + (base + 1)]? = some (.jump (base + length + 2 +
        (Expr.altCode (e' :: rest) (base + length + 2)).length)) ∧
      CodeAt program (base + length + 2) (Expr.altCode (e' :: rest) (base + length + 2)) ∧
      base + (Expr.altCode (e :: e' :: rest) base).length = base + length + 2 +
        (Expr.altCode (e' :: rest) (base + length + 2)).length := by
  subst hlength
  rw [Expr.altCode] at h ⊢
  simp only [List.cons_append] at h ⊢
  have hjump := h.tail.append_right.head
  have hothers := h.tail.append_right.tail
  have hat : base + 1 + (e.code (base + 1)).length = (e.code (base + 1)).length + (base + 1) := by
    omega
  have hbehind : base + 1 + (e.code (base + 1)).length + 1 =
      base + (e.code (base + 1)).length + 2 := by omega
  rw [hat] at hjump
  rw [hbehind] at hothers
  refine ⟨h.head, h.tail.append_left, hjump, hothers, ?_⟩
  simp only [List.length_cons, List.length_append]
  omega

/-- **A run of branches** finds what the first branch finds that finds anything. -/
theorem runThreads_altCode (rest : Text) (before : Option Char) (offset : Nat)
    (branches : List (Nat × Expr)) (hne : branches ≠ []) (base stop : Nat)
    (hcode : CodeAt program base
      (Expr.altCode (branches.map fun branch => branch.2.shift branch.1) base))
    (hend : base +
      (Expr.altCode (branches.map fun branch => branch.2.shift branch.1) base).length = stop)
    (hstop : program[stop]? = some .accept) :
    runThreads program rest before offset [⟨base, []⟩] none =
      branches.findSome? fun branch =>
        (runThreads branch.2.program rest before offset [⟨0, []⟩] none).map
          (moveSlots (2 * branch.1)) := by
  induction branches generalizing base with
  | nil => exact absurd rfl hne
  | cons branch branches ih =>
      obtain ⟨w, e⟩ := branch
      have hlength := (e.code_shift w).length_eq
      cases branches with
      | nil =>
          have hembeds : Embeds e.program program (e.code 0).length base stop (2 * w) := by
            refine embeds_code hcode hstop (.inl ?_)
            rw [← hend, Nat.add_comm]
            exact congrArg (base + ·) (hlength base).symm
          rw [hembeds.runThreads_entry, List.findSome?_singleton]
      | cons branch' branches =>
          obtain ⟨hsplit, hfirst, hjump, hothers, htotal⟩ := hcode.altCode_cons (hlength _)
          have hend' := htotal.symm.trans hend
          rw [hend'] at hjump
          have hembeds : Embeds e.program program (e.code 0).length (base + 1) stop (2 * w) :=
            embeds_code hfirst hstop (.inr hjump)
          have hregion := region_code hothers
            ((Expr.layout_altCode _ _).between (Nat.le_refl _) (Nat.le_refl _))
            (hend' ▸ hstop)
          rw [hend'] at hregion
          have hapart : Apart program _ _ := ⟨hembeds.region, hregion, fun a ha ha' => by
            rcases ha with ⟨-, hle⟩ | rfl
            · omega
            · exact hstop⟩
          rw [runThreads_split hsplit (hembeds.region.or hregion) (by omega) (by omega) (by omega),
            hapart.runThreads_append rest before offset none (by simp) (by simp; omega),
            hembeds.runThreads_entry, ih (by simp) _ hothers hend']
          rw [List.findSome?_cons (a := (w, e))]
          cases (runThreads e.program rest before offset [⟨0, []⟩] none).map
            (moveSlots (2 * w)) <;> rfl

/-- Renumbering the groups of an expression renumbers the slots of its matches. -/
theorem searchAt_shift (e : Expr) (w : Nat) (input : Text) (offset : Nat) :
    searchAt (e.shift w).program input offset =
      (searchAt e.program input offset).map (moveSlots (2 * w)) := by
  have hlength := (e.code_shift w).length_eq 0
  have hprogram := codeAt_program (e.shift w)
  have hstop := hprogram.append_right.head
  rw [Nat.zero_add, hlength] at hstop
  have hembeds : Embeds e.program (e.shift w).program (e.code 0).length 0 _ (2 * w) :=
    embeds_code hprogram.append_left hstop (.inl rfl)
  exact hembeds.runThreads_entry ..

/-- **An alternation matches what its first matching branch matches**, in the slots of that
branch. -/
theorem searchAt_alternation (branches : List (Nat × Expr)) (hne : branches ≠ []) (input : Text)
    (offset : Nat) :
    searchAt (Expr.alternation (branches.map fun branch => branch.2.shift branch.1)).program
        input offset =
      branches.findSome? fun branch =>
        (searchAt branch.2.program input offset).map (moveSlots (2 * branch.1)) := by
  have hprogram := codeAt_program
    (Expr.alternation (branches.map fun branch => branch.2.shift branch.1))
  exact runThreads_altCode _ _ _ branches hne 0 _ hprogram.append_left rfl
    hprogram.append_right.head

/-! ### The span of a whole match -/

/-- A slot is found where it was moved to. -/
theorem lookup_moveSlots (saved : List (Nat × Nat)) (slots slot : Nat) :
    (moveSlots slots saved).lookup (slot + slots) = saved.lookup slot := by
  induction saved with
  | nil => rfl
  | cons entry saved ih =>
      have hsame : (slot + slots == entry.1 + slots) = (slot == entry.1) := by
        rw [Bool.eq_iff_iff]
        simp
      rw [moveSlots, List.map_cons, List.lookup_cons, List.lookup_cons, ← moveSlots, ih, hsame]

/-- Nothing was moved to the slots below. -/
theorem lookup_moveSlots_of_lt (saved : List (Nat × Nat)) {slots slot : Nat} (h : slot < slots) :
    (moveSlots slots saved).lookup slot = none := by
  induction saved with
  | nil => rfl
  | cons entry saved ih =>
      have hne : (slot == entry.1 + slots) = false := by
        rw [beq_eq_false_iff_ne]
        omega
      rw [moveSlots, List.map_cons, List.lookup_cons, ← moveSlots, ih, hne]

/-- Renumbering a group's slots renumbers the group. -/
theorem groupSpan?_moveSlots (saved : List (Nat × Nat)) (w group : Nat) :
    groupSpan? (moveSlots (2 * w) saved) (group + w) = groupSpan? saved group := by
  have hstart : 2 * (group + w) = 2 * group + 2 * w := by omega
  unfold groupSpan?
  rw [hstart, Nat.add_right_comm, lookup_moveSlots, lookup_moveSlots]

/-- No group below the renumbered ones took part. -/
theorem groupSpan?_moveSlots_of_lt (saved : List (Nat × Nat)) {w group : Nat} (h : group < w) :
    groupSpan? (moveSlots (2 * w) saved) group = none := by
  rw [groupSpan?]
  rw [lookup_moveSlots_of_lt saved (by omega)]

/-- The instructions of a group that is a whole program. -/
theorem Expr.program_group {index : Nat} {e : Expr} {a : Nat} {instr : Instr}
    (h : (Expr.group index e).program[a]? = some instr) :
    (a = 0 ∧ instr = .save (2 * index)) ∨
      ((1 ≤ a ∧ a ≤ (e.code 1).length) ∧ instr.Between 1 (1 + (e.code 1).length)) ∨
      (a = 1 + (e.code 1).length ∧ instr = .save (2 * index + 1)) ∨
      (a = 2 + (e.code 1).length ∧ instr = .accept) := by
  simp only [Expr.program, Expr.code, List.getElem?_toArray, List.cons_append,
    List.append_assoc] at h
  cases a with
  | zero => exact .inl ⟨rfl, (Option.some.inj h).symm⟩
  | succ a =>
      right
      rw [List.getElem?_cons_succ] at h
      rcases Nat.lt_or_ge a (e.code 1).length with hlt | hge
      · rw [List.getElem?_append_left hlt] at h
        exact .inl ⟨⟨by omega, by omega⟩, e.between_code 1 _ (List.mem_of_getElem? h)⟩
      · right
        obtain ⟨k, rfl⟩ := Nat.exists_eq_add_of_le hge
        rw [List.getElem?_append_right hge, Nat.add_sub_cancel_left] at h
        cases k with
        | zero => exact .inl ⟨by omega, (Option.some.inj h).symm⟩
        | succ k =>
            cases k with
            | zero => exact .inr ⟨by omega, (Option.some.inj h).symm⟩
            | succ k => exact absurd h (by simp)

/-- Where a thread of a program that is one group stands, with what it has saved there: the start
behind the first instruction, and the end in front of the last. -/
def Recorded (index length address : Nat) (saved : List (Nat × Nat)) : Prop :=
  address = 0 ∨
    ((1 ≤ address ∧ address ≤ 2 + length) ∧ (saved.lookup (2 * index)).isSome = true ∧
      (address = 2 + length → (saved.lookup (2 * index + 1)).isSome = true))

/-- Inside of the group its start has been saved. -/
theorem Recorded.advance {index : Nat} {e : Expr} {a target : Nat} {instr : Instr}
    {saved : List (Nat × Nat)} (h : Recorded index (e.code 1).length a saved)
    (ha : (Expr.group index e).program[a]? = some instr) (hsave : ∀ slot, instr ≠ .save slot)
    (htarget : instr.Between 1 (1 + (e.code 1).length) →
      1 ≤ a → a ≤ (e.code 1).length → 1 ≤ target ∧ target ≤ 1 + (e.code 1).length)
    (haccept : instr ≠ .accept) : Recorded index (e.code 1).length target saved := by
  rcases Expr.program_group ha with ⟨-, rfl⟩ | ⟨⟨hge, hle⟩, hbetween⟩ | ⟨-, rfl⟩ | ⟨-, rfl⟩
  · exact absurd rfl (hsave _)
  · obtain ⟨hlo, hhi⟩ := htarget hbetween hge hle
    obtain ⟨-, hstart, -⟩ := h.resolve_left (by omega)
    exact .inr ⟨⟨hlo, by omega⟩, hstart, fun heq => absurd heq (by omega)⟩
  · exact absurd rfl (hsave _)
  · exact absurd rfl haccept

/-- A slot that is saved stays saved. -/
theorem isSome_lookup_cons {saved : List (Nat × Nat)} {slot : Nat} (entry : Nat × Nat)
    (h : (saved.lookup slot).isSome = true) : ((entry :: saved).lookup slot).isSome = true := by
  rw [List.lookup_cons]
  split
  · rfl
  · exact h

/-- A save in the group keeps its slots recorded: the first is that of its start, the last that of
its end. -/
theorem Recorded.save {index : Nat} {e : Expr} {a slot offset : Nat} {saved : List (Nat × Nat)}
    (h : Recorded index (e.code 1).length a saved)
    (ha : (Expr.group index e).program[a]? = some (.save slot)) :
    Recorded index (e.code 1).length (a + 1) ((slot, offset) :: saved) := by
  rcases Expr.program_group ha with ⟨rfl, hslot⟩ | ⟨⟨hge, hle⟩, -⟩ | ⟨rfl, hslot⟩ | ⟨-, habsurd⟩
  · injection hslot with hslot
    exact .inr ⟨⟨by omega, by omega⟩, by simp [hslot], fun heq => absurd heq (by omega)⟩
  · obtain ⟨-, hstart, -⟩ := h.resolve_left (by omega)
    exact .inr ⟨⟨by omega, by omega⟩, isSome_lookup_cons _ hstart, fun heq => absurd heq (by omega)⟩
  · injection hslot with hslot
    obtain ⟨-, hstart, -⟩ := h.resolve_left (by omega)
    exact .inr ⟨⟨by omega, by omega⟩, isSome_lookup_cons _ hstart, fun _ => by simp [hslot]⟩
  · exact absurd habsurd (by simp)

/-- **In every thread the slots of the whole group are saved as far as it has come.** -/
theorem kept_recorded (index : Nat) (e : Expr) (input : Text) :
    Kept (Expr.group index e).program input fun a _ saved =>
      Recorded index (e.code 1).length a saved where
  jump ha h := h.advance ha (by simp) (fun hbetween _ _ => hbetween) (by simp)
  split ha h :=
    ⟨h.advance ha (by simp) (fun hbetween _ _ => hbetween.1) (by simp),
      h.advance ha (by simp) (fun hbetween _ _ => hbetween.2) (by simp)⟩
  save ha h := h.save ha
  look ha h := h.advance ha (by simp) (fun _ _ _ => ⟨by omega, by omega⟩) (by simp)
  char ha h _ := h.advance ha (by simp) (fun _ _ _ => ⟨by omega, by omega⟩) (by simp)
  set ha h _ := h.advance ha (by simp) (fun _ _ _ => ⟨by omega, by omega⟩) (by simp)

/-- **The whole match has a span**: where a program is one group, every match records it. -/
theorem searchAt_group {index : Nat} {e : Expr} {input : Text} {offset : Nat}
    {saved : List (Nat × Nat)} (hoffset : input.isBoundary offset = true)
    (hsearch : searchAt (Expr.group index e).program input offset = some saved) :
    ∃ span, groupSpan? saved index = some span := by
  obtain ⟨a, o, haccept, hgood⟩ :=
    searchAt_kept (kept_recorded index e input) hoffset (.inl rfl) hsearch
  rcases Expr.program_group haccept with ⟨-, heq⟩ | ⟨-, hbetween⟩ | ⟨-, heq⟩ | ⟨rfl, -⟩
  · exact absurd heq (by simp)
  · exact absurd hbetween id
  · exact absurd heq (by simp)
  · obtain ⟨-, hstart, hstop⟩ := hgood.resolve_left (by omega)
    obtain ⟨start, hstart⟩ := Option.isSome_iff_exists.mp hstart
    obtain ⟨stop, hstop⟩ := Option.isSome_iff_exists.mp (hstop rfl)
    exact ⟨(start, stop), by rw [groupSpan?, hstart, hstop]⟩

end ModalLex.Regex
