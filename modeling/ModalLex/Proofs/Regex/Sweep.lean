import Mathlib.Data.List.TakeWhile
import ModalLex.Regex.Search

/-!
# Sweeps

At one offset the threads of a run are followed until they rest, and every address is opened at
most once. `Sweeps` describes this without an allowance: it relates the waiting threads and the
addresses opened before to the threads that rest, in order, and the addresses opened behind. The
allowance that the matcher takes is always enough, so a `closure` is a sweep.

Threads in parts of a program that have nothing but the accepting address in common are swept
**one part after the other**, as long as the first part does not accept. Hence running the threads
of two parts together finds the match of the first part, and that of the second only where the
first has none: this is what makes an alternation prefer its earlier branches.

## Main results

* `closure_sweeps`: following threads with the matcher's allowance is a sweep.
* `Sweeps.append`, `Sweeps.agree`: sweeps of parts, and what a sweep depends on.
* `runThreads_append`: **the preferred match of two parts** is that of the first, if it has one.
-/

namespace ModalLex.Regex

/-- The threads that a thread leads to without consuming. -/
def Thread.next (program : Program) (spot : Spot) (thread : Thread) : List Thread :=
  match program[thread.address]? with
  | some (.jump target) => [⟨target, thread.saved⟩]
  | some (.split first second) => [⟨first, thread.saved⟩, ⟨second, thread.saved⟩]
  | some (.save slot) => [⟨thread.address + 1, (slot, spot.offset) :: thread.saved⟩]
  | some (.look place) =>
    if place.holds spot.before spot.after then [⟨thread.address + 1, thread.saved⟩] else []
  | _ => []

/-- Whether a thread waits for a character or accepts. -/
def Thread.rests (program : Program) (thread : Thread) : Bool :=
  match program[thread.address]? with
  | some (.char _) | some (.set _) | some .accept => true
  | _ => false

/-- The opened addresses with one more. -/
def opened (seen address : Nat) : Nat := seen ||| (1 <<< address)

/-- The bits of the opened addresses, with the new one among them. -/
theorem testBit_opened (seen address a : Nat) :
    (opened seen address).testBit a = (seen.testBit a || decide (a = address)) := by
  rw [opened, Nat.testBit_or, Nat.one_shiftLeft, Nat.testBit_two_pow]
  simp [eq_comm]

/-- An address is opened once. -/
theorem opened_opened_self (seen address : Nat) :
    opened (opened seen address) address = opened seen address := by
  rw [opened, opened, Nat.or_assoc, Nat.or_self]

variable {program : Program} {spot : Spot}

/-- One step of following threads. -/
theorem follow_cons (fuel : Nat) (thread : Thread) (waiting : List Thread) (seen : Nat)
    (found : List Thread) :
    follow program spot (fuel + 1) (thread :: waiting) seen found =
      if seen.testBit thread.address then follow program spot fuel waiting seen found
      else if thread.rests program then
        follow program spot fuel waiting (opened seen thread.address) (thread :: found)
      else
        follow program spot fuel (thread.next program spot ++ waiting)
          (opened seen thread.address) found := by
  rw [follow]
  by_cases hseen : seen.testBit thread.address = true
  · rw [if_pos hseen, if_pos hseen]
  · rw [if_neg hseen, if_neg hseen]
    rw [Thread.rests, Thread.next, opened]
    dsimp only
    cases program[thread.address]? with
    | none => rfl
    | some instr =>
        cases instr with
        | look place =>
            dsimp only
            split <;> rfl
        | _ => rfl

/-! ### Sweeps -/

/-- Sweeping over waiting threads, where some addresses have been opened before: the threads that
rest, in order of preference, and the addresses that have been opened then. -/
inductive Sweeps (program : Program) (spot : Spot) :
    List Thread → (seen : Nat) → (resting : List Thread) → (seen' : Nat) → Prop
  | nil {seen : Nat} : Sweeps program spot [] seen [] seen
  | skip {thread : Thread} {waiting resting : List Thread} {seen seen' : Nat} :
      seen.testBit thread.address = true → Sweeps program spot waiting seen resting seen' →
      Sweeps program spot (thread :: waiting) seen resting seen'
  | rest {thread : Thread} {waiting resting : List Thread} {seen seen' : Nat} :
      seen.testBit thread.address = false → thread.rests program = true →
      Sweeps program spot waiting (opened seen thread.address) resting seen' →
      Sweeps program spot (thread :: waiting) seen (thread :: resting) seen'
  | next {thread : Thread} {waiting resting : List Thread} {seen seen' : Nat} :
      seen.testBit thread.address = false → thread.rests program = false →
      Sweeps program spot (thread.next program spot ++ waiting) (opened seen thread.address)
        resting seen' →
      Sweeps program spot (thread :: waiting) seen resting seen'

/-- The number of addresses of a program that have not been opened. -/
def unopened (program : Program) (seen : Nat) : Nat :=
  (List.range program.size).countP fun a => !seen.testBit a

/-- There are no more addresses to be opened than the program has. -/
theorem unopened_le (program : Program) (seen : Nat) : unopened program seen ≤ program.size := by
  have h := List.countP_le_length (p := fun a => !seen.testBit a) (l := List.range program.size)
  rwa [List.length_range] at h

/-- Fewer are counted by a stronger test if one is lost. -/
theorem countP_lt_of_mem {l : List Nat} {p q : Nat → Bool} {a : Nat} (ha : a ∈ l)
    (hsub : ∀ b, p b = true → q b = true) (hp : p a = false) (hq : q a = true) :
    l.countP p + 1 ≤ l.countP q := by
  induction l with
  | nil => exact absurd ha (by simp)
  | cons b l ih =>
      have hmono := List.countP_mono_left (l := l) fun b _ => hsub b
      rw [List.countP_cons, List.countP_cons]
      rcases List.mem_cons.mp ha with rfl | ha
      · simp only [hp, hq, if_true, Bool.false_eq_true, if_false]
        omega
      · have hle := ih ha
        by_cases hb : p b = true
        · simp only [hb, hsub b hb, if_true]
          omega
        · simp only [hb, Bool.false_eq_true, if_false]
          split <;> omega

/-- Opening an address of the program leaves fewer to be opened. -/
theorem unopened_opened {seen address : Nat} (hnew : seen.testBit address = false)
    (haddress : address < program.size) :
    unopened program (opened seen address) + 1 ≤ unopened program seen := by
  refine countP_lt_of_mem (List.mem_range.mpr haddress) ?_ ?_ ?_
  · intro b hb
    simp only [testBit_opened, Bool.not_or, Bool.and_eq_true] at hb
    exact hb.1
  · simp [testBit_opened]
  · simp [hnew]

/-- Opening an address, also one outside of the program, leaves no more to be opened. -/
theorem opened_unopened_le (program : Program) (seen address : Nat) :
    unopened program (opened seen address) ≤ unopened program seen := by
  refine List.countP_mono_left fun b _ hb => ?_
  simp only [testBit_opened, Bool.not_or, Bool.and_eq_true] at hb
  exact hb.1

/-- A thread leads to at most two threads, and only from an address of the program. -/
theorem Thread.length_next (program : Program) (spot : Spot) (thread : Thread) :
    (thread.next program spot).length ≤ 2 ∧
      (program.size ≤ thread.address → thread.next program spot = []) := by
  constructor
  · rw [Thread.next]
    split
    all_goals first | (split <;> simp) | simp
  · intro h
    rw [Thread.next]
    rw [Array.getElem?_eq_none h]

/-- **Following threads is a sweep**, if the allowance is one for each waiting thread and two for
each address that has not been opened. -/
theorem follow_sweeps (fuel : Nat) (waiting : List Thread) (seen : Nat) (found : List Thread)
    (hfuel : waiting.length + 2 * unopened program seen ≤ fuel) :
    ∃ resting seen', Sweeps program spot waiting seen resting seen' ∧
      follow program spot fuel waiting seen found = found.reverse ++ resting := by
  induction fuel generalizing waiting seen found with
  | zero =>
      obtain rfl : waiting = [] := List.length_eq_zero_iff.mp (by omega)
      exact ⟨[], seen, .nil, by rw [follow, List.append_nil]⟩
  | succ fuel ih =>
      cases waiting with
      | nil => exact ⟨[], seen, .nil, by rw [follow, List.append_nil]⟩
      | cons thread waiting =>
          rw [List.length_cons] at hfuel
          rw [follow_cons]
          by_cases hseen : seen.testBit thread.address = true
          · obtain ⟨resting, seen', hsweeps, hfollow⟩ := ih waiting seen found (by omega)
            exact ⟨resting, seen', .skip hseen hsweeps, by rw [if_pos hseen, hfollow]⟩
          · have hle := opened_unopened_le program seen thread.address
            rw [if_neg hseen]
            rw [Bool.not_eq_true] at hseen
            by_cases hrests : thread.rests program = true
            · obtain ⟨resting, seen', hsweeps, hfollow⟩ :=
                ih waiting (opened seen thread.address) (thread :: found) (by omega)
              refine ⟨thread :: resting, seen', .rest hseen hrests hsweeps, ?_⟩
              rw [if_pos hrests, hfollow, List.reverse_cons, List.append_assoc]
              rfl
            · rw [if_neg hrests]
              rw [Bool.not_eq_true] at hrests
              obtain ⟨hlength, hnone⟩ := thread.length_next program spot
              have hmeasure : (thread.next program spot ++ waiting).length +
                  2 * unopened program (opened seen thread.address) ≤ fuel := by
                rw [List.length_append]
                rcases Nat.lt_or_ge thread.address program.size with hlt | hge
                · have hless := unopened_opened hseen hlt
                  omega
                · rw [hnone hge, List.length_nil]
                  omega
              obtain ⟨resting, seen', hsweeps, hfollow⟩ := ih _ _ found hmeasure
              exact ⟨resting, seen', .next hseen hrests hsweeps, hfollow⟩

/-- A closure is a sweep from no opened addresses. -/
theorem closure_sweeps (program : Program) (spot : Spot) (threads : List Thread) :
    ∃ seen', Sweeps program spot threads 0 (closure program spot threads) seen' := by
  have hle := unopened_le program 0
  obtain ⟨resting, seen', hsweeps, hfollow⟩ := @follow_sweeps program spot
    (threads.length + 2 * program.size + 1) threads 0 [] (by omega)
  rw [closure, hfollow]
  exact ⟨seen', hsweeps⟩

/-- **Every sweep comes to its end**: each thread is skipped, or its address is opened, and only
finitely many are left to be opened. -/
theorem exists_sweeps (program : Program) (spot : Spot) (waiting : List Thread) (seen : Nat) :
    ∃ resting seen', Sweeps program spot waiting seen resting seen' := by
  obtain ⟨resting, seen', hsweeps, -⟩ := @follow_sweeps program spot _ waiting seen []
    (Nat.le_refl _)
  exact ⟨resting, seen', hsweeps⟩

namespace Sweeps

variable {waiting waiting' resting resting' : List Thread} {seen seen' seen'' : Nat}

/-- A sweep has one outcome. -/
theorem unique (h : Sweeps program spot waiting seen resting seen')
    (h' : Sweeps program spot waiting seen resting' seen'') :
    resting = resting' ∧ seen' = seen'' := by
  induction h generalizing resting' seen'' with
  | nil =>
      cases h'
      exact ⟨rfl, rfl⟩
  | skip hseen _ ih =>
      cases h' with
      | skip _ h' => exact ih h'
      | rest hnew => exact absurd hseen (by simp [hnew])
      | next hnew => exact absurd hseen (by simp [hnew])
  | rest hnew hrests _ ih =>
      cases h' with
      | skip hseen => exact absurd hseen (by simp [hnew])
      | rest _ _ h' =>
          obtain ⟨rfl, rfl⟩ := ih h'
          exact ⟨rfl, rfl⟩
      | next _ hnot => exact absurd hrests (by simp [hnot])
  | next hnew hnot _ ih =>
      cases h' with
      | skip hseen => exact absurd hseen (by simp [hnew])
      | rest _ hrests => exact absurd hrests (by simp [hnot])
      | next _ _ h' => exact ih h'

/-- A sweep from no opened addresses is the closure. -/
theorem closure_eq (h : Sweeps program spot waiting 0 resting seen') :
    closure program spot waiting = resting := by
  obtain ⟨_, hclosure⟩ := closure_sweeps program spot waiting
  exact (hclosure.unique h).1

/-- One sweep behind another. -/
theorem append (h : Sweeps program spot waiting seen resting seen')
    (h' : Sweeps program spot waiting' seen' resting' seen'') :
    Sweeps program spot (waiting ++ waiting') seen (resting ++ resting') seen'' := by
  induction h with
  | nil => exact h'
  | skip hseen _ ih => exact .skip hseen (ih h')
  | rest hnew hrests _ ih => exact .rest hnew hrests (ih h')
  | next hnew hnot _ ih =>
      have hnext := ih h'
      rw [List.append_assoc] at hnext
      exact .next hnew hnot hnext

end Sweeps

/-! ### Parts of a program -/

/-- A set of addresses that threads do not leave. -/
structure Region (program : Program) (inside : Nat → Prop) : Prop where
  next : ∀ (spot : Spot) (thread : Thread), inside thread.address →
    ∀ t ∈ thread.next program spot, inside t.address
  consume : ∀ (c : Char) (thread : Thread), inside thread.address →
    ∀ t ∈ thread.consume? program c, inside t.address

namespace Sweeps

variable {waiting resting : List Thread} {seen seen' seen₂ : Nat} {inside : Nat → Prop}

/-- Threads inside of a region rest inside of it. -/
theorem resting_inside (hregion : Region program inside)
    (h : Sweeps program spot waiting seen resting seen')
    (hwaiting : ∀ t ∈ waiting, inside t.address) : ∀ t ∈ resting, inside t.address := by
  induction h with
  | nil => simp
  | skip _ _ ih => exact ih (List.forall_mem_cons.mp hwaiting).2
  | rest _ _ _ ih =>
      obtain ⟨hthread, hwaiting⟩ := List.forall_mem_cons.mp hwaiting
      exact List.forall_mem_cons.mpr ⟨hthread, ih hwaiting⟩
  | next _ _ _ ih =>
      obtain ⟨hthread, hwaiting⟩ := List.forall_mem_cons.mp hwaiting
      exact ih (List.forall_mem_append.mpr ⟨hregion.next spot _ hthread, hwaiting⟩)

/-- Only addresses of the region are opened. -/
theorem outside (hregion : Region program inside)
    (h : Sweeps program spot waiting seen resting seen')
    (hwaiting : ∀ t ∈ waiting, inside t.address) {a : Nat} (ha : ¬inside a) :
    seen'.testBit a = seen.testBit a := by
  induction h with
  | nil => rfl
  | skip _ _ ih => exact ih (List.forall_mem_cons.mp hwaiting).2
  | @rest thread _ _ _ _ _ _ _ ih =>
      obtain ⟨hthread, hwaiting⟩ := List.forall_mem_cons.mp hwaiting
      have hne : a ≠ thread.address := fun heq => ha (heq ▸ hthread)
      rw [ih hwaiting, testBit_opened, decide_eq_false hne, Bool.or_false]
  | @next thread _ _ _ _ _ _ _ ih =>
      obtain ⟨hthread, hwaiting⟩ := List.forall_mem_cons.mp hwaiting
      have hne : a ≠ thread.address := fun heq => ha (heq ▸ hthread)
      rw [ih (List.forall_mem_append.mpr ⟨hregion.next spot _ hthread, hwaiting⟩), testBit_opened,
        decide_eq_false hne, Bool.or_false]

/-- A sweep inside of a region only depends on which addresses of the region have been opened. -/
theorem agree (hregion : Region program inside)
    (h : Sweeps program spot waiting seen resting seen')
    (hwaiting : ∀ t ∈ waiting, inside t.address)
    (hagree : ∀ a, inside a → seen₂.testBit a = seen.testBit a) :
    ∃ seen₂', Sweeps program spot waiting seen₂ resting seen₂' := by
  induction h generalizing seen₂ with
  | nil => exact ⟨_, .nil⟩
  | skip hseen _ ih =>
      obtain ⟨hthread, hwaiting⟩ := List.forall_mem_cons.mp hwaiting
      obtain ⟨_, hsweeps⟩ := ih hwaiting hagree
      exact ⟨_, .skip ((hagree _ hthread).trans hseen) hsweeps⟩
  | @rest thread _ _ _ _ hnew hrests _ ih =>
      obtain ⟨hthread, hwaiting⟩ := List.forall_mem_cons.mp hwaiting
      obtain ⟨_, hsweeps⟩ := @ih (opened seen₂ thread.address) hwaiting
        fun a ha => by rw [testBit_opened, testBit_opened, hagree a ha]
      exact ⟨_, .rest ((hagree _ hthread).trans hnew) hrests hsweeps⟩
  | @next thread _ _ _ _ hnew hnot _ ih =>
      obtain ⟨hthread, hwaiting⟩ := List.forall_mem_cons.mp hwaiting
      obtain ⟨_, hsweeps⟩ := @ih (opened seen₂ thread.address)
        (List.forall_mem_append.mpr ⟨hregion.next spot _ hthread, hwaiting⟩)
        fun a ha => by rw [testBit_opened, testBit_opened, hagree a ha]
      exact ⟨_, .next ((hagree _ hthread).trans hnew) hnot hsweeps⟩

/-- An accepting address that a sweep opens is that of a thread that rests. -/
theorem accept_opened {stop : Nat} (hstop : program[stop]? = some .accept)
    (h : Sweeps program spot waiting seen resting seen') (hopened : seen'.testBit stop = true) :
    seen.testBit stop = true ∨ ∃ t ∈ resting, t.address = stop := by
  induction h with
  | nil => exact .inl hopened
  | skip _ _ ih => exact ih hopened
  | @rest thread _ _ _ _ _ _ _ ih =>
      rcases ih hopened with hbefore | ⟨t, ht, hat⟩
      · rw [testBit_opened, Bool.or_eq_true, decide_eq_true_eq] at hbefore
        rcases hbefore with hbefore | rfl
        · exact .inl hbefore
        · exact .inr ⟨thread, by simp, rfl⟩
      · exact .inr ⟨t, by simp [ht], hat⟩
  | @next thread _ _ _ _ _ hnot _ ih =>
      rcases ih hopened with hbefore | hrest
      · rw [testBit_opened, Bool.or_eq_true, decide_eq_true_eq] at hbefore
        rcases hbefore with hbefore | rfl
        · exact .inl hbefore
        · exact absurd hnot (by simp [Thread.rests, hstop])
      · exact .inr hrest

end Sweeps

/-! ### Two parts -/

/-- Two regions of a program that have only an accepting address in common. -/
structure Apart (program : Program) (first second : Nat → Prop) : Prop where
  region₁ : Region program first
  region₂ : Region program second
  shared : ∀ a, first a → second a → program[a]? = some .accept

variable {first second : Nat → Prop} {threads₁ threads₂ : List Thread}

/-- The threads of the first region come to rest before those of the second, and these as they
would by themselves unless one of the first accepts. -/
theorem Apart.closure_append (h : Apart program first second) (spot : Spot)
    (h₁ : ∀ t ∈ threads₁, first t.address) (h₂ : ∀ t ∈ threads₂, second t.address) :
    ∃ others, closure program spot (threads₁ ++ threads₂) =
        closure program spot threads₁ ++ others ∧
      ((∀ t ∈ closure program spot threads₁, t.accepts program = false) →
        others = closure program spot threads₂) := by
  obtain ⟨seen₁, hsweep₁⟩ := closure_sweeps program spot threads₁
  obtain ⟨others, seen₂, hsweep₂⟩ := exists_sweeps program spot threads₂ seen₁
  refine ⟨others, (hsweep₁.append hsweep₂).closure_eq, ?_⟩
  intro hnone
  have hunopened : ∀ a, second a → (0 : Nat).testBit a = seen₁.testBit a := by
    intro a ha
    rw [Nat.zero_testBit]
    by_cases hfirst : first a
    · have hstop := h.shared a hfirst ha
      cases hbit : seen₁.testBit a with
      | false => rfl
      | true =>
          rcases hsweep₁.accept_opened hstop hbit with hzero | ⟨t, ht, rfl⟩
          · exact absurd hzero (by simp)
          · exact absurd (hnone t ht) (by simp [Thread.accepts, hstop])
    · rw [hsweep₁.outside h.region₁ h₁ hfirst, Nat.zero_testBit]
  obtain ⟨_, hsweep⟩ := hsweep₂.agree h.region₂ h₂ hunopened
  exact hsweep.closure_eq.symm

/-- The threads that are found from a region rest in the region. -/
theorem Region.closure (h : Region program first) (spot : Spot)
    (hthreads : ∀ t ∈ threads₁, first t.address) :
    ∀ t ∈ closure program spot threads₁, first t.address := by
  obtain ⟨_, hsweep⟩ := closure_sweeps program spot threads₁
  exact hsweep.resting_inside h hthreads

/-- So do those that live on behind a character. -/
theorem Region.consume_live (h : Region program first) {resting : List Thread} (c : Char)
    (hresting : ∀ t ∈ resting, first t.address) :
    ∀ t ∈ (resting.takeWhile fun t => !t.accepts program).filterMap (Thread.consume? program c),
      first t.address := by
  intro t ht
  obtain ⟨thread, hthread, hnext⟩ := List.mem_filterMap.mp ht
  exact h.consume c thread (hresting thread ((List.takeWhile_prefix _).subset hthread)) t hnext

/-- Without threads none are found. -/
theorem closure_nil (program : Program) (spot : Spot) : closure program spot [] = [] :=
  Sweeps.closure_eq .nil

/-- A run at the end of the text. -/
theorem runThreads_end (before : Option Char) (offset : Nat) (threads : List Thread)
    (best : Option (List (Nat × Nat))) :
    runThreads program [] before offset threads best =
      (((closure program ⟨before, none, offset⟩ threads).find?
        (Thread.accepts program)).map (·.saved)).or best := by
  rw [runThreads]
  rfl

/-- A run without threads keeps the match that it has. -/
theorem runThreads_nil (rest : Text) (before : Option Char) (offset : Nat)
    (best : Option (List (Nat × Nat))) : runThreads program rest before offset [] best = best := by
  cases rest with
  | nil =>
      rw [runThreads_end, closure_nil]
      rfl
  | cons c rest =>
      rw [runThreads, closure_nil]
      rfl

/-- A run before a character. -/
theorem runThreads_cons (c : Char) (rest : Text) (before : Option Char) (offset : Nat)
    (threads : List Thread) (best : Option (List (Nat × Nat))) :
    runThreads program (c :: rest) before offset threads best =
      runThreads program rest (some c) (offset + c.utf8Size)
        (((closure program ⟨before, some c, offset⟩ threads).takeWhile
          fun t => !t.accepts program).filterMap (Thread.consume? program c))
        ((((closure program ⟨before, some c, offset⟩ threads).find?
          (Thread.accepts program)).map (·.saved)).or best) := by
  rw [runThreads, List.head?_cons]
  cases hlive : ((closure program ⟨before, some c, offset⟩ threads).takeWhile
      fun t => !t.accepts program).filterMap (Thread.consume? program c) with
  | nil => rw [runThreads_nil]
  | cons t threads => rfl

/-- A run that has a match ends with one. -/
theorem runThreads_isSome (rest : Text) (before : Option Char) (offset : Nat)
    (threads : List Thread) {best : Option (List (Nat × Nat))} (h : best.isSome = true) :
    (runThreads program rest before offset threads best).isSome = true := by
  induction rest generalizing before offset threads best with
  | nil =>
      rw [runThreads_end]
      simp [h]
  | cons c rest ih =>
      rw [runThreads_cons]
      exact ih _ _ _ (by simp [h])

/-- If a thread of the first part accepts, no thread behind it lives on. -/
theorem takeWhile_append_of_find?_eq_some {resting others : List Thread} {t : Thread}
    (h : resting.find? (Thread.accepts program) = some t) :
    ((resting ++ others).takeWhile fun t => !t.accepts program) =
      resting.takeWhile fun t => !t.accepts program := by
  rw [List.takeWhile_append, if_neg]
  intro hall
  have hpre := (List.takeWhile_prefix (l := resting) fun t => !t.accepts program).eq_of_length hall
  have ht := List.mem_of_find?_eq_some h
  rw [← hpre] at ht
  have hnot := List.mem_takeWhile_imp ht
  exact absurd (List.find?_some h) (by simpa using hnot)

/-- If none does, all of the first part live on with those of the second. -/
theorem takeWhile_append_of_find?_eq_none {resting others : List Thread}
    (h : resting.find? (Thread.accepts program) = none) :
    ((resting ++ others).takeWhile fun t => !t.accepts program) =
        resting ++ others.takeWhile fun t => !t.accepts program := by
  rw [List.takeWhile_append_of_pos]
  intro t ht
  simpa using List.find?_eq_none.mp h t ht

/-- Where no thread is found that accepts, none accepts. -/
theorem not_accepts_of_find?_eq_none {resting : List Thread}
    (h : resting.find? (Thread.accepts program) = none) :
    ∀ t ∈ resting, t.accepts program = false := by
  intro t ht
  simpa using List.find?_eq_none.mp h t ht

/-- **The preferred match of two parts** is that of the first, if it has one. -/
theorem Apart.runThreads_append (h : Apart program first second) (rest : Text)
    (before : Option Char) (offset : Nat) (best : Option (List (Nat × Nat)))
    (h₁ : ∀ t ∈ threads₁, first t.address) (h₂ : ∀ t ∈ threads₂, second t.address) :
    runThreads program rest before offset (threads₁ ++ threads₂) best =
      (runThreads program rest before offset threads₁ none).or
        (runThreads program rest before offset threads₂ best) := by
  induction rest generalizing before offset threads₁ threads₂ best with
  | nil =>
      obtain ⟨others, hclosure, hothers⟩ := h.closure_append ⟨before, none, offset⟩ h₁ h₂
      rw [runThreads_end, runThreads_end, runThreads_end, hclosure, List.find?_append]
      cases hfind : (closure program ⟨before, none, offset⟩ threads₁).find?
          (Thread.accepts program) with
      | some t => rfl
      | none =>
          rw [hothers (not_accepts_of_find?_eq_none hfind)]
          rfl
  | cons c rest ih =>
      obtain ⟨others, hclosure, hothers⟩ := h.closure_append ⟨before, some c, offset⟩ h₁ h₂
      rw [runThreads_cons, runThreads_cons, runThreads_cons, hclosure, List.find?_append]
      cases hfind : (closure program ⟨before, some c, offset⟩ threads₁).find?
          (Thread.accepts program) with
      | some t =>
          -- A first part that accepts drops the threads of the second.
          rw [takeWhile_append_of_find?_eq_some hfind]
          have hsome : ∀ threads, (runThreads program rest (some c) (offset + c.utf8Size) threads
              (some t.saved)).isSome = true := fun _ => runThreads_isSome _ _ _ _ rfl
          obtain ⟨saved, hsaved⟩ := Option.isSome_iff_exists.mp (hsome _)
          simp only [Option.map_some, Option.some_or]
          rw [hsaved, Option.some_or]
      | none =>
          have hlive₁ := h.region₁.consume_live c (h.region₁.closure ⟨before, some c, offset⟩ h₁)
          have hlive₂ := h.region₂.consume_live c (h.region₂.closure ⟨before, some c, offset⟩ h₂)
          rw [takeWhile_append_of_find?_eq_none hfind,
            hothers (not_accepts_of_find?_eq_none hfind), List.filterMap_append]
          have hall := @takeWhile_append_of_find?_eq_none program _ [] hfind
          rw [List.append_nil, List.takeWhile_nil, List.append_nil] at hall
          rw [hall] at hlive₁ ⊢
          exact ih _ _ _ hlive₁ hlive₂

end ModalLex.Regex
