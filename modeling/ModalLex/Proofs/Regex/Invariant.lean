import ModalLex.Proofs.Text
import ModalLex.Regex.Search

/-!
# What Threads Keep

A run of a matcher program is followed thread by thread only once, here. A property of threads
that every instruction passes on (`Kept`) holds of every thread that a run lets rest, and so of
the slots that a match has saved (`searchAt_kept`). All that is known about the spans of a match
is such a property: where the saved offsets lie, which slots there are, and which offset of a
group was saved last.

## Main results

* `follow_kept`, `runThreads_kept`, `searchAt_kept`: **what every instruction keeps, a whole
  search keeps.**
* `searchAt_offsets`: every offset that a match saves is a boundary of the input and not before
  the offset of the search.
-/

namespace ModalLex.Regex

/-- A property of a thread's address, the offset and the saved slots that every instruction of a
program passes on to the threads that it leads to. -/
structure Kept (program : Program) (input : Text)
    (good : (address offset : Nat) → (saved : List (Nat × Nat)) → Prop) : Prop where
  jump : ∀ {a o saved target}, program[a]? = some (.jump target) → good a o saved →
    good target o saved
  split : ∀ {a o saved first second}, program[a]? = some (.split first second) →
    good a o saved → good first o saved ∧ good second o saved
  save : ∀ {a o saved slot}, program[a]? = some (.save slot) → good a o saved →
    good (a + 1) o ((slot, o) :: saved)
  look : ∀ {a o saved place}, program[a]? = some (.look place) → good a o saved →
    good (a + 1) o saved
  char : ∀ {a o saved c}, program[a]? = some (.char c) → good a o saved →
    input.isBoundary (o + c.utf8Size) = true → good (a + 1) (o + c.utf8Size) saved
  set : ∀ {a o saved s} {c : Char}, program[a]? = some (.set s) → good a o saved →
    input.isBoundary (o + c.utf8Size) = true → good (a + 1) (o + c.utf8Size) saved

variable {program : Program} {input : Text} {good : Nat → Nat → List (Nat × Nat) → Prop}

/-- Following threads at one offset keeps what every instruction keeps. -/
theorem follow_kept (h : Kept program input good) (spot : Spot) (fuel : Nat)
    (waiting : List Thread) (seen : Nat) (found : List Thread)
    (hwaiting : ∀ t ∈ waiting, good t.address spot.offset t.saved)
    (hfound : ∀ t ∈ found, good t.address spot.offset t.saved) :
    ∀ t ∈ follow program spot fuel waiting seen found, good t.address spot.offset t.saved := by
  induction fuel generalizing waiting seen found with
  | zero => simpa only [follow, List.mem_reverse] using hfound
  | succ fuel ih =>
      cases waiting with
      | nil => simpa only [follow, List.mem_reverse] using hfound
      | cons thread waiting =>
          obtain ⟨hthread, hwaiting⟩ := List.forall_mem_cons.mp hwaiting
          rw [follow]
          split
          · exact ih _ _ _ hwaiting hfound
          · dsimp only
            split
            · exact ih _ _ _ hwaiting hfound
            · next target hi =>
                exact ih _ _ _ (List.forall_mem_cons.mpr ⟨h.jump hi hthread, hwaiting⟩) hfound
            · next first second hi =>
                obtain ⟨h₁, h₂⟩ := h.split hi hthread
                exact ih _ _ _ (List.forall_mem_cons.mpr
                  ⟨h₁, List.forall_mem_cons.mpr ⟨h₂, hwaiting⟩⟩) hfound
            · next slot hi =>
                exact ih _ _ _ (List.forall_mem_cons.mpr ⟨h.save hi hthread, hwaiting⟩) hfound
            · next place hi =>
                split
                · exact ih _ _ _ (List.forall_mem_cons.mpr ⟨h.look hi hthread, hwaiting⟩) hfound
                · exact ih _ _ _ hwaiting hfound
            all_goals exact ih _ _ _ hwaiting (List.forall_mem_cons.mpr ⟨hthread, hfound⟩)

/-- The resting threads of a closure keep what every instruction keeps. -/
theorem closure_kept (h : Kept program input good) (spot : Spot) (threads : List Thread)
    (hthreads : ∀ t ∈ threads, good t.address spot.offset t.saved) :
    ∀ t ∈ closure program spot threads, good t.address spot.offset t.saved :=
  follow_kept h spot _ threads 0 [] hthreads (by simp)

/-- A thread that consumes a character keeps what every instruction keeps. -/
theorem consume?_kept (h : Kept program input good) {c : Char} {o : Nat} {thread next : Thread}
    (hthread : good thread.address o thread.saved)
    (hc : input.isBoundary (o + c.utf8Size) = true)
    (hnext : thread.consume? program c = some next) :
    good next.address (o + c.utf8Size) next.saved := by
  rw [Thread.consume?] at hnext
  split at hnext
  · next d hi =>
      obtain ⟨rfl, heq⟩ := Option.ite_none_right_eq_some.mp hnext
      obtain rfl := Option.some.inj heq
      exact h.char hi hthread hc
  · next s hi =>
      obtain ⟨-, heq⟩ := Option.ite_none_right_eq_some.mp hnext
      obtain rfl := Option.some.inj heq
      exact h.set hi hthread hc
  · exact absurd hnext (by simp)

/-- The slots of an accepting thread, with the property at the thread's address. -/
def GoodMatch (program : Program) (good : Nat → Nat → List (Nat × Nat) → Prop)
    (saved : List (Nat × Nat)) : Prop :=
  ∃ a o, program[a]? = some .accept ∧ good a o saved

theorem accept_of_accepts {thread : Thread} (h : thread.accepts program = true) :
    program[thread.address]? = some .accept := by
  rw [Thread.accepts] at h
  split at h
  · assumption
  · exact absurd h (by simp)

/-- The match kept at one offset is good: it is that of a resting thread, or the one before. -/
theorem best_kept {offset : Nat} {resting : List Thread} {best : Option (List (Nat × Nat))}
    (hresting : ∀ t ∈ resting, good t.address offset t.saved)
    (hbest : ∀ saved ∈ best, GoodMatch program good saved) :
    ∀ saved ∈ ((resting.find? (Thread.accepts program)).map (·.saved)).or best,
      GoodMatch program good saved := by
  intro saved hsaved
  rcases Option.or_eq_some_iff.mp hsaved with hfound | ⟨-, hsaved⟩
  · obtain ⟨thread, hthread, rfl⟩ := Option.map_eq_some_iff.mp hfound
    exact ⟨_, _, accept_of_accepts (List.find?_some hthread),
      hresting thread (List.mem_of_find?_eq_some hthread)⟩
  · exact hbest saved hsaved

/-- Running threads over the rest of an input keeps what every instruction keeps. -/
theorem runThreads_kept (h : Kept program input good) (rest : Text) (before : Option Char)
    (front : Text) (threads : List Thread) (best : Option (List (Nat × Nat)))
    (hinput : input = front ++ rest)
    (hthreads : ∀ t ∈ threads, good t.address front.byteLength t.saved)
    (hbest : ∀ saved ∈ best, GoodMatch program good saved) :
    ∀ saved ∈ runThreads program rest before front.byteLength threads best,
      GoodMatch program good saved := by
  induction rest generalizing before front threads best with
  | nil =>
      rw [runThreads]
      exact best_kept
        (closure_kept h ⟨before, ([] : Text).head?, front.byteLength⟩ threads hthreads) hbest
  | cons c rest ih =>
      rw [runThreads]
      have hrest := closure_kept h ⟨before, (c :: rest).head?, front.byteLength⟩ threads hthreads
      have hc : input.isBoundary (front.byteLength + c.utf8Size) = true :=
        Text.isBoundary_iff.mpr ⟨front ++ [c], rest, by simp [hinput], by simp⟩
      split
      · exact best_kept hrest hbest
      · have hfront : front.byteLength + c.utf8Size = (front ++ [c]).byteLength := by simp
        rw [hfront]
        refine ih _ _ _ _ (by simp [hinput]) ?_ (best_kept hrest hbest)
        intro t ht
        obtain ⟨thread, hthread, hnext⟩ := List.mem_filterMap.mp ht
        rw [← hfront]
        exact consume?_kept h (hrest thread ((List.takeWhile_prefix _).subset hthread)) hc hnext

/-- **What every instruction keeps, a whole search keeps.** -/
theorem searchAt_kept (h : Kept program input good) {offset : Nat} {saved : List (Nat × Nat)}
    (hoffset : input.isBoundary offset = true) (hstart : good 0 offset [])
    (hsearch : searchAt program input offset = some saved) :
    GoodMatch program good saved := by
  obtain ⟨front, rest, rfl, rfl⟩ := Text.isBoundary_iff.mp hoffset
  rw [searchAt, Text.dropBytes_append] at hsearch
  exact runThreads_kept h rest _ front [⟨0, []⟩] none rfl (by simpa using hstart) (by simp)
    saved hsearch

/-! ### Where the saved offsets lie -/

/-- Every offset that a match saves is a boundary of the input and not before the offset of the
search. -/
theorem searchAt_offsets {offset : Nat} {saved : List (Nat × Nat)}
    (hoffset : input.isBoundary offset = true)
    (hsearch : searchAt program input offset = some saved) :
    ∀ entry ∈ saved, offset ≤ entry.2 ∧ input.isBoundary entry.2 = true := by
  let good : Nat → Nat → List (Nat × Nat) → Prop := fun _ o saved =>
    (offset ≤ o ∧ input.isBoundary o = true) ∧
      ∀ entry ∈ saved, offset ≤ entry.2 ∧ input.isBoundary entry.2 = true
  have hkept : Kept program input good :=
    { jump := fun _ h => h
      split := fun _ h => ⟨h, h⟩
      save := fun _ h => ⟨h.1, List.forall_mem_cons.mpr ⟨h.1, h.2⟩⟩
      look := fun _ h => h
      char := fun _ h hc => ⟨⟨by omega, hc⟩, h.2⟩
      set := fun _ h hc => ⟨⟨by omega, hc⟩, h.2⟩ }
  obtain ⟨_, _, -, h⟩ :=
    searchAt_kept hkept hoffset ⟨⟨Nat.le_refl _, hoffset⟩, by simp⟩ hsearch
  exact h.2

/-- The ends of a group's span are saved offsets. -/
theorem mem_of_groupSpan? {saved : List (Nat × Nat)} {group start stop : Nat}
    (h : groupSpan? saved group = some (start, stop)) :
    (2 * group, start) ∈ saved ∧ (2 * group + 1, stop) ∈ saved := by
  rw [groupSpan?] at h
  split at h
  · next s t hs ht =>
      obtain ⟨rfl, rfl⟩ := Prod.mk.inj (Option.some.inj h)
      obtain ⟨_, _, hs, -⟩ := List.lookup_eq_some_iff.mp hs
      obtain ⟨_, _, ht, -⟩ := List.lookup_eq_some_iff.mp ht
      exact ⟨hs ▸ by simp, ht ▸ by simp⟩
  · exact absurd h (by simp)

end ModalLex.Regex
