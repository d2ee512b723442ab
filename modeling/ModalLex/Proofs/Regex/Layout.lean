import ModalLex.Proofs.Regex.Invariant
import ModalLex.Proofs.Regex.Relocation

/-!
# Groups Are Blocks

In the code of an expression the two slots of a group are saved by two instructions with the code
of the group's body between them, and no jump leads into or out of that code but through its
ends (`Layout`). So between the two saves a thread is inside of a **block**, and whenever it is
outside of all blocks of a group, the end of the group was saved after its start. A thread that
accepts is outside of all blocks; hence every span that a match reports is in order, whatever
group it is asked for.

## Main results

* `Expr.layout_code`: the code of every expression is laid out in blocks.
* `searchAt_span_le`: **the spans of a match are in order.**
-/

namespace ModalLex.Regex

/-- An instruction that leads to addresses between two bounds, and neither saves nor accepts. -/
def Instr.Stays (lo hi : Nat) : Instr → Prop
  | .split first second => (lo ≤ first ∧ first ≤ hi) ∧ lo ≤ second ∧ second ≤ hi
  | .jump target => lo ≤ target ∧ target ≤ hi
  | .save _ | .accept => False
  | _ => True

/-- An instruction that stays between two bounds stays between wider ones. -/
theorem Instr.Stays.mono {instr : Instr} {lo hi lo' hi' : Nat} (h : instr.Stays lo hi)
    (hlo : lo' ≤ lo) (hhi : hi ≤ hi') : instr.Stays lo' hi' := by
  cases instr with
  | split first second =>
      simp only [Instr.Stays] at h ⊢
      omega
  | jump target =>
      simp only [Instr.Stays] at h ⊢
      omega
  | save => exact h
  | accept => exact h
  | char => trivial
  | set => trivial
  | look => trivial

/-- A choice stays where the two addresses it chooses between are. -/
theorem Instr.stays_choose {greedy : Bool} {first second lo hi : Nat} (h₁ : lo ≤ first)
    (h₂ : first ≤ hi) (h₃ : lo ≤ second) (h₄ : second ≤ hi) :
    (choose greedy first second).Stays lo hi := by
  cases greedy with
  | true => exact ⟨⟨h₁, h₂⟩, h₃, h₄⟩
  | false => exact ⟨⟨h₃, h₄⟩, h₁, h₂⟩

/-- Code laid out from an address on, with jumps between two bounds, in which the saves of groups
stand around code that is laid out by itself. -/
inductive Layout : (lo hi base : Nat) → List Instr → Prop
  | nil {lo hi base : Nat} : Layout lo hi base []
  | instr {lo hi base : Nat} {i : Instr} {rest : List Instr} : i.Stays lo hi →
      Layout lo hi (base + 1) rest → Layout lo hi base (i :: rest)
  | group {lo hi base index : Nat} {body rest : List Instr} :
      Layout (base + 1) (base + 1 + body.length) (base + 1) body →
      Layout lo hi (base + body.length + 2) rest →
      Layout lo hi base (.save (2 * index) :: (body ++ .save (2 * index + 1) :: rest))

namespace Layout

variable {lo hi lo' hi' base : Nat} {code rest : List Instr}

/-- Code that is laid out between two bounds is so between wider ones. -/
theorem mono (h : Layout lo hi base code) (hlo : lo' ≤ lo) (hhi : hi ≤ hi') :
    Layout lo' hi' base code := by
  induction h with
  | nil => exact .nil
  | instr hi _ ih => exact .instr (hi.mono hlo hhi) (ih hlo hhi)
  | group hbody _ _ ih => exact .group hbody (ih hlo hhi)

/-- Codes that are laid out one behind the other make up a code that is. -/
theorem append (h : Layout lo hi base code) (hrest : Layout lo hi (base + code.length) rest) :
    Layout lo hi base (code ++ rest) := by
  induction h with
  | nil => exact hrest
  | @instr lo hi base i code hi _ ih =>
      refine .instr hi (ih ?_)
      rwa [List.length_cons, Nat.add_comm code.length, ← Nat.add_assoc] at hrest
  | @group lo hi base index body code hbody _ _ ih =>
      rw [List.cons_append, List.append_assoc, List.cons_append]
      refine .group hbody (ih ?_)
      have hlength : base + body.length + 2 + code.length =
          base + (Instr.save (2 * index) ::
            (body ++ Instr.save (2 * index + 1) :: code)).length := by
        simp only [List.length_cons, List.length_append]
        omega
      rwa [hlength]

/-- A single instruction is laid out if it stays. -/
theorem one {i : Instr} (h : i.Stays lo hi) : Layout lo hi base [i] := .instr h .nil

end Layout

/-! ### The code of an expression -/

namespace Expr

section Repetition

variable {code : Nat → List Instr} {length : Nat}

/-- Code that is laid out by itself wherever it is put, and everywhere with the same length. -/
structure LaidOut (code : Nat → List Instr) (length : Nat) : Prop where
  length_eq : ∀ base, (code base).length = length
  layout : ∀ base, Layout base (base + length) base (code base)

/-- Copies of a code are laid out, each with its own length. -/
theorem LaidOut.copies (h : LaidOut code length) (count base : Nat) :
    (copies code length count base).length = count * length ∧
      Layout base (base + count * length) base (copies code length count base) := by
  induction count with
  | zero => exact ⟨by simp [Expr.copies], .nil⟩
  | succ count ih =>
      obtain ⟨hlength, hlayout⟩ := ih
      have hstep : Expr.copies code length (count + 1) base =
          Expr.copies code length count base ++ code (base + count * length) := by
        simp [Expr.copies, List.range_succ]
      have hsucc : (count + 1) * length = count * length + length := Nat.succ_mul ..
      rw [hstep, List.length_append, h.length_eq, hlength]
      refine ⟨hsucc.symm, (hlayout.mono (Nat.le_refl _) (by omega)).append ?_⟩
      rw [hlength]
      exact (h.layout _).mono (by omega) (by omega)

/-- So are copies that can be left out: each choice leads into its copy or behind all of them. -/
theorem LaidOut.optionalCopies (h : LaidOut code length) (greedy : Bool) (count base : Nat) :
    (optionalCopies greedy code length count base).length = count * (length + 1) ∧
      Layout base (base + count * (length + 1)) base
        (optionalCopies greedy code length count base) := by
  -- All copies jump to the exit behind the last, so the copies are counted with a fixed exit.
  have hfixed : ∀ n, n ≤ count →
      ((List.range n).flatMap fun i => Instr.choose greedy (base + i * (length + 1) + 1)
        (base + count * (length + 1)) :: code (base + i * (length + 1) + 1)).length =
          n * (length + 1) ∧
      Layout base (base + count * (length + 1)) base
        ((List.range n).flatMap fun i => Instr.choose greedy (base + i * (length + 1) + 1)
          (base + count * (length + 1)) :: code (base + i * (length + 1) + 1)) := by
    intro n
    induction n with
    | zero => exact fun _ => ⟨by simp, .nil⟩
    | succ n ih =>
        intro hn
        obtain ⟨hlength, hlayout⟩ := ih (by omega)
        have hle : (n + 1) * (length + 1) ≤ count * (length + 1) := Nat.mul_le_mul_right _ hn
        have hsucc : (n + 1) * (length + 1) = n * (length + 1) + (length + 1) := Nat.succ_mul ..
        rw [List.range_succ, List.flatMap_append, List.flatMap_singleton, List.length_append,
          List.length_cons, h.length_eq, hlength]
        refine ⟨hsucc.symm, hlayout.append ?_⟩
        rw [hlength]
        refine .instr (Instr.stays_choose (by omega) (by omega) (by omega) (by omega)) ?_
        exact (h.layout _).mono (by omega) (by omega)
  exact hfixed count (Nat.le_refl _)

/-- The loop that runs at least once is laid out: its choice leads back to the start or goes on. -/
theorem LaidOut.plusCode (h : LaidOut code length) (greedy : Bool) (base : Nat) :
    (plusCode greedy code length base).length = length + 1 ∧
      Layout base (base + length + 1) base (plusCode greedy code length base) := by
  rw [Expr.plusCode]
  rw [List.length_append, h.length_eq]
  refine ⟨rfl, ((h.layout base).mono (Nat.le_refl _) (by omega)).append (.one ?_)⟩
  exact Instr.stays_choose (Nat.le_refl _) (by omega) (by omega) (Nat.le_refl _)

/-- So is the loop that can be skipped. -/
theorem LaidOut.starCode (h : LaidOut code length) (greedy consumes : Bool) (base : Nat) :
    (starCode greedy consumes code length base).length = length + 2 ∧
      Layout base (base + length + 2) base (starCode greedy consumes code length base) := by
  have hfirst : (Instr.choose greedy (base + 1) (base + length + 2)).Stays base
      (base + length + 2) :=
    Instr.stays_choose (by omega) (by omega) (by omega) (Nat.le_refl _)
  rw [Expr.starCode]
  cases consumes with
  | true =>
      simp only [if_true, List.cons_append, List.length_cons, List.length_append, h.length_eq]
      refine ⟨rfl, .instr hfirst (((h.layout _).mono (by omega) (by omega)).append (.one ?_))⟩
      exact ⟨Nat.le_refl _, by omega⟩
  | false =>
      obtain ⟨hlength, hlayout⟩ := h.plusCode greedy (base + 1)
      simp only [Bool.false_eq_true, if_false, List.length_cons, hlength]
      exact ⟨trivial, .instr hfirst (hlayout.mono (by omega) (by omega))⟩

/-- **A counted repetition of a code that is laid out is laid out**, in each of the ways in which
its bounds lay it out. -/
theorem LaidOut.repeatCode (h : LaidOut code length) (lo : Nat) (hi : Option Nat)
    (greedy consumes : Bool) (base : Nat) :
    Layout base (base + (repeatCode lo hi greedy consumes code base).length) base
      (repeatCode lo hi greedy consumes code base) := by
  have hbetween : ∀ lo hi, Layout base
      (base + (Expr.copies code length lo base ++
        Expr.optionalCopies greedy code length (hi - lo) (base + lo * length)).length) base
      (Expr.copies code length lo base ++
        Expr.optionalCopies greedy code length (hi - lo) (base + lo * length)) := by
    intro lo hi
    obtain ⟨hlength₁, hlayout₁⟩ := h.copies lo base
    obtain ⟨hlength₂, hlayout₂⟩ := h.optionalCopies greedy (hi - lo) (base + lo * length)
    rw [List.length_append, hlength₁, hlength₂]
    refine (hlayout₁.mono (Nat.le_refl _) (by omega)).append ?_
    rw [hlength₁]
    exact hlayout₂.mono (by omega) (by omega)
  unfold Expr.repeatCode
  rw [h.length_eq 0]
  cases hi with
  | some hi => cases lo <;> exact hbetween _ hi
  | none =>
      cases lo with
      | zero =>
          obtain ⟨hlength, hlayout⟩ := h.starCode greedy consumes base
          dsimp only
          rw [hlength]
          exact hlayout
      | succ lo =>
          obtain ⟨hlength₁, hlayout₁⟩ := h.copies lo base
          obtain ⟨hlength₂, hlayout₂⟩ := h.plusCode greedy (base + lo * length)
          dsimp only
          rw [List.length_append, hlength₁, hlength₂]
          refine (hlayout₁.mono (Nat.le_refl _) (by omega)).append ?_
          rw [hlength₁]
          exact hlayout₂.mono (by omega) (by omega)

end Repetition

mutual

/-- **The code of every expression is laid out in blocks.** -/
theorem layout_code : (e : Expr) → (base : Nat) →
    Layout base (base + (e.code base).length) base (e.code base)
  | .empty, _ => .nil
  | .text chars, base => by
      have htext : ∀ (chars : Text) (lo hi base : Nat),
          Layout lo hi base (chars.map Instr.char) := by
        intro chars
        induction chars with
        | nil => exact fun _ _ _ => .nil
        | cons c chars ih => exact fun _ _ _ => .instr trivial (ih _ _ _)
      exact htext chars _ _ _
  | .set _, _ => .one trivial
  | .look _, _ => .one trivial
  | .group index body, base => by
      have hbody := layout_code body (base + 1)
      exact .group hbody .nil
  | .concat items, base => layout_seqCode items base
  | .alternation branches, base => layout_altCode branches base
  | .repetition lo hi greedy body, base => by
      have hbody : LaidOut body.code (body.code 0).length :=
        ⟨body.length_code, fun base => by rw [← body.length_code base]; exact layout_code body base⟩
      exact hbody.repeatCode lo hi greedy body.consumes base

/-- The code of a sequence is laid out part by part. -/
theorem layout_seqCode : (items : List Expr) → (base : Nat) →
    Layout base (base + (seqCode items base).length) base (seqCode items base)
  | [], _ => .nil
  | e :: rest, base => by
      rw [seqCode, List.length_append]
      exact ((layout_code e base).mono (Nat.le_refl _) (by omega)).append
        ((layout_seqCode rest _).mono (by omega) (by omega))

/-- The code of an alternation is laid out branch by branch. -/
theorem layout_altCode : (branches : List Expr) → (base : Nat) →
    Layout base (base + (altCode branches base).length) base (altCode branches base)
  | [], _ => .one trivial
  | [e], base => layout_code e base
  | e :: e' :: rest, base => by
      have hfirst := layout_code e (base + 1)
      have hothers := layout_altCode (e' :: rest) (base + (e.code (base + 1)).length + 2)
      rw [altCode]
      simp only [List.cons_append, List.length_cons, List.length_append]
      refine .instr ⟨⟨by omega, by omega⟩, by omega, by omega⟩
        ((hfirst.mono (by omega) (by omega)).append (.instr ⟨by omega, by omega⟩ ?_))
      have haddress : base + 1 + (e.code (base + 1)).length + 1 =
        base + (e.code (base + 1)).length + 2 := by omega
      rw [haddress]
      exact hothers.mono (by omega) (by omega)

end

end Expr

/-! ### Blocks of a program -/

/-- Code stands in a program from an address on. -/
def CodeAt (program : Program) (base : Nat) (code : List Instr) : Prop :=
  ∀ i instr, code[i]? = some instr → program[base + i]? = some instr

namespace CodeAt

variable {program : Program} {base : Nat} {code rest : List Instr}

/-- The first part of a code stands where the code does. -/
theorem append_left (h : CodeAt program base (code ++ rest)) : CodeAt program base code := by
  intro i instr hi
  obtain ⟨hlt, -⟩ := List.getElem?_eq_some_iff.mp hi
  exact h i instr (by rw [List.getElem?_append_left hlt, hi])

/-- The second part stands behind the first. -/
theorem append_right (h : CodeAt program base (code ++ rest)) :
    CodeAt program (base + code.length) rest := by
  intro i instr hi
  rw [Nat.add_assoc]
  exact h _ instr (by rw [List.getElem?_append_right (by omega), Nat.add_sub_cancel_left, hi])

/-- The first instruction stands at the address of the code. -/
theorem head {instr : Instr} (h : CodeAt program base (instr :: rest)) :
    program[base]? = some instr := h 0 instr rfl

/-- The others stand from the next address on. -/
theorem tail {instr : Instr} (h : CodeAt program base (instr :: rest)) :
    CodeAt program (base + 1) rest := by
  have happend : CodeAt program base ([instr] ++ rest) := h
  exact happend.append_right

/-- What stands at an address inside of the code is an instruction of it. -/
theorem mem {k : Nat} {instr : Instr} (h : CodeAt program base code) (hlo : base ≤ k)
    (hhi : k < base + code.length) (hk : program[k]? = some instr) : instr ∈ code := by
  obtain ⟨i, rfl⟩ := Nat.exists_eq_add_of_le hlo
  have hi : code[i]? = some code[i] := List.getElem?_eq_getElem (by omega)
  obtain rfl := Option.some.inj (hk.symm.trans (h i _ hi))
  exact List.getElem_mem _

end CodeAt

/-- A program is the code of its expression from zero on, and the end. -/
theorem codeAt_program (e : Expr) : CodeAt e.program 0 (e.code 0 ++ [.accept]) := by
  intro i instr hi
  simpa [Expr.program] using hi

/-- An instruction that keeps a thread between the saves at two addresses: it does not accept, and
its jumps do not leave. -/
def Instr.Inside (start stop : Nat) : Instr → Prop
  | .split first second => (start < first ∧ first ≤ stop) ∧ start < second ∧ second ≤ stop
  | .jump target => start < target ∧ target ≤ stop
  | .accept => False
  | _ => True

/-- The addresses from the save of a group's start to the save of its end. -/
structure Block (program : Program) (group start stop : Nat) : Prop where
  lt : start < stop
  ends : program[stop]? = some (.save (2 * group + 1))
  inside : ∀ k instr, start < k → k < stop → program[k]? = some instr →
    instr.Inside start stop

/-- An instruction that stays behind the start of a block is inside of the block. -/
theorem Instr.Stays.inside {instr : Instr} {lo hi start : Nat} (h : instr.Stays lo hi)
    (hstart : start < lo) : instr.Inside start hi := by
  cases instr with
  | split first second =>
      simp only [Instr.Stays] at h
      simp only [Instr.Inside]
      omega
  | jump target =>
      simp only [Instr.Stays] at h
      simp only [Instr.Inside]
      omega
  | accept => exact h
  | save => trivial
  | char => trivial
  | set => trivial
  | look => trivial

/-- The inside of a block is inside of a longer one. -/
theorem Instr.Inside.mono {instr : Instr} {start stop stop' : Nat}
    (h : instr.Inside start stop) (hstop : stop ≤ stop') : instr.Inside start stop' := by
  cases instr with
  | split first second =>
      simp only [Instr.Inside] at h ⊢
      omega
  | jump target =>
      simp only [Instr.Inside] at h ⊢
      omega
  | accept => exact h
  | save => trivial
  | char => trivial
  | set => trivial
  | look => trivial

namespace Layout

variable {program : Program} {lo hi base start : Nat} {code : List Instr}

/-- Code that is laid out does not leave its bounds, the code of groups included. -/
theorem inside (h : Layout lo hi base code) (hstart : start < lo) (hlo : lo ≤ base)
    (hhi : base + code.length ≤ hi) : ∀ instr ∈ code, instr.Inside start hi := by
  induction h with
  | nil => simp
  | @instr lo hi base i rest hi _ ih =>
      rw [List.length_cons] at hhi
      exact List.forall_mem_cons.mpr ⟨hi.inside hstart, ih hstart (by omega) (by omega)⟩
  | @group lo hi base index body rest _ _ ihbody ih =>
      simp only [List.length_cons, List.length_append] at hhi
      intro instr hmem
      rcases List.mem_cons.mp hmem with rfl | hmem
      · trivial
      · rcases List.mem_append.mp hmem with hmem | hmem
        · exact (ihbody (by omega) (Nat.le_refl _) (Nat.le_refl _) instr hmem).mono (by omega)
        · rcases List.mem_cons.mp hmem with rfl | hmem
          · trivial
          · exact ih hstart (by omega) (by omega) instr hmem

/-- Every save of a start in code that is laid out begins a block. -/
theorem exists_block (h : Layout lo hi base code) (hat : CodeAt program base code)
    {group a : Nat} (hlo : base ≤ a) (hhi : a < base + code.length)
    (ha : program[a]? = some (.save (2 * group))) : ∃ stop, Block program group a stop := by
  induction h with
  | nil => exact absurd hhi (by simp; omega)
  | @instr lo hi base i rest hi _ ih =>
      rw [List.length_cons] at hhi
      rcases Nat.eq_or_lt_of_le hlo with rfl | hlt
      · obtain rfl := Option.some.inj (hat.head.symm.trans ha)
        exact absurd hi id
      · exact ih hat.tail hlt (by omega)
  | @group lo hi base index body rest hbody _ ihbody ih =>
      simp only [List.length_cons, List.length_append] at hhi
      have hbodyAt : CodeAt program (base + 1) body := hat.tail.append_left
      have hend := hat.tail.append_right
      rcases Nat.eq_or_lt_of_le hlo with rfl | hlt
      · have hslot := Option.some.inj (hat.head.symm.trans ha)
        obtain rfl : index = group := by
          injection hslot with hslot
          omega
        refine ⟨base + 1 + body.length, by omega, hend.head, ?_⟩
        intro k instr hk₁ hk₂ hk
        exact hbody.inside (Nat.lt_succ_self base) (Nat.le_refl _) (Nat.le_refl _) instr
          (hbodyAt.mem hk₁ hk₂ hk)
      · rcases Nat.lt_or_ge a (base + 1 + body.length) with hlt' | hge
        · exact ihbody hbodyAt hlt hlt'
        · rcases Nat.eq_or_lt_of_le hge with rfl | hlt'
          · have hslot := Option.some.inj (hend.head.symm.trans ha)
            injection hslot with hslot
            omega
          · have hrestAt := hend.tail
            rw [show base + 1 + body.length + 1 = base + body.length + 2 by omega] at hrestAt
            exact ih hrestAt (by omega) (by omega)

end Layout

/-- Every save of a start in the program of an expression begins a block. -/
theorem exists_block {e : Expr} {group a : Nat}
    (h : e.program[a]? = some (.save (2 * group))) : ∃ stop, Block e.program group a stop := by
  have hat := codeAt_program e
  rcases Nat.lt_trichotomy a (e.code 0).length with hlt | rfl | hgt
  · exact (e.layout_code 0).exists_block hat.append_left (Nat.zero_le a) (by omega) h
  · have haccept := hat.append_right.head
    rw [Nat.zero_add] at haccept
    exact absurd (haccept.symm.trans h) (by simp)
  · have hnone : e.program[a]? = none := by
      simp only [Expr.program, List.getElem?_toArray]
      exact List.getElem?_eq_none (by simp; omega)
    exact absurd (hnone.symm.trans h) (by simp)

/-! ### Spans in order -/

/-- A group whose end was saved after its start, if both were. -/
def InOrder (saved : List (Nat × Nat)) (group : Nat) : Prop :=
  ∀ start stop, groupSpan? saved group = some (start, stop) → start ≤ stop

/-- The span of a group does not change when a slot of another one is saved. -/
theorem groupSpan?_cons_of_ne {saved : List (Nat × Nat)} {group slot offset : Nat}
    (h₁ : slot ≠ 2 * group) (h₂ : slot ≠ 2 * group + 1) :
    groupSpan? ((slot, offset) :: saved) group = groupSpan? saved group := by
  have h₁' : (2 * group == slot) = false := by simpa using h₁.symm
  have h₂' : (2 * group + 1 == slot) = false := by simpa using h₂.symm
  simp only [groupSpan?, List.lookup_cons, h₁', h₂']

/-- A group whose end is saved now is in order, since nothing was saved later. -/
theorem inOrder_of_saved_stop {saved : List (Nat × Nat)} {group offset : Nat}
    (h : ∀ entry ∈ saved, entry.2 ≤ offset) :
    InOrder ((2 * group + 1, offset) :: saved) group := by
  intro start stop hspan
  obtain ⟨hstart, -⟩ := mem_of_groupSpan? hspan
  have hstop : stop = offset := by
    have hne : (2 * group == 2 * group + 1) = false := by simp
    simp only [groupSpan?, List.lookup_cons, hne, beq_self_eq_true] at hspan
    split at hspan
    · next hs ht =>
        simp only [Option.some.injEq, Prod.mk.injEq] at hspan ht
        omega
    · exact absurd hspan (by simp)
  rcases List.mem_cons.mp hstart with heq | hmem
  · have := congrArg Prod.fst heq
    simp at this
  · rw [hstop]
    exact h _ hmem

/-- A thread at an address: the offsets that it has saved are not behind it, and the spans of all
groups are in order but for those inside of which it stands. -/
def Guarded (program : Program) (a o : Nat) (saved : List (Nat × Nat)) : Prop :=
  (∀ entry ∈ saved, entry.2 ≤ o) ∧
    ∀ g, InOrder saved g ∨ ∃ start stop, Block program g start stop ∧ start < a ∧ a ≤ stop

namespace Guarded

variable {program : Program} {a o : Nat} {saved : List (Nat × Nat)}

/-- An instruction that saves nothing leads from inside of a block to inside of the block. -/
theorem advance {instr : Instr} {target o' : Nat} (h : Guarded program a o saved)
    (ha : program[a]? = some instr) (hsave : ∀ slot, instr ≠ .save slot) (ho : o ≤ o')
    (htarget : ∀ start stop, instr.Inside start stop → start < a → a < stop →
      start < target ∧ target ≤ stop) : Guarded program target o' saved := by
  refine ⟨fun entry hentry => Nat.le_trans (h.1 entry hentry) ho, ?_⟩
  intro g
  rcases h.2 g with horder | ⟨start, stop, hblock, hlt, hle⟩
  · exact .inl horder
  · rcases Nat.eq_or_lt_of_le hle with rfl | hlt'
    · exact absurd (Option.some.inj (ha.symm.trans hblock.ends)) (hsave _)
    · have hinside := hblock.inside a instr hlt hlt' ha
      exact .inr ⟨start, stop, hblock, htarget start stop hinside hlt hlt'⟩

/-- A save of a start enters a block, and a save of an end leaves one in order. -/
theorem save {slot : Nat} (h : Guarded program a o saved)
    (hblocks : ∀ g, program[a]? = some (.save (2 * g)) → ∃ stop, Block program g a stop)
    (ha : program[a]? = some (.save slot)) :
    Guarded program (a + 1) o ((slot, o) :: saved) := by
  refine ⟨List.forall_mem_cons.mpr ⟨Nat.le_refl _, h.1⟩, ?_⟩
  intro g
  by_cases hstart : slot = 2 * g
  · subst hstart
    obtain ⟨stop, hblock⟩ := hblocks g ha
    exact .inr ⟨a, stop, hblock, Nat.lt_succ_self a, hblock.lt⟩
  · by_cases hstop : slot = 2 * g + 1
    · subst hstop
      exact .inl (inOrder_of_saved_stop h.1)
    · rcases h.2 g with horder | ⟨start, stop, hblock, hlt, hle⟩
      · left
        intro s t hspan
        rw [groupSpan?_cons_of_ne hstart hstop] at hspan
        exact horder s t hspan
      · rcases Nat.eq_or_lt_of_le hle with rfl | hlt'
        · have hslot := Option.some.inj (ha.symm.trans hblock.ends)
          injection hslot with hslot
          exact absurd hslot hstop
        · exact .inr ⟨start, stop, hblock, by omega, hlt'⟩

end Guarded

/-- **No step of a thread leaves a block but through its ends**, so in every thread each group is
in order or open. -/
theorem kept_guarded (e : Expr) (input : Text) : Kept e.program input (Guarded e.program) where
  jump ha h := h.advance ha (by simp) (Nat.le_refl _) fun _ _ hinside _ _ => hinside
  split ha h :=
    ⟨h.advance ha (by simp) (Nat.le_refl _) fun _ _ hinside _ _ => hinside.1,
      h.advance ha (by simp) (Nat.le_refl _) fun _ _ hinside _ _ => hinside.2⟩
  save ha h := h.save (fun _ => exists_block) ha
  look ha h := h.advance ha (by simp) (Nat.le_refl _) fun _ _ _ hlt hlt' => ⟨by omega, hlt'⟩
  char ha h _ := h.advance ha (by simp) (Nat.le_add_right ..) fun _ _ _ hlt hlt' => ⟨by omega, hlt'⟩
  set ha h _ := h.advance ha (by simp) (Nat.le_add_right ..) fun _ _ _ hlt hlt' => ⟨by omega, hlt'⟩

/-- **The spans of a match are in order**, whatever group is asked for. -/
theorem searchAt_span_le {e : Expr} {input : Text} {offset : Nat} {saved : List (Nat × Nat)}
    (hoffset : input.isBoundary offset = true)
    (hsearch : searchAt e.program input offset = some saved) (group : Nat) :
    InOrder saved group := by
  have hstart : Guarded e.program 0 offset [] :=
    ⟨by simp, fun g => .inl fun s t hspan => absurd hspan (by simp [groupSpan?])⟩
  obtain ⟨a, o, haccept, hgood⟩ := searchAt_kept (kept_guarded e input) hoffset hstart hsearch
  rcases hgood.2 group with horder | ⟨start, stop, hblock, hlt, hle⟩
  · exact horder
  · rcases Nat.eq_or_lt_of_le hle with rfl | hlt'
    · exact absurd (haccept.symm.trans hblock.ends) (by simp)
    · exact absurd (hblock.inside a _ hlt hlt' haccept) id

end ModalLex.Regex
