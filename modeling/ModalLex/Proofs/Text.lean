import ModalLex.Text.Basic

/-!
# Boundaries and Slices

An offset is a boundary of a text exactly when the text splits there (`isBoundary_iff`), and at
boundaries the cutting functions give the parts of such a split. Everything that is said about
offsets elsewhere goes through this one characterization: a boundary is never behind the end of
the text, the character behind it leads to the next one, and neighbouring slices join.

## Main results

* `Text.isBoundary_iff`: boundaries are the byte lengths of initial parts.
* `Text.slice_append_slice`: **slices that meet at a boundary join** to the slice between their
  outer ends.
* `Text.slice_byteLength`: the slice up to the end of the text is all that remains.
-/

namespace ModalLex.Text

/-! ### Lengths -/

@[simp] theorem byteLength_nil : byteLength [] = 0 := rfl

@[simp] theorem byteLength_cons (c : Char) (t : Text) :
    byteLength (c :: t) = c.utf8Size + byteLength t := rfl

@[simp] theorem byteLength_append (s t : Text) :
    byteLength (s ++ t) = byteLength s + byteLength t := by
  induction s with
  | nil => simp
  | cons c s ih => simp [ih, Nat.add_assoc]

/-! ### Cutting behind an initial part -/

/-- Dropping the bytes of an initial part leaves the rest. -/
@[simp] theorem dropBytes_append (front back : Text) :
    dropBytes (byteLength front) (front ++ back) = back := by
  induction front with
  | nil => simp [dropBytes]
  | cons c front ih =>
      have hpos := c.utf8Size_pos
      obtain ⟨n, hn⟩ : ∃ n, byteLength (c :: front) = n + 1 :=
        ⟨byteLength (c :: front) - 1, by simp; omega⟩
      rw [hn, List.cons_append, dropBytes, ← hn, byteLength_cons, Nat.add_sub_cancel_left]
      exact ih

/-- Taking the bytes of an initial part gives that part. -/
@[simp] theorem takeBytes_append (front back : Text) :
    takeBytes (byteLength front) (front ++ back) = front := by
  induction front with
  | nil => simp [takeBytes]
  | cons c front ih =>
      have hpos := c.utf8Size_pos
      obtain ⟨n, hn⟩ : ∃ n, byteLength (c :: front) = n + 1 :=
        ⟨byteLength (c :: front) - 1, by simp; omega⟩
      rw [hn, List.cons_append, takeBytes, ← hn, byteLength_cons, Nat.add_sub_cancel_left, ih]

/-! ### Boundaries -/

/-- **Boundaries are splits.** An offset is a boundary exactly when the text has an initial part
of that many bytes. -/
theorem isBoundary_iff {t : Text} {n : Nat} :
    t.isBoundary n = true ↔ ∃ front back, t = front ++ back ∧ byteLength front = n := by
  induction t generalizing n with
  | nil =>
      cases n with
      | zero => simp [isBoundary]
      | succ n =>
          simp only [isBoundary, Bool.false_eq_true, false_iff, not_exists, not_and]
          intro front back h
          obtain ⟨rfl, rfl⟩ := List.append_eq_nil_iff.mp h.symm
          simp
  | cons c t ih =>
      have hpos := c.utf8Size_pos
      cases n with
      | zero =>
          simp only [isBoundary, true_iff]
          exact ⟨[], c :: t, rfl, rfl⟩
      | succ n =>
          simp only [isBoundary, Bool.and_eq_true, decide_eq_true_eq, ih]
          constructor
          · rintro ⟨hle, front, back, rfl, hlen⟩
            exact ⟨c :: front, back, rfl, by rw [byteLength_cons]; omega⟩
          · rintro ⟨front, back, h, hlen⟩
            cases front with
            | nil => simp at hlen
            | cons d front =>
                obtain ⟨rfl, rfl⟩ := List.cons_eq_cons.mp h
                rw [byteLength_cons] at hlen
                exact ⟨by omega, front, back, rfl, by omega⟩

/-- The start of a text is a boundary. -/
@[simp] theorem isBoundary_zero (t : Text) : t.isBoundary 0 = true :=
  isBoundary_iff.mpr ⟨[], t, rfl, rfl⟩

/-- The end of a text is a boundary. -/
@[simp] theorem isBoundary_byteLength (t : Text) : t.isBoundary t.byteLength = true :=
  isBoundary_iff.mpr ⟨t, [], by simp, rfl⟩

/-- No boundary lies behind the end. -/
theorem le_byteLength_of_isBoundary {t : Text} {n : Nat} (h : t.isBoundary n = true) :
    n ≤ t.byteLength := by
  obtain ⟨front, back, rfl, rfl⟩ := isBoundary_iff.mp h
  rw [byteLength_append]
  omega

/-- A character that starts at a boundary ends at a boundary. -/
theorem isBoundary_add_utf8Size {t : Text} {n : Nat} {c : Char} {rest : Text}
    (h : t.isBoundary n = true) (hc : t.dropBytes n = c :: rest) :
    t.isBoundary (n + c.utf8Size) = true := by
  obtain ⟨front, back, rfl, rfl⟩ := isBoundary_iff.mp h
  rw [dropBytes_append] at hc
  subst hc
  exact isBoundary_iff.mpr ⟨front ++ [c], rest, by simp, by simp⟩

/-- Two boundaries in order cut a text in three. -/
theorem exists_split_of_isBoundary {t : Text} {a b : Nat} (ha : t.isBoundary a = true)
    (hb : t.isBoundary b = true) (hab : a ≤ b) :
    ∃ front middle back, t = front ++ (middle ++ back) ∧ byteLength front = a ∧
      byteLength front + byteLength middle = b := by
  obtain ⟨front, rest, rfl, rfl⟩ := isBoundary_iff.mp ha
  obtain ⟨front', back, h, rfl⟩ := isBoundary_iff.mp hb
  rcases List.append_eq_append_iff.mp h with ⟨middle, rfl, rfl⟩ | ⟨middle, rfl, rfl⟩
  · exact ⟨front, middle, back, rfl, rfl, by simp⟩
  · -- the second boundary is not before the first, so what lies between has no bytes
    cases middle with
    | nil => exact ⟨front', [], rest, by simp, by simp, by simp⟩
    | cons c middle =>
        have hpos := c.utf8Size_pos
        simp only [byteLength_append, byteLength_cons] at hab
        omega

/-! ### Slices -/

/-- The slice between the ends of a middle part is that part. -/
theorem slice_append (front middle back : Text) :
    slice (front ++ (middle ++ back)) (byteLength front)
      (byteLength front + byteLength middle) = middle := by
  rw [slice, dropBytes_append, Nat.add_sub_cancel_left, takeBytes_append]

/-- **Slices join.** -/
theorem slice_append_slice {t : Text} {a b c : Nat} (ha : t.isBoundary a = true)
    (hb : t.isBoundary b = true) (hc : t.isBoundary c = true) (hab : a ≤ b) (hbc : b ≤ c) :
    t.slice a b ++ t.slice b c = t.slice a c := by
  obtain ⟨front, middle, back, rfl, rfl, rfl⟩ := exists_split_of_isBoundary ha hb hab
  obtain ⟨front', middle', back', h, hfront, rfl⟩ := exists_split_of_isBoundary hb hc hbc
  -- the first cut of the second split is the second cut of the first
  obtain rfl : front' = front ++ middle := by
    have h₁ := takeBytes_append front' (middle' ++ back')
    have h₂ := takeBytes_append (front ++ middle) back
    rw [← h, hfront, ← byteLength_append] at h₁
    rw [List.append_assoc] at h₂
    exact h₁.symm.trans h₂
  obtain rfl : back = middle' ++ back' := by
    rw [List.append_assoc] at h
    exact List.append_cancel_left (List.append_cancel_left h)
  have h₁ := slice_append (front ++ middle) middle' back'
  have h₂ := slice_append front (middle ++ middle') back'
  rw [List.append_assoc, byteLength_append] at h₁
  rw [List.append_assoc, byteLength_append, ← Nat.add_assoc] at h₂
  rw [slice_append, byteLength_append, h₁, h₂]

/-- A slice without length is empty. -/
@[simp] theorem slice_self (t : Text) (a : Nat) : t.slice a a = [] := by
  rw [slice, Nat.sub_self, takeBytes]

/-- The slice up to the end is the rest of the text. -/
theorem slice_byteLength {t : Text} {a : Nat} (ha : t.isBoundary a = true) :
    t.slice a t.byteLength = t.dropBytes a := by
  obtain ⟨front, back, rfl, rfl⟩ := isBoundary_iff.mp ha
  have h := slice_append front back []
  rw [List.append_nil] at h
  rw [dropBytes_append, byteLength_append, h]

end ModalLex.Text
