import ModalLex.Proofs.Lexer.Attempt

/-!
# The Laws of the Fetch Window

A hook that extends a token steps ahead, steps back and jumps, in any order and as often as it
likes, and a call that is refused leaves the cursor where it is. Offsets count bytes and steps
count characters, which take one to four bytes each, so neither kind of step can be undone by
arithmetic on offsets.

What carries all laws is a second view of a window: its input in three parts (`parted`), what lies
before the boundary, what has been passed since, and what is left. A step ahead moves the first
character that is left to the end of what has been passed, a step back moves it back again, and
what lies before the boundary is never touched. Every window that a hook can reach is of this form
(`Within.callAll`, `Within.exists_parted`), so the laws are laws of lists.

## Main results

* `stepsAhead_parted`, `backUp_parted_append`: steps ahead and back on the three parts.
* `jumpTo_ok_iff`, `jumpTo_error_iff`: when a jump is granted, and what is said if it is not.
* `fetch_moves_exact`: **moves are exact and reversible**, for every window that a hook reaches.
-/

namespace ModalLex.Window

/-! ### Calls -/

/-- One step ahead, as a hook asks for it. -/
def stepAhead (w : Window) : Option Char × Window := Lexer.answerFetch .next w

/-- Steps back, as a hook asks for them. -/
def backUp (w : Window) (count : Nat) : Except CursorError Unit × Window :=
  Lexer.answerFetch (.back count) w

/-- A jump ahead, as a hook asks for it. -/
def jumpTo (w : Window) (offset : Nat) : Except CursorError Unit × Window :=
  Lexer.answerFetch (.advanceTo offset) w

/-- Some steps ahead one after the other: what each gives, and the window behind the last. -/
def stepsAhead : (count : Nat) → Window → List (Option Char) × Window
  | 0, w => ([], w)
  | count + 1, w =>
    let (c, moved) := w.stepAhead
    let (cs, last) := stepsAhead count moved
    (c :: cs, last)

/-- The window behind some calls. -/
def callAll (asks : List FetchAsk) (w : Window) : Window :=
  asks.foldl (fun w ask => (Lexer.answerFetch ask w).2) w

/-! ### The three parts of a window -/

/-- The window on an input of three parts: what lies before the boundary, what has been passed
since, and what is left. -/
def parted (front passed left : Text) : Window where
  input := front ++ (passed ++ left)
  boundary := Text.byteLength front
  cursor := Text.byteLength front + Text.byteLength passed

variable {front passed left : Text}

/-- A window in bounds on a boundary of the input has three parts. -/
theorem Within.exists_parted {w : Window} (h : w.Within)
    (hboundary : w.input.isBoundary w.boundary = true) :
    ∃ front passed left, w = parted front passed left := by
  obtain ⟨front, passed, left, hinput, hfront, hcursor⟩ :=
    Text.exists_split_of_isBoundary hboundary h.cursor_isBoundary h.boundary_le
  refine ⟨front, passed, left, ?_⟩
  rw [parted, ← hinput, hcursor, hfront]

/-- A window in three parts is in bounds. -/
theorem within_parted : (parted front passed left).Within where
  cursor_isBoundary :=
    Text.isBoundary_iff.mpr ⟨front ++ passed, left, by simp [parted], by simp [parted]⟩
  boundary_le := Nat.le_add_right _ _

@[simp] theorem rest_parted : (parted front passed left).rest = left := by
  have h := Text.dropBytes_append (front ++ passed) left
  rw [List.append_assoc, Text.byteLength_append] at h
  exact h

/-- What lies before the cursor. -/
@[simp] theorem takeBytes_parted :
    (parted front passed left).input.takeBytes (parted front passed left).cursor =
      front ++ passed := by
  have h := Text.takeBytes_append (front ++ passed) left
  rw [List.append_assoc, Text.byteLength_append] at h
  exact h

/-- What has been passed is the input between the boundary and the cursor. -/
@[simp] theorem slice_parted :
    (parted front passed left).input.slice (parted front passed left).boundary
      (parted front passed left).cursor = passed :=
  Text.slice_append front passed left

/-! ### Steps ahead -/

@[simp] theorem stepAhead_parted_nil :
    (parted front passed []).stepAhead = (none, parted front passed []) := by
  rw [stepAhead, Lexer.answerFetch, next, peek, rest_parted, List.head?_nil]

@[simp] theorem stepAhead_parted_cons (c : Char) :
    (parted front passed (c :: left)).stepAhead = (some c, parted front (passed ++ [c]) left) := by
  rw [stepAhead, Lexer.answerFetch, next, peek, rest_parted, List.head?_cons]
  simp [parted, Nat.add_assoc]

/-- Steps over characters that are left pass them in order. -/
theorem stepsAhead_parted (cs : Text) :
    (parted front passed (cs ++ left)).stepsAhead cs.length =
      (cs.map some, parted front (passed ++ cs) left) := by
  induction cs generalizing passed with
  | nil => simp [stepsAhead]
  | cons c cs ih => simp [stepsAhead, ih]

/-- Steps that all give a character have passed what was left in order. -/
theorem parted_of_stepsAhead {count : Nat} {cs : Text} {moved : Window}
    (h : (parted front passed left).stepsAhead count = (cs.map some, moved)) :
    count = cs.length ∧ ∃ later, left = cs ++ later ∧
      moved = parted front (passed ++ cs) later := by
  induction count generalizing passed left cs with
  | zero =>
      rw [stepsAhead, Prod.mk.injEq, eq_comm, List.map_eq_nil_iff] at h
      obtain ⟨rfl, rfl⟩ := h
      exact ⟨rfl, left, rfl, by simp⟩
  | succ count ih =>
      cases left with
      | nil =>
          simp only [stepsAhead, stepAhead_parted_nil, Prod.mk.injEq] at h
          cases cs with
          | nil => cases h.1
          | cons d cs => cases h.1
      | cons c left =>
          simp only [stepsAhead, stepAhead_parted_cons, Prod.mk.injEq] at h
          obtain ⟨hcs, hmoved⟩ := h
          cases cs with
          | nil => cases hcs
          | cons d cs =>
              obtain ⟨hc, hrest⟩ := List.cons_eq_cons.mp hcs
              obtain rfl := Option.some.inj hc
              obtain ⟨hcount, later, rfl, rfl⟩ := ih (Prod.ext hrest hmoved)
              exact ⟨congrArg (· + 1) hcount, later, rfl, by simp⟩

/-! ### Steps back -/

/-- Steps back over what has been passed. `passed` is given in reverse, as the steps meet it. -/
theorem stepBack_passed (front passed : Text) (count : Nat) :
    stepBack (Text.byteLength front) (passed ++ front.reverse) count
        (Text.byteLength front + Text.byteLength passed.reverse) =
      if count ≤ passed.length then
        some (Text.byteLength front + Text.byteLength (passed.drop count).reverse)
      else none := by
  induction passed generalizing count with
  | nil =>
      cases count with
      | zero => simp [stepBack]
      | succ count =>
          -- the next character back lies before the boundary, if there is one
          cases hfront : front.reverse with
          | nil => simp [stepBack]
          | cons c before =>
              have hpos := c.utf8Size_pos
              have hlength : Text.byteLength front =
                  Text.byteLength before.reverse + c.utf8Size := by
                rw [← front.reverse_reverse, hfront]
                simp
              simp only [List.nil_append, stepBack, List.reverse_nil, Text.byteLength_nil,
                List.length_nil]
              rw [if_pos (by omega), if_neg (by omega)]
  | cons c passed ih =>
      cases count with
      | zero => simp [stepBack]
      | succ count =>
          have hlength : Text.byteLength front + Text.byteLength (c :: passed).reverse -
              c.utf8Size = Text.byteLength front + Text.byteLength passed.reverse := by
            simp
            omega
          rw [List.cons_append, stepBack, hlength, if_neg (by omega), ih]
          simp only [List.length_cons, Nat.add_le_add_iff_right, List.drop_succ_cons]

/-- What a call for steps back answers, by the offset that they lead to. -/
theorem backUp_parted (count : Nat) :
    (parted front passed left).backUp count =
      if count ≤ passed.length then
        (.ok (), { parted front passed left with
          cursor := Text.byteLength front +
            Text.byteLength (passed.take (passed.length - count)) })
      else
        (.error (.beforeBoundary (parted front passed left).cursor count
          (parted front passed left).boundary), parted front passed left) := by
  have hstep := stepBack_passed front passed.reverse count
  rw [← List.reverse_append, List.reverse_reverse, List.length_reverse, List.drop_reverse,
    List.reverse_reverse] at hstep
  rw [backUp, Lexer.answerFetch, back, takeBytes_parted]
  by_cases h : count ≤ passed.length
  · rw [if_pos h] at hstep ⊢
    simp only [parted, hstep]
    rfl
  · rw [if_neg h] at hstep ⊢
    simp only [parted, hstep]
    rfl

/-- Steps back over characters that have been passed leave them again. -/
theorem backUp_parted_append (kept given : Text) :
    (parted front (kept ++ given) left).backUp given.length =
      (.ok (), parted front kept (given ++ left)) := by
  have hcount : given.length ≤ (kept ++ given).length := by simp
  rw [backUp_parted, if_pos hcount]
  simp [parted]

/-- Steps back that are granted have left characters that had been passed. -/
theorem parted_of_backUp {count : Nat} {moved : Window}
    (h : (parted front passed left).backUp count = (.ok (), moved)) :
    ∃ kept given, passed = kept ++ given ∧ given.length = count ∧
      moved = parted front kept (given ++ left) := by
  have hcount : count ≤ passed.length := by
    by_contra hnot
    rw [backUp_parted, if_neg hnot] at h
    cases h
  obtain ⟨kept, given, rfl, hgiven⟩ : ∃ kept given, passed = kept ++ given ∧
      given.length = count :=
    ⟨passed.take (passed.length - count), passed.drop (passed.length - count), by simp, by
      rw [List.length_drop]
      omega⟩
  subst hgiven
  rw [backUp_parted_append, Prod.mk.injEq] at h
  exact ⟨kept, given, rfl, rfl, h.2.symm⟩

/-- What has been given back is the input between the two cursors. -/
theorem slice_given (front kept given left : Text) :
    (parted front (kept ++ given) left).input.slice (parted front kept (given ++ left)).cursor
      (parted front (kept ++ given) left).cursor = given := by
  have h := Text.slice_append (front ++ kept) given left
  simp only [Text.byteLength_append, List.append_assoc, Nat.add_assoc] at h
  simpa [parted, Nat.add_assoc] using h

/-! ### Jumps -/

/-- What a jump answers: what lies behind is refused first, then what lies past the end, then what
lies inside a character. -/
theorem jumpTo_eq (w : Window) (offset : Nat) :
    w.jumpTo offset =
      if offset < w.cursor then (.error (.backwards w.cursor offset), w)
      else if w.input.byteLength < offset then
        (.error (.outOfBounds offset w.input.byteLength), w)
      else if w.input.isBoundary offset = false then (.error (.notCharBoundary offset), w)
      else (.ok (), { w with cursor := offset }) := by
  rw [jumpTo, Lexer.answerFetch, advanceTo]
  by_cases hbehind : offset < w.cursor
  · simp only [if_pos hbehind]
    rfl
  · by_cases hpast : w.input.byteLength < offset
    · simp only [if_neg hbehind, if_pos hpast]
      rfl
    · cases hinside : w.input.isBoundary offset with
      | false =>
          simp only [if_neg hbehind, if_neg hpast, Bool.not_false, if_true]
          rfl
      | true =>
          simp only [if_neg hbehind, if_neg hpast, Bool.not_true, Bool.false_eq_true, if_false,
            Bool.true_eq_false]
          rfl

/-- A jump is granted onto a boundary of the input that is not behind the cursor. -/
theorem jumpTo_ok_iff {w : Window} {offset : Nat} {moved : Window} :
    w.jumpTo offset = (.ok (), moved) ↔
      (w.cursor ≤ offset ∧ offset ≤ w.input.byteLength ∧ w.input.isBoundary offset = true) ∧
        moved = { w with cursor := offset } := by
  rw [jumpTo_eq]
  constructor
  · intro h
    split_ifs at h with hbehind hpast hinside
    · cases h
    · cases h
    · cases h
    · cases h
      exact ⟨⟨Nat.le_of_not_lt hbehind, Nat.le_of_not_lt hpast, by simpa using hinside⟩, rfl⟩
  · rintro ⟨⟨hle, hle', hinside⟩, rfl⟩
    rw [if_neg (Nat.not_lt.mpr hle), if_neg (Nat.not_lt.mpr hle'), if_neg (by simp [hinside])]

/-- A jump that is refused names the first thing that is wrong, and moves nothing. -/
theorem jumpTo_error_iff {w : Window} {offset : Nat} {e : CursorError} {moved : Window} :
    w.jumpTo offset = (.error e, moved) ↔
      ((offset < w.cursor ∧ e = .backwards w.cursor offset) ∨
        (w.cursor ≤ offset ∧ w.input.byteLength < offset ∧
          e = .outOfBounds offset w.input.byteLength) ∨
        (w.cursor ≤ offset ∧ offset ≤ w.input.byteLength ∧ w.input.isBoundary offset = false ∧
          e = .notCharBoundary offset)) ∧ moved = w := by
  rw [jumpTo_eq]
  constructor
  · intro h
    split_ifs at h with hbehind hpast hinside
    · cases h
      exact ⟨.inl ⟨hbehind, rfl⟩, rfl⟩
    · cases h
      exact ⟨.inr (.inl ⟨Nat.le_of_not_lt hbehind, hpast, rfl⟩), rfl⟩
    · cases h
      exact ⟨.inr (.inr ⟨Nat.le_of_not_lt hbehind, Nat.le_of_not_lt hpast, hinside, rfl⟩), rfl⟩
    · cases h
  · rintro ⟨⟨hbehind, rfl⟩ | ⟨hle, hpast, rfl⟩ | ⟨hle, hle', hinside, rfl⟩, rfl⟩
    · rw [if_pos hbehind]
    · rw [if_neg (Nat.not_lt.mpr hle), if_pos hpast]
    · rw [if_neg (Nat.not_lt.mpr hle), if_neg (Nat.not_lt.mpr hle'), if_pos hinside]

/-! ### Every window that a hook reaches -/

/-- Whatever is called, a window in bounds stays in bounds, on its input and with its boundary. -/
theorem Within.callAll {w : Window} (h : w.Within) (asks : List FetchAsk) :
    (w.callAll asks).Within ∧ (w.callAll asks).input = w.input ∧
      (w.callAll asks).boundary = w.boundary := by
  induction asks generalizing w with
  | nil => exact ⟨h, rfl, rfl⟩
  | cons ask asks ih =>
      obtain ⟨hw, hinput, hboundary⟩ := Lexer.answerFetch_within ask w ⟨h, rfl, rfl⟩
      obtain ⟨hw, hinput', hboundary'⟩ := ih hw
      exact ⟨hw, hinput'.trans hinput, hboundary'.trans hboundary⟩

/-- What the moves of a window do, on an input and behind a match that ends at a boundary. -/
structure Exact (input : Text) (boundary : Nat) (w : Window) : Prop where
  /-- The window is still on this input and still has this boundary. -/
  same : w.input = input ∧ w.boundary = boundary
  /-- The cursor is between two characters, behind the match and in the input. -/
  inside : input.isBoundary w.cursor = true ∧ boundary ≤ w.cursor ∧
    w.cursor ≤ input.byteLength
  /-- Steps back are granted for as many characters as lie between the boundary and the cursor. -/
  granted : ∀ count, (∃ moved, w.backUp count = (.ok (), moved)) ↔
    count ≤ (input.slice boundary w.cursor).length
  /-- Steps back end exactly that many characters before, and as many steps ahead give these
  characters in order and restore the window. -/
  back_forth : ∀ count moved, w.backUp count = (.ok (), moved) →
    input.isBoundary moved.cursor = true ∧ moved.cursor ≤ w.cursor ∧
      (input.slice moved.cursor w.cursor).length = count ∧
      moved.stepsAhead count = ((input.slice moved.cursor w.cursor).map some, w)
  /-- Steps ahead that all give a character are undone by as many steps back. -/
  forth_back : ∀ (count : Nat) (cs : Text) moved, w.stepsAhead count = (cs.map some, moved) →
    moved.backUp count = (.ok (), w)
  /-- Steps back that are refused say from where, how many and up to which place, and move
  nothing. -/
  back_refused : ∀ count e moved, w.backUp count = (.error e, moved) →
    e = .beforeBoundary w.cursor count boundary ∧ moved = w
  /-- A jump is granted onto a boundary of the input that is not behind the cursor. -/
  jump_granted : ∀ offset moved, w.jumpTo offset = (.ok (), moved) ↔
    (w.cursor ≤ offset ∧ offset ≤ input.byteLength ∧ input.isBoundary offset = true) ∧
      moved = { w with cursor := offset }
  /-- A jump that is refused says the first thing that is wrong, and moves nothing. -/
  jump_refused : ∀ offset e moved, w.jumpTo offset = (.error e, moved) ↔
    ((offset < w.cursor ∧ e = .backwards w.cursor offset) ∨
      (w.cursor ≤ offset ∧ input.byteLength < offset ∧
        e = .outOfBounds offset input.byteLength) ∨
      (w.cursor ≤ offset ∧ offset ≤ input.byteLength ∧ input.isBoundary offset = false ∧
        e = .notCharBoundary offset)) ∧ moved = w
  /-- A step ahead gives nothing exactly at the end of the input, and then moves nothing. -/
  ahead_none : ∀ moved, w.stepAhead = (none, moved) ↔
    w.cursor = input.byteLength ∧ moved = w

/-- The window with a match end as its boundary, as a hook is given it. -/
def opened (input : Text) (boundary : Nat) : Window := ⟨input, boundary, boundary⟩

/-- **Moves are exact and reversible.** Take any input, any match end, and the window that any
calls of a hook leave, those that were refused among them. The cursor is between two characters of
the input and not before the match end. Steps back are granted for exactly as many characters as
have been passed, each of its own width; they are undone by as many steps ahead, which give the
characters in order, and they undo steps ahead. A jump is granted exactly onto a character boundary
from the cursor on. Whatever is refused moves nothing and says why. -/
theorem fetch_moves_exact {input : Text} {boundary : Nat}
    (hboundary : input.isBoundary boundary = true) (asks : List FetchAsk) :
    Exact input boundary ((opened input boundary).callAll asks) := by
  have hopened : (opened input boundary).Within := ⟨hboundary, Nat.le_refl _⟩
  obtain ⟨hw, hinput, hsame⟩ := hopened.callAll asks
  generalize (opened input boundary).callAll asks = w at hw hinput hsame ⊢
  obtain rfl : input = w.input := hinput.symm
  obtain rfl : boundary = w.boundary := hsame.symm
  obtain ⟨front, passed, left, rfl⟩ := hw.exists_parted hboundary
  constructor
  · exact ⟨rfl, rfl⟩
  · exact ⟨hw.cursor_isBoundary, hw.boundary_le,
      Text.le_byteLength_of_isBoundary hw.cursor_isBoundary⟩
  · intro count
    rw [backUp_parted, slice_parted]
    by_cases h : count ≤ passed.length <;> simp [h]
  · intro count moved hback
    obtain ⟨kept, given, rfl, rfl, rfl⟩ := parted_of_backUp hback
    have hinput : (parted front kept (given ++ left)).input =
        (parted front (kept ++ given) left).input := by
      simp [parted]
    have hkept : (parted front kept (given ++ left)).Within := within_parted
    rw [slice_given]
    refine ⟨hinput ▸ hkept.cursor_isBoundary, ?_, rfl, stepsAhead_parted given⟩
    simp [parted]
  · intro count cs moved hsteps
    obtain ⟨rfl, later, rfl, rfl⟩ := parted_of_stepsAhead hsteps
    exact backUp_parted_append passed cs
  · intro count e moved hback
    rw [backUp_parted] at hback
    split at hback
    · cases hback
    · cases hback
      exact ⟨rfl, rfl⟩
  · exact fun _ _ => jumpTo_ok_iff
  · exact fun _ _ _ => jumpTo_error_iff
  · intro moved
    cases left with
    | nil =>
        have hend : (parted front passed []).cursor =
            (parted front passed []).input.byteLength := by
          simp [parted]
        simp only [stepAhead_parted_nil, Prod.mk.injEq, true_and, hend]
        exact eq_comm
    | cons c left =>
        have hpos := c.utf8Size_pos
        have hnot : (parted front passed (c :: left)).cursor ≠
            (parted front passed (c :: left)).input.byteLength := by
          simp [parted]
          omega
        simp [hnot]

/-- A text of characters of one to four bytes, with a match that ends behind the first. -/
def widthsText : Text := ['"', 'a', 'é', '日', '😀']

/-- Calls of which the third asks for too many steps back and the fifth for a jump backwards. -/
def widthsCalls : List FetchAsk := [.next, .next, .back 3, .next, .advanceTo 5, .next]

/-- Two calls are refused on the way to the end of the text. Three characters of two, three and
four bytes can be given back and stepped over again, but not all that the text has. -/
theorem fetch_moves_exact_widths :
    widthsText.isBoundary 1 = true ∧
      ∃ w : Window, w = (opened widthsText 1).callAll widthsCalls ∧ w.cursor = 11 ∧
        (∃ moved, w.backUp 3 = (.ok (), moved) ∧ moved.cursor = 2 ∧
          moved.stepsAhead 3 = ([some 'é', some '日', some '😀'], w)) ∧
        w.backUp (Nat.pow 2 64 - 1) =
          (.error (.beforeBoundary 11 (Nat.pow 2 64 - 1) 1), w) := by
  have hboundary : widthsText.isBoundary 1 = true := by decide
  have hexact := fetch_moves_exact hboundary widthsCalls
  have hcursor : ((opened widthsText 1).callAll widthsCalls).cursor = 11 := by decide
  refine ⟨hboundary, _, rfl, hcursor, ⟨⟨widthsText, 1, 2⟩, by rfl, rfl, ?_⟩, ?_⟩
  · -- what is given back is the slice between the two cursors
    obtain ⟨-, -, -, hsteps⟩ := hexact.back_forth 3 ⟨widthsText, 1, 2⟩ (by rfl)
    rw [hcursor] at hsteps
    exact hsteps
  · have hnot : ¬∃ moved, ((opened widthsText 1).callAll widthsCalls).backUp (Nat.pow 2 64 - 1) =
        (.ok (), moved) := by
      rw [hexact.granted, hcursor]
      decide
    cases hreply : ((opened widthsText 1).callAll widthsCalls).backUp (Nat.pow 2 64 - 1) with
    | mk reply moved =>
        cases reply with
        | ok _ => exact absurd ⟨moved, hreply⟩ hnot
        | error e =>
            obtain ⟨rfl, rfl⟩ := hexact.back_refused _ e moved hreply
            rw [hcursor]

end ModalLex.Window
