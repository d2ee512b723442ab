import ModalLex.Regex.Parser

/-!
# What Readers Depend On

A reader of patterns that has left something unread has not looked behind it: with any text
behind the pattern it reads the same and leaves the same, and that text. A reader that has come
to the end of the pattern would also have stopped at a closing parenthesis there, unless it was
skipping a comment: then the parenthesis is part of the comment. Readers with this property are
called **steady**. Steady readers can be composed, and all readers below the level of branches are
compositions of steady ones.

Readers with an allowance are compared with themselves at another allowance, since a longer text
gives a larger one.

## Main results

* `Steady.bind`, `Steady.tidy`, `Steady.head`: steady readers are composed of steady ones.
* `steady_readEscape`, `steady_readClass`, `steady_readCounts`, `steady_readOpening`: **the readers
  of escapes, classes, repetitions and opening parentheses are steady.**
-/

namespace ModalLex.Regex

/-- A text may stand behind what was left unread: any text, but nothing more than a closing
parenthesis where all was read. -/
def Behind (left u : Text) : Prop := left = [] → u = [] ∨ u = [')']

/-- What is left unread when a text stands behind: that text too, or nothing where a comment at
the end takes the text. -/
def Trails (u left left' : Text) : Prop := left' = left ++ u ∨ (left = [] ∧ left' = [])

/-- What may stand behind the end of a text may stand behind more of it. -/
theorem Behind.mono {x z u : Text} (h : Behind z u) (hsuffix : z <:+ x) : Behind x u := by
  rintro rfl
  exact h (List.suffix_nil.mp hsuffix)

/-- Anything may stand behind a text of which something is left. -/
theorem Behind.of_ne_nil {x : Text} (u : Text) (h : x ≠ []) : Behind x u :=
  fun hnil => absurd hnil h

/-- If something was left, the text behind it is left as well. -/
theorem Trails.eq_append {u x y : Text} (h : Trails u x y) (hx : x ≠ []) : y = x ++ u :=
  h.resolve_right fun hnil => hx hnil.1

/-- A reader that does not depend on what stands behind the part that it reads. The two readers
are the same at two allowances. -/
structure Steady {α : Type} (r r' : Text → Option (α × Text)) : Prop where
  suffix : ∀ {t a x}, r t = some (a, x) → x <:+ t
  append : ∀ {t a x u}, r t = some (a, x) → Behind x u →
    ∃ y, r' (t ++ u) = some (a, y) ∧ Trails u x y

namespace Steady

variable {α β : Type} {r r' : Text → Option (α × Text)} {s s' : α → Text → Option (β × Text)}

/-- The larger allowance reads the same. -/
theorem mono (h : Steady r r') {t : Text} {a : α} {x : Text} (hr : r t = some (a, x)) :
    r' t = some (a, x) := by
  obtain ⟨y, hy, htrails⟩ := h.append (u := []) hr fun _ => .inl rfl
  rw [List.append_nil] at hy
  rcases htrails with rfl | ⟨rfl, rfl⟩
  · rwa [List.append_nil] at hy
  · exact hy

/-- The reader that refuses everything is steady. -/
theorem fail : Steady (fun _ => (none : Option (α × Text))) fun _ => none :=
  ⟨fun h => absurd h (by simp), fun h => absurd h (by simp)⟩

/-- The reader that reads nothing is steady. -/
theorem pure (a : α) : Steady (fun t => some (a, t)) fun t => some (a, t) where
  suffix h := by
    obtain ⟨rfl, rfl⟩ := Prod.mk.inj (Option.some.inj h)
    exact List.suffix_refl _
  append h _ := by
    obtain ⟨rfl, rfl⟩ := Prod.mk.inj (Option.some.inj h)
    exact ⟨_, rfl, .inl rfl⟩

/-- One steady reader behind another. -/
theorem bind (hr : Steady r r') (hs : ∀ a, Steady (s a) (s' a)) :
    Steady (fun t => (r t).bind fun p => s p.1 p.2) fun t => (r' t).bind fun p => s' p.1 p.2 where
  suffix h := by
    obtain ⟨⟨a, x⟩, hx, hz⟩ := Option.bind_eq_some_iff.mp h
    exact ((hs a).suffix hz).trans (hr.suffix hx)
  append {t b z u} h hbehind := by
    obtain ⟨⟨a, x⟩, hx, hz⟩ := Option.bind_eq_some_iff.mp h
    obtain ⟨y, hy, htrails⟩ := hr.append hx (hbehind.mono ((hs a).suffix hz))
    rcases htrails with rfl | ⟨rfl, rfl⟩
    · obtain ⟨z', hz', htrails'⟩ := (hs a).append hz hbehind
      exact ⟨z', by rw [hy]; exact hz', htrails'⟩
    · -- A comment took the text behind; the next reader has nothing before it in both cases.
      obtain rfl := List.suffix_nil.mp ((hs a).suffix hz)
      exact ⟨[], by rw [hy]; exact (hs a).mono hz, .inr ⟨rfl, rfl⟩⟩

/-- A steady reader whose result is changed, or refused. -/
theorem filterMap (hr : Steady r r') (f : α → Option β) :
    Steady (fun t => (r t).bind fun p => (f p.1).map fun b => (b, p.2))
      fun t => (r' t).bind fun p => (f p.1).map fun b => (b, p.2) := by
  have hf : ∀ a,
      Steady (fun x => (f a).map fun b => (b, x)) fun x => (f a).map fun b => (b, x) := by
    intro a
    cases f a with
    | none => exact fail
    | some b => exact pure b
  exact hr.bind hf

/-- A steady reader stays steady if something is made of what it reads. -/
theorem map (hr : Steady r r') (f : α → β) :
    Steady (fun t => (r t).map fun p => (f p.1, p.2))
      fun t => (r' t).map fun p => (f p.1, p.2) := by
  have h := hr.filterMap fun a => some (f a)
  simpa only [Option.map_eq_bind, Option.bind_some, Function.comp_def] using h

/-- A choice between steady readers that does not depend on the text is steady. -/
theorem ite {q : Prop} [Decidable q] {r₁ r₁' r₂ r₂' : Text → Option (α × Text)}
    (h₁ : q → Steady r₁ r₁') (h₂ : ¬q → Steady r₂ r₂') :
    Steady (fun t => if q then r₁ t else r₂ t) fun t => if q then r₁' t else r₂' t := by
  by_cases hq : q
  · simpa only [if_pos hq] using h₁ hq
  · simpa only [if_neg hq] using h₂ hq

end Steady

/-- Both halves of steadiness from one argument, where the same cases give both. -/
theorem Steady.of_both {α : Type} {r r' : Text → Option (α × Text)}
    (h : ∀ {t a x}, r t = some (a, x) → x <:+ t ∧
      ∀ u, Behind x u → ∃ y, r' (t ++ u) = some (a, y) ∧ Trails u x y) : Steady r r' :=
  ⟨fun hx => (h hx).1, fun hx => (h hx).2 _⟩

/-- Both halves of steadiness at one reading. -/
theorem Steady.both {α : Type} {r r' : Text → Option (α × Text)} (h : Steady r r') {t : Text}
    {a : α} {x : Text} (hx : r t = some (a, x)) : x <:+ t ∧
      ∀ u, Behind x u → ∃ y, r' (t ++ u) = some (a, y) ∧ Trails u x y :=
  ⟨h.suffix hx, fun _ => h.append hx⟩

/-- A reader that takes the next character. -/
def onHead {α : Type} (f : Char → Text → Option (α × Text)) : Text → Option (α × Text)
  | [] => none
  | c :: rest => f c rest

/-- A reader that takes the next character is steady, if it is for every such character. -/
theorem Steady.head {α : Type} {f f' : Char → Text → Option (α × Text)}
    (h : ∀ c, Steady (f c) (f' c)) : Steady (onHead f) (onHead f') where
  suffix {t a x} hx := by
    cases t with
    | nil => exact absurd hx (by simp [onHead])
    | cons c rest => exact ((h c).suffix hx).trans (List.suffix_cons c rest)
  append {t a x u} hx hbehind := by
    cases t with
    | nil => exact absurd hx (by simp [onHead])
    | cons c rest => exact (h c).append hx hbehind

/-- A reader that looks at the next character and takes nothing yet. -/
def onPeek {α : Type} (f : Char → Text → Option (α × Text)) : Text → Option (α × Text)
  | [] => none
  | c :: rest => f c (c :: rest)

/-- A reader that looks at the next character is steady, if it is for every such character. -/
theorem Steady.peek {α : Type} {f f' : Char → Text → Option (α × Text)}
    (h : ∀ c, Steady (f c) (f' c)) : Steady (onPeek f) (onPeek f') where
  suffix {t a x} hx := by
    cases t with
    | nil => exact absurd hx (by simp [onPeek])
    | cons c rest => exact (h c).suffix hx
  append {t a x u} hx hbehind := by
    cases t with
    | nil => exact absurd hx (by simp [onPeek])
    | cons c rest => exact (h c).append hx hbehind

/-- A reader that is used where a character is next, and that takes nothing otherwise. -/
def ifHead {α : Type} (mark : Char) (r : Text → Option (α × Text)) (otherwise : α) :
    Text → Option (α × Text)
  | [] => some (otherwise, [])
  | c :: rest => if c = mark then r rest else some (otherwise, c :: rest)

/-- What is optional can be read steadily, as long as it does not begin with a closing
parenthesis. -/
theorem Steady.ifHead {α : Type} {r r' : Text → Option (α × Text)} {mark : Char}
    (hmark : mark ≠ ')') (h : Steady r r') (otherwise : α) :
    Steady (Regex.ifHead mark r otherwise) (Regex.ifHead mark r' otherwise) := by
  refine .of_both fun {t a x} hx => ?_
  cases t with
  | nil =>
      obtain ⟨rfl, rfl⟩ := Prod.mk.inj (Option.some.inj hx)
      refine ⟨List.suffix_refl _, fun u hbehind => ⟨u, ?_, .inl rfl⟩⟩
      rcases hbehind rfl with rfl | rfl
      · rfl
      · exact if_neg hmark.symm
  | cons c rest =>
      by_cases hc : c = mark
      · simp only [Regex.ifHead, List.cons_append, if_pos hc] at hx ⊢
        obtain ⟨hsuffix, happend⟩ := h.both hx
        exact ⟨hsuffix.trans (List.suffix_cons c rest), happend⟩
      · simp only [Regex.ifHead, List.cons_append, if_neg hc] at hx ⊢
        obtain ⟨rfl, rfl⟩ := Prod.mk.inj (Option.some.inj hx)
        exact ⟨List.suffix_refl _, fun u _ => ⟨_, rfl, .inl rfl⟩⟩

/-- A reader whose allowance is the length of the text. -/
theorem Steady.sized {α : Type} {r : Nat → Text → Option (α × Text)}
    (h : ∀ {n m}, n ≤ m → Steady (r n) (r m)) :
    Steady (fun t => r (t.length + 1) t) fun t => r (t.length + 1) t where
  suffix hx := (h (Nat.le_refl _)).suffix hx
  append {t a x u} hx hbehind := by
    have hle : t.length + 1 ≤ (t ++ u).length + 1 := by
      rw [List.length_append]
      omega
    exact (h hle).append hx hbehind

/-! ### Blanks -/

/-- Skipping blanks takes away only from the front. -/
theorem skipBlanks_suffix (inComment : Bool) (t : Text) : skipBlanks inComment t <:+ t := by
  induction t generalizing inComment with
  | nil => simp [skipBlanks]
  | cons c rest ih =>
      have hcons := fun b => (ih b).trans (List.suffix_cons c rest)
      cases inComment with
      | true =>
          rw [skipBlanks]
          exact hcons _
      | false =>
          rw [skipBlanks]
          split
          · exact hcons _
          · split
            · exact hcons _
            · exact List.suffix_refl _

/-- **Blanks and comments in front of a text are skipped whatever stands behind it.** Only a
comment that comes to the end of the text goes on behind it. -/
theorem skipBlanks_append (inComment : Bool) (t u : Text)
    (h : Behind (skipBlanks inComment t) u) :
    Trails u (skipBlanks inComment t) (skipBlanks inComment (t ++ u)) := by
  induction t generalizing inComment with
  | nil =>
      rw [skipBlanks] at h ⊢
      rcases h rfl with rfl | rfl
      · exact .inr ⟨rfl, by rw [List.append_nil, skipBlanks]⟩
      · cases inComment with
        | true => exact .inr ⟨rfl, by decide⟩
        | false => exact .inl (by decide)
  | cons c rest ih =>
      cases inComment with
      | true =>
          rw [List.cons_append, skipBlanks, skipBlanks]
          rw [skipBlanks] at h
          exact ih _ h
      | false =>
          rw [List.cons_append, skipBlanks, skipBlanks]
          rw [skipBlanks] at h
          by_cases hspace : Unicode.isSpace c = true
          · rw [if_pos hspace] at h
            rw [if_pos hspace, if_pos hspace]
            exact ih _ h
          · rw [if_neg hspace] at h
            rw [if_neg hspace, if_neg hspace]
            by_cases hhash : c = '#'
            · rw [if_pos hhash] at h
              rw [if_pos hhash, if_pos hhash]
              exact ih _ h
            · rw [if_neg hhash, if_neg hhash]
              exact .inl rfl

/-- Nor is anything taken away but in front where blanks may be skipped. -/
theorem tidy_suffix (verbose : Bool) (t : Text) : tidy verbose t <:+ t := by
  rw [tidy]
  split
  · exact skipBlanks_suffix false t
  · exact List.suffix_refl t

/-- Skipping blanks and comments, with a text behind. -/
theorem tidy_append {verbose : Bool} {t u : Text} (h : Behind (tidy verbose t) u) :
    Trails u (tidy verbose t) (tidy verbose (t ++ u)) := by
  cases verbose with
  | true => exact skipBlanks_append false t u h
  | false => exact .inl rfl

/-- A steady reader behind blanks and comments. -/
theorem Steady.tidy {α : Type} {r r' : Text → Option (α × Text)} (verbose : Bool)
    (h : Steady r r') :
    Steady (fun t => r (Regex.tidy verbose t)) fun t => r' (Regex.tidy verbose t) where
  suffix hx := (h.suffix hx).trans (tidy_suffix verbose _)
  append {t a x u} hx hbehind := by
    rcases tidy_append (hbehind.mono (h.suffix hx)) with heq | ⟨hnil, hnil'⟩
    · rw [heq]
      exact h.append hx hbehind
    · rw [hnil] at hx
      obtain rfl := List.suffix_nil.mp (h.suffix hx)
      exact ⟨[], by rw [hnil']; exact h.mono hx, .inr ⟨rfl, rfl⟩⟩

/-- Dropping blanks, with a text behind. -/
theorem dropWhile_append {t u : Text} (h : Behind (t.dropWhile Unicode.isSpace) u) :
    (t ++ u).dropWhile Unicode.isSpace = t.dropWhile Unicode.isSpace ++ u := by
  rw [List.dropWhile_append]
  split
  · next hempty =>
      rw [List.isEmpty_iff] at hempty
      rcases h hempty with rfl | rfl
      · rw [hempty]
        rfl
      · rw [hempty]
        decide
  · rfl

/-! ### Runs of characters -/

/-- The characters in front that have a property, with blanks between them skipped in verbose
mode. -/
def takeRun (p : Char → Bool) (verbose : Bool) : Nat → Text → Text × Text
  | 0, t => ([], t)
  | _ + 1, [] => ([], [])
  | fuel + 1, c :: rest =>
    if p c then
      let (chars, rest) := takeRun p verbose fuel (tidy verbose rest)
      (c :: chars, rest)
    else ([], c :: rest)

/-- Reading digits is reading a run of them. -/
theorem takeDigits_eq (verbose : Bool) (fuel : Nat) (t : Text) :
    takeDigits verbose fuel t = takeRun Char.isDigit verbose fuel t := by
  induction fuel generalizing t with
  | zero => rfl
  | succ fuel ih =>
      cases t with
      | nil => rfl
      | cons c rest => rw [takeDigits, takeRun, ih]

/-- Reading the name of a word boundary is reading a run of its characters. -/
theorem takeBoundaryName_eq (verbose : Bool) (fuel : Nat) (t : Text) :
    takeBoundaryName verbose fuel t = takeRun isBoundaryChar verbose fuel t := by
  induction fuel generalizing t with
  | zero => rfl
  | succ fuel ih =>
      cases t with
      | nil => rfl
      | cons c rest => rw [takeBoundaryName, takeRun, ih]

/-- There is no run in the empty text. -/
theorem takeRun_nil (p : Char → Bool) (verbose : Bool) (fuel : Nat) :
    takeRun p verbose fuel [] = ([], []) := by
  cases fuel <;> rfl

/-- What a run leaves is the end of the text. -/
theorem takeRun_suffix (p : Char → Bool) (verbose : Bool) (fuel : Nat) (t : Text) :
    (takeRun p verbose fuel t).2 <:+ t := by
  induction fuel generalizing t with
  | zero => exact List.suffix_refl t
  | succ fuel ih =>
      cases t with
      | nil => exact List.suffix_refl []
      | cons c rest =>
          rw [takeRun]
          split
          · exact ((ih _).trans (tidy_suffix verbose rest)).trans (List.suffix_cons c rest)
          · exact List.suffix_refl _

/-- A run that has come to the end does not go on behind it. -/
theorem takeRun_behind {p : Char → Bool} (hp : p ')' = false) (verbose : Bool) {m : Nat} {u : Text}
    (hu : u = [] ∨ u = [')']) (hm : u.length ≤ m) : takeRun p verbose m u = ([], u) := by
  rcases hu with rfl | rfl
  · exact takeRun_nil p verbose m
  · obtain ⟨m, rfl⟩ := Nat.exists_eq_add_of_le' hm
    simp [takeRun, hp]

/-- A run is the same with a text behind, if a closing parenthesis ends it. -/
theorem takeRun_append {p : Char → Bool} (hp : p ')' = false) {verbose : Bool} {n m : Nat}
    {t u : Text} (hn : t.length ≤ n) (hm : (t ++ u).length ≤ m)
    (h : Behind (takeRun p verbose n t).2 u) :
    (takeRun p verbose m (t ++ u)).1 = (takeRun p verbose n t).1 ∧
      Trails u (takeRun p verbose n t).2 (takeRun p verbose m (t ++ u)).2 := by
  induction n generalizing t m with
  | zero =>
      obtain rfl := List.length_eq_zero_iff.mp (Nat.le_zero.mp hn)
      rw [List.nil_append, takeRun_behind hp verbose (h rfl) hm]
      exact ⟨rfl, .inl rfl⟩
  | succ n ih =>
      cases t with
      | nil =>
          rw [List.nil_append, takeRun_behind hp verbose (h rfl) hm]
          exact ⟨rfl, .inl rfl⟩
      | cons c rest =>
          obtain ⟨m, rfl⟩ := Nat.exists_eq_add_of_le' (Nat.one_le_of_lt hm)
          rw [takeRun] at h ⊢
          rw [List.cons_append, takeRun]
          cases hc : p c with
          | false => exact ⟨rfl, .inl rfl⟩
          | true =>
              simp only [hc, if_true] at h ⊢
              have hshort := (tidy_suffix verbose rest).length_le
              rcases tidy_append (h.mono (takeRun_suffix ..)) with heq | ⟨hnil, hnil'⟩
              · have hlength := (tidy_suffix verbose (rest ++ u)).length_le
                rw [List.cons_append, List.length_cons] at hm
                rw [List.length_cons] at hn
                rw [heq] at hlength ⊢
                obtain ⟨hrun, htrails⟩ := @ih m (tidy verbose rest) (by omega) (by omega) h
                exact ⟨by rw [hrun], htrails⟩
              · rw [hnil, hnil', takeRun_nil, takeRun_nil]
                exact ⟨rfl, .inr ⟨rfl, rfl⟩⟩

/-! ### Numbers -/

/-- A count is followed by blanks at most, and these are skipped one by one. -/
theorem steady_readCount (verbose : Bool) : Steady (readCount verbose) (readCount verbose) where
  suffix {t n x} h := by
    rw [readCount] at h
    dsimp only at h
    split at h
    · exact absurd h (by simp)
    · obtain ⟨-, rfl⟩ := Prod.mk.inj (Option.some.inj h)
      rw [takeDigits_eq]
      exact ((List.dropWhile_suffix _).trans (takeRun_suffix ..)).trans (List.dropWhile_suffix _)
  append {t n x u} h hbehind := by
    rw [readCount] at h ⊢
    simp only [takeDigits_eq] at h ⊢
    split at h
    · exact absurd h (by simp)
    · next hcount =>
        obtain ⟨rfl, rfl⟩ := Prod.mk.inj (Option.some.inj h)
        have hrest := hbehind.mono (List.dropWhile_suffix _)
        rw [dropWhile_append (hrest.mono (takeRun_suffix ..))]
        obtain ⟨hdigits, htrails⟩ :=
          @takeRun_append Char.isDigit (by decide) verbose _ _ _ u (Nat.le_refl _) (Nat.le_refl _)
            hrest
        rw [hdigits, if_neg hcount]
        refine ⟨_, rfl, ?_⟩
        rcases htrails with heq | ⟨hnil, hnil'⟩
        · rw [heq]
          exact .inl (dropWhile_append hbehind)
        · rw [hnil, hnil']
          exact .inr ⟨rfl, rfl⟩

/-- A fixed number of digits is read without a look at what follows. -/
theorem steady_readHexFixed (verbose : Bool) (count value : Nat) :
    Steady (readHexFixed verbose count value) (readHexFixed verbose count value) := by
  induction count generalizing value with
  | zero =>
      have heq : readHexFixed verbose 0 value = fun t => some (value, t) := by
        funext t
        rw [readHexFixed]
      rw [heq]
      exact .pure value
  | succ count ih =>
      have heq : readHexFixed verbose (count + 1) value = onHead fun c rest =>
          (hexDigit? c).bind fun d =>
            readHexFixed verbose count (16 * value + d) (tidy verbose rest) := by
        funext t
        cases t with
        | nil => rfl
        | cons c rest =>
            rw [readHexFixed, onHead]
            cases hexDigit? c <;> rfl
      rw [heq]
      refine .head fun c => ?_
      cases hexDigit? c with
      | none => exact .fail
      | some d => exact (ih _).tidy verbose

/-- Digits in braces end at the brace. -/
theorem steady_readHexBraced (verbose : Bool) {n m : Nat} (h : n ≤ m) (any : Bool)
    (value : Nat) :
    Steady (readHexBraced verbose n any value) (readHexBraced verbose m any value) := by
  induction n generalizing m any value with
  | zero =>
      have heq : readHexBraced verbose 0 any value = fun _ => none := by
        funext t
        rw [readHexBraced]
      rw [heq]
      exact ⟨fun h => absurd h (by simp), fun h => absurd h (by simp)⟩
  | succ n ih =>
      obtain ⟨m, rfl⟩ := Nat.exists_eq_add_of_le' (Nat.one_le_of_lt h)
      have heq : ∀ n, readHexBraced verbose (n + 1) any value = onHead fun c rest =>
          if c = '}' then if any then some (value, tidy verbose rest) else none
          else (hexDigit? c).bind fun d =>
            readHexBraced verbose n true (16 * value + d) (tidy verbose rest) := by
        intro n
        funext t
        cases t with
        | nil => rfl
        | cons c rest =>
            rw [readHexBraced, onHead]
            cases hexDigit? c <;> rfl
      rw [heq, heq]
      refine .head fun c => .ite (fun _ => .ite (fun _ => (Steady.pure value).tidy verbose)
        fun _ => .fail) fun _ => ?_
      cases hexDigit? c with
      | none => exact .fail
      | some d => exact (ih (by omega) _ _).tidy verbose

/-- The reader of character codes is steady in each of its two forms. -/
theorem steady_readHex (verbose : Bool) (digits : Nat) :
    Steady (readHex verbose digits) (readHex verbose digits) := by
  have heq : readHex verbose digits = fun t => onPeek (fun c =>
      if c = '{' then onHead fun _ rest =>
        (readHexBraced verbose (rest.length + 1) false 0 (tidy verbose rest)).bind fun p =>
          ((charOfCode? p.1).map fun c => (⟨c, false⟩ : Literal)).map fun l => (l, p.2)
      else fun t => (readHexFixed verbose digits 0 t).bind fun p =>
        ((charOfCode? p.1).map fun c => (⟨c, digits = 2⟩ : Literal)).map fun l => (l, p.2))
      (tidy verbose t) := by
    funext t
    rw [readHex]
    cases tidy verbose t with
    | nil => rfl
    | cons c rest =>
        by_cases hc : c = '{'
        · subst hc
          simp only [onPeek, onHead, if_true]
          cases readHexBraced verbose (rest.length + 1) false 0 (tidy verbose rest) with
          | none => rfl
          | some p => cases h : charOfCode? p.1 <;> simp [h]
        · simp only [onPeek, if_neg hc]
          split
          · next h => exact absurd h (by simp)
          · next h => exact absurd (List.cons.inj h).1 hc
          · cases readHexFixed verbose digits 0 (c :: rest) with
            | none => rfl
            | some p => cases h : charOfCode? p.1 <;> simp [h]
  rw [heq]
  refine Steady.tidy verbose (.peek fun c => ?_)
  split
  · refine .head fun _ => ?_
    exact (Steady.sized fun h => (steady_readHexBraced verbose h false 0).tidy verbose).filterMap
      fun n => (charOfCode? n).map fun c => (⟨c, false⟩ : Literal)
  · exact (steady_readHexFixed verbose digits 0).filterMap
      fun n => (charOfCode? n).map fun c => (⟨c, digits = 2⟩ : Literal)

/-! ### Escapes -/

/-- A text in braces ends at its brace. -/
theorem steady_readBraced (verbose : Bool) {n m : Nat} (h : n ≤ m) :
    Steady (readBraced verbose n) (readBraced verbose m) := by
  induction n generalizing m with
  | zero =>
      have heq : readBraced verbose 0 = fun _ => none := by
        funext t
        rw [readBraced]
      rw [heq]
      exact ⟨fun h => absurd h (by simp), fun h => absurd h (by simp)⟩
  | succ n ih =>
      obtain ⟨m, rfl⟩ := Nat.exists_eq_add_of_le' (Nat.one_le_of_lt h)
      have heq : ∀ n, readBraced verbose (n + 1) = onHead fun c rest =>
          if c = '}' then some ([], rest)
          else (readBraced verbose n (tidy verbose rest)).map fun p => (c :: p.1, p.2) := by
        intro n
        funext t
        cases t <;> rfl
      rw [heq, heq]
      exact .head fun c => .ite (fun _ => .pure []) fun _ =>
        ((ih (by omega)).tidy verbose).map fun name => c :: name

/-- The reader of properties is steady: its name is one letter or stands in braces. -/
theorem steady_readProperty (verbose negated : Bool) :
    Steady (readProperty verbose negated) (readProperty verbose negated) := by
  have heq : readProperty verbose negated = fun t => onHead (fun c rest =>
      if c = '\\' then none
      else if c = '{' then
        (readBraced verbose (rest.length + 1) (tidy verbose rest)).map fun p =>
          (Tree.property p.1 negated, p.2)
      else some (Tree.property [c] negated, tidy verbose rest)) (tidy verbose t) := by
    funext t
    rw [readProperty]
    split
    · next h => rw [h]; rfl
    · next h => rw [h]; rfl
    · next h => rw [h]; rfl
    · next hslash hbrace h => rw [h, onHead, if_neg hslash, if_neg hbrace]
  rw [heq]
  refine Steady.tidy verbose (.head fun c => .ite (fun _ => .fail) fun _ =>
    .ite (fun _ => ?_) fun _ => (Steady.pure (Tree.property [c] negated)).tidy verbose)
  exact (Steady.sized fun h => (steady_readBraced verbose h).tidy verbose).map
    fun name => Tree.property name negated

/-- The one-sided word boundary of a name. -/
def boundaryOfName? (name : Text) : Option Tree :=
  match String.ofList name with
  | "start" => some (.assertion .wordStart)
  | "end" => some (.assertion .wordEnd)
  | "start-half" => some (.assertion .wordStartHalf)
  | "end-half" => some (.assertion .wordEndHalf)
  | _ => none

/-- A name in braces behind the letter of a word boundary, from its first letter on. -/
def readBoundaryName (verbose : Bool) (t : Text) : Option (Tree × Text) :=
  match takeRun isBoundaryChar verbose t.length t with
  | (name, '}' :: rest) => (boundaryOfName? name).map fun tree => (tree, rest)
  | _ => none

/-- Behind a word boundary, what the brace begins is decided by the next character in sight. -/
theorem readWordBoundary_brace (verbose : Bool) (inside : Text) :
    readWordBoundary verbose ('{' :: inside) = onPeek (fun c text =>
      if isBoundaryChar c then readBoundaryName verbose text
      else some (.assertion .wordBoundary, '{' :: inside)) (tidy verbose inside) := by
  simp only [readWordBoundary]
  cases tidy verbose inside with
  | nil => rfl
  | cons c rest =>
      simp only [onPeek, readBoundaryName, takeBoundaryName_eq, List.length_cons]
      generalize takeRun isBoundaryChar verbose (rest.length + 1) (c :: rest) = run
      split
      · split
        · unfold boundaryOfName?
          split <;> simp [*]
        · simp
      · rfl

/-- Without a brace behind it a word boundary is the ordinary one. -/
theorem readWordBoundary_of_ne {verbose : Bool} {t : Text} (h : ∀ inside, t ≠ '{' :: inside) :
    readWordBoundary verbose t = some (.assertion .wordBoundary, t) := by
  unfold readWordBoundary
  split
  · next inside => exact absurd rfl (h inside)
  · rfl

/-- The name of a word boundary ends at its brace. -/
theorem steady_readBoundaryName (verbose : Bool) :
    Steady (readBoundaryName verbose) (readBoundaryName verbose) where
  suffix {t a x} h := by
    have hsuffix := takeRun_suffix isBoundaryChar verbose t.length t
    rw [readBoundaryName] at h
    split at h
    · next name rest hrun =>
        obtain ⟨tree, -, hx⟩ := Option.map_eq_some_iff.mp h
        obtain ⟨-, rfl⟩ := Prod.mk.inj hx
        rw [hrun] at hsuffix
        exact (List.suffix_cons '}' rest).trans hsuffix
    · exact absurd h (by simp)
  append {t a x u} h hbehind := by
    unfold readBoundaryName at h ⊢
    split at h
    · next name rest hrun =>
        obtain ⟨tree, htree, hx⟩ := Option.map_eq_some_iff.mp h
        obtain ⟨rfl, rfl⟩ := Prod.mk.inj hx
        obtain ⟨hname, htrails⟩ := @takeRun_append isBoundaryChar (by decide) verbose _ _ t u
          (Nat.le_refl _) (Nat.le_refl _) (.of_ne_nil u (by rw [hrun]; simp))
        rw [hrun] at hname htrails
        have hrun' : takeRun isBoundaryChar verbose (t ++ u).length (t ++ u) =
            (name, '}' :: (rest ++ u)) := Prod.ext hname (htrails.eq_append (by simp))
        rw [hrun']
        exact ⟨rest ++ u, by simp [htree], .inl rfl⟩
    · exact absurd h (by simp)

/-- The reader of word boundaries is steady, though it looks at a brace that it may leave unread.
-/
theorem steady_readWordBoundary (verbose : Bool) :
    Steady (readWordBoundary verbose) (readWordBoundary verbose) := by
  refine .of_both fun {t a x} h => ?_
  cases t with
  | nil =>
      obtain ⟨rfl, rfl⟩ := Prod.mk.inj (Option.some.inj h)
      refine ⟨List.suffix_refl _, fun u hbehind => ?_⟩
      rcases hbehind rfl with rfl | rfl
      · exact ⟨[], rfl, .inl rfl⟩
      · exact ⟨[')'], rfl, .inl rfl⟩
  | cons c inside =>
      by_cases hc : c = '{'
      · subst hc
        simp only [List.cons_append, readWordBoundary_brace] at h ⊢
        cases htidy : tidy verbose inside with
        | nil => exact absurd h (by simp [htidy, onPeek])
        | cons c rest =>
            have hsuffix := tidy_suffix verbose inside
            have happend : ∀ u, tidy verbose (inside ++ u) = c :: (rest ++ u) := fun u => by
              have htrails := @tidy_append verbose inside u (.of_ne_nil u (by rw [htidy]; simp))
              rw [htidy] at htrails
              exact htrails.eq_append (by simp)
            rw [htidy] at h hsuffix
            simp only [happend, onPeek] at h ⊢
            by_cases hletter : isBoundaryChar c = true
            · simp only [if_pos hletter] at h ⊢
              obtain ⟨hx, hread⟩ := (steady_readBoundaryName verbose).both h
              exact ⟨(hx.trans hsuffix).trans (List.suffix_cons _ _), hread⟩
            · simp only [if_neg hletter] at h ⊢
              obtain ⟨rfl, rfl⟩ := Prod.mk.inj (Option.some.inj h)
              exact ⟨List.suffix_refl _, fun u _ => ⟨_, rfl, .inl rfl⟩⟩
      · have hne : ∀ rest inside, c :: rest ≠ '{' :: inside := fun _ _ heq =>
          hc (List.cons.inj heq).1
        simp only [List.cons_append, readWordBoundary_of_ne (hne _)] at h ⊢
        obtain ⟨rfl, rfl⟩ := Prod.mk.inj (Option.some.inj h)
        exact ⟨List.suffix_refl _, fun u _ => ⟨_, rfl, .inl rfl⟩⟩

/-- **The reader of escapes is steady**, by the readers of each kind of them. -/
theorem steady_readEscape (verbose : Bool) :
    Steady (readEscape false verbose) (readEscape false verbose) := by
  have heq : readEscape false verbose = onHead fun c rest =>
      readEscape false verbose (c :: rest) := by
    funext t
    cases t <;> rfl
  rw [heq]
  refine .head fun c => .of_both fun {t a x} h => ?_
  unfold readEscape at h
  dsimp only at h
  split at h
  · exact absurd h (by simp)
  · next hoctal =>
      split at h
      · next hescapable =>
          have hread : ∀ rest, readEscape false verbose (c :: rest) =
              some (verbatim c, rest) := fun rest => by
            unfold readEscape
            exact (if_neg hoctal).trans (if_pos hescapable)
          simp only [hread]
          exact (Steady.pure _).both h
      · -- The letter is known now, and each stands for a reader of its own.
        split at h
        all_goals first
          | cases h; done
          | exact (Steady.pure _).both h
          | exact ((steady_readHex verbose _).map Tree.literal).both h
          | exact (steady_readProperty verbose _).both h
          | exact (steady_readWordBoundary verbose).both h

/-! ### Repetitions -/

/-- A question mark is read if it is there, and a closing parenthesis is none. -/
theorem steady_readLazy :
    Steady (fun t => some (readLazy t)) fun t => some (readLazy t) := by
  have heq : (fun t => some (readLazy t)) = ifHead '?' (fun t => some (false, t)) true := by
    funext t
    unfold readLazy
    split
    · rfl
    · next hne =>
        cases t with
        | nil => rfl
        | cons c rest =>
            have hc : c ≠ '?' := fun h => hne rest (by rw [h])
            rw [ifHead, if_neg hc]
  rw [heq]
  exact (Steady.pure false).ifHead (by decide) true

/-- The second bound of a counted repetition behind the first. -/
def readUpper (verbose : Bool) (lo : Nat) : Text → Option (Option Nat × Text) :=
  ifHead ',' (fun t => onPeek (fun c =>
    if c = '}' then fun t => some (none, t)
    else fun t => (readCount verbose t).map fun p => (some p.1, p.2)) (tidy verbose t)) (some lo)

/-- The end of a counted repetition: the closing brace and whether it is lazy. -/
def readCountsEnd (verbose : Bool) (lo : Nat) (hi : Option Nat) :
    Text → Option ((Nat × Option Nat × Bool) × Text) :=
  onHead fun c rest => if c = '}' then
    if hi.all (lo ≤ ·) then
      (some (readLazy (tidy verbose rest))).map fun p => ((lo, hi, p.1), p.2)
    else none
  else none

/-- The end of a counted repetition as a reader that looks at one character. -/
theorem readCountsEnd_eq (verbose : Bool) (lo : Nat) (hi : Option Nat) (t : Text) :
    (match t with
      | '}' :: rest =>
        if hi.all (lo ≤ ·) then
          some (lo, hi, (readLazy (tidy verbose rest)).1, (readLazy (tidy verbose rest)).2)
        else none
      | _ => none) =
      (readCountsEnd verbose lo hi t).map fun r => (r.1.1, r.1.2.1, r.1.2.2, r.2) := by
  rw [readCountsEnd]
  split
  · rw [onHead, if_pos rfl]
    split <;> rfl
  · next hne =>
      cases t with
      | nil => rfl
      | cons c rest =>
          have hc : c ≠ '}' := fun h => hne rest (by rw [h])
          rw [onHead, if_neg hc]
          rfl

/-- A counted repetition as a composition: the lower bound, the upper bound, the end. -/
theorem readCounts_eq (verbose : Bool) (t : Text) :
    readCounts verbose t = ((readCount verbose (tidy verbose t)).bind fun p =>
      (readUpper verbose p.1 p.2).bind fun q => readCountsEnd verbose p.1 q.1 q.2).map fun r =>
        (r.1.1, r.1.2.1, r.1.2.2, r.2) := by
  unfold readCounts readUpper
  cases readCount verbose (tidy verbose t) with
  | none => rfl
  | some p =>
      obtain ⟨lo, rest⟩ := p
      simp only [Option.bind_eq_bind, Option.bind_some, Option.pure_def]
      split
      · next rest =>
          rw [ifHead, if_pos rfl]
          split
          · next h => rw [h, onPeek]; rfl
          · next rest' h =>
              rw [h, onPeek, if_pos rfl]
              exact readCountsEnd_eq verbose lo none ('}' :: rest')
          · next hnil hbrace =>
              cases htidy : tidy verbose rest with
              | nil => exact absurd htidy hnil
              | cons c rest' =>
                  have hc : c ≠ '}' := fun h => hbrace rest' (by rw [htidy, h])
                  rw [onPeek, if_neg hc]
                  cases readCount verbose (c :: rest') with
                  | none => rfl
                  | some q => exact readCountsEnd_eq verbose lo (some q.1) q.2
      · next hne =>
          cases rest with
          | nil => rfl
          | cons c rest =>
              have hc : c ≠ ',' := fun h => hne rest (by rw [h])
              rw [ifHead, if_neg hc]
              exact readCountsEnd_eq verbose lo (some lo) (c :: rest)

/-- **The reader of counted repetitions is steady.** -/
theorem steady_readCounts (verbose : Bool) :
    Steady (fun t => (readCounts verbose t).map fun r => ((r.1, r.2.1, r.2.2.1), r.2.2.2))
      fun t => (readCounts verbose t).map fun r => ((r.1, r.2.1, r.2.2.1), r.2.2.2) := by
  have heq : (fun t => (readCounts verbose t).map fun r => ((r.1, r.2.1, r.2.2.1), r.2.2.2)) =
      fun t => (readCount verbose (tidy verbose t)).bind fun p =>
        (readUpper verbose p.1 p.2).bind fun q => readCountsEnd verbose p.1 q.1 q.2 := by
    funext t
    rw [readCounts_eq, Option.map_map]
    exact Option.map_id'
  rw [heq]
  have hupper : ∀ lo, Steady (readUpper verbose lo) (readUpper verbose lo) := fun lo => by
    refine .ifHead (by decide) (.tidy verbose (.peek fun c => ?_)) _
    split
    · exact .pure none
    · exact (steady_readCount verbose).map some
  have hend : ∀ lo hi, Steady (readCountsEnd verbose lo hi) (readCountsEnd verbose lo hi) :=
    fun lo hi => .head fun c => .ite (fun _ => .ite (fun _ =>
      (steady_readLazy.tidy verbose).map fun greedy => (lo, hi, greedy)) fun _ => .fail)
      fun _ => .fail
  exact ((steady_readCount verbose).tidy verbose).bind fun lo =>
    (hupper lo).bind fun hi => hend lo hi

/-! ### Groups -/

/-- Flags are read the same with any text behind. -/
theorem readFlags_append {change change' : FlagChange} {negating dangling : Bool} {t x : Text}
    {c : Char} (h : readFlags change negating dangling t = some (change', c, x)) :
    x <:+ t ∧ ∀ u, readFlags change negating dangling (t ++ u) = some (change', c, x ++ u) := by
  induction t generalizing change negating dangling with
  | nil => exact absurd h (by simp [readFlags])
  | cons d rest ih =>
      simp only [List.cons_append, readFlags] at h ⊢
      by_cases hend : d = ':' ∨ d = ')'
      · simp only [if_pos hend] at h ⊢
        split at h
        · exact absurd h (by simp)
        · obtain ⟨rfl, rfl, rfl⟩ : change.reverse = change' ∧ d = c ∧ rest = x := by simpa using h
          simp_all [List.suffix_cons]
      · simp only [if_neg hend] at h ⊢
        have hcons : ∀ {change negating dangling},
            readFlags change negating dangling rest = some (change', c, x) →
            x <:+ d :: rest ∧
              ∀ u, readFlags change negating dangling (rest ++ u) = some (change', c, x ++ u) :=
          fun h => ⟨(ih h).1.trans (List.suffix_cons d rest), (ih h).2⟩
        split at h
        · next hminus =>
            split at h
            · exact absurd h (by simp)
            · next hnegating =>
                simp only [if_pos hminus, if_neg hnegating]
                exact hcons h
        · next hminus =>
            split at h
            · exact absurd h (by simp)
            · next flag hflag =>
                split at h
                · exact absurd h (by simp)
                · next hnew =>
                    simp only [if_neg hminus, if_neg hnew]
                    exact hcons h

/-- A text up to a character is the same with any text behind. -/
theorem takeWhile_append_of_drop {p : Char → Bool} {t rest : Text} {c : Char}
    (h : t.drop (t.takeWhile p).length = c :: rest) :
    c :: rest <:+ t ∧ p c = false ∧ ∀ u, (t ++ u).takeWhile p = t.takeWhile p ∧
      (t ++ u).drop (t.takeWhile p).length = c :: (rest ++ u) := by
  refine ⟨h ▸ List.drop_suffix _ _, ?_⟩
  induction t with
  | nil => exact absurd h (by simp)
  | cons d t ih =>
      simp only [List.cons_append, List.takeWhile_cons] at h ⊢
      cases hd : p d with
      | true =>
          simp only [hd, if_true, List.length_cons, List.drop_succ_cons] at h ⊢
          obtain ⟨hend, happend⟩ := ih h
          exact ⟨hend, fun u => ⟨by rw [(happend u).1], (happend u).2⟩⟩
      | false =>
          simp only [hd, Bool.false_eq_true, if_false, List.length_nil, List.drop_zero] at h ⊢
          obtain ⟨rfl, rfl⟩ := List.cons.inj h
          exact ⟨hd, fun u => ⟨trivial, rfl⟩⟩

/-- The name of a group ends at its bracket. -/
theorem steady_readGroupName : Steady readGroupName readGroupName := by
  refine .of_both fun {t a x} h => ?_
  unfold readGroupName at h
  dsimp only at h
  split at h
  · next rest hrest =>
      split at h
      · next hname =>
          obtain ⟨rfl, rfl⟩ := Prod.mk.inj (Option.some.inj h)
          obtain ⟨hsuffix, -, happend⟩ := takeWhile_append_of_drop hrest
          refine ⟨(List.suffix_cons _ _).trans hsuffix, fun u _ => ⟨rest ++ u, ?_, .inl rfl⟩⟩
          obtain ⟨htake, hdrop⟩ := happend u
          rw [readGroupName]
          simp only [htake, hdrop, hname, if_true]
      · exact absurd h (by simp)
  · exact absurd h (by simp)

/-- The flags of a group, for its content or for the rest of the enclosing group. -/
def readFlagGroup (t : Text) : Option (Opening × Text) :=
  match readFlags [] false false t with
  | some (change, ':', rest) => some (.scope change, rest)
  | some (change, _, rest) => if change.isEmpty then none else some (.switch change, rest)
  | none => none

/-- What follows a question mark behind an opening parenthesis. -/
def readMark : Text → Option (Opening × Text) :=
  onPeek fun c =>
    if c = '=' ∨ c = '!' then fun _ => none
    else if c = '<' then onHead fun _ => onPeek fun d =>
      if d = '=' ∨ d = '!' then fun _ => none else readGroupName
    else if c = 'P' then onHead fun _ => onHead fun d =>
      if d = '<' then readGroupName else fun _ => none
    else readFlagGroup

/-- The flags of a group end at a colon or a closing parenthesis that is among them. -/
theorem steady_readFlagGroup : Steady readFlagGroup readFlagGroup := by
  refine .of_both fun {t a x} h => ?_
  unfold readFlagGroup at h ⊢
  split at h
  · next change rest hflags =>
      obtain ⟨hsuffix, happend⟩ := readFlags_append hflags
      simp only [happend]
      exact (Steady.pure (Opening.scope change)).both h |>.imp_left fun hx => hx.trans hsuffix
  · next change c rest hc hflags =>
      obtain ⟨hsuffix, happend⟩ := readFlags_append hflags
      split at h
      · exact absurd h (by simp)
      · next hempty =>
          obtain ⟨rfl, rfl⟩ := Prod.mk.inj (Option.some.inj h)
          refine ⟨hsuffix, fun u _ => ⟨rest ++ u, ?_, .inl rfl⟩⟩
          rw [happend]
          split
          · next heq => simp_all
          · next heq => simp_all
          · next heq => simp_all
  · exact absurd h (by simp)

/-- Behind a question mark stands a name or flags. -/
theorem steady_readMark : Steady readMark readMark := by
  refine .peek fun c => ?_
  split
  · exact .fail
  · split
    · refine .head fun _ => .peek fun d => ?_
      split
      · exact .fail
      · exact steady_readGroupName
    · split
      · refine .head fun _ => .head fun d => ?_
        split
        · exact steady_readGroupName
        · exact .fail
      · exact steady_readFlagGroup

/-- An opening parenthesis as a reader that looks for a question mark. -/
theorem readOpening_eq (verbose : Bool) (t : Text) :
    readOpening verbose t = ifHead '?' readMark (.capture none) (tidy verbose t) := by
  rw [readOpening]
  cases tidy verbose t with
  | nil => rfl
  | cons c rest =>
      by_cases hc : c = '?'
      · subst hc
        rw [ifHead, if_pos rfl]
        cases rest with
        | nil => rfl
        | cons d rest =>
            rw [readMark, onPeek]
            by_cases hlook : d = '=' ∨ d = '!'
            · rw [if_pos hlook]
              rcases hlook with rfl | rfl <;> rfl
            · rw [if_neg hlook]
              by_cases hname : d = '<'
              · subst hname
                rw [if_pos rfl, onHead]
                cases rest with
                | nil => rfl
                | cons e rest =>
                    rw [onPeek]
                    by_cases hlook' : e = '=' ∨ e = '!'
                    · rw [if_pos hlook']
                      rcases hlook' with rfl | rfl <;> rfl
                    · rw [if_neg hlook']
                      rw [not_or] at hlook'
                      simp [hlook'.1, hlook'.2]
              · rw [if_neg hname]
                by_cases hnamed : d = 'P'
                · subst hnamed
                  rw [if_pos rfl, onHead]
                  cases rest with
                  | nil => rfl
                  | cons e rest =>
                      rw [onHead]
                      by_cases hname' : e = '<'
                      · subst hname'
                        rfl
                      · rw [if_neg hname']
                        simp [hname', readFlags, Flag.ofChar?]
                · rw [if_neg hnamed]
                  rw [not_or] at hlook
                  simp only [List.cons.injEq, hlook.1, hlook.2, hname, hnamed, false_and,
                    imp_self, implies_true]
                  rfl
      · rw [ifHead, if_neg hc]
        split <;> simp_all

/-- **The reader of opening parentheses is steady.** -/
theorem steady_readOpening (verbose : Bool) :
    Steady (readOpening verbose) (readOpening verbose) := by
  have heq : readOpening verbose = fun t =>
      ifHead '?' readMark (.capture none) (tidy verbose t) := funext (readOpening_eq verbose)
  rw [heq]
  exact (steady_readMark.ifHead (by decide) _).tidy verbose

end ModalLex.Regex
