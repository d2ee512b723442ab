import ModalLex.Proofs.Regex.Reading

/-!
# Reading Classes

The readers of bracketed classes are steady. Three of them look further than they read. Whether a
hyphen makes a range is decided by the next **visible** character, which is there whenever the
class goes on. Whether two characters are an operator is decided by the second, and a member of a
class never stands at its end. And a named class is tried first and given up if its name is not
closed; a text behind could only close it if the name held a bracket, and no name does.

## Main results

* `steady_readClass`: **a class is read the same, whatever stands behind it.**
-/

namespace ModalLex.Regex

/-! ### Members and ranges -/

/-- A member of a class is an escape or a single character, and both readers are steady. -/
theorem steady_readClassAtom (verbose : Bool) :
    Steady (readClassAtom false verbose) (readClassAtom false verbose) := by
  have heq : readClassAtom false verbose = onHead fun c rest =>
      if c = '\\' then readEscape false verbose rest else some (verbatim c, rest) := by
    funext t
    cases t with
    | nil => rfl
    | cons c rest =>
        by_cases hc : c = '\\'
        · subst hc
          rfl
        · simp [readClassAtom, onHead, hc]
  rw [heq]
  exact .head fun c => .ite (fun _ => steady_readEscape verbose) fun _ => .pure (verbatim c)

/-- What is in sight stays in sight with a text behind. -/
theorem peekVisible_append {inComment : Bool} {t : Text} {c : Char}
    (h : peekVisible inComment t = some c) (u : Text) :
    peekVisible inComment (t ++ u) = some c := by
  induction t generalizing inComment with
  | nil => exact absurd h (by simp [peekVisible])
  | cons d rest ih =>
      rw [List.cons_append, peekVisible]
      rw [peekVisible] at h
      split
      · next hspace =>
          rw [if_pos hspace] at h
          exact ih h
      · next hspace =>
          rw [if_neg hspace] at h
          split
          · next hhash =>
              rw [if_pos hhash] at h
              exact ih h
          · next hhash =>
              rw [if_neg hhash] at h
              exact h

/-- What is left behind blanks and comments can be seen, also from inside of a comment. -/
theorem exists_peekVisible_true {inComment : Bool} {t : Text} (h : skipBlanks inComment t ≠ []) :
    ∃ c, peekVisible true t = some c := by
  induction t generalizing inComment with
  | nil => exact absurd (by simp [skipBlanks]) h
  | cons d rest ih =>
      rw [peekVisible]
      split
      · next hspace =>
          cases inComment with
          | true =>
              rw [skipBlanks] at h
              exact ih h
          | false =>
              rw [skipBlanks, if_pos hspace] at h
              exact ih h
      · exact ⟨d, by simp⟩

/-- Where something is left behind blanks and comments, something is in sight. -/
theorem exists_peekVisible {t : Text} (h : skipBlanks false t ≠ []) :
    ∃ c, peekVisible false t = some c := by
  induction t with
  | nil => exact absurd (by simp [skipBlanks]) h
  | cons d rest ih =>
      rw [skipBlanks] at h
      rw [peekVisible]
      split
      · next hspace =>
          rw [if_pos hspace] at h
          exact ih h
      · next hspace =>
          rw [if_neg hspace] at h
          by_cases hhash : d = '#'
          · rw [if_pos hhash] at h
            rw [if_pos (by simp [hhash])]
            exact exists_peekVisible_true h
          · exact ⟨d, by simp [hhash]⟩

/-- The decision about a hyphen does not depend on what stands behind, if something visible
does. -/
theorem peekBehindHyphen_append {verbose : Bool} {t : Text} (h : tidy verbose t ≠ []) (u : Text) :
    peekBehindHyphen verbose (t ++ u) = peekBehindHyphen verbose t := by
  unfold peekBehindHyphen
  cases verbose with
  | true =>
      obtain ⟨c, hc⟩ := exists_peekVisible h
      simp only [if_true]
      rw [hc, peekVisible_append hc]
      rfl
  | false =>
      cases t with
      | nil => exact absurd rfl h
      | cons c rest => rfl

/-- A character that makes a hyphen stand for itself is seen with any text behind. -/
theorem peekBehindHyphen_append_of_mark {verbose : Bool} {t : Text}
    (h : peekBehindHyphen verbose t = some ']' ∨ peekBehindHyphen verbose t = some '-')
    (u : Text) : peekBehindHyphen verbose (t ++ u) = peekBehindHyphen verbose t := by
  cases t with
  | nil =>
      have hnone : peekBehindHyphen verbose [] = none := by cases verbose <;> rfl
      rw [hnone] at h
      simp at h
  | cons d rest =>
      unfold peekBehindHyphen at h ⊢
      cases verbose with
      | false => rfl
      | true =>
          simp only [if_true] at h ⊢
          cases hvisible : peekVisible false (d :: rest) with
          | some c =>
              rw [peekVisible_append hvisible]
              rfl
          | none =>
              -- Both marks are visible, so nothing invisible can be taken for them.
              rw [hvisible, Option.none_or, List.head?_cons] at h
              rcases h with h | h
              all_goals
                obtain rfl := Option.some.inj h
                rw [peekVisible, if_neg (by decide), if_neg (by decide)] at hvisible
                exact absurd hvisible (by simp)

/-- The range between two trees, if they can be its ends. -/
def rangeOf? (first last : Tree) : Option ClassItem := do
  let lo ← first.toLiteral?
  let hi ← last.toLiteral?
  if lo.char ≤ hi.char then some (.range lo hi) else none

/-- What follows a member of a class where the next character is a hyphen: the end of a range, or
nothing that belongs to the member. -/
def readRangeEnd (verbose : Bool) (first : Tree) : Text → Option (ClassItem × Text)
  | [] => none
  | c :: behind =>
    if peekBehindHyphen verbose behind = some ']' ∨ peekBehindHyphen verbose behind = some '-' then
      first.toClassItem?.map fun item => (item, c :: behind)
    else (readClassAtom false verbose (tidy verbose behind)).bind fun p =>
      (rangeOf? first p.1).map fun item => (item, p.2)

/-- A member of a class as a reader that looks for a hyphen behind it. -/
theorem readClassRange_eq (verbose : Bool) (t : Text) :
    readClassRange false verbose t = (readClassAtom false verbose t).bind fun p =>
      onPeek (fun c => if c = '-' then readRangeEnd verbose p.1
        else fun t => p.1.toClassItem?.map fun item => (item, t)) (tidy verbose p.2) := by
  rw [readClassRange]
  cases readClassAtom false verbose t with
  | none => rfl
  | some p =>
      obtain ⟨first, rest⟩ := p
      simp only [Option.bind_eq_bind, Option.bind_some]
      cases tidy verbose rest with
      | nil => rfl
      | cons c rest =>
          by_cases hc : c = '-'
          · subst hc
            rw [onPeek, if_pos rfl, readRangeEnd]
            by_cases hmark : peekBehindHyphen verbose rest = some ']' ∨
                peekBehindHyphen verbose rest = some '-'
            · simp only [if_pos hmark]
              cases first.toClassItem? <;> rfl
            · simp only [if_neg hmark]
              cases readClassAtom false verbose (tidy verbose rest) with
              | none => rfl
              | some q =>
                  simp only [Option.bind_some, rangeOf?]
                  cases first.toLiteral? with
                  | none => rfl
                  | some lo =>
                      cases q.1.toLiteral? with
                      | none => rfl
                      | some hi =>
                          simp only [Option.bind_eq_bind, Option.bind_some]
                          split <;> rfl
          · rw [onPeek, if_neg hc]
            split
            · next h => exact absurd h (by simp)
            · next h => exact absurd (List.cons.inj h).1 hc
            · cases first.toClassItem? <;> rfl

/-- The end of a range is read the same, whatever stands behind it. -/
theorem steady_readRangeEnd (verbose : Bool) (first : Tree) :
    Steady (readRangeEnd verbose first) (readRangeEnd verbose first) := by
  refine .of_both fun {t a x} h => ?_
  cases t with
  | nil => exact absurd h (by simp [readRangeEnd])
  | cons c behind =>
      simp only [readRangeEnd, List.cons_append] at h ⊢
      by_cases hmark : peekBehindHyphen verbose behind = some ']' ∨
          peekBehindHyphen verbose behind = some '-'
      · simp only [if_pos hmark, peekBehindHyphen_append_of_mark hmark] at h ⊢
        obtain ⟨item, hitem, hx⟩ := Option.map_eq_some_iff.mp h
        obtain ⟨rfl, rfl⟩ := Prod.mk.inj hx
        exact ⟨List.suffix_refl _, fun u _ => ⟨c :: behind ++ u, by simp [hitem], .inl rfl⟩⟩
      · rw [if_neg hmark] at h
        have hvisible : tidy verbose behind ≠ [] := fun hnil => by
          rw [hnil] at h
          exact absurd h (by simp [readClassAtom])
        simp only [peekBehindHyphen_append hvisible, if_neg hmark]
        obtain ⟨hsuffix, happend⟩ :=
          (((steady_readClassAtom verbose).tidy verbose).filterMap (rangeOf? first)).both h
        exact ⟨hsuffix.trans (List.suffix_cons c behind), happend⟩

/-- **The reader of members and ranges is steady**, though it looks behind a hyphen: where nothing
is in sight there, it refuses. -/
theorem steady_readClassRange (verbose : Bool) :
    Steady (readClassRange false verbose) (readClassRange false verbose) := by
  have htail : ∀ first : Tree,
      Steady (fun t => onPeek (fun c => if c = '-' then readRangeEnd verbose first
          else fun t => first.toClassItem?.map fun item => (item, t)) (tidy verbose t))
        fun t => onPeek (fun c => if c = '-' then readRangeEnd verbose first
          else fun t => first.toClassItem?.map fun item => (item, t)) (tidy verbose t) := by
    refine fun first => .tidy verbose (.peek fun c => ?_)
    split
    · exact steady_readRangeEnd verbose first
    · cases first.toClassItem? with
      | none => exact .fail
      | some item => exact .pure item
  rw [funext (readClassRange_eq verbose)]
  exact (steady_readClassAtom verbose).bind htail

/-- A member of a class never stands at its end. -/
theorem length_of_readClassRange {verbose : Bool} {t : Text} {item : ClassItem} {x : Text}
    (h : readClassRange false verbose t = some (item, x)) : ∃ c d rest, t = c :: d :: rest := by
  match t, h with
  | [], h => exact absurd h (by simp [readClassRange, readClassAtom])
  | [c], h =>
      rw [readClassRange_eq] at h
      have hnil : tidy verbose [] = [] := List.suffix_nil.mp (tidy_suffix verbose [])
      by_cases hc : c = '\\'
      · subst hc
        exact absurd h (by simp [readClassAtom, readEscape])
      · exact absurd h (by simp [readClassAtom, hnil, onPeek])
  | c :: d :: rest, _ => exact ⟨c, d, rest, rfl⟩

/-! ### Named classes -/

/-- No named class has a bracket in its name. -/
theorem ofName?_eq_none_of_mem {name : Text} (h : ']' ∈ name) :
    AsciiClass.ofName? name = none := by
  rw [AsciiClass.ofName?]
  split
  -- Each of the names is spelled out now.
  all_goals first
    | rfl
    | next heq =>
        have hlist := congrArg String.toList heq
        rw [String.toList_ofList] at hlist
        rw [hlist] at h
        exact absurd h (by decide)

/-- A name of a class and its end, behind the colon and a perhaps a mark of negation. -/
def readClassName (negated : Bool) (t : Text) : Option (ClassItem × Text) :=
  match t.drop (t.takeWhile (· != ':')).length with
  | ':' :: ']' :: rest =>
    (AsciiClass.ofName? (t.takeWhile (· != ':'))).map fun kind => (.ascii kind negated, rest)
  | _ => none

/-- What the first characters of a class inside of a class tell: too little, that there may be a
name behind them, or that there is none. -/
theorem readAsciiClass?_cases (t : Text) :
    (t = [] ∨ t = [':']) ∨
      (∃ negated rest, rest <:+ t ∧ (']' ∈ t → ']' ∈ rest) ∧
        ∀ u, readAsciiClass? (t ++ u) = readClassName negated (rest ++ u)) ∨
      ∀ u, readAsciiClass? (t ++ u) = none := by
  match t with
  | [] => exact .inl (.inl rfl)
  | c :: rest =>
      by_cases hc : c = ':'
      · subst hc
        match rest with
        | [] => exact .inl (.inr rfl)
        | d :: rest =>
            right
            left
            by_cases hd : d = '^'
            · subst hd
              refine ⟨true, rest, ⟨[':', '^'], rfl⟩, by simp, fun u => ?_⟩
              simp only [List.cons_append, readAsciiClass?]
              rfl
            · refine ⟨false, d :: rest, ⟨[':'], rfl⟩, by simp, fun u => ?_⟩
              simp [readAsciiClass?, hd]
              rfl
      · refine .inr (.inr fun u => ?_)
        simp [readAsciiClass?, hc]

/-- A named class ends at its bracket, so nothing behind matters. -/
theorem readClassName_append {negated : Bool} {t x : Text} {item : ClassItem}
    (h : readClassName negated t = some (item, x)) :
    x <:+ t ∧ ∀ u, readClassName negated (t ++ u) = some (item, x ++ u) := by
  rw [readClassName] at h
  split at h
  · next rest hrest =>
      obtain ⟨kind, hkind, hx⟩ := Option.map_eq_some_iff.mp h
      obtain ⟨rfl, rfl⟩ := Prod.mk.inj hx
      obtain ⟨hsuffix, -, happend⟩ := takeWhile_append_of_drop hrest
      refine ⟨((List.suffix_cons _ _).trans (List.suffix_cons _ _)).trans hsuffix, fun u => ?_⟩
      obtain ⟨htake, hdrop⟩ := happend u
      rw [readClassName]
      simp only [htake, hdrop, hkind, List.cons_append, Option.map_some]
  · exact absurd h (by simp)

/-- A name that is not closed before a bracket is not closed by what stands behind. -/
theorem readClassName_eq_none_append {negated : Bool} {t : Text} (hmem : ']' ∈ t)
    (h : readClassName negated t = none) (u : Text) : readClassName negated (t ++ u) = none := by
  rw [readClassName] at h ⊢
  cases hdrop : t.drop (t.takeWhile (· != ':')).length with
  | nil =>
      have hall : t.takeWhile (· != ':') = t :=
        (List.takeWhile_prefix _).eq_of_length_le (List.drop_eq_nil_iff.mp hdrop)
      have hname : ']' ∈ (t ++ u).takeWhile (· != ':') := by
        rw [List.takeWhile_append, if_pos (by rw [hall])]
        exact List.mem_append_left _ hmem
      rw [ofName?_eq_none_of_mem hname]
      split <;> rfl
  | cons c rest =>
      obtain ⟨-, hend, happend⟩ := takeWhile_append_of_drop hdrop
      obtain ⟨htake, hdrop'⟩ := happend u
      rw [hdrop] at h
      rw [htake, hdrop']
      cases rest with
      | nil =>
          -- The bracket can only be in the name, so the name is none.
          have hname : ']' ∈ t.takeWhile (· != ':') := by
            rw [← List.take_append_drop (t.takeWhile (· != ':')).length t, hdrop,
              ← List.prefix_iff_eq_take.mp (List.takeWhile_prefix _)] at hmem
            refine (List.mem_append.mp hmem).resolve_right fun hlast => ?_
            obtain rfl := List.mem_singleton.mp hlast
            exact absurd hend (by decide)
          rw [ofName?_eq_none_of_mem hname]
          split <;> rfl
      | cons d rest =>
          split at h
          · next heq => 
              obtain ⟨rfl, hrest⟩ := List.cons.inj heq
              obtain ⟨rfl, rfl⟩ := List.cons.inj hrest
              rw [Option.map_eq_none_iff.mp h]
              rfl
          · next hne =>
              split
              · next heq =>
                obtain ⟨rfl, hrest⟩ := List.cons.inj heq
                obtain ⟨rfl, -⟩ := List.cons.inj hrest
                exact absurd rfl (hne rest)
              · rfl

/-! ### The start of a class -/

/-- Hyphens at the start are a run of literals. -/
theorem readHyphens_eq (verbose : Bool) (fuel : Nat) (items : List ClassItem) (t : Text) :
    readHyphens verbose fuel items t =
      (List.replicate (takeRun (· == '-') verbose fuel t).1.length (.literal ⟨'-', false⟩) ++ items,
        (takeRun (· == '-') verbose fuel t).2) := by
  induction fuel generalizing items t with
  | zero => rfl
  | succ fuel ih =>
      cases t with
      | nil => rfl
      | cons c rest =>
          by_cases hc : c = '-'
          · subst hc
            rw [readHyphens, ih, takeRun]
            simp only [beq_self_eq_true, if_true, List.length_cons]
            rw [List.replicate_succ', List.append_assoc]
            rfl
          · have hbeq : (c == '-') = false := by simpa using hc
            simp [readHyphens, takeRun, hbeq, hc]

/-- The hyphens at the start of a class, as a reader. -/
theorem steady_readHyphens (verbose : Bool) :
    Steady (fun t => some (readHyphens verbose t.length [] t))
      fun t => some (readHyphens verbose t.length [] t) := by
  refine .of_both fun {t a x} h => ?_
  simp only [readHyphens_eq, Option.some.injEq, Prod.mk.injEq] at h ⊢
  obtain ⟨rfl, rfl⟩ := h
  refine ⟨takeRun_suffix .., fun u hbehind => ⟨_, ⟨?_, rfl⟩, ?_⟩⟩
  · obtain ⟨hrun, -⟩ := @takeRun_append (· == '-') (by decide) verbose _ _ t u (Nat.le_refl _)
      (Nat.le_refl _) hbehind
    rw [hrun]
  · exact (@takeRun_append (· == '-') (by decide) verbose _ _ t u (Nat.le_refl _)
      (Nat.le_refl _) hbehind).2

/-- The first members of a class, behind a mark of negation. -/
def readFirstItems (verbose : Bool) (t : Text) : Option (List ClassItem × Text) :=
  (some (readHyphens verbose t.length [] t)).bind fun p =>
    onPeek (fun c => if c = ']' ∧ p.1 = [] then onHead fun _ rest =>
        some ([.literal ⟨']', false⟩], tidy verbose rest)
      else fun t => some (p.1, t)) p.2

/-- The reader of the first members is steady. -/
theorem steady_readFirstItems (verbose : Bool) :
    Steady (readFirstItems verbose) (readFirstItems verbose) := by
  have hitems : ∀ items : List ClassItem,
      Steady (onPeek fun c => if c = ']' ∧ items = [] then onHead fun _ rest =>
          some ([ClassItem.literal ⟨']', false⟩], tidy verbose rest)
        else fun t => some (items, t))
      (onPeek fun c => if c = ']' ∧ items = [] then onHead fun _ rest =>
          some ([ClassItem.literal ⟨']', false⟩], tidy verbose rest)
        else fun t => some (items, t)) := by
    refine fun items => .peek fun c => ?_
    split
    · exact .head fun _ => (Steady.pure _).tidy verbose
    · exact .pure items
  exact (steady_readHyphens verbose).bind hitems

/-- The first members as a reader that looks for a closing bracket. -/
theorem readFirstItems_eq (verbose negated : Bool) (items : List ClassItem) (t : Text) :
    (match items, t with
      | _, [] => none
      | [], ']' :: rest => some (negated, [ClassItem.literal ⟨']', false⟩], tidy verbose rest)
      | items, t => some (negated, items, t)) =
      (onPeek (fun c => if c = ']' ∧ items = [] then onHead fun _ rest =>
          some ([ClassItem.literal ⟨']', false⟩], tidy verbose rest)
        else fun t => some (items, t)) t).map fun q => (negated, q.1, q.2) := by
  cases t with
  | nil => cases items <;> rfl
  | cons c rest =>
      rw [onPeek]
      cases items with
      | cons item items => simp
      | nil =>
          by_cases hc : c = ']'
          · subst hc
            rfl
          · simp [hc]

/-- The start of a class as a composition: the mark of negation, then the first members. -/
theorem readClassOpen_eq (verbose : Bool) (t : Text) :
    readClassOpen verbose t =
      ((ifHead '^' (fun t => some (true, tidy verbose t)) false (tidy verbose t)).bind fun p =>
        (readFirstItems verbose p.2).map fun q => ((p.1, q.1), q.2)).map fun r =>
          (r.1.1, r.1.2, r.2) := by
  have hfirst : ∀ negated t,
      (match (readHyphens verbose t.length [] t).1, (readHyphens verbose t.length [] t).2 with
        | _, [] => none
        | [], ']' :: rest => some (negated, [ClassItem.literal ⟨']', false⟩], tidy verbose rest)
        | items, t => some (negated, items, t)) =
      (readFirstItems verbose t).map fun q => (negated, q.1, q.2) :=
    fun negated t => readFirstItems_eq verbose negated _ _
  rw [readClassOpen]
  cases tidy verbose t with
  | nil => rfl
  | cons c rest =>
      by_cases hc : c = '^'
      · subst hc
        rw [ifHead, if_pos rfl, Option.bind_some, Option.map_map]
        exact hfirst true (tidy verbose rest)
      · rw [ifHead, if_neg hc, Option.bind_some, Option.map_map]
        simp only [List.cons.injEq, hc, false_and, imp_self, implies_true]
        exact hfirst false (c :: rest)

/-- **The reader of the start of a class is steady.** -/
theorem steady_readClassOpen (verbose : Bool) :
    Steady (fun t => (readClassOpen verbose t).map fun r => ((r.1, r.2.1), r.2.2))
      fun t => (readClassOpen verbose t).map fun r => ((r.1, r.2.1), r.2.2) := by
  have heq : (fun t => (readClassOpen verbose t).map fun r => ((r.1, r.2.1), r.2.2)) =
      fun t => (ifHead '^' (fun t => some (true, tidy verbose t)) false (tidy verbose t)).bind
        fun p => (readFirstItems verbose p.2).map fun q => ((p.1, q.1), q.2) := by
    funext t
    rw [readClassOpen_eq, Option.map_map]
    exact Option.map_id'
  rw [heq]
  have hcaret : '^' ≠ ')' := by decide
  exact ((((Steady.pure true).tidy verbose).ifHead hcaret false).tidy verbose).bind fun negated =>
    (steady_readFirstItems verbose).map fun items => (negated, items)

/-! ### The members of a class -/

/-- The operator of two characters. -/
def operatorOf? (c d : Char) : Option SetOp :=
  if c = '&' ∧ d = '&' then some .inter
  else if c = '-' ∧ d = '-' then some .diff
  else if c = '~' ∧ d = '~' then some .symmDiff
  else none

/-- The operator that a text begins with, and what stands behind it. -/
def operator? : Text → Option (SetOp × Text)
  | c :: d :: rest => (operatorOf? c d).map fun op => (op, rest)
  | _ => none

/-- An operator is two characters, so nothing behind matters. -/
theorem operator?_some {t rest : Text} {op : SetOp} (h : operator? t = some (op, rest)) :
    rest <:+ t ∧ ∀ u, operator? (t ++ u) = some (op, rest ++ u) := by
  match t, h with
  | [], h => exact absurd h (by simp [operator?])
  | [_], h => exact absurd h (by simp [operator?])
  | c :: d :: t, h =>
      obtain ⟨op', hop, hrest⟩ := Option.map_eq_some_iff.mp h
      obtain ⟨rfl, rfl⟩ := Prod.mk.inj hrest
      exact ⟨⟨[c, d], rfl⟩, fun u => by simp [operator?, hop]⟩

/-- What a bracket inside of a class begins: a named class or a class of its own. -/
def readNested (verbose : Bool) (fuel : Nat) (waiting : Option (SetOp × ClassItem))
    (items : List ClassItem) (t : Text) : Option (ClassItem × Text) :=
  match readAsciiClass? t with
  | some p => readClassBody false verbose fuel waiting (p.1 :: items) p.2
  | none => ((readClassOpen verbose t).map fun r => ((r.1, r.2.1), r.2.2)).bind fun p =>
      (readClassBody false verbose fuel none p.1.2 p.2).bind fun q =>
        readClassBody false verbose fuel waiting (.bracketed p.1.1 q.1 :: items) q.2

/-- What is neither a bracket nor the end of a class: an operator or a member. -/
def readMember (verbose : Bool) (fuel : Nat) (waiting : Option (SetOp × ClassItem))
    (items : List ClassItem) (t : Text) : Option (ClassItem × Text) :=
  match operator? t with
  | some p => readClassBody false verbose fuel (some (p.1, closeOperand waiting items)) [] p.2
  | none => (readClassRange false verbose t).bind fun p =>
      readClassBody false verbose fuel waiting (p.1 :: items) p.2

/-- One step through the members of a class, as a reader that looks at one character. -/
theorem readClassBody_succ (verbose : Bool) (fuel : Nat) (waiting : Option (SetOp × ClassItem))
    (items : List ClassItem) (t : Text) :
    readClassBody false verbose (fuel + 1) waiting items t = onPeek (fun c =>
      if c = ']' then onHead fun _ rest => some (closeOperand waiting items, rest)
      else if c = '[' then onHead fun _ => readNested verbose fuel waiting items
      else readMember verbose fuel waiting items) (tidy verbose t) := by
  rw [readClassBody]
  cases tidy verbose t with
  | nil => rfl
  | cons c rest =>
      rw [onPeek]
      by_cases hclose : c = ']'
      · subst hclose
        rfl
      · rw [if_neg hclose]
        by_cases hopen : c = '['
        · subst hopen
          rw [if_pos rfl, onHead, readNested]
          cases hname : readAsciiClass? rest with
          | some p => simp [hname]
          | none => cases hopen : readClassOpen verbose rest <;> simp [hname, hopen]
        · rw [if_neg hopen, readMember]
          cases rest with
          | nil => simp [operator?, hclose, hopen]
          | cons d rest =>
              rw [operator?, operatorOf?]
              by_cases hinter : c = '&' ∧ d = '&'
              · obtain ⟨rfl, rfl⟩ := hinter
                rfl
              · rw [if_neg hinter]
                by_cases hdiff : c = '-' ∧ d = '-'
                · obtain ⟨rfl, rfl⟩ := hdiff
                  rfl
                · rw [if_neg hdiff]
                  by_cases hsymm : c = '~' ∧ d = '~'
                  · obtain ⟨rfl, rfl⟩ := hsymm
                    rfl
                  · rw [if_neg hsymm]
                    split
                    · next h => exact absurd h (by simp)
                    · next h => exact absurd (List.cons.inj h).1 hclose
                    · next h => exact absurd (List.cons.inj h).1 hopen
                    · next h => exact absurd (by simp_all) hinter
                    · next h => exact absurd (by simp_all) hdiff
                    · next h => exact absurd (by simp_all) hsymm
                    · rfl

/-- A named class is read the same with any text behind. -/
theorem readAsciiClass?_some {t x : Text} {item : ClassItem}
    (h : readAsciiClass? t = some (item, x)) :
    x <:+ t ∧ ∀ u, readAsciiClass? (t ++ u) = some (item, x ++ u) := by
  have hself := List.append_nil t
  rcases readAsciiClass?_cases t with (rfl | rfl) | ⟨negated, rest, hsuffix, -, hread⟩ | hnone
  · exact absurd h (by simp [readAsciiClass?])
  · exact absurd h (by simp [readAsciiClass?])
  · have hrest := hread []
    rw [List.append_nil, List.append_nil] at hrest
    obtain ⟨hx, happend⟩ := readClassName_append (hrest.symm.trans h)
    exact ⟨hx.trans hsuffix, fun u => (hread u).trans (happend u)⟩
  · exact absurd ((hnone []).symm.trans (hself.symm ▸ h)) (by simp)

/-- Where there is a bracket, a text behind does not make a named class. -/
theorem readAsciiClass?_none {t : Text} (hmem : ']' ∈ t) (h : readAsciiClass? t = none)
    (u : Text) : readAsciiClass? (t ++ u) = none := by
  rcases readAsciiClass?_cases t with (rfl | rfl) | ⟨negated, rest, -, hbracket, hread⟩ | hnone
  · exact absurd hmem (by simp)
  · exact absurd hmem (by decide)
  · have hrest := hread []
    rw [List.append_nil, List.append_nil] at hrest
    exact (hread u).trans
      (readClassName_eq_none_append (hbracket hmem) (hrest.symm.trans h) u)
  · exact hnone u

/-- A steady reader that reads up to a closing bracket. -/
structure Closing {α : Type} (r r' : Text → Option (α × Text)) : Prop extends Steady r r' where
  bracket : ∀ {t a x}, r t = some (a, x) → ']' ∈ t

section Body

variable {verbose : Bool} {n m : Nat}

/-- A class inside of a class, where the rest of the outer class is read steadily. -/
theorem closing_readNested
    (h : ∀ waiting items, Closing (readClassBody false verbose n waiting items)
      (readClassBody false verbose m waiting items))
    (waiting : Option (SetOp × ClassItem)) (items : List ClassItem) :
    Closing (readNested verbose n waiting items) (readNested verbose m waiting items) := by
  have hinner : Steady
      (fun t => ((readClassOpen verbose t).map fun r => ((r.1, r.2.1), r.2.2)).bind fun p =>
        (readClassBody false verbose n none p.1.2 p.2).bind fun q =>
          readClassBody false verbose n waiting (.bracketed p.1.1 q.1 :: items) q.2)
      fun t => ((readClassOpen verbose t).map fun r => ((r.1, r.2.1), r.2.2)).bind fun p =>
        (readClassBody false verbose m none p.1.2 p.2).bind fun q =>
          readClassBody false verbose m waiting (.bracketed p.1.1 q.1 :: items) q.2 :=
    (steady_readClassOpen verbose).bind fun opening =>
      (h none opening.2).toSteady.bind fun body =>
        (h waiting (.bracketed opening.1 body :: items)).toSteady
  have hbracket : ∀ {t a x}, readNested verbose n waiting items t = some (a, x) → ']' ∈ t := by
    intro t a x hx
    rw [readNested] at hx
    split at hx
    · next p hname => exact (readAsciiClass?_some hname).1.subset ((h _ _).bracket hx)
    · obtain ⟨p, hopen, hx⟩ := Option.bind_eq_some_iff.mp hx
      obtain ⟨q, hbody, -⟩ := Option.bind_eq_some_iff.mp hx
      exact ((steady_readClassOpen verbose).suffix hopen).subset ((h _ _).bracket hbody)
  refine { toSteady := .of_both fun {t a x} hx => ?_, bracket := hbracket }
  have hmem := hbracket hx
  unfold readNested at hx ⊢
  split at hx
  · next p hname =>
      obtain ⟨hsuffix, happend⟩ := readAsciiClass?_some hname
      obtain ⟨hsuffix', happend'⟩ := (h _ _).both hx
      refine ⟨hsuffix'.trans hsuffix, fun u hbehind => ?_⟩
      rw [happend]
      exact happend' u hbehind
  · next hname =>
      obtain ⟨hsuffix, happend⟩ := hinner.both hx
      refine ⟨hsuffix, fun u hbehind => ?_⟩
      rw [readAsciiClass?_none hmem hname]
      exact happend u hbehind

/-- An operator or a member, where the rest of the class is read steadily. -/
theorem closing_readMember
    (h : ∀ waiting items, Closing (readClassBody false verbose n waiting items)
      (readClassBody false verbose m waiting items))
    (waiting : Option (SetOp × ClassItem)) (items : List ClassItem) :
    Closing (readMember verbose n waiting items) (readMember verbose m waiting items) := by
  refine { toSteady := .of_both fun {t a x} hx => ?_, bracket := fun {t a x} hx => ?_ }
  · unfold readMember at hx ⊢
    split at hx
    · next p hop =>
        obtain ⟨hsuffix, happend⟩ := operator?_some hop
        obtain ⟨hsuffix', happend'⟩ := (h _ _).both hx
        refine ⟨hsuffix'.trans hsuffix, fun u hbehind => ?_⟩
        rw [happend]
        exact happend' u hbehind
    · next hop =>
        obtain ⟨hsuffix, happend⟩ := ((steady_readClassRange verbose).bind fun item =>
          (h waiting (item :: items)).toSteady).both hx
        obtain ⟨p, hrange, -⟩ := Option.bind_eq_some_iff.mp hx
        obtain ⟨c, d, rest, rfl⟩ := length_of_readClassRange hrange
        refine ⟨hsuffix, fun u hbehind => ?_⟩
        have hnone : operator? (c :: d :: rest ++ u) = none := by
          simp only [operator?, Option.map_eq_none_iff, List.cons_append] at hop ⊢
          exact hop
        rw [hnone]
        exact happend u hbehind
  · rw [readMember] at hx
    split at hx
    · next p hop => exact (operator?_some hop).1.subset ((h _ _).bracket hx)
    · obtain ⟨p, hrange, hbody⟩ := Option.bind_eq_some_iff.mp hx
      exact ((steady_readClassRange verbose).suffix hrange).subset ((h _ _).bracket hbody)

/-- The members of a class are read up to its closing bracket. -/
theorem closing_readClassBody (hle : n ≤ m) (waiting : Option (SetOp × ClassItem))
    (items : List ClassItem) :
    Closing (readClassBody false verbose n waiting items)
      (readClassBody false verbose m waiting items) := by
  induction n generalizing m waiting items with
  | zero =>
      have hnone : readClassBody false verbose 0 waiting items = fun _ => none := by
        funext t
        rw [readClassBody]
      rw [hnone]
      exact { suffix := fun h => absurd h (by simp)
              append := fun h => absurd h (by simp)
              bracket := fun h => absurd h (by simp) }
  | succ n ih =>
      obtain ⟨m, rfl⟩ := Nat.exists_eq_add_of_le' (Nat.one_le_of_lt hle)
      have hbody := @ih m (Nat.le_of_succ_le_succ hle)
      have hnested := closing_readNested hbody waiting items
      have hmember := closing_readMember hbody waiting items
      rw [funext (readClassBody_succ verbose n waiting items),
        funext (readClassBody_succ verbose m waiting items)]
      refine { toSteady := .tidy verbose (.peek fun c => ?_), bracket := fun {t a x} h => ?_ }
      · split
        · exact .head fun _ => .pure _
        · split
          · exact .head fun _ => hnested.toSteady
          · exact hmember.toSteady
      · refine (tidy_suffix verbose t).subset ?_
        cases htidy : tidy verbose t with
        | nil => exact absurd h (by simp [htidy, onPeek])
        | cons c rest =>
            simp only [htidy, onPeek] at h
            split at h
            · next hc => simp [hc]
            · split at h
              · exact List.mem_cons_of_mem c (hnested.bracket h)
              · exact hmember.bracket h

end Body

/-- **A class is read the same, whatever stands behind it.** -/
theorem steady_readClass (verbose : Bool) :
    Steady (readClass false verbose) (readClass false verbose) := by
  have heq : readClass false verbose = fun t =>
      ((readClassOpen verbose t).map fun r => ((r.1, r.2.1), r.2.2)).bind fun p =>
        (readClassBody false verbose (t.length + 1) none p.1.2 p.2).map fun q =>
          (.bracketed p.1.1 q.1, q.2) := by
    funext t
    rw [readClass]
    cases readClassOpen verbose t with
    | none => rfl
    | some r =>
        simp only [Option.bind_eq_bind, Option.bind_some, Option.map_some]
        cases readClassBody false verbose (t.length + 1) none r.2.1 r.2.2 <;> rfl
  rw [heq]
  refine Steady.sized (r := fun fuel t =>
    ((readClassOpen verbose t).map fun r => ((r.1, r.2.1), r.2.2)).bind fun p =>
      (readClassBody false verbose fuel none p.1.2 p.2).map fun q =>
        (Tree.bracketed p.1.1 q.1, q.2)) fun {n m} hle => ?_
  exact (steady_readClassOpen verbose).bind fun opening =>
    (closing_readClassBody hle none opening.2).toSteady.map fun body =>
      Tree.bracketed opening.1 body

end ModalLex.Regex
