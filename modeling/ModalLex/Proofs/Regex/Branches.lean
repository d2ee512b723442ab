import ModalLex.Proofs.Regex.ClassReading
import ModalLex.Proofs.Regex.Renumbering

/-!
# Patterns Inside of Patterns

A pattern that stands in a group of a larger pattern is read there as it is read alone. Three
things are different: there is text behind it, some groups have been met before it, and some names
have been taken. Text behind changes nothing as long as the pattern ends where it is read to its
end (`ModalLex.Proofs.Regex.Reading`); groups met before add a constant to all numbers; and a name
that was taken before makes the larger pattern fail, but never changes its tree.

The induction is on the allowance of the reader, with a text behind, a number of groups and a list
of names that stay the same throughout.

## Main results

* `readBranches_step`: one step of the reader, by the kinds of what is next.
* `splices_readBranches`: **a pattern is read inside of another as it is read alone.**
-/

namespace ModalLex.Regex

/-! ### Parts without branches -/

/-- A part of a branch that is no group: a tree, or a repetition of the tree before. -/
inductive Simple where
  | single (tree : Tree)
  | again (lo : Nat) (hi : Option Nat) (greedy : Bool)

/-- Puts a part behind the trees of a branch. -/
def Simple.put (items : List Tree) : Simple → Option (List Tree)
  | .single tree => some (tree :: items)
  | .again lo hi greedy => repeatLast lo hi greedy items

/-- A part whose tree has no groups. -/
def Simple.Plain : Simple → Prop
  | .single tree => ∀ w, tree.shift w = tree
  | .again _ _ _ => True

/-- Putting a part behind renumbered trees. -/
theorem Simple.put_shift {part : Simple} (h : part.Plain) (w : Nat) (items : List Tree) :
    part.put (items.map (Tree.shift w)) = (part.put items).map (List.map (Tree.shift w)) := by
  cases part with
  | single tree =>
      rw [put, put, Option.map_some, List.map_cons, h w]
  | again lo hi greedy =>
      cases items with
      | nil => rfl
      | cons last items =>
          simp only [put, List.map_cons, repeatLast, Tree.isRepeatable_shift]
          split <;> rfl

/-- Reads a part that is no group. -/
def readSimple (verbose : Bool) : Text → Option (Simple × Text) :=
  onHead fun c =>
    if c = '[' then fun t => (readClass false verbose t).map fun p => (.single p.1, p.2)
    else if c = '?' then fun t => (some (readLazy t)).map fun p => (.again 0 (some 1) p.1, p.2)
    else if c = '*' then fun t => (some (readLazy t)).map fun p => (.again 0 none p.1, p.2)
    else if c = '+' then fun t => (some (readLazy t)).map fun p => (.again 1 none p.1, p.2)
    else if c = '{' then fun t =>
      ((readCounts verbose t).map fun r => ((r.1, r.2.1, r.2.2.1), r.2.2.2)).map fun p =>
        (.again p.1.1 p.1.2.1 p.1.2.2, p.2)
    else if c = '\\' then fun t => (readEscape false verbose t).map fun p => (.single p.1, p.2)
    else if c = '.' then fun t => some (.single .dot, t)
    else if c = '^' then fun t => some (.single (.assertion .lineStart), t)
    else if c = '$' then fun t => some (.single (.assertion .lineEnd), t)
    else fun t => some (.single (verbatim c), t)

theorem steady_readSimple (verbose : Bool) :
    Steady (readSimple verbose) (readSimple verbose) := by
  refine .head fun c => ?_
  repeat' split
  · exact (steady_readClass verbose).map Simple.single
  · exact steady_readLazy.map (Simple.again 0 (some 1))
  · exact steady_readLazy.map (Simple.again 0 none)
  · exact steady_readLazy.map (Simple.again 1 none)
  · exact (steady_readCounts verbose).map fun p => Simple.again p.1 p.2.1 p.2.2
  · exact (steady_readEscape verbose).map Simple.single
  all_goals exact .pure _

/-- The tree of an escape has no groups. -/
theorem readEscape_plain {verbose : Bool} {t x : Text} {tree : Tree}
    (h : readEscape false verbose t = some (tree, x)) (w : Nat) : tree.shift w = tree := by
  have hproperty : ∀ {negated t}, readProperty verbose negated t = some (tree, x) →
      tree.shift w = tree := by
    intro negated t h
    rw [readProperty] at h
    split at h
    · exact absurd h (by simp)
    · exact absurd h (by simp)
    · obtain ⟨p, -, hx⟩ := Option.map_eq_some_iff.mp h
      obtain ⟨rfl, -⟩ := Prod.mk.inj hx
      rfl
    · obtain ⟨rfl, -⟩ := Prod.mk.inj (Option.some.inj h)
      rfl
  have hboundary : ∀ {t}, readWordBoundary verbose t = some (tree, x) → tree.shift w = tree := by
    intro t h
    unfold readWordBoundary at h
    repeat' split at h
    all_goals first
      | (obtain ⟨rfl, -⟩ := Prod.mk.inj (Option.some.inj h); rfl)
      | exact absurd h (by simp)
  cases t with
  | nil => exact absurd h (by simp [readEscape])
  | cons c rest =>
      unfold readEscape at h
      dsimp only at h
      split at h
      · exact absurd h (by simp)
      · split at h
        · obtain ⟨rfl, -⟩ := Prod.mk.inj (Option.some.inj h)
          rfl
        · split at h
          all_goals first
            | (obtain ⟨rfl, -⟩ := Prod.mk.inj (Option.some.inj h); rfl)
            | (obtain ⟨p, -, hx⟩ := Option.map_eq_some_iff.mp h
               obtain ⟨rfl, -⟩ := Prod.mk.inj hx
               rfl)
            | exact hproperty h
            | exact hboundary h
            | exact absurd h (by simp)

theorem readSimple_plain {verbose : Bool} {t x : Text} {part : Simple}
    (h : readSimple verbose t = some (part, x)) : part.Plain := by
  cases t with
  | nil => exact absurd h (by simp [readSimple, onHead])
  | cons c rest =>
      simp only [readSimple, onHead] at h
      repeat' split at h
      · obtain ⟨⟨tree, y⟩, hclass, hx⟩ := Option.map_eq_some_iff.mp h
        obtain ⟨rfl, -⟩ := Prod.mk.inj hx
        rw [readClass] at hclass
        obtain ⟨p, -, hclass⟩ := Option.bind_eq_some_iff.mp hclass
        obtain ⟨q, -, hclass⟩ := Option.bind_eq_some_iff.mp hclass
        obtain ⟨rfl, -⟩ := Prod.mk.inj (Option.some.inj hclass)
        exact fun _ => rfl
      · obtain rfl := (Prod.mk.inj (Option.some.inj h)).1
        trivial
      · obtain rfl := (Prod.mk.inj (Option.some.inj h)).1
        trivial
      · obtain rfl := (Prod.mk.inj (Option.some.inj h)).1
        trivial
      · obtain ⟨p, -, hx⟩ := Option.map_eq_some_iff.mp h
        obtain rfl := (Prod.mk.inj hx).1
        trivial
      · obtain ⟨p, hescape, hx⟩ := Option.map_eq_some_iff.mp h
        obtain rfl := (Prod.mk.inj hx).1
        exact readEscape_plain hescape
      all_goals
        obtain rfl := (Prod.mk.inj (Option.some.inj h)).1
        exact fun _ => rfl

/-! ### One step -/

/-- What a reader knows about a pattern that stands behind some groups and names, with a text
behind it. -/
def Place.within (place : Place) (u : Text) (w : Nat) (names : List Text) : Place :=
  ⟨place.rest ++ u, place.verbose, place.groups + w, place.names ++ names⟩

/-- The tree of some branches, of which the last is not finished. -/
def branchTree (items branches : List Tree) : Tree :=
  Tree.ofBranches (Tree.ofItems items.reverse :: branches).reverse

theorem branchTree_shift (w : Nat) (items branches : List Tree) :
    branchTree (items.map (Tree.shift w)) (branches.map (Tree.shift w)) =
      (branchTree items branches).shift w := by
  unfold branchTree
  rw [← Tree.ofBranches_shift, ← List.map_reverse, Tree.ofItems_shift, ← List.map_cons,
    List.map_reverse]

/-- Goes on behind the closing parenthesis of a group. -/
def closeGroup (fuel : Nat) (items branches : List Tree) (verbose : Bool) (inner : Place) :
    Option (Tree × Place) :=
  match inner.rest with
  | [] => none
  | _ :: rest => readBranches false fuel items branches { inner with rest, verbose }

/-- Reads what an opening parenthesis begins, and what stands behind it. -/
def readGroup (fuel : Nat) (items branches : List Tree) (place : Place) (rest : Text) :
    Opening → Option (Tree × Place)
  | .switch change =>
    readBranches false fuel (.flags change :: items) branches
      { place with rest, verbose := (change.state? .verbose).getD place.verbose }
  | .scope change =>
    (readBranches false fuel [] []
      { place with rest, verbose := (change.state? .verbose).getD place.verbose }).bind fun q =>
        closeGroup fuel (.group none change q.1 :: items) branches place.verbose q.2
  | .capture name =>
    if name.any place.names.contains then none
    else (readBranches false fuel [] []
      { place with
        rest, groups := place.groups + 1, names := name.toList ++ place.names }).bind fun q =>
          closeGroup fuel (.group (some (place.groups + 1)) [] q.1 :: items) branches
            place.verbose q.2

/-- One step of reading branches, by what is next. -/
theorem readBranches_step (fuel : Nat) (items branches : List Tree) (place : Place) :
    readBranches false (fuel + 1) items branches place =
      match tidy place.verbose place.rest with
      | [] => some (branchTree items branches, { place with rest := [] })
      | c :: rest =>
        if c = ')' then some (branchTree items branches, { place with rest := c :: rest })
        else if c = '|' then
          readBranches false fuel [] (Tree.ofItems items.reverse :: branches) { place with rest }
        else if c = '(' then
          (readOpening place.verbose rest).bind fun p =>
            readGroup fuel items branches place p.2 p.1
        else (readSimple place.verbose (c :: rest)).bind fun p =>
          (p.1.put items).bind fun items =>
            readBranches false fuel items branches { place with rest := p.2 } := by
  rw [readBranches]
  generalize tidy place.verbose place.rest = t
  dsimp only
  split
  · rfl
  · rfl
  · rfl
  · next rest =>
      dsimp only
      rw [if_neg (by decide), if_neg (by decide), if_pos rfl]
      cases readOpening place.verbose rest with
      | none => rfl
      | some p =>
          obtain ⟨opening, rest⟩ := p
          cases opening with
          | switch change => rfl
          | scope change => rfl
          | capture name =>
              dsimp only [Option.bind_some, readGroup]
              split <;> rfl
  · next rest =>
      cases hread : readClass false place.verbose rest <;>
        simp [hread, readSimple, onHead, Simple.put]
  · rfl
  · rfl
  · rfl
  · next rest =>
      cases hread : readCounts place.verbose rest <;> simp [hread, readSimple, onHead, Simple.put]
  · next rest =>
      cases hread : readEscape false place.verbose rest <;>
        simp [hread, readSimple, onHead, Simple.put]
  · rfl
  · rfl
  · rfl
  · next c rest hclose hbar hopen hclass hoptional hstar hplus hcounts hescape hdot hstart hend =>
      have hverbatim : readSimple place.verbose (c :: rest) =
          some (.single (verbatim c), rest) := by
        simp only [readSimple, onHead, if_neg hclass, if_neg hoptional, if_neg hstar,
          if_neg hplus, if_neg hcounts, if_neg hescape, if_neg hdot, if_neg hstart, if_neg hend]
      dsimp only
      rw [if_neg hclose, if_neg hbar, if_neg hopen, hverbatim]
      rfl

/-! ### Patterns in context -/

/-- A text behind which a reader goes on, and what that means for the reader behind. -/
theorem Trails.exists_behind {u x y : Text} (h : Trails u x y) :
    ∃ u', y = x ++ u' ∧ ∀ z, z <:+ x →
      (Behind z u → Behind z u') ∧ ∀ y', Trails u' z y' → Trails u z y' := by
  rcases h with rfl | ⟨rfl, rfl⟩
  · exact ⟨u, rfl, fun z _ => ⟨id, fun _ => id⟩⟩
  · refine ⟨[], rfl, fun z hz => ?_⟩
    obtain rfl := List.suffix_nil.mp hz
    refine ⟨fun _ _ => .inl rfl, fun y' hy' => ?_⟩
    rcases hy' with rfl | ⟨-, rfl⟩
    · exact .inr ⟨rfl, rfl⟩
    · exact .inr ⟨rfl, rfl⟩

/-- What reading a pattern in context gives, where reading it alone gives a tree and a place: the
tree with its groups renumbered, or nothing because of a name that is taken. -/
def Spliced (tree : Tree) (place : Place) (u : Text) (w : Nat) (names : List Text)
    (result : Option (Tree × Place)) : Prop :=
  (names ≠ [] ∧ result = none) ∨
    ∃ y, Trails u place.rest y ∧
      result = some (tree.shift w, ⟨y, place.verbose, place.groups + w, place.names ++ names⟩)

/-- A reader that reads in context, with a number of groups before, what another reads alone. -/
def Splices (r : Place → Option (Tree × Place)) (r' : Nat → Place → Option (Tree × Place)) :
    Prop :=
  ∀ {place tree place'}, r place = some (tree, place') →
    place'.rest <:+ place.rest ∧ ∀ u w names, Behind place'.rest u →
      Spliced tree place' u w names (r' w (place.within u w names))

section Context

variable {n m : Nat}

/-- What stands behind a group, where the reader of branches reads the same in context. -/
theorem splices_closeGroup
    (h : ∀ items branches, Splices (readBranches false n items branches) fun w =>
      readBranches false m (items.map (Tree.shift w)) (branches.map (Tree.shift w)))
    (items branches : List Tree) (verbose : Bool) :
    Splices (closeGroup n items branches verbose) fun w =>
      closeGroup m (items.map (Tree.shift w)) (branches.map (Tree.shift w)) verbose := by
  intro place tree place' hread
  rw [closeGroup] at hread
  split at hread
  · exact absurd hread (by simp)
  · next c rest hrest =>
      obtain ⟨hsuffix, hspliced⟩ := h items branches hread
      rw [hrest]
      refine ⟨hsuffix.trans (List.suffix_cons c rest), fun u w names hbehind => ?_⟩
      have hwithin : closeGroup m (items.map (Tree.shift w)) (branches.map (Tree.shift w)) verbose
          (place.within u w names) = readBranches false m (items.map (Tree.shift w))
            (branches.map (Tree.shift w))
            (Place.within { place with rest, verbose } u w names) := by
        rw [closeGroup, Place.within, hrest]
        rfl
      dsimp only
      rw [hwithin]
      exact hspliced u w names hbehind

/-- A group is only read to the end of its content if there is a closing parenthesis. -/
theorem closeGroup_ne_nil {items branches : List Tree} {verbose : Bool} {place : Place}
    {result : Tree × Place} (h : closeGroup n items branches verbose place = some result) :
    place.rest ≠ [] := by
  intro hnil
  rw [closeGroup, hnil] at h
  exact absurd h (by simp)

/-- A reading in context is one with another text behind that leaves what the first one leaves. -/
theorem Spliced.of_trails {tree : Tree} {place : Place} {u u' : Text} {w : Nat}
    {names : List Text} {result : Option (Tree × Place)}
    (h : Spliced tree place u' w names result)
    (htrails : ∀ y, Trails u' place.rest y → Trails u place.rest y) :
    Spliced tree place u w names result := by
  rcases h with hnone | ⟨y, hy, hresult⟩
  · exact .inl hnone
  · exact .inr ⟨y, htrails y hy, hresult⟩

/-- A group and what stands behind it: its content is read in context, and then the rest. -/
theorem spliced_content
    (h : ∀ items branches, Splices (readBranches false n items branches) fun w =>
      readBranches false m (items.map (Tree.shift w)) (branches.map (Tree.shift w)))
    {items branches : List Tree} {verbose : Bool} {place : Place} {tree : Tree} {place' : Place}
    {index : Option Nat} {change : FlagChange}
    (hread : ((readBranches false n [] [] place).bind fun q =>
      closeGroup n (.group index change q.1 :: items) branches verbose q.2) = some (tree, place')) :
    place'.rest <:+ place.rest ∧ ∀ u w names y, Behind place'.rest u → Trails u place.rest y →
      Spliced tree place' u w names
        ((readBranches false m [] [] { place.within u w names with rest := y }).bind fun q =>
          closeGroup m (.group (index.map (· + w)) change q.1 :: items.map (Tree.shift w))
            (branches.map (Tree.shift w)) verbose q.2) := by
  obtain ⟨⟨body, inner⟩, hbody, hclose⟩ := Option.bind_eq_some_iff.mp hread
  have hne : inner.rest ≠ [] := closeGroup_ne_nil hclose
  obtain ⟨hsuffix, hinner⟩ := h [] [] hbody
  obtain ⟨hsuffix', houter⟩ := splices_closeGroup h _ _ _ hclose
  refine ⟨hsuffix'.trans hsuffix, fun u w names y hbehind htrails => ?_⟩
  have hrest : place.rest ≠ [] := by
    intro hnil
    rw [hnil] at hsuffix
    exact hne (List.suffix_nil.mp hsuffix)
  obtain rfl := htrails.eq_append hrest
  have hplace : { place.within u w names with rest := place.rest ++ u } =
      place.within u w names := rfl
  rw [hplace]
  rcases hinner u w names (.of_ne_nil u hne) with ⟨hnames, hnone⟩ | ⟨y, hy, hsome⟩
  · simp only [List.map_nil] at hnone
    exact .inl ⟨hnames, by rw [hnone]; rfl⟩
  · obtain rfl := hy.eq_append hne
    simp only [List.map_nil] at hsome
    have hshift : (Tree.group index change body).shift w =
        .group (index.map (· + w)) change (body.shift w) := by
      rw [Tree.shift]
    rw [hsome, Option.bind_some, ← hshift, ← List.map_cons]
    exact houter u w names hbehind

/-- **A group in context** is read as it is alone, in the numbers and names of the context, if the
branches inside of it are. -/
theorem splices_readGroup
    (h : ∀ items branches, Splices (readBranches false n items branches) fun w =>
      readBranches false m (items.map (Tree.shift w)) (branches.map (Tree.shift w)))
    {items branches : List Tree} {place : Place} {rest : Text} {opening : Opening} {tree : Tree}
    {place' : Place}
    (hread : readGroup n items branches place rest opening = some (tree, place')) :
    place'.rest <:+ rest ∧ ∀ u w names y, Behind place'.rest u → Trails u rest y →
      Spliced tree place' u w names
        (readGroup m (items.map (Tree.shift w)) (branches.map (Tree.shift w))
          (place.within u w names) y opening) := by
  cases opening with
  | switch change =>
      obtain ⟨hsuffix, hspliced⟩ := h _ _ hread
      refine ⟨hsuffix, fun u w names y hbehind htrails => ?_⟩
      obtain ⟨u', rfl, hbehind'⟩ := htrails.exists_behind
      obtain ⟨hu', htrails'⟩ := hbehind' _ hsuffix
      exact (hspliced u' w names (hu' hbehind)).of_trails htrails'
  | scope change => exact spliced_content h hread
  | capture name =>
      rw [readGroup] at hread
      split at hread
      · exact absurd hread (by simp)
      · next hnew =>
          obtain ⟨hsuffix, hspliced⟩ := spliced_content h hread
          refine ⟨hsuffix, fun u w names y hbehind htrails => ?_⟩
          rw [readGroup]
          by_cases htaken : name.any (place.within u w names).names.contains = true
          · rw [if_pos htaken]
            refine .inl ⟨fun hnil => hnew ?_, rfl⟩
            rwa [Place.within, hnil, List.append_nil] at htaken
          · rw [if_neg htaken]
            have hcontext := hspliced u w names y hbehind htrails
            have hgroups : place.groups + 1 + w = place.groups + w + 1 := by omega
            simp only [Place.within, hgroups, List.append_assoc, Option.map_some] at hcontext ⊢
            exact hcontext

/-- **A pattern is read inside of another as it is read alone.** -/
theorem splices_readBranches (hle : n ≤ m) (items branches : List Tree) :
    Splices (readBranches false n items branches) fun w =>
      readBranches false m (items.map (Tree.shift w)) (branches.map (Tree.shift w)) := by
  induction n generalizing m items branches with
  | zero =>
      intro place tree place' hread
      exact absurd hread (by simp [readBranches])
  | succ n ih =>
      obtain ⟨m, rfl⟩ := Nat.exists_eq_add_of_le' (Nat.one_le_of_lt hle)
      have ih := @ih m (Nat.le_of_succ_le_succ hle)
      intro place tree place' hread
      rw [readBranches_step] at hread
      have hsuffix := tidy_suffix place.verbose place.rest
      cases htidy : tidy place.verbose place.rest with
      | nil =>
          rw [htidy] at hread
          obtain ⟨rfl, rfl⟩ := Prod.mk.inj (Option.some.inj hread)
          refine ⟨List.nil_suffix, fun u w names hbehind => ?_⟩
          have htrails := @tidy_append place.verbose place.rest u (htidy.symm ▸ hbehind)
          rw [htidy] at htrails
          have hend : tidy place.verbose (place.rest ++ u) = [] ∨
              tidy place.verbose (place.rest ++ u) = [')'] := by
            rcases htrails with heq | ⟨-, hnil⟩
            · exact heq ▸ hbehind rfl
            · exact .inl hnil
          refine .inr ⟨_, htrails, ?_⟩
          dsimp only
          rw [readBranches_step, Place.within, branchTree_shift]
          rcases hend with hend | hend
          · simp only [hend]
          · simp only [hend, if_true]
      | cons c rest =>
          rw [htidy] at hread hsuffix
          have hcons : rest <:+ place.rest := (List.suffix_cons c rest).trans hsuffix
          have hwithin : ∀ u w names, tidy (place.within u w names).verbose
              (place.within u w names).rest = c :: (rest ++ u) := fun u w names => by
            have htrails := @tidy_append place.verbose place.rest u
              (.of_ne_nil u (by rw [htidy]; simp))
            rw [htidy] at htrails
            exact htrails.eq_append (by simp)
          dsimp only at hread ⊢
          simp only [readBranches_step, hwithin]
          by_cases hclose : c = ')'
          · simp only [if_pos hclose] at hread ⊢
            obtain ⟨rfl, rfl⟩ := Prod.mk.inj (Option.some.inj hread)
            refine ⟨hsuffix, fun u w names _ => .inr ⟨_, .inl rfl, ?_⟩⟩
            rw [branchTree_shift]
            rfl
          · simp only [if_neg hclose] at hread ⊢
            by_cases hbar : c = '|'
            · simp only [if_pos hbar] at hread ⊢
              obtain ⟨hsuffix', hspliced⟩ := ih _ _ hread
              refine ⟨hsuffix'.trans hcons, fun u w names hbehind => ?_⟩
              have hcontext := hspliced u w names hbehind
              simp only [List.map_nil, List.map_cons, ← Tree.ofItems_shift, List.map_reverse]
                at hcontext
              exact hcontext
            · simp only [if_neg hbar] at hread ⊢
              by_cases hopen : c = '('
              · simp only [if_pos hopen] at hread ⊢
                obtain ⟨⟨opening, inside⟩, hopening, hgroup⟩ := Option.bind_eq_some_iff.mp hread
                obtain ⟨hinside, happend⟩ := (steady_readOpening place.verbose).both hopening
                obtain ⟨hsuffix', hspliced⟩ := splices_readGroup ih hgroup
                refine ⟨(hsuffix'.trans hinside).trans hcons, fun u w names hbehind => ?_⟩
                obtain ⟨y, hy, htrails⟩ := happend u (hbehind.mono hsuffix')
                have hverbose : (place.within u w names).verbose = place.verbose := rfl
                rw [hverbose, hy]
                exact hspliced u w names y hbehind htrails
              · simp only [if_neg hopen] at hread ⊢
                obtain ⟨⟨part, behind⟩, hpart, hput⟩ := Option.bind_eq_some_iff.mp hread
                obtain ⟨items', hitems, hrest⟩ := Option.bind_eq_some_iff.mp hput
                obtain ⟨hpart', happend⟩ := (steady_readSimple place.verbose).both hpart
                obtain ⟨hsuffix', hspliced⟩ := ih _ _ hrest
                refine ⟨(hsuffix'.trans hpart').trans hsuffix, fun u w names hbehind => ?_⟩
                obtain ⟨y, hy, htrails⟩ := happend u (hbehind.mono hsuffix')
                obtain ⟨u', rfl, hbehind'⟩ := htrails.exists_behind
                obtain ⟨hu', htrails'⟩ := hbehind' _ hsuffix'
                have hverbose : (place.within u w names).verbose = place.verbose := rfl
                have hput' := part.put_shift (readSimple_plain hpart) w items
                rw [hitems] at hput'
                rw [hverbose, ← List.cons_append, hy, Option.bind_some, hput']
                exact (hspliced u' w names (hu' hbehind)).of_trails htrails'

end Context

end ModalLex.Regex
