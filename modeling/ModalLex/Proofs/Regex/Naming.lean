import Mathlib.Data.List.Nodup
import ModalLex.Proofs.Regex.Counting

/-!
# Names of Groups

A reader keeps the names that it has met and refuses a name that it meets again. It puts the names
that it reads in front of those that were known, and they are all different from them and from one
another. Nothing else of the known names is used: with **other names known** before, a pattern is
read the same way, as long as none of its own names is among them.

The names that are written in a pattern (`namesWritten`) are therefore all that has to be compared
when the pattern stands inside of another.

## Main results

* `names_readBranches`: **what a reader does with names**, by induction on its allowance.
-/

namespace ModalLex.Regex

/-- A reader that puts new names in front of those that were known, and that reads the same with
other names known, if the new ones are not among them. -/
def Names (r : Place → Option (Tree × Place)) : Prop :=
  ∀ {place tree place'}, r place = some (tree, place') →
    ∃ new, place'.names = new ++ place.names ∧ new.Nodup ∧ new.Disjoint place.names ∧
      ∀ known, new.Disjoint known → r { place with names := known } =
        some (tree, { place' with names := new ++ known })

section Steps

variable {n : Nat}

theorem names_closeGroup (h : ∀ items branches, Names (readBranches false n items branches))
    (items branches : List Tree) (verbose : Bool) :
    Names (closeGroup n items branches verbose) := by
  intro place tree place' hread
  rw [closeGroup] at hread
  split at hread
  · exact absurd hread (by simp)
  · next c rest hrest =>
      obtain ⟨new, hnames, hnodup, hdisjoint, hother⟩ := h items branches hread
      refine ⟨new, hnames, hnodup, hdisjoint, fun known hknown => ?_⟩
      rw [closeGroup, hrest]
      exact hother known hknown

/-- The names of a group's content and of what stands behind the group. -/
theorem names_content (h : ∀ items branches, Names (readBranches false n items branches))
    (items branches : List Tree) (verbose : Bool) (index : Option Nat) (change : FlagChange) :
    Names fun place => (readBranches false n [] [] place).bind fun q =>
      closeGroup n (.group index change q.1 :: items) branches verbose q.2 := by
  intro place tree place' hread
  obtain ⟨⟨body, inner⟩, hbody, hclose⟩ := Option.bind_eq_some_iff.mp hread
  obtain ⟨new, hnames, hnodup, hdisjoint, hother⟩ := h [] [] hbody
  obtain ⟨new', hnames', hnodup', hdisjoint', hother'⟩ := names_closeGroup h _ _ _ hclose
  dsimp only at hnames' hdisjoint'
  rw [hnames] at hnames' hdisjoint'
  obtain ⟨hnew, hplace⟩ := List.disjoint_append_right.mp hdisjoint'
  refine ⟨new' ++ new, by rw [hnames', List.append_assoc],
    List.nodup_append'.mpr ⟨hnodup', hnodup, hnew⟩,
    List.disjoint_append_left.mpr ⟨hplace, hdisjoint⟩, fun known hknown => ?_⟩
  obtain ⟨hknown', hknown⟩ := List.disjoint_append_left.mp hknown
  dsimp only
  rw [hother known hknown, Option.bind_some]
  dsimp only
  rw [hother' (new ++ known) (List.disjoint_append_right.mpr ⟨hnew, hknown'⟩),
    List.append_assoc]

/-- The name of a group is free exactly if the reader does not know it. -/
theorem disjoint_toList_iff {name : Option Text} {known : List Text} :
    name.toList.Disjoint known ↔ name.any known.contains = false := by
  cases name <;> simp

theorem names_readGroup (h : ∀ items branches, Names (readBranches false n items branches))
    (items branches : List Tree) (rest : Text) (opening : Opening) :
    Names fun place => readGroup n items branches place rest opening := by
  intro place tree place' hread
  cases opening with
  | switch change => exact h _ _ hread
  | scope change => exact names_content h items branches place.verbose none change hread
  | capture name =>
      dsimp only at hread
      rw [readGroup] at hread
      split at hread
      · exact absurd hread (by simp)
      · next hfree =>
          obtain ⟨new, hnames, hnodup, hdisjoint, hother⟩ :=
            names_content h items branches place.verbose (some (place.groups + 1)) [] hread
          dsimp only at hnames hdisjoint
          obtain ⟨hname, hplace⟩ := List.disjoint_append_right.mp hdisjoint
          refine ⟨new ++ name.toList, by rw [hnames, List.append_assoc], ?_, ?_,
            fun known hknown => ?_⟩
          · refine List.nodup_append'.mpr ⟨hnodup, ?_, hname⟩
            cases name <;> simp
          · rw [Bool.not_eq_true] at hfree
            exact List.disjoint_append_left.mpr ⟨hplace, disjoint_toList_iff.mpr hfree⟩
          · obtain ⟨hnew, hown⟩ := List.disjoint_append_left.mp hknown
            have hread' := hother (name.toList ++ known)
              (List.disjoint_append_right.mpr ⟨hname, hnew⟩)
            dsimp only
            rw [readGroup, disjoint_toList_iff.mp hown, List.append_assoc]
            exact hread'

/-- **What a reader does with names.** -/
theorem names_readBranches (items branches : List Tree) :
    Names (readBranches false n items branches) := by
  induction n generalizing items branches with
  | zero =>
      intro place tree place' hread
      exact absurd hread (by simp [readBranches])
  | succ n ih =>
      intro place tree place' hread
      simp only [readBranches_step] at hread ⊢
      cases htidy : tidy place.verbose place.rest with
      | nil =>
          rw [htidy] at hread
          obtain ⟨rfl, rfl⟩ := Prod.mk.inj (Option.some.inj hread)
          exact ⟨[], rfl, .nil, by simp, fun known _ => rfl⟩
      | cons c rest =>
          rw [htidy] at hread
          dsimp only at hread ⊢
          by_cases hclose : c = ')'
          · simp only [if_pos hclose] at hread ⊢
            obtain ⟨rfl, rfl⟩ := Prod.mk.inj (Option.some.inj hread)
            exact ⟨[], rfl, .nil, by simp, fun known _ => rfl⟩
          · simp only [if_neg hclose] at hread ⊢
            by_cases hbar : c = '|'
            · simp only [if_pos hbar] at hread ⊢
              exact ih _ _ hread
            · simp only [if_neg hbar] at hread ⊢
              -- Only an opening can bring a name; what else is read hands the names on.
              by_cases hopen : c = '('
              · simp only [if_pos hopen] at hread ⊢
                obtain ⟨⟨opening, inside⟩, hopening, hgroup⟩ := Option.bind_eq_some_iff.mp hread
                rw [hopening]
                exact names_readGroup ih items branches inside opening hgroup
              · simp only [if_neg hopen] at hread ⊢
                obtain ⟨⟨part, behind⟩, hpart, hput⟩ := Option.bind_eq_some_iff.mp hread
                obtain ⟨items', hitems, hrest⟩ := Option.bind_eq_some_iff.mp hput
                obtain ⟨new, hnames, hnodup, hdisjoint, hother⟩ := ih _ _ hrest
                refine ⟨new, hnames, hnodup, hdisjoint, fun known hknown => ?_⟩
                rw [hpart, Option.bind_some]
                dsimp only
                rw [hitems, Option.bind_some]
                exact hother known hknown

end Steps

/-- The names that are written in a pattern. -/
def namesWritten (pattern : Text) : List Text :=
  match readBranches false (pattern.length + 1) [] [] (.start pattern 0 []) with
  | some (_, place) => place.names
  | none => []

end ModalLex.Regex
