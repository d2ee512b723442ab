import ModalLex.Alternation.Basic
import ModalLex.Proofs.Regex.Compiling
import ModalLex.Proofs.Regex.Layout

/-!
# What an Alternation Reports

A match of an alternation is that of a group, whose number was found when the alternation was
built. Whatever the numbers are, the rule that is reported **exists** and its span lies in the
searched part of the input, **on boundaries and in order**: this rests on the search alone, and on
the layout of programs.

## Main results

* `matchAt_span`: the span of a match lies behind the offset of the search, on boundaries.
* `eq_of_build`: what is built.
* `build_reported`: the rule that is reported is one of those of the alternation.
* `build_matchAt`: a match of a built alternation has a rule that exists and a span in order.
-/

namespace ModalLex

namespace Alternation

open Regex

/-- The match that is reported is that of a group in the list, and the number of its rule is
counted from the first. -/
theorem reported_some {saved : List (Nat × Nat)} {first : Nat} {groups : List Nat}
    {found : Found} (h : reported saved first groups = some found) :
    ∃ i group, groups[i]? = some group ∧ found.rule = first + i ∧
      groupSpan? saved group = some (found.start, found.stop) := by
  induction groups generalizing first with
  | nil => exact absurd h (by simp [reported])
  | cons group groups ih =>
      rw [reported] at h
      split at h
      · next start stop hspan =>
          obtain rfl := Option.some.inj h
          exact ⟨0, group, rfl, rfl, hspan⟩
      · obtain ⟨i, group', hi, hrule, hspan⟩ := ih h
        exact ⟨i + 1, group', by simpa using hi, by omega, hspan⟩

/-- What is reported comes from a search. -/
theorem matchAt_some {a : Alternation} {input : Text} {offset : Nat} {found : Found}
    (h : a.matchAt input offset = some found) :
    ∃ saved, searchAt a.program input offset = some saved ∧
      reported saved a.first a.groups = some found := by
  rw [matchAt] at h
  split at h
  · exact absurd h (by simp)
  · next saved hsearch => exact ⟨saved, hsearch, h⟩

/-- **Spans lie in the searched part.** Whatever group a match is reported by, its span begins
and ends on boundaries that are not before the offset of the search. -/
theorem matchAt_span {a : Alternation} {input : Text} {offset : Nat} {found : Found}
    (hoffset : input.isBoundary offset = true) (h : a.matchAt input offset = some found) :
    (offset ≤ found.start ∧ input.isBoundary found.start = true) ∧
      (offset ≤ found.stop ∧ input.isBoundary found.stop = true) := by
  obtain ⟨saved, hsearch, hreported⟩ := matchAt_some h
  obtain ⟨_, _, -, -, hspan⟩ := reported_some hreported
  obtain ⟨hstart, hstop⟩ := mem_of_groupSpan? hspan
  exact ⟨searchAt_offsets hoffset hsearch _ hstart,
    searchAt_offsets hoffset hsearch _ hstop⟩

theorem length_groupNumbers (next : Nat) (parts : List Part) :
    (groupNumbers next parts).length = parts.length := by
  induction parts generalizing next with
  | nil => rfl
  | cons part parts ih => rw [groupNumbers, List.length_cons, List.length_cons, ih]

/-- What is built: the program of the spliced pattern, with the numbers of the rules' groups. -/
theorem eq_of_build {parts : List Part} {first : Nat} {a : Alternation}
    (h : build parts first = .ok a) :
    ∃ e, expr? {} (spliced parts) = some e ∧
      a = ⟨spliced parts, e.program, groupNumbers 1 parts, first⟩ := by
  unfold build at h
  dsimp only at h
  cases hregex : Regex.compile {} (spliced parts) with
  | error e => exact absurd h (by rw [hregex]; simp [Except.map])
  | ok regex =>
      rw [hregex] at h
      obtain rfl := Except.ok.inj h
      obtain ⟨e, he, rfl⟩ := compile_ok hregex
      exact ⟨e, he, rfl⟩

/-- What an alternation that is built has, part by part. -/
theorem build_ok {parts : List Part} {first : Nat} {a : Alternation}
    (h : build parts first = .ok a) :
    (∃ e, expr? {} (spliced parts) = some e ∧ a.program = e.program) ∧
      a.groups = groupNumbers 1 parts ∧ a.first = first := by
  obtain ⟨e, he, rfl⟩ := eq_of_build h
  exact ⟨⟨e, he, rfl⟩, rfl, rfl⟩

/-- Whatever the slots are, the rule that is reported is one of those of the alternation. -/
theorem build_reported {parts : List Part} {first : Nat} {a : Alternation}
    {saved : List (Nat × Nat)} {found : Found} (h : build parts first = .ok a)
    (hreported : reported saved a.first a.groups = some found) :
    first ≤ found.rule ∧ found.rule < first + parts.length := by
  obtain ⟨-, hgroups, rfl⟩ := build_ok h
  obtain ⟨i, group, hi, hrule, -⟩ := reported_some hreported
  obtain ⟨hlt, -⟩ := List.getElem?_eq_some_iff.mp hi
  rw [hgroups, length_groupNumbers] at hlt
  omega

/-- **A match of a built alternation** has a rule that exists and a span in order, even where the
numbers of the groups are wrong. -/
theorem build_matchAt {parts : List Part} {first : Nat} {a : Alternation} {input : Text}
    {offset : Nat} {found : Found} (h : build parts first = .ok a)
    (hoffset : input.isBoundary offset = true) (hmatch : a.matchAt input offset = some found) :
    (first ≤ found.rule ∧ found.rule < first + parts.length) ∧ found.start ≤ found.stop := by
  obtain ⟨⟨e, -, he⟩, -⟩ := build_ok h
  obtain ⟨saved, hsearch, hreported⟩ := matchAt_some hmatch
  obtain ⟨-, group, -, -, hspan⟩ := reported_some hreported
  rw [he] at hsearch
  exact ⟨build_reported h hreported, searchAt_span_le hoffset hsearch group _ _ hspan⟩

end Alternation

end ModalLex
