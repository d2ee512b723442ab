import ModalLex.Json.Writer
import ModalLex.Proofs.Json.Grammar

/-!
# Written Strings

What `writeString` writes is a string of the grammar, and it stands for the text that was to be
written, whatever characters are in it. Three kinds of characters are told apart, as the writer
does: those with a letter, the other controls, which are written by their code, and all others.
**Every text has its marks, and no mark of a text is half of a character.**
-/

namespace ModalLex.Json

/-- The way in which a character is written. -/
def markOf (c : Char) : Mark :=
  match c with
  | '\n' | '\r' | '\t' | '\x08' | '\x0c' => .char c
  | c => if c.toNat < 0x20 then .code c.toNat else .char c

/-- The string that a text is written as. -/
def marksOf (t : Text) : List Mark := t.map markOf

/-- A hexadecimal digit has its value. -/
theorem hexValue?_hexChar {k : Nat} (h : k < 16) : hexValue? (hexChar k) = some k := by
  revert k
  decide

/-- A control has a code of two digits. -/
theorem hexCode_control {n : Nat} (h : n < 0x20) :
    HexCode n ['0', '0', hexChar (n / 16), hexChar (n % 16)] :=
  ⟨_, _, _, _, 0, 0, n / 16, n % 16, rfl, by decide, by decide,
    hexValue?_hexChar (by omega), hexValue?_hexChar (by omega), by omega⟩

/-- A character is written as its mark. -/
theorem spells_escapeChar (c : Char) : SpellsMark (markOf c) (escapeChar c) := by
  rw [escapeChar.eq_def]
  split
  case h_1 => exact .letter rfl
  case h_2 => exact .letter rfl
  case h_3 => exact .letter rfl
  case h_4 => exact .letter rfl
  case h_5 => exact .letter rfl
  case h_6 => exact .letter rfl
  case h_7 => exact .letter rfl
  case h_8 hquote hslash _ _ _ _ _ =>
    by_cases hcontrol : c.toNat < 0x20
    · have hmark : markOf c = .code c.toNat := by
        simp [markOf, hcontrol]
      rw [hmark, if_pos hcontrol]
      exact .code (hexCode_control hcontrol)
    · have hmark : markOf c = .char c := by
        simp [markOf, hcontrol]
      rw [hmark, if_neg hcontrol]
      exact .plain (by omega) hquote hslash

/-- A mark stands for its character again. -/
theorem textOf?_markOf (c : Char) (marks : List Mark) :
    textOf? (markOf c :: marks) = (textOf? marks).map (c :: ·) := by
  rw [markOf.eq_def]
  split
  case h_6 =>
    by_cases h : c.toNat < 0x20
    · have hhigh : ¬IsHigh c.toNat := fun hhigh => by
        have hle := hhigh.1
        omega
      have hlow : ¬IsLow c.toNat := fun hlow => by
        have hle := hlow.1
        omega
      rw [if_pos h, textOf?.eq_def]
      simp only [if_neg hhigh, if_neg hlow, Char.ofNat_toNat]
    · rw [if_neg h]
      rfl
  all_goals rfl

/-- **A written text stands for itself.** -/
theorem textOf?_marksOf (t : Text) : textOf? (marksOf t) = some t := by
  induction t with
  | nil => rfl
  | cons c t ih =>
      rw [marksOf] at ih
      rw [marksOf, List.map_cons, textOf?_markOf, ih]
      rfl

/-- **A text is written as its marks.** -/
theorem spells_marksOf (t : Text) : SpellsString (marksOf t) (t.flatMap escapeChar) := by
  induction t with
  | nil => exact .nil
  | cons c t ih => exact .cons (spells_escapeChar c) ih

theorem spells_writeString (t : Text) : Spells (.string (marksOf t)) (writeString t) :=
  .string (spells_marksOf t)

end ModalLex.Json
