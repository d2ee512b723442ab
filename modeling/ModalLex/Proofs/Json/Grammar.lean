import ModalLex.Json.Reader

/-!
# The Grammar of JSON

What a JSON text is, said without a reader. A `Tree` is a JSON value, and `Spells v t` says that
the text `t` is a way to write the value `v`, without blanks around it. One value has many
spellings: blanks may stand between its parts, and a character of a string may stand for itself or
be written by a letter.

What the grammar does not interpret, the tree keeps as it is written: the digits of a number, and
the codes of a string. A code need not be that of a character. Two surrogates in a row are one
character together, but the grammar does not ask that a surrogate has a partner, so there are
strings, and names of members, that stand for no text (`textOf?`).

The members of an object keep their order and names may repeat, so everything that a reader can
tell apart is in the tree.

A number is only complete when something ends it, hence `Ends`: what follows a value in a text is
a blank, a comma, a closing bracket or nothing.
-/

namespace ModalLex.Json

/-- Blanks, as they may stand between the parts of a text. -/
def IsGap (t : Text) : Prop := ∀ c ∈ t, isBlank c = true

instance (t : Text) : Decidable (IsGap t) := List.decidableBAll _ _

/-! ### Strings -/

/-- One item of a string. -/
inductive Mark where
  /-- A character, written by itself or by a letter. -/
  | char (c : Char)
  /-- Four hexadecimal digits: a character, or half of one. -/
  | code (n : Nat)
deriving DecidableEq, Repr

/-- Whether a code is the first half of a character. -/
def IsHigh (n : Nat) : Prop := 0xD800 ≤ n ∧ n ≤ 0xDBFF

/-- Whether a code is the second half of a character. -/
def IsLow (n : Nat) : Prop := 0xDC00 ≤ n ∧ n ≤ 0xDFFF

instance (n : Nat) : Decidable (IsHigh n) := inferInstanceAs (Decidable (_ ∧ _))

instance (n : Nat) : Decidable (IsLow n) := inferInstanceAs (Decidable (_ ∧ _))

/-- The character of two halves. -/
def joinHalves (high low : Nat) : Char :=
  Char.ofNat (0x10000 + (high - 0xD800) * 0x400 + (low - 0xDC00))

/-- The text that a string stands for, unless it holds half of a character. -/
def textOf? : List Mark → Option Text
  | [] => some []
  | .char c :: marks => (textOf? marks).map (c :: ·)
  | .code n :: marks =>
    if IsHigh n then
      match marks with
      | .code m :: marks => if IsLow m then (textOf? marks).map (joinHalves n m :: ·) else none
      | _ => none
    else if IsLow n then none
    else (textOf? marks).map (Char.ofNat n :: ·)

/-- Four hexadecimal digits with their value. -/
def HexCode (n : Nat) (t : Text) : Prop :=
  ∃ a b c d w x y z, t = [a, b, c, d] ∧ hexValue? a = some w ∧ hexValue? b = some x ∧
    hexValue? c = some y ∧ hexValue? d = some z ∧ n = ((w * 16 + x) * 16 + y) * 16 + z

/-- A way to write an item of a string. -/
inductive SpellsMark : Mark → Text → Prop
  /-- A character by itself, unless it is a control, a quote or a backslash. -/
  | plain {c : Char} : 0x20 ≤ c.toNat → c ≠ '"' → c ≠ '\\' → SpellsMark (.char c) [c]
  /-- A character by the letter that stands for it. -/
  | letter {c l : Char} : letterEscape? l = some c → SpellsMark (.char c) ['\\', l]
  /-- A code. -/
  | code {n : Nat} {digits : Text} : HexCode n digits →
      SpellsMark (.code n) ('\\' :: 'u' :: digits)

/-- A way to write a string between its quotes. -/
inductive SpellsString : List Mark → Text → Prop
  | nil : SpellsString [] []
  | cons {mark : Mark} {marks : List Mark} {t body : Text} : SpellsMark mark t →
      SpellsString marks body → SpellsString (mark :: marks) (t ++ body)

/-! ### Numbers -/

/-- At least one digit. -/
def IsDigits (t : Text) : Prop := t ≠ [] ∧ ∀ c ∈ t, c.isDigit = true

/-- A whole part: digits of which the first is no zero, or a single zero. -/
def IsWhole (t : Text) : Prop := IsDigits t ∧ (t.head? = some '0' → t.length = 1)

/-- The part of a number behind its whole part: a point with digits, or nothing. -/
inductive IsPlaces : Text → Prop
  | none : IsPlaces []
  | some {digits : Text} : IsDigits digits → IsPlaces ('.' :: digits)

/-- An exponent with perhaps a sign, or nothing. -/
inductive IsExponent : Text → Prop
  | none : IsExponent []
  | plain {e : Char} {digits : Text} : e = 'e' ∨ e = 'E' → IsDigits digits →
      IsExponent (e :: digits)
  | signed {e sign : Char} {digits : Text} : e = 'e' ∨ e = 'E' → sign = '+' ∨ sign = '-' →
      IsDigits digits → IsExponent (e :: sign :: digits)

/-- A number without a sign. -/
inductive IsUnsigned : Text → Prop
  | mk {whole places exponent : Text} : IsWhole whole → IsPlaces places →
      IsExponent exponent → IsUnsigned (whole ++ (places ++ exponent))

/-- A number. -/
inductive IsNumber : Text → Prop
  | positive {t : Text} : IsUnsigned t → IsNumber t
  | negative {t : Text} : IsUnsigned t → IsNumber ('-' :: t)

/-! ### Values -/

/-- A JSON value. -/
inductive Tree where
  | null
  | bool (b : Bool)
  | number (literal : Text)
  | string (marks : List Mark)
  | array (elements : List Tree)
  | object (members : List (List Mark × Tree))

/-- A way to write the name of a member, from the blanks in front of it to those behind its
colon. -/
inductive SpellsName : List Mark → Text → Prop
  | mk {name : List Mark} {front body middle back : Text} : IsGap front →
      SpellsString name body → IsGap middle → IsGap back →
      SpellsName name (front ++ '"' :: (body ++ '"' :: (middle ++ ':' :: back)))

mutual

/-- A way to write a value, without blanks around it. -/
inductive Spells : Tree → Text → Prop
  | null : Spells .null ['n', 'u', 'l', 'l']
  | boolTrue : Spells (.bool true) ['t', 'r', 'u', 'e']
  | boolFalse : Spells (.bool false) ['f', 'a', 'l', 's', 'e']
  | number {literal : Text} : IsNumber literal → Spells (.number literal) literal
  | string {marks : List Mark} {body : Text} : SpellsString marks body →
      Spells (.string marks) ('"' :: (body ++ ['"']))
  | emptyArray {gap : Text} : IsGap gap → Spells (.array []) ('[' :: (gap ++ [']']))
  | array {elements : List Tree} {inner : Text} : SpellsElements elements inner →
      Spells (.array elements) ('[' :: (inner ++ [']']))
  | emptyObject {gap : Text} : IsGap gap → Spells (.object []) ('{' :: (gap ++ ['}']))
  | object {members : List (List Mark × Tree)} {inner : Text} : SpellsMembers members inner →
      Spells (.object members) ('{' :: (inner ++ ['}']))

/-- A way to write the elements of an array, of which there are some. -/
inductive SpellsElements : List Tree → Text → Prop
  | last {v : Tree} {front t back : Text} : IsGap front → Spells v t → IsGap back →
      SpellsElements [v] (front ++ (t ++ back))
  | more {v : Tree} {vs : List Tree} {front t back inner : Text} : IsGap front → Spells v t →
      IsGap back → SpellsElements vs inner →
      SpellsElements (v :: vs) (front ++ (t ++ (back ++ ',' :: inner)))

/-- A way to write the members of an object, of which there are some. -/
inductive SpellsMembers : List (List Mark × Tree) → Text → Prop
  | last {name : List Mark} {v : Tree} {key t back : Text} : SpellsName name key → Spells v t →
      IsGap back → SpellsMembers [(name, v)] (key ++ (t ++ back))
  | more {name : List Mark} {v : Tree} {members : List (List Mark × Tree)}
      {key t back inner : Text} : SpellsName name key → Spells v t → IsGap back →
      SpellsMembers members inner →
      SpellsMembers ((name, v) :: members) (key ++ (t ++ (back ++ ',' :: inner)))

end

/-- What may follow a value: a blank, a comma, a closing bracket, or nothing. -/
def Ends (rest : Text) : Prop :=
  ∀ c, rest.head? = some c → isBlank c = true ∨ c = ',' ∨ c = ']' ∨ c = '}'

/-! ### What follows from the grammar -/

variable {gap gap' rest : Text}

/-- The empty text is a gap. -/
theorem isGap_nil : IsGap [] := by
  intro c hc
  cases hc

/-- Blanks in front are skipped. -/
theorem skipBlanks_gap (h : IsGap gap) : skipBlanks (gap ++ rest) = skipBlanks rest := by
  rw [skipBlanks, skipBlanks, List.dropWhile_append_of_pos h]

/-- What is no blank is not skipped. -/
theorem skipBlanks_cons {c : Char} (h : isBlank c = false) :
    skipBlanks (c :: rest) = c :: rest := by
  rw [skipBlanks, List.dropWhile_cons_of_neg (by simp [h])]

/-- The end of a text ends a value, as do blanks in front of what ends it. -/
theorem ends_nil : Ends [] := by
  intro c hc
  cases hc

/-- Blanks in front of what ends a value end it. -/
theorem Ends.behind_gap (hgap : IsGap gap) (h : Ends rest) : Ends (gap ++ rest) := by
  cases gap with
  | nil => exact h
  | cons c gap =>
      intro d hd
      obtain rfl := Option.some.inj hd
      exact .inl (hgap _ List.mem_cons_self)

/-- A comma ends a value. -/
theorem ends_comma : Ends (',' :: rest) := by
  intro c hc
  exact .inr (.inl (Option.some.inj hc).symm)

/-- A closing bracket ends a value. -/
theorem ends_bracket : Ends (']' :: rest) := by
  intro c hc
  exact .inr (.inr (.inl (Option.some.inj hc).symm))

/-- A closing brace ends a value. -/
theorem ends_brace : Ends ('}' :: rest) := by
  intro c hc
  exact .inr (.inr (.inr (Option.some.inj hc).symm))

end ModalLex.Json
