import ModalLex.Text.Quoted

/-!
# Texts for a terminal

A terminal obeys some control characters. A text from elsewhere is **defused** before it is
written there: the controls that could ring, move back, erase or begin a command are shown by
their codes. Tabs, line ends and all other characters stay as they are.
-/

namespace ModalLex.Text

/-- Whether a character below `80` is a control that a terminal obeys: bell, backspace, form
feed, escape or delete. -/
def isCommand (c : Char) : Bool :=
  c = '\x07' || c = '\x08' || c = '\x0c' || c = '\x1b' || c = '\x7f'

/-- A character without its power over a terminal. The controls of the second block, from `80` to
`9f`, all have such a power. -/
def defuseChar (c : Char) : Text :=
  if isCommand c then
    ['\\', 'x', Nat.digitChar (c.toNat / 16), Nat.digitChar (c.toNat % 16)]
  else if 0x80 ≤ c.toNat ∧ c.toNat ≤ 0x9F then ['\\', 'u', '{'] ++ hexDigits c.toNat ++ ['}']
  else [c]

/-- A text without power over a terminal. -/
def defuse (t : Text) : Text := t.flatMap defuseChar

end ModalLex.Text
