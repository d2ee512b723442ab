import ModalLex.Text.Basic

/-!
# JSON strings

A JSON string marks quotes and backslashes, writes the controls that have a letter by it and the
others by four hexadecimal digits. Everything else stands for itself.
-/

namespace ModalLex.Json

/-- A hexadecimal digit. -/
def hexChar (n : Nat) : Char := Nat.digitChar n

/-- A character inside a JSON string. -/
def escapeChar (c : Char) : Text :=
  match c with
  | '"' => ['\\', '"']
  | '\\' => ['\\', '\\']
  | '\n' => ['\\', 'n']
  | '\r' => ['\\', 'r']
  | '\t' => ['\\', 't']
  | '\x08' => ['\\', 'b']
  | '\x0c' => ['\\', 'f']
  | c =>
    if c.toNat < 0x20 then
      ['\\', 'u', '0', '0', hexChar (c.toNat / 16), hexChar (c.toNat % 16)]
    else [c]

/-- A text as a JSON string. -/
def writeString (t : Text) : Text := '"' :: t.flatMap escapeChar ++ ['"']

end ModalLex.Json
