import ModalLex.Text.Basic
import ModalLex.Unicode.Printable

/-!
# Quoted texts

A text is shown to people between double quotes. Quotes and backslashes are marked with a
backslash, the usual controls have letters, and a character without a glyph of its own is shown
by its code.
-/

namespace ModalLex.Text

/-- The hexadecimal digits of a natural. -/
def hexDigits (n : Nat) : Text := Nat.toDigits 16 n

/-- A character as it is shown between quotes. -/
def quoteChar (c : Char) : Text :=
  match c with
  | '"' => ['\\', '"']
  | '\\' => ['\\', '\\']
  | '\n' => ['\\', 'n']
  | '\r' => ['\\', 'r']
  | '\t' => ['\\', 't']
  | '\x00' => ['\\', '0']
  | c =>
    if Unicode.isPrintable c then [c] else ['\\', 'u', '{'] ++ hexDigits c.toNat ++ ['}']

/-- A text between quotes. -/
def quoted (t : Text) : String :=
  String.ofList ('"' :: t.flatMap quoteChar ++ ['"'])

end ModalLex.Text
