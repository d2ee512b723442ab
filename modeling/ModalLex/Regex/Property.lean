import ModalLex.Text.Basic
import ModalLex.Unicode.Category
import ModalLex.Unicode.Script
import ModalLex.Unicode.Word

/-!
# Properties of characters

A pattern can ask for the characters with a property. It names a general category, a script or a
binary property by itself, or a category or script as the value of the property it belongs to.
Names may be spelled with blanks, hyphens and underscores, in either case, and with `is` in
front.

All general categories are known. Of the scripts these are Greek, Han and Cyrillic, and of the
binary properties the five of `binary?`. A pattern that asks for any other property is refused as
one without a meaning.
-/

namespace ModalLex.Regex

/-- A name without what its spelling may vary in. A leading `is` goes only where it stands
together, and not where a single `c` would be left. -/
def normalName (name : Text) : String :=
  let plain (t : Text) : Text :=
    (t.filter fun c => decide (c.toNat < 0x80) && c != ' ' && c != '-' && c != '_').map Char.toLower
  match name with
  | first :: second :: rest =>
    if first.toLower = 'i' ∧ second.toLower = 's' then
      if plain rest = ['c'] then "isc" else String.ofList (plain rest)
    else String.ofList (plain name)
  | _ => String.ofList (plain name)

/-- The characters of a script. -/
def script? : String → Option CharSet
  | "greek" | "grek" => some Unicode.greek
  | "han" | "hani" => some Unicode.han
  | "cyrillic" | "cyrl" => some Unicode.cyrillic
  | _ => none

/-- The characters of a script and those that it shares. -/
def extendedScript? : String → Option CharSet
  | "greek" | "grek" => some Unicode.greekExtended
  | "han" | "hani" => some Unicode.hanExtended
  | "cyrillic" | "cyrl" => some Unicode.cyrillicExtended
  | _ => none

/-- The characters with a binary property. -/
def binary? : String → Option CharSet
  | "alphabetic" | "alpha" => some Unicode.alphabetic
  | "lowercase" | "lower" => some Unicode.lowercase
  | "uppercase" | "upper" => some Unicode.uppercase
  | "whitespace" | "wspace" | "space" => some Unicode.whiteSpace
  | "joincontrol" | "joinc" => some Unicode.joiner
  | _ => none

/-- The characters with the property of a name that stands by itself. -/
def namedProperty? (name : Text) : Option CharSet :=
  let name := normalName name
  ((binary? name).or (Unicode.category? name)).or (script? name)

/-- The characters that have a value of a property. -/
def valuedProperty? (name value : Text) : Option CharSet :=
  match normalName name with
  | "gc" | "generalcategory" => Unicode.category? (normalName value)
  | "sc" | "script" => script? (normalName value)
  | "scx" | "scriptextensions" => extendedScript? (normalName value)
  | _ => none

/-- Cuts a text at the first place where `mark` stands. -/
def cutAt? (mark : Text) : Text → Option (Text × Text)
  | [] => none
  | c :: rest =>
    if mark.isPrefixOf (c :: rest) then some ([], (c :: rest).drop mark.length)
    else (cutAt? mark rest).map fun (front, back) => (c :: front, back)

/-- The characters that a property asks for, and whether it asks for the others instead, as it
does with `!=`. Under `\P` the two negations cancel. -/
def property? (query : Text) : Option (CharSet × Bool) :=
  match cutAt? ['!', '='] query with
  | some (name, value) => (valuedProperty? name value).map fun s => (s, true)
  | none =>
    match (cutAt? [':'] query).or (cutAt? ['='] query) with
    | some (name, value) => (valuedProperty? name value).map fun s => (s, false)
    | none => (namedProperty? query).map fun s => (s, false)

end ModalLex.Regex
