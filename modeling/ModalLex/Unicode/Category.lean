import ModalLex.Unicode.Letter
import ModalLex.Unicode.Mark
import ModalLex.Unicode.Number
import ModalLex.Unicode.Punctuation
import ModalLex.Unicode.Space
import ModalLex.Unicode.Symbol

/-!
# General categories

Every character has one general category, and the categories with the same first letter form a
larger one. A category is known by its short name and by one or two long names. What belongs to
none of the others is **unassigned**. Surrogates are no characters, so their category has no name
here.
-/

namespace ModalLex.Unicode

/-- The characters that are not controls, formats, private or unassigned. -/
def graphic : CharSet :=
  [letter, mark, number, punctuation, symbol].foldl CharSet.union separator

/-- The characters with a meaning. -/
def assigned : CharSet := [control, format, privateUse].foldl CharSet.union graphic

/-- The letters and marks of a category, by its names in lower case without separators. -/
def letterCategory? : String → Option CharSet
  | "l" | "letter" => some letter
  | "lu" | "uppercaseletter" => some upper
  | "ll" | "lowercaseletter" => some lower
  | "lt" | "titlecaseletter" => some title
  | "lc" | "casedletter" => some casedLetter
  | "lm" | "modifierletter" => some modifierLetter
  | "lo" | "otherletter" => some otherLetter
  | "m" | "mark" | "combiningmark" => some mark
  | "mn" | "nonspacingmark" => some nonspacingMark
  | "mc" | "spacingmark" => some spacingMark
  | "me" | "enclosingmark" => some enclosingMark
  | _ => none

/-- The numbers, punctuation and symbols of a category, by its names. -/
def signCategory? : String → Option CharSet
  | "n" | "number" => some number
  | "nd" | "decimalnumber" | "digit" => some digit
  | "nl" | "letternumber" => some letterNumber
  | "no" | "othernumber" => some otherNumber
  | "p" | "punctuation" | "punct" => some punctuation
  | "pc" | "connectorpunctuation" => some connector
  | "pd" | "dashpunctuation" => some dash
  | "ps" | "openpunctuation" => some openPunctuation
  | "pe" | "closepunctuation" => some closePunctuation
  | "pi" | "initialpunctuation" => some initialQuote
  | "pf" | "finalpunctuation" => some finalQuote
  | "po" | "otherpunctuation" => some otherPunctuation
  | "s" | "symbol" => some symbol
  | "sm" | "mathsymbol" => some mathSymbol
  | "sc" | "currencysymbol" => some currencySymbol
  | "sk" | "modifiersymbol" => some modifierSymbol
  | "so" | "othersymbol" => some otherSymbol
  | _ => none

/-- The separators and other characters of a category, by its names. -/
def otherCategory? : String → Option CharSet
  | "z" | "separator" => some separator
  | "zs" | "spaceseparator" => some blank
  | "zl" | "lineseparator" => some lineSeparator
  | "zp" | "paragraphseparator" => some paragraphSeparator
  | "c" | "other" => some graphic.compl
  | "cc" | "control" | "cntrl" => some control
  | "cf" | "format" => some format
  | "co" | "privateuse" => some privateUse
  | "cn" | "unassigned" => some assigned.compl
  | _ => none

/-- The characters of the general category with a name. Three names for larger sets count as
categories too. -/
def category? (name : String) : Option CharSet :=
  match name with
  | "any" => some CharSet.empty.compl
  | "assigned" => some assigned
  | "ascii" => some (.range 0 0x7F)
  | name => ((letterCategory? name).or (signCategory? name)).or (otherCategory? name)

end ModalLex.Unicode
