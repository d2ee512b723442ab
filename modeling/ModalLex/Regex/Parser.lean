import ModalLex.Regex.Tree
import ModalLex.Unicode.Space
import ModalLex.Unicode.Word

/-!
# Reading patterns

`Tree.parse?` reads a pattern and gives `none` when it is not well formed. In **verbose mode**
blanks and comments between the parts of a pattern are skipped; the mode is a flag, so it can
change inside the pattern and returns to its old state when a group closes.

Each reader takes the text in front of it and returns what it read with the rest. The readers
that loop over nested structure carry a step allowance; one step always consumes a character,
so the length of the pattern is allowance enough.
-/

namespace ModalLex.Regex

/-! ### Blanks -/

/-- Skips blanks and comments. A comment runs from `#` to the end of its line. -/
def skipBlanks : (inComment : Bool) → Text → Text
  | _, [] => []
  | true, c :: rest => skipBlanks (c != '\n') rest
  | false, c :: rest =>
    if Unicode.isSpace c then skipBlanks false rest
    else if c = '#' then skipBlanks true rest
    else c :: rest

/-- Skips blanks and comments in verbose mode, and nothing otherwise. -/
def tidy (verbose : Bool) (t : Text) : Text :=
  if verbose then skipBlanks false t else t

/-! ### Numbers -/

/-- The digits in front, with blanks between them skipped in verbose mode. -/
def takeDigits (verbose : Bool) : Nat → Text → Text × Text
  | 0, t => ([], t)
  | _ + 1, [] => ([], [])
  | fuel + 1, c :: rest =>
    if c.isDigit then
      let (digits, rest) := takeDigits verbose fuel (tidy verbose rest)
      (c :: digits, rest)
    else ([], c :: rest)

/-- The value of a list of decimal digits. -/
def decimalValue (digits : Text) : Nat :=
  digits.foldl (fun n c => 10 * n + (c.toNat - '0'.toNat)) 0

/-- A repetition count: digits with blanks around them, below `2 ^ 32`. -/
def readCount (verbose : Bool) (t : Text) : Option (Nat × Text) :=
  let t := t.dropWhile Unicode.isSpace
  let (digits, rest) := takeDigits verbose t.length t
  let n := decimalValue digits
  if digits.isEmpty || decide (Nat.pow 2 32 ≤ n) then none
  else some (n, rest.dropWhile Unicode.isSpace)

/-- The value of a hexadecimal digit. -/
def hexDigit? (c : Char) : Option Nat :=
  if c.isDigit then some (c.toNat - '0'.toNat)
  else if 'a' ≤ c && c ≤ 'f' then some (c.toNat - 'a'.toNat + 10)
  else if 'A' ≤ c && c ≤ 'F' then some (c.toNat - 'A'.toNat + 10)
  else none

/-- The character with a code, unless the code is a surrogate or too great. -/
def charOfCode? (n : Nat) : Option Char :=
  if n.isValidChar then some (Char.ofNat n) else none

/-- Exactly `count` hexadecimal digits. -/
def readHexFixed (verbose : Bool) : (count : Nat) → (value : Nat) → Text → Option (Nat × Text)
  | 0, value, t => some (value, t)
  | _ + 1, _, [] => none
  | count + 1, value, c :: rest =>
    match hexDigit? c with
    | some d => readHexFixed verbose count (16 * value + d) (tidy verbose rest)
    | none => none

/-- Hexadecimal digits up to a closing brace; `any` tells whether one was read. -/
def readHexBraced (verbose : Bool) : Nat → (any : Bool) → (value : Nat) → Text →
    Option (Nat × Text)
  | 0, _, _, _ => none
  | _ + 1, _, _, [] => none
  | fuel + 1, any, value, c :: rest =>
    if c = '}' then if any then some (value, tidy verbose rest) else none
    else match hexDigit? c with
      | some d => readHexBraced verbose fuel true (16 * value + d) (tidy verbose rest)
      | none => none

/-- A character given by its code, behind the letter that tells the number of digits. -/
def readHex (verbose : Bool) (digits : Nat) (t : Text) : Option (Literal × Text) :=
  match tidy verbose t with
  | [] => none
  | '{' :: rest => do
    let (n, rest) ← readHexBraced verbose (rest.length + 1) false 0 (tidy verbose rest)
    let c ← charOfCode? n
    return (⟨c, false⟩, rest)
  | t => do
    let (n, rest) ← readHexFixed verbose digits 0 t
    let c ← charOfCode? n
    return (⟨c, digits = 2⟩, rest)

/-- Whether a character is an octal digit. -/
def isOctalDigit (c : Char) : Bool := '0' ≤ c && c ≤ '7'

/-- A character given by one to three octal digits. -/
def readOctal (t : Text) : Literal × Text :=
  let digits := (t.take 3).takeWhile isOctalDigit
  let n := digits.foldl (fun n c => 8 * n + (c.toNat - '0'.toNat)) 0
  (⟨Char.ofNat n, false⟩, t.drop digits.length)

/-! ### Escapes -/

/-- Characters up to a closing brace, with blanks skipped in verbose mode. -/
def readBraced (verbose : Bool) : Nat → Text → Option (Text × Text)
  | 0, _ => none
  | _ + 1, [] => none
  | fuel + 1, c :: rest =>
    if c = '}' then some ([], rest)
    else (readBraced verbose fuel (tidy verbose rest)).map fun (name, rest) => (c :: name, rest)

/-- The name of a property: one letter, or any text in braces. -/
def readProperty (verbose negated : Bool) (t : Text) : Option (Tree × Text) :=
  match tidy verbose t with
  | [] => none
  | '\\' :: _ => none
  | '{' :: rest =>
    (readBraced verbose (rest.length + 1) (tidy verbose rest)).map fun (name, rest) =>
      (.property name negated, rest)
  | c :: rest => some (.property [c] negated, tidy verbose rest)

/-- Whether a character can stand in the name of a special word boundary. -/
def isBoundaryChar (c : Char) : Bool := c.isAlpha || c = '-'

/-- The letters of a special word boundary. -/
def takeBoundaryName (verbose : Bool) : Nat → Text → Text × Text
  | 0, t => ([], t)
  | _ + 1, [] => ([], [])
  | fuel + 1, c :: rest =>
    if isBoundaryChar c then
      let (name, rest) := takeBoundaryName verbose fuel (tidy verbose rest)
      (c :: name, rest)
    else ([], c :: rest)

/-- What follows the letter of a word boundary: a name in braces makes it one of the four
one-sided kinds. Braces that cannot hold such a name are left to be read as a repetition. -/
def readWordBoundary (verbose : Bool) (t : Text) : Option (Tree × Text) :=
  match t with
  | '{' :: inside =>
    match tidy verbose inside with
    | [] => none
    | c :: rest =>
      if isBoundaryChar c then
        match takeBoundaryName verbose (rest.length + 1) (c :: rest) with
        | (name, '}' :: rest) =>
          match String.ofList name with
          | "start" => some (.assertion .wordStart, rest)
          | "end" => some (.assertion .wordEnd, rest)
          | "start-half" => some (.assertion .wordStartHalf, rest)
          | "end-half" => some (.assertion .wordEndHalf, rest)
          | _ => none
        | _ => none
      else some (.assertion .wordBoundary, t)
  | _ => some (.assertion .wordBoundary, t)

/-- Whether a character behind a backslash stands for itself: any ASCII character that is no
letter, digit or angle bracket. -/
def isEscapable (c : Char) : Bool :=
  decide (c.toNat < 0x80) && !c.isAlphanum && c != '<' && c != '>'

/-- A literal that stands for itself. -/
def verbatim (c : Char) : Tree := .literal ⟨c, false⟩

/-- What follows a backslash. -/
def readEscape (octal verbose : Bool) (t : Text) : Option (Tree × Text) :=
  match t with
  | [] => none
  | c :: rest =>
    if isOctalDigit c then
      if octal then
        let (l, rest) := readOctal t
        some (.literal l, rest)
      else none
    else if isEscapable c then some (verbatim c, rest)
    else match c with
      | 'x' => (readHex verbose 2 rest).map fun (l, rest) => (.literal l, rest)
      | 'u' => (readHex verbose 4 rest).map fun (l, rest) => (.literal l, rest)
      | 'U' => (readHex verbose 8 rest).map fun (l, rest) => (.literal l, rest)
      | 'p' => readProperty verbose false rest
      | 'P' => readProperty verbose true rest
      | 'd' => some (.shorthand .digit false, rest)
      | 'D' => some (.shorthand .digit true, rest)
      | 's' => some (.shorthand .space false, rest)
      | 'S' => some (.shorthand .space true, rest)
      | 'w' => some (.shorthand .word false, rest)
      | 'W' => some (.shorthand .word true, rest)
      | 'a' => some (verbatim '\x07', rest)
      | 'f' => some (verbatim '\x0c', rest)
      | 't' => some (verbatim '\t', rest)
      | 'n' => some (verbatim '\n', rest)
      | 'r' => some (verbatim '\r', rest)
      | 'v' => some (verbatim '\x0b', rest)
      | 'A' => some (.assertion .textStart, rest)
      | 'z' => some (.assertion .textEnd, rest)
      | 'b' => readWordBoundary verbose rest
      | 'B' => some (.assertion .notWordBoundary, rest)
      | '<' => some (.assertion .wordStart, rest)
      | '>' => some (.assertion .wordEnd, rest)
      | _ => none

/-! ### Bracketed classes -/

/-- One member of a class, or one end of a range. -/
def readClassAtom (octal verbose : Bool) : Text → Option (Tree × Text)
  | [] => none
  | '\\' :: rest => readEscape octal verbose rest
  | c :: rest => some (verbatim c, rest)

/-- A tree as a member of a class. -/
def Tree.toClassItem? : Tree → Option ClassItem
  | .literal l => some (.literal l)
  | .shorthand kind negated => some (.shorthand kind negated)
  | .property name negated => some (.property name negated)
  | _ => none

/-- A tree as an end of a range. -/
def Tree.toLiteral? : Tree → Option Literal
  | .literal l => some l
  | _ => none

/-- Looks past blanks for the character that decides whether a hyphen makes a range. A comment
is not skipped to its end: the first visible character inside it is the answer. -/
def peekVisible : (inComment : Bool) → Text → Option Char
  | _, [] => none
  | inComment, c :: rest =>
    if Unicode.isSpace c then peekVisible inComment rest
    else if !inComment && c = '#' then peekVisible true rest
    else some c

/-- The character behind a hyphen, as far as it decides whether the hyphen makes a range. -/
def peekBehindHyphen (verbose : Bool) (t : Text) : Option Char :=
  if verbose then (peekVisible false t).or t.head? else t.head?

/-- A member of a class or a range of members. -/
def readClassRange (octal verbose : Bool) (t : Text) : Option (ClassItem × Text) := do
  let (first, rest) ← readClassAtom octal verbose t
  match tidy verbose rest with
  | [] => none
  | '-' :: behind =>
    let next := peekBehindHyphen verbose behind
    if next = some ']' ∨ next = some '-' then
      return (← first.toClassItem?, '-' :: behind)
    else
      let (last, rest) ← readClassAtom octal verbose (tidy verbose behind)
      let lo ← first.toLiteral?
      let hi ← last.toLiteral?
      if lo.char ≤ hi.char then return (.range lo hi, rest) else none
  | rest => return (← first.toClassItem?, rest)

/-- A named class of ASCII characters, behind its opening bracket. -/
def readAsciiClass? (t : Text) : Option (ClassItem × Text) :=
  match t with
  | ':' :: rest =>
    let (negated, rest) := match rest with
      | '^' :: rest => (true, rest)
      | _ => (false, rest)
    let name := rest.takeWhile (· != ':')
    match rest.drop name.length with
    | ':' :: ']' :: rest => (AsciiClass.ofName? name).map fun kind => (.ascii kind negated, rest)
    | _ => none
  | _ => none

/-- Hyphens at the start of a class, which stand for themselves. -/
def readHyphens (verbose : Bool) : Nat → List ClassItem → Text → List ClassItem × Text
  | 0, items, t => (items, t)
  | fuel + 1, items, '-' :: rest =>
    readHyphens verbose fuel (.literal ⟨'-', false⟩ :: items) (tidy verbose rest)
  | _ + 1, items, t => (items, t)

/-- The start of a class behind its bracket: whether it is negated, and the members that only
the start can hold, in reverse. -/
def readClassOpen (verbose : Bool) (t : Text) : Option (Bool × List ClassItem × Text) :=
  let t := tidy verbose t
  let (negated, t) := match t with
    | '^' :: rest => (true, tidy verbose rest)
    | _ => (false, t)
  let (items, t) := readHyphens verbose t.length [] t
  match items, t with
  | _, [] => none
  | [], ']' :: rest => some (negated, [.literal ⟨']', false⟩], tidy verbose rest)
  | items, t => some (negated, items, t)

/-- Joins the members read last to the operator that waits for its right side. -/
def closeOperand (waiting : Option (SetOp × ClassItem)) (items : List ClassItem) : ClassItem :=
  let operand := ClassItem.ofList items.reverse
  match waiting with
  | none => operand
  | some (op, left) => .binary op left operand

/-- The rest of a class up to its closing bracket. Operators have one precedence, below that of
standing side by side, and associate to the left. -/
def readClassBody (octal verbose : Bool) : Nat → Option (SetOp × ClassItem) → List ClassItem →
    Text → Option (ClassItem × Text)
  | 0, _, _, _ => none
  | fuel + 1, waiting, items, t =>
    match tidy verbose t with
    | [] => none
    | ']' :: rest => some (closeOperand waiting items, rest)
    | '[' :: rest =>
      match readAsciiClass? rest with
      | some (item, rest) => readClassBody octal verbose fuel waiting (item :: items) rest
      | none => do
        let (negated, inner, rest) ← readClassOpen verbose rest
        let (body, rest) ← readClassBody octal verbose fuel none inner rest
        readClassBody octal verbose fuel waiting (.bracketed negated body :: items) rest
    | '&' :: '&' :: rest =>
      readClassBody octal verbose fuel (some (.inter, closeOperand waiting items)) [] rest
    | '-' :: '-' :: rest =>
      readClassBody octal verbose fuel (some (.diff, closeOperand waiting items)) [] rest
    | '~' :: '~' :: rest =>
      readClassBody octal verbose fuel (some (.symmDiff, closeOperand waiting items)) [] rest
    | t => do
      let (item, rest) ← readClassRange octal verbose t
      readClassBody octal verbose fuel waiting (item :: items) rest

/-- A bracketed class behind its opening bracket. -/
def readClass (octal verbose : Bool) (t : Text) : Option (Tree × Text) := do
  let (negated, items, rest) ← readClassOpen verbose t
  let (body, rest) ← readClassBody octal verbose (t.length + 1) none items rest
  return (.bracketed negated body, rest)

/-! ### Repetitions -/

/-- Whether a tree can be repeated. -/
def Tree.isRepeatable : Tree → Bool
  | .empty | .flags _ => false
  | _ => true

/-- A question mark that makes a repetition lazy. -/
def readLazy : Text → Bool × Text
  | '?' :: rest => (false, rest)
  | t => (true, t)

/-- A counted repetition behind its opening brace: the bounds, whether it is greedy, and the
rest. -/
def readCounts (verbose : Bool) (t : Text) : Option (Nat × Option Nat × Bool × Text) := do
  let (lo, rest) ← readCount verbose (tidy verbose t)
  let (hi, rest) ← match rest with
    | ',' :: rest =>
      match tidy verbose rest with
      | [] => none
      | '}' :: rest => some (none, '}' :: rest)
      | rest => (readCount verbose rest).map fun (n, rest) => (some n, rest)
    | rest => some (some lo, rest)
  match rest with
  | '}' :: rest =>
    if hi.all (lo ≤ ·) then
      let (greedy, rest) := readLazy (tidy verbose rest)
      return (lo, hi, greedy, rest)
    else none
  | _ => none

/-! ### Groups -/

/-- Reads the flags of a group up to `:` or `)`. A flag may be named once, a minus may be
written once, and something has to follow it. -/
def readFlags : FlagChange → (negating dangling : Bool) → Text →
    Option (FlagChange × Char × Text)
  | _, _, _, [] => none
  | change, negating, dangling, c :: rest =>
    if c = ':' ∨ c = ')' then
      if dangling then none else some (change.reverse, c, rest)
    else if c = '-' then
      if negating then none else readFlags change true true rest
    else match Flag.ofChar? c with
      | none => none
      | some flag =>
        if change.any (fun item => item.1 = flag) then none
        else readFlags ((flag, !negating) :: change) negating false rest

/-- Whether a text is a group name: a letter or underscore, then also digits, dots and
brackets. -/
def isGroupName : Text → Bool
  | [] => false
  | c :: rest =>
    (c = '_' || Unicode.isAlphabetic c) &&
      rest.all fun c =>
        c = '_' || c = '.' || c = '[' || c = ']' || Unicode.isAlphanumeric c

/-- What an opening parenthesis begins. -/
inductive Opening where
  /-- A group whose text is captured, perhaps under a name. -/
  | capture (name : Option Text)
  /-- A group that only changes flags inside. -/
  | scope (change : FlagChange)
  /-- Flags for the rest of the enclosing group. -/
  | switch (change : FlagChange)

/-- A group name and its closing bracket. -/
def readGroupName (t : Text) : Option (Opening × Text) :=
  let name := t.takeWhile (· != '>')
  match t.drop name.length with
  | '>' :: rest => if isGroupName name then some (.capture (some name), rest) else none
  | _ => none

/-- Reads what follows an opening parenthesis, up to the group's content. Looking around is not
offered. -/
def readOpening (verbose : Bool) (t : Text) : Option (Opening × Text) :=
  match tidy verbose t with
  | '?' :: '=' :: _ => none
  | '?' :: '!' :: _ => none
  | '?' :: '<' :: '=' :: _ => none
  | '?' :: '<' :: '!' :: _ => none
  | '?' :: 'P' :: '<' :: rest => readGroupName rest
  | '?' :: '<' :: rest => readGroupName rest
  | '?' :: rest =>
    match readFlags [] false false rest with
    | some (change, ':', rest) => some (.scope change, rest)
    | some (change, _, rest) => if change.isEmpty then none else some (.switch change, rest)
    | none => none
  | rest => some (.capture none, rest)

/-! ### Patterns -/

/-- Where a reader stands: the rest of the pattern, whether blanks are skipped, and the groups
met so far. -/
structure Place where
  rest : Text
  verbose : Bool
  groups : Nat
  names : List Text

/-- Puts a repetition around the tree read last. -/
def repeatLast (lo : Nat) (hi : Option Nat) (greedy : Bool) : List Tree → Option (List Tree)
  | [] => none
  | last :: items =>
    if last.isRepeatable then some (.repetition lo hi greedy last :: items) else none

/-- Reads branches up to a closing parenthesis, which is left in place, or the end. The trees of
the current branch and the branches before it are kept in reverse. -/
def readBranches (octal : Bool) : Nat → List Tree → List Tree → Place → Option (Tree × Place)
  | 0, _, _, _ => none
  | fuel + 1, items, branches, place =>
    let finish (rest : Text) : Option (Tree × Place) :=
      some (Tree.ofBranches (Tree.ofItems items.reverse :: branches).reverse,
        { place with rest })
    let continueWith (items : List Tree) (rest : Text) : Option (Tree × Place) :=
      readBranches octal fuel items branches { place with rest }
    match tidy place.verbose place.rest with
    | [] => finish []
    | ')' :: rest => finish (')' :: rest)
    | '|' :: rest =>
      readBranches octal fuel [] (Tree.ofItems items.reverse :: branches) { place with rest }
    | '(' :: rest =>
      match readOpening place.verbose rest with
      | none => none
      | some (.switch change, rest) =>
        readBranches octal fuel (.flags change :: items) branches
          { place with rest, verbose := (change.state? .verbose).getD place.verbose }
      | some (.scope change, rest) => do
        let verbose := (change.state? .verbose).getD place.verbose
        let (body, inner) ← readBranches octal fuel [] [] { place with rest, verbose }
        match inner.rest with
        | [] => none
        | _ :: rest =>
          readBranches octal fuel (.group none change body :: items) branches
            { inner with rest, verbose := place.verbose }
      | some (.capture name, rest) => do
        if name.any place.names.contains then none
        let index := place.groups + 1
        let (body, inner) ← readBranches octal fuel [] []
          { place with rest, groups := index, names := name.toList ++ place.names }
        match inner.rest with
        | [] => none
        | _ :: rest =>
          readBranches octal fuel (.group (some index) [] body :: items) branches
            { inner with rest, verbose := place.verbose }
    | '[' :: rest => do
      let (item, rest) ← readClass octal place.verbose rest
      continueWith (item :: items) rest
    | '?' :: rest => do
      let (greedy, rest) := readLazy rest
      continueWith (← repeatLast 0 (some 1) greedy items) rest
    | '*' :: rest => do
      let (greedy, rest) := readLazy rest
      continueWith (← repeatLast 0 none greedy items) rest
    | '+' :: rest => do
      let (greedy, rest) := readLazy rest
      continueWith (← repeatLast 1 none greedy items) rest
    | '{' :: rest => do
      let (lo, hi, greedy, rest) ← readCounts place.verbose rest
      continueWith (← repeatLast lo hi greedy items) rest
    | '\\' :: rest => do
      let (item, rest) ← readEscape octal place.verbose rest
      continueWith (item :: items) rest
    | '.' :: rest => continueWith (.dot :: items) rest
    | '^' :: rest => continueWith (.assertion .lineStart :: items) rest
    | '$' :: rest => continueWith (.assertion .lineEnd :: items) rest
    | c :: rest => continueWith (verbatim c :: items) rest

/-- The greatest depth that a pattern may nest to. -/
def maxDepth : Nat := 250

/-- Reads a whole pattern. `octal` allows characters given by octal digits, `verbose` starts in
verbose mode. -/
def Tree.parse? (octal verbose : Bool) (pattern : Text) : Option Tree := do
  let (tree, place) ← readBranches octal (pattern.length + 1) [] [] ⟨pattern, verbose, 0, []⟩
  if place.rest.isEmpty && decide (tree.depth ≤ maxDepth) then some tree else none

end ModalLex.Regex
