import ModalLex.Json.Number
import ModalLex.Text.Quoted

/-!
# Reading JSON

Readers take the text in front of them and return what they read with the rest. They read
**typed** values: what does not have the wanted type is refused where it stands, before the rest
of the text is looked at, so of several faults in a text the first one is reported.

There are three kinds of faults: the text ends too early, it is no JSON, or it is JSON but not
what was wanted. Only the last has a message.
-/

namespace ModalLex.Json

/-- Why a text cannot be read. -/
inductive ReadError where
  /-- The text ends too early. -/
  | ended
  /-- The text is not JSON. -/
  | malformed
  /-- The text is JSON, but not of the wanted kind. -/
  | unfit (message : String)
deriving DecidableEq, Repr

/-- The name of the kind of a fault. -/
def ReadError.category : ReadError → String
  | .ended => "eof"
  | .malformed => "syntax"
  | .unfit _ => "data"

/-- The message of a fault, if its kind has one. -/
def ReadError.message? : ReadError → Option String
  | .unfit message => some message
  | _ => none

/-- A reader of values of a type. -/
abbrev Reader (α : Type) := Text → Except ReadError (α × Text)

/-- Whether a character may stand between the parts of a JSON text. -/
def isBlank (c : Char) : Bool := c = ' ' || c = '\n' || c = '\t' || c = '\r'

/-- Skips blanks. -/
def skipBlanks (t : Text) : Text := t.dropWhile isBlank

/-- Reads the rest of a word. -/
def readWord : (word : Text) → Text → Except ReadError Text
  | [], t => .ok t
  | _ :: _, [] => .error .ended
  | c :: word, d :: rest => if c = d then readWord word rest else .error .malformed

/-! ### Strings -/

/-- The value of a hexadecimal digit. -/
def hexValue? (c : Char) : Option Nat :=
  if c.isDigit then some (c.toNat - '0'.toNat)
  else if 'a' ≤ c && c ≤ 'f' then some (c.toNat - 'a'.toNat + 10)
  else if 'A' ≤ c && c ≤ 'F' then some (c.toNat - 'A'.toNat + 10)
  else none

/-- Four hexadecimal digits. A text with less than four bytes has ended too early, whatever they
are. -/
def readHex4 (t : Text) : Except ReadError (Nat × Text) :=
  if t.byteLength < 4 then .error .ended
  else match t with
    | a :: b :: c :: d :: rest =>
      match hexValue? a, hexValue? b, hexValue? c, hexValue? d with
      | some a, some b, some c, some d => .ok (((a * 16 + b) * 16 + c) * 16 + d, rest)
      | _, _, _, _ => .error .malformed
    | _ => .error .malformed

/-- The second half of a character that is written as two surrogates. -/
def readLowSurrogate (high : Nat) (t : Text) : Except ReadError (Char × Text) :=
  match t with
  | [] => .error .ended
  | ['\\'] => .error .ended
  | '\\' :: 'u' :: rest => do
    let (low, rest) ← readHex4 rest
    if 0xDC00 ≤ low ∧ low ≤ 0xDFFF then
      .ok (Char.ofNat (0x10000 + (high - 0xD800) * 0x400 + (low - 0xDC00)), rest)
    else .error .malformed
  | _ => .error .malformed

/-- A character given by its code, or by two surrogates. -/
def readCode (t : Text) : Except ReadError (Char × Text) := do
  let (n, rest) ← readHex4 t
  if 0xD800 ≤ n ∧ n ≤ 0xDBFF then readLowSurrogate n rest
  else if 0xDC00 ≤ n ∧ n ≤ 0xDFFF then .error .malformed
  else .ok (Char.ofNat n, rest)

/-- The character that a letter behind a backslash stands for. -/
def letterEscape? : Char → Option Char
  | '"' => some '"'
  | '\\' => some '\\'
  | '/' => some '/'
  | 'b' => some '\x08'
  | 'f' => some '\x0c'
  | 'n' => some '\n'
  | 'r' => some '\r'
  | 't' => some '\t'
  | _ => none

/-- One character of a string, written by itself or behind a backslash, and `none` at the closing
quote. -/
def readChar? : Text → Except ReadError (Option Char × Text)
  | [] => .error .ended
  | '"' :: rest => .ok (none, rest)
  | ['\\'] => .error .ended
  | '\\' :: 'u' :: rest => (readCode rest).map fun (c, rest) => (some c, rest)
  | '\\' :: c :: rest =>
    match letterEscape? c with
    | some c => .ok (some c, rest)
    | none => .error .malformed
  | c :: rest => if c.toNat < 0x20 then .error .malformed else .ok (some c, rest)

/-- Reads a string behind its opening quote, with an allowance of characters. -/
def readStringWithin : Nat → Text → Except ReadError (Text × Text)
  | 0, _ => .error .ended
  | fuel + 1, t =>
    match readChar? t with
    | .error e => .error e
    | .ok (none, rest) => .ok ([], rest)
    | .ok (some c, rest) =>
      match readStringWithin fuel rest with
      | .error e => .error e
      | .ok (s, rest) => .ok (c :: s, rest)

/-- Reads a string behind its opening quote. -/
def readString (t : Text) : Except ReadError (Text × Text) :=
  readStringWithin (t.length + 1) t

/-- Skips a string behind its opening quote. Codes need not be those of characters. -/
def skipString : Nat → Text → Except ReadError Text
  | 0, _ => .error .ended
  | _ + 1, [] => .error .ended
  | _ + 1, '"' :: rest => .ok rest
  | _ + 1, ['\\'] => .error .ended
  | fuel + 1, '\\' :: c :: rest =>
    if c = 'u' then
      match readHex4 rest with
      | .error e => .error e
      | .ok (_, rest) => skipString fuel rest
    else if (letterEscape? c).isSome then skipString fuel rest
    else .error .malformed
  | fuel + 1, c :: rest => if c.toNat < 0x20 then .error .malformed else skipString fuel rest

/-! ### Numbers -/

/-- At least one digit. -/
def readDigits (t : Text) : Except ReadError (Text × Text) :=
  match t.takeWhile Char.isDigit with
  | [] => .error (if t.isEmpty then .ended else .malformed)
  | digits => .ok (digits, t.drop digits.length)

/-- The part of a number behind its point. -/
def readPlaces : Text → Except ReadError (Text × Text)
  | '.' :: rest => readDigits rest
  | t => .ok ([], t)

/-- The exponent of a number, if it has one. -/
def readExponent (t : Text) : Except ReadError (Option Int × Text) :=
  match t with
  | c :: rest =>
    if c = 'e' ∨ c = 'E' then do
      let (negative, rest) := Decimal.readSign rest
      let (digits, rest) ← readDigits rest
      let n : Int := Decimal.digitsValue digits
      .ok (some (if negative then -n else n), rest)
    else .ok (none, t)
  | [] => .ok (none, [])

/-- A number behind its sign. A zero is not followed by a digit. -/
def readUnsigned (negative : Bool) (t : Text) : Except ReadError (Number × Text) := do
  let (whole, rest) ← readDigits t
  if whole.head? = some '0' ∧ 1 < whole.length then .error .malformed
  else
    let (places, rest) ← readPlaces rest
    let (exponent, rest) ← readExponent rest
    .ok (⟨negative, whole, places, exponent⟩, rest)

/-- What a number is called in a message. A number out of range is not JSON. -/
def Number.describe (n : Number) : Except ReadError String :=
  match n.value? with
  | none => .error .malformed
  | some (.integer _) =>
    .ok ("integer `" ++ String.ofList (if n.negative then '-' :: n.whole else n.whole) ++ "`")
  | some (.double x) => .ok ("floating point `" ++ floatLayout.write x ++ "`")

/-! ### Values that are not wanted -/

/-- The fault of a value with another type than the wanted one. -/
def mismatch {α : Type} (found wanted : String) : Except ReadError α :=
  .error (.unfit ("invalid type: " ++ found ++ ", expected " ++ wanted))

/-- Refuses the value in front, which is not of the wanted type. Words, numbers and strings are
read to their end first. -/
def refuse {α : Type} (wanted : String) (t : Text) : Except ReadError α :=
  match t with
  | [] => .error .ended
  | 'n' :: rest => do
    let _ ← readWord "ull".toList rest
    mismatch "null" wanted
  | 't' :: rest => do
    let _ ← readWord "rue".toList rest
    mismatch "boolean `true`" wanted
  | 'f' :: rest => do
    let _ ← readWord "alse".toList rest
    mismatch "boolean `false`" wanted
  | '"' :: rest => do
    let (s, _) ← readString rest
    mismatch ("string " ++ s.quoted) wanted
  | '[' :: _ => mismatch "sequence" wanted
  | '{' :: _ => mismatch "map" wanted
  | '-' :: rest => do
    let (n, _) ← readUnsigned true rest
    mismatch (← n.describe) wanted
  | c :: rest =>
    if c.isDigit then do
      let (n, _) ← readUnsigned false (c :: rest)
      mismatch (← n.describe) wanted
    else .error .malformed

/-- Skips a number behind its sign. One that is cut off is not JSON, wherever the text ends. -/
def skipNumber (t : Text) : Except ReadError Text :=
  match readUnsigned false t with
  | .error _ => .error .malformed
  | .ok (_, rest) => .ok rest

/-- The containers that a skipped value is inside of. -/
inductive Container where
  | list
  | object
deriving DecidableEq, Repr

/-- What is expected next while a value is skipped. -/
inductive Expected where
  | value
  | key
  | more

/-- Skips a value of any type. `inside` holds the containers that are open. -/
def skipWithin : Nat → Expected → (inside : List Container) → Text → Except ReadError Text
  | 0, _, _, _ => .error .ended
  | fuel + 1, .value, inside, t =>
    let goOn (result : Except ReadError Text) : Except ReadError Text :=
      match result with
      | .error e => .error e
      | .ok rest => skipWithin fuel .more inside rest
    match skipBlanks t with
    | [] => .error .ended
    | 'n' :: rest => goOn (readWord "ull".toList rest)
    | 't' :: rest => goOn (readWord "rue".toList rest)
    | 'f' :: rest => goOn (readWord "alse".toList rest)
    | '"' :: rest => goOn (skipString (rest.length + 1) rest)
    | '-' :: rest => goOn (skipNumber rest)
    | '[' :: rest =>
      match skipBlanks rest with
      | ']' :: rest => skipWithin fuel .more inside rest
      | rest => skipWithin fuel .value (.list :: inside) rest
    | '{' :: rest =>
      match skipBlanks rest with
      | '}' :: rest => skipWithin fuel .more inside rest
      | rest => skipWithin fuel .key (.object :: inside) rest
    | c :: rest =>
      if c.isDigit then goOn (skipNumber (c :: rest))
      else .error .malformed
  | fuel + 1, .key, inside, t =>
    match skipBlanks t with
    | [] => .error .ended
    | '"' :: rest =>
      match skipString (rest.length + 1) rest with
      | .error e => .error e
      | .ok rest =>
        match skipBlanks rest with
        | [] => .error .ended
        | ':' :: rest => skipWithin fuel .value inside rest
        | _ => .error .malformed
    | _ => .error .malformed
  | _ + 1, .more, [], t => .ok t
  | fuel + 1, .more, container :: inside, t =>
    match skipBlanks t, container with
    | [], _ => .error .ended
    | ',' :: rest, .list => skipWithin fuel .value (container :: inside) rest
    | ',' :: rest, .object => skipWithin fuel .key (container :: inside) rest
    | ']' :: rest, .list => skipWithin fuel .more inside rest
    | '}' :: rest, .object => skipWithin fuel .more inside rest
    | _, _ => .error .malformed

/-- Skips a value of any type. -/
def skipValue (t : Text) : Except ReadError Text :=
  skipWithin (t.length + 2) .value [] t

/-! ### Typed values -/

/-- Reads a string where one is wanted. -/
def readText (wanted : String) : Reader Text := fun t =>
  match skipBlanks t with
  | '"' :: rest => readString rest
  | t => refuse wanted t

/-- Reads a truth value. -/
def readBool : Reader Bool := fun t =>
  match skipBlanks t with
  | 't' :: rest => (readWord "rue".toList rest).map fun rest => (true, rest)
  | 'f' :: rest => (readWord "alse".toList rest).map fun rest => (false, rest)
  | t => refuse "a boolean" t

/-- Reads the colon between a key and its value. -/
def readColon (t : Text) : Except ReadError Text :=
  match skipBlanks t with
  | [] => .error .ended
  | ':' :: rest => .ok rest
  | _ => .error .malformed

/-- Reads `null`. -/
def readNull : Reader Unit := fun t =>
  match skipBlanks t with
  | 'n' :: rest => (readWord "ull".toList rest).map fun rest => ((), rest)
  | t => refuse "unit" t

/-- Names between backquotes, separated by commas. -/
def nameList (names : List String) : String :=
  ", ".intercalate (names.map fun name => "`" ++ name ++ "`")

/-- The value of a name among several, or a fault that lists them. -/
def ofName {α : Type} (choices : List (String × α)) (name : Text) : Except ReadError α :=
  match choices.find? fun choice => choice.1 = String.ofList name with
  | some choice => .ok choice.2
  | none =>
    .error (.unfit ("unknown variant `" ++ String.ofList name ++ "`, expected one of " ++
      nameList (choices.map (·.1))))

/-- Reads one of several names, given as a string or as the key of an object whose only value is
`null`. What stands where the key should be is not looked at: unless it is a string, the text is
no JSON. -/
def readChoice {α : Type} (choices : List (String × α)) : Reader α := fun t =>
  match skipBlanks t with
  | [] => .error .ended
  | '"' :: rest => do
    let (name, rest) ← readString rest
    let a ← ofName choices name
    .ok (a, rest)
  | '{' :: rest =>
    match skipBlanks rest with
    | [] => .error .ended
    | '"' :: rest => do
      let (name, rest) ← readString rest
      let a ← ofName choices name
      let rest ← readColon rest
      let ((), rest) ← readNull rest
      match skipBlanks rest with
      | [] => .error .ended
      | '}' :: rest => .ok (a, rest)
      | _ => .error .malformed
    | _ => .error .malformed
  | _ => .error .malformed

/-- Reads a value that may be `null`. -/
def readOptional {α : Type} (reader : Reader α) : Reader (Option α) := fun t =>
  match skipBlanks t with
  | 'n' :: rest => (readWord "ull".toList rest).map fun rest => (none, rest)
  | t => (reader t).map fun (a, rest) => (some a, rest)

/-! ### Records -/

/-- A field of a record: its name, and a reader that puts its value into the record. -/
structure Field (ρ : Type) where
  name : String
  read : ρ → Reader ρ

/-- Reads the members of an object behind its brace or behind a member. A field may be given
once; what is no field is skipped. `first` tells that no comma is due. -/
def readMembers {ρ : Type} (fields : List (Field ρ)) :
    Nat → (first : Bool) → (seen : List String) → ρ → Reader ρ
  | 0, _, _, _, _ => .error .ended
  | fuel + 1, first, seen, record, t =>
    let member (t : Text) : Except ReadError (ρ × Text) :=
      match readString t with
      | .error e => .error e
      | .ok (key, rest) =>
        let name := String.ofList key
        match fields.find? fun field => field.name = name with
        | none => do
          let rest ← skipValue (← readColon rest)
          readMembers fields fuel false seen record rest
        | some field =>
          if seen.contains name then .error (.unfit ("duplicate field `" ++ name ++ "`"))
          else do
            let (record, rest) ← field.read record (← readColon rest)
            readMembers fields fuel false (name :: seen) record rest
    match skipBlanks t with
    | [] => .error .ended
    | '}' :: rest => .ok (record, rest)
    | '"' :: rest => if first then member rest else .error .malformed
    | ',' :: rest =>
      if first then .error .malformed
      else match skipBlanks rest with
        | [] => .error .ended
        | '"' :: rest => member rest
        | _ => .error .malformed
    | _ => .error .malformed

/-- Reads the elements of an array as the fields of a record in order. Fields at the end may be
left out. -/
def readElements {ρ : Type} : List (Field ρ) → (first : Bool) → ρ → Reader ρ
  | [], _, record, t =>
    match skipBlanks t with
    | [] => .error .ended
    | ']' :: rest => .ok (record, rest)
    | _ => .error .malformed
  | field :: fields, first, record, t =>
    match skipBlanks t with
    | [] => .error .ended
    | ']' :: rest => .ok (record, rest)
    | t =>
      if first then do
        let (record, rest) ← field.read record t
        readElements fields false record rest
      else match t with
        | ',' :: rest =>
          match skipBlanks rest with
          | [] => .error .ended
          | ']' :: _ => .error .malformed
          | rest => do
            let (record, rest) ← field.read record rest
            readElements fields false record rest
        | _ => .error .malformed

/-- Reads a record from an object or an array; fields that are not given keep their value in
`default`. -/
def readRecord {ρ : Type} (wanted : String) (fields : List (Field ρ)) (default : ρ) :
    Reader ρ := fun t =>
  match skipBlanks t with
  | '{' :: rest => readMembers fields (rest.length + 1) true [] default rest
  | '[' :: rest => readElements fields true default rest
  | t => refuse wanted t

/-- Reads a whole text. -/
def readAll {α : Type} (reader : Reader α) (t : Text) : Except ReadError α := do
  let (a, rest) ← reader t
  if (skipBlanks rest).isEmpty then .ok a else .error .malformed

end ModalLex.Json
