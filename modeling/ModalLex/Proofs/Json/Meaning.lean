import ModalLex.Proofs.Json.Scanning

/-!
# What Readers Make of a Value

A reader works on text, but what it makes of a value is a function of the value: **a typed reader
does not see how a value is spelled.** `Means reader meaning` says so, with the function. It is
about success and its result only. Which fault is reported depends on the spelling, as the first
one in the text is.

A record is read from an object or from an array. Its meaning follows the members in their order,
as the reader does: the name of a member has to stand for a text, and a field is filled once.
Members that are no fields may have any value, since their value is skipped.

## Main results

* `means_readText`, `means_readBool`, `means_readChoice`, `means_readOptional`: the readers of
  single values.
* `means_readRecord`: a record means what its fields make of the members or of the elements.
* `readAll_toOption`: a text that spells a value, with blanks around it, is read as the value.
-/

namespace ModalLex.Json

variable {α β ρ : Type} {rest : Text}

/-- What a reader makes of a value, whatever its spelling is, and that it stops behind it. -/
def Means (reader : Reader α) (meaning : Tree → Option α) : Prop :=
  ∀ {v : Tree} {t gap rest : Text}, Spells v t → IsGap gap → Ends rest →
    (reader (gap ++ (t ++ rest))).toOption = (meaning v).map (·, rest)

/-! ### Results without their faults -/

/-- Where nothing is wrong, the result is kept. -/
theorem toOption_ok {ε : Type} (a : α) : (.ok a : Except ε α).toOption = some a := rfl

/-- A result can be changed before its fault is dropped, or after. -/
theorem toOption_map {ε : Type} (x : Except ε α) (f : α → β) :
    (x.map f).toOption = x.toOption.map f := by
  cases x <;> rfl

/-- Reading one thing behind another succeeds if both readings do. -/
theorem toOption_bind {ε : Type} (x : Except ε α) (f : α → Except ε β) :
    (x >>= f).toOption = x.toOption.bind fun a => (f a).toOption := by
  cases x <;> rfl

/-- What ends in a fault is a fault. -/
theorem toOption_bind_none {ε : Type} (x : Except ε α) {f : α → Except ε β}
    (h : ∀ a, (f a).toOption = none) : (x >>= f).toOption = none := by
  rw [toOption_bind]
  cases x.toOption with
  | none => rfl
  | some a => exact h a

/-- A value that is not wanted is refused, whatever it is. -/
theorem refuse_toOption (wanted : String) (t : Text) :
    (refuse wanted t : Except ReadError α).toOption = none := by
  rw [refuse.eq_def]
  split
  case h_1 => rfl
  case h_2 => exact toOption_bind_none _ fun _ => rfl
  case h_3 => exact toOption_bind_none _ fun _ => rfl
  case h_4 => exact toOption_bind_none _ fun _ => rfl
  case h_5 => exact toOption_bind_none _ fun _ => rfl
  case h_6 => rfl
  case h_7 => rfl
  case h_8 => exact toOption_bind_none _ fun _ => toOption_bind_none _ fun _ => rfl
  case h_9 =>
    split
    · exact toOption_bind_none _ fun _ => toOption_bind_none _ fun _ => rfl
    · rfl

/-! ### Single values -/

/-- The text of a string. -/
def text? : Tree → Option Text
  | .string marks => textOf? marks
  | _ => none

/-- A truth value. -/
def bool? : Tree → Option Bool
  | .bool b => some b
  | _ => none

/-- The value that is no value. -/
def null? : Tree → Option Unit
  | .null => some ()
  | _ => none

/-- The choice with a name. -/
def named? (choices : List (String × α)) (name : Text) : Option α :=
  (choices.find? fun choice => choice.1 = String.ofList name).map (·.2)

/-- A choice, given by its name or as an object with the name alone. -/
def choice? (choices : List (String × α)) : Tree → Option α
  | .string marks => (textOf? marks).bind (named? choices)
  | .object [(marks, .null)] => (textOf? marks).bind (named? choices)
  | _ => none

/-- A value that may be missing. -/
def optional? (meaning : Tree → Option α) : Tree → Option (Option α)
  | .null => some none
  | v => (meaning v).map some

/-- A number begins with a sign or a digit. -/
theorem IsNumber.exists_cons {literal : Text} (h : IsNumber literal) :
    ∃ c later, literal = c :: later ∧ (c.isDigit = true ∨ c = '-') := by
  cases h with
  | positive ht =>
      obtain ⟨c, later, rfl, hdigit⟩ := ht.exists_cons
      exact ⟨c, later, rfl, .inl hdigit⟩
  | negative _ => exact ⟨_, _, rfl, .inr rfl⟩

/-- A number does not begin as another value does. -/
theorem IsNumber.ne_cons {literal t : Text} (h : IsNumber literal) {d : Char}
    (hdigit : d.isDigit = false) (hminus : d ≠ '-') : literal ++ rest ≠ d :: t := by
  obtain ⟨c, later, rfl, hc⟩ := h.exists_cons
  intro heq
  obtain rfl := (List.cons.inj heq).1
  rcases hc with hc | rfl
  · exact absurd hc (by simp [hdigit])
  · exact hminus rfl

/-- Reading a text means taking a string. -/
theorem means_readText (wanted : String) : Means (readText wanted) text? := by
  intro v t gap rest h hgap _
  rw [readText, h.skipBlanks_eq hgap]
  cases h with
  | string hbody =>
      simp only [List.cons_append, List.append_assoc, List.nil_append]
      exact readString_toOption hbody
  | number hnumber =>
      split
      case h_1 heq => exact absurd heq (hnumber.ne_cons rfl (by decide))
      case h_2 => exact refuse_toOption _ _
  | _ => exact refuse_toOption _ _

/-- Reading a truth value means taking one. -/
theorem means_readBool : Means readBool bool? := by
  intro v t gap rest h hgap _
  rw [readBool, h.skipBlanks_eq hgap]
  cases h with
  | boolTrue => rfl
  | boolFalse => rfl
  | number hnumber =>
      split
      case h_1 heq => exact absurd heq (hnumber.ne_cons rfl (by decide))
      case h_2 heq => exact absurd heq (hnumber.ne_cons rfl (by decide))
      case h_3 => exact refuse_toOption _ _
  | _ => exact refuse_toOption _ _

/-- Reading nothing means taking `null`. -/
theorem means_readNull : Means readNull null? := by
  intro v t gap rest h hgap _
  rw [readNull, h.skipBlanks_eq hgap]
  cases h with
  | null => rfl
  | number hnumber =>
      split
      case h_1 heq => exact absurd heq (hnumber.ne_cons rfl (by decide))
      case h_2 => exact refuse_toOption _ _
  | _ => exact refuse_toOption _ _

/-- **What an optional reader means** is `null`, or what its reader means. -/
theorem means_readOptional {reader : Reader α} {meaning : Tree → Option α}
    (hreader : Means reader meaning) : Means (readOptional reader) (optional? meaning) := by
  intro v t gap rest h hgap hrest
  have hread : ((reader (t ++ rest)).map fun read => (some read.1, read.2)).toOption =
      ((meaning v).map some).map (·, rest) := by
    rw [toOption_map, ← List.nil_append (t ++ rest), hreader h isGap_nil hrest]
    cases meaning v <;> rfl
  rw [readOptional, h.skipBlanks_eq hgap]
  cases h with
  | null => rfl
  | number hnumber =>
      split
      case h_1 heq => exact absurd heq (hnumber.ne_cons rfl (by decide))
      case h_2 => exact hread
  | _ => exact hread

/-! ### Choices -/

/-- A name is found if it is among the choices. -/
theorem ofName_toOption (choices : List (String × α)) (name : Text) :
    (ofName choices name).toOption = named? choices name := by
  rw [ofName, named?]
  cases choices.find? fun choice => choice.1 = String.ofList name <;> rfl

/-- A colon is read with the blanks in front of it. -/
theorem readColon_eq {middle : Text} (h : IsGap middle) :
    readColon (middle ++ ':' :: rest) = .ok rest := by
  rw [readColon, skipBlanks_gap h]
  rfl

/-- The end of an object with one member. -/
def closeObject (a : α) (t : Text) : Except ReadError (α × Text) :=
  match skipBlanks t with
  | [] => .error .ended
  | '}' :: rest => .ok (a, rest)
  | _ => .error .malformed

/-- The first member of an object gives a choice if its value is `null`, and is the last one. -/
theorem readChoice_member {choices : List (String × α)} {name : List Mark} {v : Tree}
    {key t : Text} (hname : SpellsName name key) (hv : Spells v t) (hrest : Ends rest) :
    (readChoice choices ('{' :: (key ++ (t ++ rest)))).toOption =
      ((textOf? name).bind (named? choices)).bind fun a =>
        (null? v).bind fun _ => (closeObject a rest).toOption := by
  obtain ⟨body, middle, back, hbody, hmiddle, hback, hkey⟩ := hname.exists_body
  have hcolon : readColon (middle ++ ':' :: (back ++ (t ++ rest))) = .ok (back ++ (t ++ rest)) :=
    readColon_eq hmiddle
  rw [readChoice, skipBlanks_cons rfl]
  simp only [hkey, toOption_bind, readString_toOption hbody]
  cases textOf? name with
  | none => rfl
  | some name =>
      simp only [Option.map_some, Option.bind_some, ofName_toOption]
      cases named? choices name with
      | none => rfl
      | some a =>
          simp only [Option.bind_some, hcolon, toOption_ok, means_readNull hv hback hrest]
          cases null? v <;> rfl

/-- **What a choice means**: a string that is one of the names, or an object with such a name as
its only key and `null` as the value. -/
theorem means_readChoice (choices : List (String × α)) :
    Means (readChoice choices) (choice? choices) := by
  intro v t gap rest h hgap hrest
  have hskip : readChoice choices (gap ++ (t ++ rest)) = readChoice choices (t ++ rest) := by
    rw [readChoice, readChoice, skipBlanks_gap hgap]
  rw [hskip]
  cases h with
  | @string marks body hbody =>
      rw [List.cons_append, List.append_assoc, List.singleton_append, readChoice,
        skipBlanks_cons rfl]
      simp only [toOption_bind, readString_toOption hbody, choice?]
      cases textOf? marks with
      | none => rfl
      | some name =>
          simp only [Option.map_some, Option.bind_some, ofName_toOption]
          cases named? choices name <;> rfl
  | number hnumber =>
      obtain ⟨c, later, rfl, hc⟩ := hnumber.exists_cons
      have hblank : isBlank c = false := by
        rcases hc with hc | rfl
        · exact isBlank_of_isDigit hc
        · rfl
      rw [List.cons_append, readChoice, skipBlanks_cons hblank, ← List.cons_append]
      split
      case h_1 heq => cases heq
      case h_2 heq => exact absurd heq (hnumber.ne_cons rfl (by decide))
      case h_3 heq => exact absurd heq (hnumber.ne_cons rfl (by decide))
      case h_4 => rfl
  | null => rfl
  | boolTrue => rfl
  | boolFalse => rfl
  | emptyArray _ => rfl
  | array _ => rfl
  | @emptyObject inner hinner =>
      have hread : readChoice choices ('{' :: (inner ++ ['}']) ++ rest) = .error .malformed := by
        rw [List.cons_append, List.append_assoc, readChoice, skipBlanks_cons rfl]
        simp only [skipBlanks_gap hinner]
        rfl
      rw [hread]
      rfl
  | object hmembers =>
      cases hmembers with
      | @last name v key t back hname hv hback =>
          have hclose (a : α) : closeObject a (back ++ '}' :: rest) = .ok (a, rest) := by
            rw [closeObject, skipBlanks_gap hback]
            rfl
          simp only [List.cons_append, List.append_assoc, List.nil_append]
          rw [readChoice_member hname hv (ends_brace.behind_gap hback)]
          simp only [hclose, toOption_ok]
          cases v with
          | null =>
              rw [choice?]
              cases (textOf? name).bind (named? choices) <;> rfl
          | _ => simp [choice?, null?]
      | @more name v members key t back inner hname hv hback hmore =>
          have hclose (a : α) :
              closeObject a (back ++ ',' :: (inner ++ '}' :: rest)) = .error .malformed := by
            rw [closeObject, skipBlanks_gap hback]
            rfl
          have hmany : choice? choices (.object ((name, v) :: members)) = none := by
            cases hmore <;> simp [choice?]
          simp only [List.cons_append, List.append_assoc, List.nil_append]
          rw [readChoice_member hname hv (ends_comma.behind_gap hback), hmany]
          simp only [hclose]
          simp [Except.toOption]

/-! ### Records -/

/-- What a field of a record makes of a value. -/
structure Filling (ρ : Type) where
  name : String
  fill : ρ → Tree → Option ρ

/-- A field and what it makes of values. -/
def Field.Means (field : Field ρ) (filling : Filling ρ) : Prop :=
  field.name = filling.name ∧ ∀ record, Json.Means (field.read record) (filling.fill record)

variable {fields : List (Field ρ)} {fillings : List (Filling ρ)}

/-- What a member does to a record, and to the names that it has been given: it fills a field that
has not been filled, or is none. -/
def fillMember (fillings : List (Filling ρ)) (seen : List String) (record : ρ)
    (member : List Mark × Tree) : Option (List String × ρ) :=
  (textOf? member.1).bind fun key =>
    match fillings.find? fun filling => filling.name = String.ofList key with
    | none => some (seen, record)
    | some filling =>
      if seen.contains (String.ofList key) then none
      else (filling.fill record member.2).map (String.ofList key :: seen, ·)

/-- What members do to a record, one after the other. -/
def fillMembers (fillings : List (Filling ρ)) :
    (seen : List String) → ρ → List (List Mark × Tree) → Option ρ
  | _, record, [] => some record
  | seen, record, member :: members =>
    (fillMember fillings seen record member).bind fun next =>
      fillMembers fillings next.1 next.2 members

section

variable {seen : List String} {record : ρ} {marks : List Mark} {key : Text} {v : Tree}
  {members : List (List Mark × Tree)}

/-- A member whose name stands for no text is refused. -/
theorem fillMembers_unnamed (h : textOf? marks = none) :
    fillMembers fillings seen record ((marks, v) :: members) = none := by
  rw [fillMembers, fillMember, h]
  rfl

/-- A member that is no field is passed over. -/
theorem fillMembers_unknown (h : textOf? marks = some key)
    (hfind : fillings.find? (fun filling => filling.name = String.ofList key) = none) :
    fillMembers fillings seen record ((marks, v) :: members) =
      fillMembers fillings seen record members := by
  simp only [fillMembers, fillMember, h, Option.bind_some, hfind]

/-- A field that has not been filled is filled. -/
theorem fillMembers_field {filling : Filling ρ} (h : textOf? marks = some key)
    (hfind : fillings.find? (fun filling => filling.name = String.ofList key) = some filling)
    (hfresh : ¬seen.contains (String.ofList key) = true) :
    fillMembers fillings seen record ((marks, v) :: members) =
      (filling.fill record v).bind fun record =>
        fillMembers fillings (String.ofList key :: seen) record members := by
  simp only [fillMembers, fillMember, h, Option.bind_some, hfind, if_neg hfresh]
  cases filling.fill record v <;> rfl

end

/-- What elements do to a record: each fills the next field. -/
def fillElements : List (Filling ρ) → ρ → List Tree → Option ρ
  | _, record, [] => some record
  | [], _, _ :: _ => none
  | filling :: fillings, record, v :: vs =>
    (filling.fill record v).bind fun record => fillElements fillings record vs

/-- What a value does to a record. -/
def fillRecord (fillings : List (Filling ρ)) (default : ρ) : Tree → Option ρ
  | .object members => fillMembers fillings [] default members
  | .array elements => fillElements fillings default elements
  | _ => none

/-! ### Members -/

/-- A field is found by its name, and with it what it makes of values. -/
theorem find?_field (h : List.Forall₂ Field.Means fields fillings) (name : String) :
    (fields.find? (fun field => field.name = name) = none ∧
      fillings.find? (fun filling => filling.name = name) = none) ∨
    ∃ field filling, fields.find? (fun field => field.name = name) = some field ∧
      fillings.find? (fun filling => filling.name = name) = some filling ∧
      field.Means filling := by
  induction h with
  | nil => exact .inl ⟨rfl, rfl⟩
  | @cons field filling fields fillings hfield _ ih =>
      by_cases hname : field.name = name
      · refine .inr ⟨field, filling, ?_, ?_, hfield⟩
        · rw [List.find?_cons_of_pos (by simpa using hname)]
        · rw [List.find?_cons_of_pos (by simpa using hfield.1.symm.trans hname)]
      · rw [List.find?_cons_of_neg (by simpa using hname),
          List.find?_cons_of_neg (by simpa [← hfield.1] using hname)]
        exact ih

/-- Reads a member of an object behind the quote of its name, and the members behind it. -/
def readMember (fields : List (Field ρ)) (fuel : Nat) (seen : List String) (record : ρ) :
    Reader ρ := fun t =>
  match readString t with
  | .error e => .error e
  | .ok (key, rest) =>
    match fields.find? fun field => field.name = String.ofList key with
    | none => do
      let rest ← skipValue (← readColon rest)
      readMembers fields fuel false seen record rest
    | some field =>
      if seen.contains (String.ofList key) then
        .error (.unfit ("duplicate field `" ++ String.ofList key ++ "`"))
      else do
        let (record, rest) ← field.read record (← readColon rest)
        readMembers fields fuel false (String.ofList key :: seen) record rest

variable {fuel : Nat} {seen : List String} {record : ρ} {first : Bool}

/-- The first member stands behind no comma. -/
theorem readMembers_first {t later : Text} (h : skipBlanks t = '"' :: later) :
    readMembers fields (fuel + 1) true seen record t =
      readMember fields fuel seen record later := by
  rw [readMembers]
  simp only [h]
  rfl

/-- Each other member stands behind one. -/
theorem readMembers_comma {t u later : Text} (h : skipBlanks t = ',' :: u)
    (hu : skipBlanks u = '"' :: later) :
    readMembers fields (fuel + 1) false seen record t =
      readMember fields fuel seen record later := by
  rw [readMembers]
  simp only [h, hu]
  rfl

/-- A brace ends the object, and the record is as the members have left it. -/
theorem readMembers_close {t : Text} (h : skipBlanks t = '}' :: rest) :
    readMembers fields (fuel + 1) first seen record t = .ok (record, rest) := by
  rw [readMembers]
  simp only [h]

/-- **One member.** A member is read as what it does to the record. -/
theorem readMember_toOption (hfields : List.Forall₂ Field.Means fields fillings)
    {name : List Mark} {v : Tree} {body middle back t : Text} (hbody : SpellsString name body)
    (hmiddle : IsGap middle) (hback : IsGap back) (hv : Spells v t) (hrest : Ends rest) :
    (readMember fields fuel seen record
        (body ++ '"' :: (middle ++ ':' :: (back ++ (t ++ rest))))).toOption =
      (fillMember fillings seen record (name, v)).bind fun next =>
        (readMembers fields fuel false next.1 next.2 rest).toOption := by
  have hcolon : readColon (middle ++ ':' :: (back ++ (t ++ rest))) = .ok (back ++ (t ++ rest)) :=
    readColon_eq hmiddle
  have hstring : (readString (body ++ '"' :: (middle ++ ':' :: (back ++ (t ++ rest))))).toOption =
      (textOf? name).map (·, middle ++ ':' :: (back ++ (t ++ rest))) := readString_toOption hbody
  rw [readMember, fillMember]
  cases hread : readString (body ++ '"' :: (middle ++ ':' :: (back ++ (t ++ rest)))) with
  | error e =>
      rw [hread] at hstring
      cases hname : textOf? name with
      | none => rfl
      | some key =>
          rw [hname] at hstring
          cases hstring
  | ok read =>
      rw [hread] at hstring
      obtain ⟨key, hname, rfl⟩ := Option.map_eq_some_iff.mp hstring.symm
      simp only [hname, Option.bind_some, hcolon]
      obtain ⟨hfield, hfilling⟩ | ⟨field, filling, hfield, hfilling, -, hmeans⟩ :=
        find?_field hfields (String.ofList key)
      · have hskip := skipValue_eq hv hback hrest
        simp only [hfield, hfilling, toOption_bind, toOption_ok, Option.bind_some, hskip]
      · simp only [hfield, hfilling]
        by_cases hseen : seen.contains (String.ofList key) = true
        · simp only [if_pos hseen]
          rfl
        · simp only [if_neg hseen, toOption_bind, toOption_ok, Option.bind_some,
            hmeans record hv hback hrest]
          cases filling.fill record v <;> rfl

/-- A text has no more members than characters, so its length is allowance enough. -/
theorem SpellsMembers.length_le {members : List (List Mark × Tree)} {inner : Text}
    (h : SpellsMembers members inner) : members.length ≤ inner.length := by
  induction members generalizing inner with
  | nil => exact Nat.zero_le _
  | cons member members ih =>
      have hkey {name : List Mark} {key : Text} (hname : SpellsName name key) :
          0 < key.length := by
        cases hname
        rw [List.length_append, List.length_cons]
        omega
      cases h with
      | last hname _ _ =>
          have hpos := hkey hname
          simp only [List.length_cons, List.length_nil, List.length_append]
          omega
      | more hname _ _ hmore =>
          have hpos := hkey hname
          have hle := ih hmore
          simp only [List.length_cons, List.length_append]
          omega

/-- **The members of an object**, behind the quote of the first name. -/
theorem readMembers_toOption (hfields : List.Forall₂ Field.Means fields fillings)
    {members : List (List Mark × Tree)} {inner later : Text} (h : SpellsMembers members inner)
    (hlater : skipBlanks (inner ++ '}' :: rest) = '"' :: later)
    (hfuel : members.length ≤ fuel) :
    (readMember fields fuel seen record later).toOption =
      (fillMembers fillings seen record members).map (·, rest) := by
  induction members generalizing inner later fuel seen record with
  | nil => cases h
  | cons member members ih =>
      obtain ⟨fuel, rfl⟩ : ∃ n, fuel = n + 1 := ⟨fuel - 1, by simp at hfuel; omega⟩
      rw [fillMembers]
      cases h with
      | @last name v key t back hname hv hback =>
          obtain ⟨body, middle, gap, hbody, hmiddle, hgap, hkey⟩ := hname.exists_body
          rw [List.append_assoc, hkey, List.append_assoc] at hlater
          obtain rfl := (List.cons.inj hlater).2
          rw [readMember_toOption hfields hbody hmiddle hgap hv (ends_brace.behind_gap hback)]
          have hclose : skipBlanks (back ++ '}' :: rest) = '}' :: rest := by
            rw [skipBlanks_gap hback]
            rfl
          simp only [readMembers_close hclose]
          cases fillMember fillings seen record _ <;> rfl
      | @more name v members key t back inner hname hv hback hmore =>
          obtain ⟨body, middle, gap, hbody, hmiddle, hgap, hkey⟩ := hname.exists_body
          rw [List.append_assoc, hkey, List.append_assoc, List.append_assoc, List.cons_append]
            at hlater
          obtain rfl := (List.cons.inj hlater).2
          rw [readMember_toOption hfields hbody hmiddle hgap hv (ends_comma.behind_gap hback)]
          have hcomma {t : Text} : skipBlanks (back ++ ',' :: t) = ',' :: t := by
            rw [skipBlanks_gap hback]
            rfl
          obtain ⟨later, hlater⟩ := hmore.exists_cons ('}' :: rest)
          have hgoOn (next : List String × ρ) :
              (readMembers fields (fuel + 1) false next.1 next.2
                (back ++ ',' :: (inner ++ '}' :: rest))).toOption =
              (fillMembers fillings next.1 next.2 members).map (·, rest) := by
            rw [readMembers_comma hcomma hlater]
            exact ih hmore hlater (by simpa using hfuel)
          simp only [hgoOn]
          cases fillMember fillings seen record _ <;> rfl

/-- **The members of an object fill the record in their order.** -/
theorem readMembers_object (hfields : List.Forall₂ Field.Means fields fillings)
    {members : List (List Mark × Tree)} {inner : Text} (h : SpellsMembers members inner) :
    (readMembers fields ((inner ++ '}' :: rest).length + 1) true [] record
        (inner ++ '}' :: rest)).toOption =
      (fillMembers fillings [] record members).map (·, rest) := by
  obtain ⟨later, hlater⟩ := h.exists_cons ('}' :: rest)
  have hle := h.length_le
  rw [readMembers_first hlater]
  exact readMembers_toOption hfields h hlater (by rw [List.length_append]; omega)

/-! ### Elements -/

/-- Reads an element of an array as a field, and the elements behind it as the next ones. -/
def readElement (field : Field ρ) (fields : List (Field ρ)) (record : ρ) : Reader ρ := fun t => do
  let (record, rest) ← field.read record t
  readElements fields false record rest

variable {field : Field ρ} {filling : Filling ρ}

/-- The first element stands behind no comma. -/
theorem readElements_first {t later : Text} {c : Char} (h : skipBlanks t = c :: later)
    (hc : c ≠ ']') : readElements (field :: fields) true record t =
      readElement field fields record (c :: later) := by
  rw [readElements]
  split
  case h_1 heq => rw [h] at heq; cases heq
  case h_2 heq => rw [h] at heq; exact absurd (List.cons.inj heq).1 hc
  case h_3 => rw [h]; rfl

/-- Each other element stands behind one. -/
theorem readElements_comma {t u later : Text} {c : Char} (h : skipBlanks t = ',' :: u)
    (hu : skipBlanks u = c :: later) (hc : c ≠ ']') :
    readElements (field :: fields) false record t =
      readElement field fields record (c :: later) := by
  rw [readElements]
  simp only [h]
  split
  case h_1 heq => cases heq
  case h_2 heq => cases heq
  case h_3 =>
    simp only [hu, Bool.false_eq_true, if_false]
    split
    case h_1 heq => cases heq
    case h_2 heq => exact absurd (List.cons.inj heq).1 hc
    case h_3 => rfl

/-- A bracket ends the array, whatever fields are left. -/
theorem readElements_close {t : Text} (h : skipBlanks t = ']' :: rest) :
    readElements fields first record t = .ok (record, rest) := by
  cases fields with
  | nil =>
      rw [readElements]
      simp only [h]
  | cons field fields =>
      rw [readElements]
      simp only [h]

/-- There are no more elements than fields. -/
theorem readElements_many {t later : Text} {c : Char} (h : skipBlanks t = c :: later)
    (hc : c ≠ ']') : readElements ([] : List (Field ρ)) first record t = .error .malformed := by
  rw [readElements]
  split
  case h_1 heq => rw [h] at heq; cases heq
  case h_2 heq => rw [h] at heq; exact absurd (List.cons.inj heq).1 hc
  case h_3 => rfl

/-- **One element.** An element is read as what the next field makes of it. -/
theorem readElement_toOption (hfield : field.Means filling) {v : Tree} {t : Text}
    (hv : Spells v t) (hrest : Ends rest) :
    (readElement field fields record (t ++ rest)).toOption =
      (filling.fill record v).bind fun record =>
        (readElements fields false record rest).toOption := by
  rw [readElement, toOption_bind, ← List.nil_append (t ++ rest),
    hfield.2 record hv isGap_nil hrest]
  cases filling.fill record v <;> rfl

/-- **The elements of an array**, behind the blanks in front of the first. -/
theorem readElements_toOption (hfield : field.Means filling)
    (hfields : List.Forall₂ Field.Means fields fillings) {elements : List Tree}
    {inner later : Text} (h : SpellsElements elements inner)
    (hlater : skipBlanks (inner ++ ']' :: rest) = later) :
    (readElement field fields record later).toOption =
      (fillElements (filling :: fillings) record elements).map (·, rest) := by
  induction elements generalizing inner later record field filling fields fillings with
  | nil => cases h
  | cons v elements ih =>
      rw [fillElements]
      cases h with
      | @last v front t back hfront hv hback =>
          rw [List.append_assoc, List.append_assoc, hv.skipBlanks_eq hfront] at hlater
          rw [← hlater, readElement_toOption hfield hv (ends_bracket.behind_gap hback)]
          have hclose : skipBlanks (back ++ ']' :: rest) = ']' :: rest := by
            rw [skipBlanks_gap hback]
            rfl
          simp only [readElements_close hclose]
          cases filling.fill record v with
          | none => rfl
          | some record => cases fillings <;> rfl
      | @more v vs front t back inner hfront hv hback hmore =>
          rw [List.append_assoc, List.append_assoc, List.append_assoc, List.cons_append,
            hv.skipBlanks_eq hfront] at hlater
          rw [← hlater, readElement_toOption hfield hv (ends_comma.behind_gap hback)]
          have hcomma {t : Text} : skipBlanks (back ++ ',' :: t) = ',' :: t := by
            rw [skipBlanks_gap hback]
            rfl
          obtain ⟨c, later, hlater, hc⟩ := hmore.exists_cons (']' :: rest)
          have hgoOn (record : ρ) :
              (readElements fields false record
                (back ++ ',' :: (inner ++ ']' :: rest))).toOption =
              (fillElements fillings record elements).map (·, rest) := by
            cases hfields with
            | nil =>
                rw [readElements_many hcomma (by decide)]
                cases hmore <;> rfl
            | cons hfield hfields =>
                rw [readElements_comma hcomma hlater hc]
                exact ih hfield hfields hmore hlater
          simp only [hgoOn]
          cases filling.fill record v <;> rfl

/-- **The elements of an array fill the first fields in order.** -/
theorem readElements_array (hfields : List.Forall₂ Field.Means fields fillings)
    {elements : List Tree} {inner : Text} (h : SpellsElements elements inner) :
    (readElements fields true record (inner ++ ']' :: rest)).toOption =
      (fillElements fillings record elements).map (·, rest) := by
  obtain ⟨c, later, hlater, hc⟩ := h.exists_cons (']' :: rest)
  cases hfields with
  | nil =>
      rw [readElements_many hlater hc]
      cases h <;> rfl
  | cons hfield hfields =>
      rw [readElements_first hlater hc]
      exact readElements_toOption hfield hfields h hlater

/-! ### Whole records and texts -/

/-- **Records.** A record means what its fields make of the members of an object, or of the
elements of an array. -/
theorem means_readRecord (wanted : String) (hfields : List.Forall₂ Field.Means fields fillings)
    (default : ρ) : Means (readRecord wanted fields default) (fillRecord fillings default) := by
  intro v t gap rest h hgap hrest
  rw [readRecord, h.skipBlanks_eq hgap]
  cases h with
  | number hnumber =>
      split
      case h_1 heq => exact absurd heq (hnumber.ne_cons rfl (by decide))
      case h_2 heq => exact absurd heq (hnumber.ne_cons rfl (by decide))
      case h_3 => exact refuse_toOption _ _
  | @emptyArray inner hinner =>
      have hclose : skipBlanks (inner ++ [']'] ++ rest) = ']' :: rest := by
        rw [List.append_assoc, skipBlanks_gap hinner]
        rfl
      simp only [List.cons_append, readElements_close hclose]
      cases fillings <;> rfl
  | array helements =>
      simp only [List.cons_append, List.append_assoc, List.nil_append]
      exact readElements_array hfields helements
  | @emptyObject inner hinner =>
      have hclose : skipBlanks (inner ++ ['}'] ++ rest) = '}' :: rest := by
        rw [List.append_assoc, skipBlanks_gap hinner]
        rfl
      simp only [List.cons_append, readMembers_close hclose]
      rfl
  | object hmembers =>
      simp only [List.cons_append, List.append_assoc, List.nil_append]
      exact readMembers_object hfields hmembers
  | _ => exact refuse_toOption _ _

/-- **Whole texts.** A text that spells a value, with blanks around it, is read as the value. -/
theorem readAll_toOption {reader : Reader α} {meaning : Tree → Option α}
    (hreader : Means reader meaning) {v : Tree} {t front back : Text} (h : Spells v t)
    (hfront : IsGap front) (hback : IsGap back) :
    (readAll reader (front ++ (t ++ back))).toOption = meaning v := by
  have hends : Ends back := by
    rw [← List.append_nil back]
    exact ends_nil.behind_gap hback
  have hblank : skipBlanks back = [] := by
    rw [← List.append_nil back, skipBlanks_gap hback]
    rfl
  rw [readAll, toOption_bind, hreader h hfront hends]
  cases meaning v with
  | none => rfl
  | some a => simp [hblank, toOption_ok]

end ModalLex.Json
