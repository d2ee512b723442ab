import Mathlib.Data.List.DropRight
import ModalLex.Proofs.Json.Grammar

/-!
# Scanning Strings, Numbers and Values

What a reader takes from a text that the grammar derives: a string up to its closing quote, a
number up to what ends it, and, where a value is skipped, all of it, however deep it is nested.

A string is read and skipped by two different functions. Reading asks for a text and fails on half
a character, skipping takes any codes; both stop at the same quote.
-/

namespace ModalLex.Json

variable {rest : Text}

/-! ### Strings -/

/-- The four digits of a code are read as its number. -/
theorem readHex4_code {n : Nat} {digits : Text} (h : HexCode n digits) :
    readHex4 (digits ++ rest) = .ok (n, rest) := by
  obtain ⟨a, b, c, d, w, x, y, z, rfl, ha, hb, hc, hd, rfl⟩ := h
  have hlength : ¬Text.byteLength (a :: b :: c :: d :: rest) < 4 := by
    have ha := a.utf8Size_pos
    have hb := b.utf8Size_pos
    have hc := c.utf8Size_pos
    have hd := d.utf8Size_pos
    simp only [Text.byteLength]
    omega
  simp only [readHex4, List.cons_append, List.nil_append, hlength, if_false, ha, hb, hc, hd]

/-- A letter behind a backslash is not the one that announces a code. -/
theorem ne_of_letterEscape? {c l : Char} (h : letterEscape? l = some c) : l ≠ 'u' := by
  rintro rfl
  cases h

/-- A character that needs no escape is read as itself. -/
theorem readChar?_plain {c : Char} (hcontrol : 0x20 ≤ c.toNat) (hquote : c ≠ '"')
    (hslash : c ≠ '\\') : readChar? (c :: rest) = .ok (some c, rest) := by
  have hnot : ¬c.toNat < 0x20 := by omega
  simp [readChar?, hslash, hnot]

/-- A letter behind a backslash is read as what it stands for. -/
theorem readChar?_letter {c l : Char} (h : letterEscape? l = some c) :
    readChar? ('\\' :: l :: rest) = .ok (some c, rest) := by
  have hl := ne_of_letterEscape? h
  simp [readChar?, h]

/-- **A character is read from either of its spellings.** -/
theorem readChar?_char {c : Char} {t : Text} (h : SpellsMark (.char c) t) :
    readChar? (t ++ rest) = .ok (some c, rest) := by
  cases h with
  | plain hcontrol hquote hslash => exact readChar?_plain hcontrol hquote hslash
  | letter hletter => exact readChar?_letter hletter

/-- A code is that of a character, or it is the first half of one and needs the second. -/
theorem readChar?_code {n : Nat} {digits : Text} (h : HexCode n digits) :
    readChar? ('\\' :: 'u' :: (digits ++ rest)) =
      if IsHigh n then (readLowSurrogate n rest).map fun (c, rest) => (some c, rest)
      else if IsLow n then .error .malformed
      else .ok (some (Char.ofNat n), rest) := by
  have hcode : readCode (digits ++ rest) =
      if IsHigh n then readLowSurrogate n rest
      else if IsLow n then .error .malformed
      else .ok (Char.ofNat n, rest) := by
    rw [readCode, readHex4_code h]
    rfl
  rw [readChar?, hcode]
  by_cases hhigh : IsHigh n
  · rw [if_pos hhigh, if_pos hhigh]
  · rw [if_neg hhigh, if_neg hhigh]
    by_cases hlow : IsLow n
    · rw [if_pos hlow, if_pos hlow]
      rfl
    · rw [if_neg hlow, if_neg hlow]
      rfl

/-- The second half of a character is a code as well. -/
theorem readLowSurrogate_code {high m : Nat} {digits : Text} (h : HexCode m digits) :
    readLowSurrogate high ('\\' :: 'u' :: (digits ++ rest)) =
      if IsLow m then .ok (joinHalves high m, rest) else .error .malformed := by
  rw [readLowSurrogate, readHex4_code h]
  rfl

/-- Where a string goes on otherwise, or ends, there is no second half. -/
theorem readLowSurrogate_error {high : Nat} {marks : List Mark} {body : Text}
    (h : SpellsString marks body) (hcode : ∀ m later, marks ≠ .code m :: later) :
    ∃ e, readLowSurrogate high (body ++ '"' :: rest) = .error e := by
  cases h with
  | nil => exact ⟨_, rfl⟩
  | cons hmark hrest =>
      cases hmark with
      | plain hcontrol hquote hslash =>
          refine ⟨.malformed, ?_⟩
          simp [readLowSurrogate, hslash]
      | letter hletter =>
          have hl := ne_of_letterEscape? hletter
          refine ⟨.malformed, ?_⟩
          simp [readLowSurrogate, hl]
      | code hdigits => exact absurd rfl (hcode _ _)

/-- A character that is read is the first of the string. -/
theorem toOption_readStringWithin_some {fuel : Nat} {t : Text} {c : Char}
    (h : readChar? t = .ok (some c, rest)) :
    (readStringWithin (fuel + 1) t).toOption =
      (readStringWithin fuel rest).toOption.map fun read => (c :: read.1, read.2) := by
  rw [readStringWithin, h]
  cases hread : readStringWithin fuel rest with
  | error e => simp [hread, Except.toOption]
  | ok read => simp [hread, Except.toOption]

/-- A string with a character that cannot be read cannot be read. -/
theorem toOption_readStringWithin_error {fuel : Nat} {t : Text} {e : ReadError}
    (h : readChar? t = .error e) : (readStringWithin (fuel + 1) t).toOption = none := by
  rw [readStringWithin, h]
  rfl

/-- What a string gives, behind a character. -/
theorem map_cons_map (c : Char) (s : Option Text) :
    (s.map (·, rest)).map (fun read => (c :: read.1, read.2)) = (s.map (c :: ·)).map (·, rest) := by
  cases s <;> rfl

/-- A string that begins with a code begins with its digits. -/
theorem SpellsString.of_code {n : Nat} {marks : List Mark} {body : Text}
    (h : SpellsString (.code n :: marks) body) :
    ∃ digits later, HexCode n digits ∧ SpellsString marks later ∧
      body = '\\' :: 'u' :: (digits ++ later) := by
  cases h with
  | cons hmark hrest =>
      cases hmark with
      | code hdigits => exact ⟨_, _, hdigits, hrest, rfl⟩

/-- An allowance for a mark more than there are leaves one behind the first. -/
theorem exists_allowance {mark : Mark} {marks : List Mark} {fuel : Nat}
    (h : (mark :: marks).length < fuel) : ∃ left, fuel = left + 1 ∧ marks.length < left := by
  rw [List.length_cons] at h
  exact ⟨fuel - 1, by omega, by omega⟩

/-- **Reading a string.** A string that the grammar derives is read up to its quote, and gives the
text it stands for. One that holds half of a character is refused. -/
theorem readStringWithin_toOption {marks : List Mark} {body : Text} (h : SpellsString marks body)
    {fuel : Nat} (hfuel : marks.length < fuel) :
    (readStringWithin fuel (body ++ '"' :: rest)).toOption = (textOf? marks).map (·, rest) := by
  fun_induction textOf? marks generalizing body fuel with
  | case1 =>
      obtain ⟨fuel, rfl⟩ : ∃ n, fuel = n + 1 := ⟨fuel - 1, by omega⟩
      cases h
      rfl
  | case2 marks c ih =>
      obtain ⟨left, rfl, hleft⟩ := exists_allowance hfuel
      cases h with
      | cons hmark hrest =>
          rw [List.append_assoc, toOption_readStringWithin_some (readChar?_char hmark),
            ih hrest hleft, map_cons_map]
  | case3 n hhigh m marks hlow ih =>
      obtain ⟨left, rfl, hleft⟩ := exists_allowance hfuel
      obtain ⟨digits, later, hdigits, hlater, rfl⟩ := h.of_code
      obtain ⟨digits', body, hdigits', hbody, rfl⟩ := hlater.of_code
      have hread : readChar? ('\\' :: 'u' :: (digits ++ '\\' :: 'u' :: (digits' ++ body) ++
          '"' :: rest)) = .ok (some (joinHalves n m), body ++ '"' :: rest) := by
        rw [List.append_assoc, readChar?_code hdigits, if_pos hhigh, List.cons_append,
          List.cons_append, List.append_assoc, readLowSurrogate_code hdigits', if_pos hlow]
        rfl
      rw [List.cons_append, List.cons_append, toOption_readStringWithin_some hread,
        ih hbody (by rw [List.length_cons] at hleft; omega), map_cons_map]
  | case4 n hhigh m marks hlow =>
      obtain ⟨left, rfl, -⟩ := exists_allowance hfuel
      obtain ⟨digits, later, hdigits, hlater, rfl⟩ := h.of_code
      obtain ⟨digits', body, hdigits', hbody, rfl⟩ := hlater.of_code
      have hread : readChar? ('\\' :: 'u' :: (digits ++ '\\' :: 'u' :: (digits' ++ body) ++
          '"' :: rest)) = .error .malformed := by
        rw [List.append_assoc, readChar?_code hdigits, if_pos hhigh, List.cons_append,
          List.cons_append, List.append_assoc, readLowSurrogate_code hdigits', if_neg hlow]
        rfl
      rw [List.cons_append, List.cons_append, toOption_readStringWithin_error hread]
      rfl
  | case5 n marks hhigh hcode =>
      obtain ⟨left, rfl, -⟩ := exists_allowance hfuel
      obtain ⟨digits, later, hdigits, hlater, rfl⟩ := h.of_code
      obtain ⟨e, he⟩ := readLowSurrogate_error hlater hcode
      have hread : readChar? ('\\' :: 'u' :: (digits ++ later ++ '"' :: rest)) = .error e := by
        rw [List.append_assoc, readChar?_code hdigits, if_pos hhigh, he]
        rfl
      rw [List.cons_append, List.cons_append, toOption_readStringWithin_error hread]
      rfl
  | case6 n marks hhigh hlow =>
      obtain ⟨left, rfl, -⟩ := exists_allowance hfuel
      obtain ⟨digits, later, hdigits, hlater, rfl⟩ := h.of_code
      have hread : readChar? ('\\' :: 'u' :: (digits ++ later ++ '"' :: rest)) =
          .error .malformed := by
        rw [List.append_assoc, readChar?_code hdigits, if_neg hhigh, if_pos hlow]
      rw [List.cons_append, List.cons_append, toOption_readStringWithin_error hread]
      rfl
  | case7 n marks hhigh hlow ih =>
      obtain ⟨left, rfl, hleft⟩ := exists_allowance hfuel
      obtain ⟨digits, later, hdigits, hlater, rfl⟩ := h.of_code
      have hread : readChar? ('\\' :: 'u' :: (digits ++ later ++ '"' :: rest)) =
          .ok (some (Char.ofNat n), later ++ '"' :: rest) := by
        rw [List.append_assoc, readChar?_code hdigits, if_neg hhigh, if_neg hlow]
      rw [List.cons_append, List.cons_append, toOption_readStringWithin_some hread,
        ih hlater hleft, map_cons_map]

/-- Every character of a string takes some text, so its length is allowance enough. -/
theorem SpellsMark.length_pos {mark : Mark} {t : Text} (h : SpellsMark mark t) :
    0 < t.length := by
  cases h <;> simp

/-- Every item of a string takes some room. -/
theorem SpellsString.length_le {marks : List Mark} {body : Text} (h : SpellsString marks body) :
    marks.length ≤ body.length := by
  induction h with
  | nil => exact Nat.le_refl _
  | cons hmark _ ih =>
      have hpos := hmark.length_pos
      rw [List.length_cons, List.length_append]
      omega

/-- **A string is read as the text that its characters make up**, if they make up one. -/
theorem readString_toOption {marks : List Mark} {body : Text} (h : SpellsString marks body) :
    (readString (body ++ '"' :: rest)).toOption = (textOf? marks).map (·, rest) := by
  have hle := h.length_le
  refine readStringWithin_toOption h ?_
  rw [List.length_append]
  omega

/-- **Skipping a string.** Any string that the grammar derives is skipped up to its quote. -/
theorem skipString_eq {marks : List Mark} {body : Text} (h : SpellsString marks body) {fuel : Nat}
    (hfuel : marks.length < fuel) : skipString fuel (body ++ '"' :: rest) = .ok rest := by
  induction h generalizing fuel with
  | nil =>
      obtain ⟨fuel, rfl⟩ : ∃ n, fuel = n + 1 := ⟨fuel - 1, by omega⟩
      rfl
  | @cons mark marks t body hmark _ ih =>
      obtain ⟨left, rfl, hleft⟩ := exists_allowance hfuel
      rw [List.append_assoc]
      cases hmark with
      | plain hcontrol hquote hslash =>
          have hnot : ¬Char.toNat _ < 0x20 := Nat.not_lt.mpr hcontrol
          simp [skipString, hslash, hnot, ih hleft]
      | letter hletter =>
          have hl := ne_of_letterEscape? hletter
          simp [skipString, hl, hletter, ih hleft]
      | code hdigits =>
          simp only [List.cons_append, skipString, if_true, readHex4_code hdigits, ih hleft]

/-! ### Numbers -/

/-- What ends a value does not go on as a number would. -/
theorem Ends.not_number (h : Ends rest) {c : Char} (hc : rest.head? = some c) :
    c.isDigit = false ∧ c ≠ '.' ∧ c ≠ 'e' ∧ c ≠ 'E' := by
  rcases h c hc with hblank | rfl | rfl | rfl
  · simp only [isBlank, Bool.or_eq_true, decide_eq_true_eq] at hblank
    rcases hblank with ((rfl | rfl) | rfl) | rfl <;> decide
  · decide
  · decide
  · decide

/-- Digits are read up to the first character that is none. -/
theorem readDigits_eq {digits : Text} (h : IsDigits digits)
    (hrest : ∀ c, rest.head? = some c → c.isDigit = false) :
    readDigits (digits ++ rest) = .ok (digits, rest) := by
  have htake : (digits ++ rest).takeWhile Char.isDigit = digits := by
    rw [List.takeWhile_append_of_pos h.2]
    cases rest with
    | nil => simp
    | cons c rest => simp [hrest c rfl]
  rw [readDigits, htake]
  obtain ⟨c, digits, rfl⟩ := List.exists_cons_of_ne_nil h.1
  simp

/-- The places of a number are read up to what ends them. -/
theorem readPlaces_eq {places more : Text} (h : IsPlaces places)
    (hmore : ∀ c, more.head? = some c → c.isDigit = false ∧ c ≠ '.') :
    ∃ digits, readPlaces (places ++ more) = .ok (digits, more) := by
  cases h with
  | none =>
      refine ⟨[], ?_⟩
      cases more with
      | nil => rfl
      | cons c more => simp [readPlaces, (hmore c rfl).2]
  | some hdigits => exact ⟨_, readDigits_eq hdigits fun c hc => (hmore c hc).1⟩

/-- Digits have no sign in front. -/
theorem readSign_digits {digits : Text} (h : IsDigits digits) :
    Decimal.readSign (digits ++ rest) = (false, digits ++ rest) := by
  obtain ⟨c, digits, rfl⟩ := List.exists_cons_of_ne_nil h.1
  have hdigit := h.2 c List.mem_cons_self
  have hminus : c ≠ '-' := by
    rintro rfl
    exact absurd hdigit (by decide)
  have hplus : c ≠ '+' := by
    rintro rfl
    exact absurd hdigit (by decide)
  simp [Decimal.readSign, hminus, hplus]

/-- So is its exponent. -/
theorem readExponent_eq {exponent : Text} (h : IsExponent exponent) (hrest : Ends rest) :
    ∃ n, readExponent (exponent ++ rest) = .ok (n, rest) := by
  have hdigits {digits : Text} (hd : IsDigits digits) :
      readDigits (digits ++ rest) = .ok (digits, rest) :=
    readDigits_eq hd fun c hc => (hrest.not_number hc).1
  cases h with
  | none =>
      cases rest with
      | nil => exact ⟨_, rfl⟩
      | cons c rest =>
          obtain ⟨-, -, he, hE⟩ := hrest.not_number rfl
          exact ⟨none, by simp only [List.nil_append, readExponent, he, hE, or_self, if_false]⟩
  | @plain _ digits he hd =>
      refine ⟨some (Decimal.digitsValue digits), ?_⟩
      simp only [List.cons_append, readExponent, he, if_true, readSign_digits hd, hdigits hd]
      rfl
  | @signed _ _ digits he hsign hd =>
      rcases hsign with rfl | rfl
      · refine ⟨some (Decimal.digitsValue digits), ?_⟩
        simp only [List.cons_append, readExponent, he, if_true, Decimal.readSign, hdigits hd]
        rfl
      · refine ⟨some (-Decimal.digitsValue digits), ?_⟩
        simp only [List.cons_append, readExponent, he, if_true, Decimal.readSign, hdigits hd]
        rfl

/-- What follows the places of a number is no digit and no point. -/
theorem IsExponent.head {exponent : Text} (h : IsExponent exponent) (hrest : Ends rest) {c : Char}
    (hc : (exponent ++ rest).head? = some c) : c.isDigit = false ∧ c ≠ '.' := by
  cases h with
  | none =>
      obtain ⟨hdigit, hpoint, -⟩ := hrest.not_number hc
      exact ⟨hdigit, hpoint⟩
  | plain he _ =>
      obtain rfl := Option.some.inj hc
      rcases he with rfl | rfl <;> decide
  | signed he _ _ =>
      obtain rfl := Option.some.inj hc
      rcases he with rfl | rfl <;> decide

/-- A number is read up to what ends it. -/
theorem readUnsigned_eq {t : Text} (h : IsUnsigned t) (hrest : Ends rest) (negative : Bool) :
    ∃ n, readUnsigned negative (t ++ rest) = .ok (n, rest) := by
  obtain ⟨hwhole, hplaces, hexponent⟩ := h
  rename_i whole places exponent
  obtain ⟨exp, hexp⟩ := readExponent_eq hexponent hrest
  obtain ⟨digits, hdigits⟩ := readPlaces_eq hplaces fun c hc => hexponent.head hrest hc
  have hmore : ∀ c, (places ++ (exponent ++ rest)).head? = some c → c.isDigit = false := by
    intro c hc
    cases hplaces with
    | none => exact (hexponent.head hrest hc).1
    | some _ =>
        obtain rfl := Option.some.inj hc
        decide
  have hzero : ¬(whole.head? = some '0' ∧ 1 < whole.length) := by
    rintro ⟨hhead, hlength⟩
    exact absurd (hwhole.2 hhead) (by omega)
  refine ⟨⟨negative, whole, digits, exp⟩, ?_⟩
  rw [List.append_assoc, List.append_assoc, readUnsigned, readDigits_eq hwhole.1 hmore]
  simp only [bind, Except.bind, hzero, if_false, hdigits, hexp]

/-- A number is skipped up to what ends it. -/
theorem skipNumber_eq {t : Text} (h : IsUnsigned t) (hrest : Ends rest) :
    skipNumber (t ++ rest) = .ok rest := by
  obtain ⟨n, hn⟩ := readUnsigned_eq h hrest false
  rw [skipNumber, hn]

/-- A number without a sign begins with a digit. -/
theorem IsUnsigned.exists_cons {t : Text} (h : IsUnsigned t) :
    ∃ c later, t = c :: later ∧ c.isDigit = true := by
  obtain ⟨hwhole, -, -⟩ := h
  obtain ⟨c, digits, rfl⟩ := List.exists_cons_of_ne_nil hwhole.1.1
  exact ⟨c, _, rfl, hwhole.1.2 c List.mem_cons_self⟩

/-! ### Values -/

/-- Where a skip stands, with the text in front of it, it gets to the end of the value or container
it is in, with as much allowance left as it needs for the rest. -/
def Passes (expected : Expected) (inside : List Container) (t : Text) (inside' : List Container)
    (rest : Text) : Prop :=
  ∀ fuel, t.length < fuel → ∃ left, rest.length < left ∧
    skipWithin fuel expected inside t = skipWithin left .more inside' rest

/-- What is behind a part of a text is shorter than the text. -/
theorem length_lt_behind (c : Char) (t rest : Text) : rest.length < (c :: (t ++ rest)).length := by
  rw [List.length_cons, List.length_append]
  omega

/-- A skip that takes one step and goes on from there. -/
theorem Passes.of_step {expected expected' : Expected} {inside inside' outside : List Container}
    {t t' : Text} (hshorter : t'.length < t.length)
    (hstep : ∀ fuel, skipWithin (fuel + 1) expected inside t = skipWithin fuel expected' inside' t')
    (h : Passes expected' inside' t' outside rest) : Passes expected inside t outside rest := by
  intro fuel hfuel
  obtain ⟨fuel, rfl⟩ : ∃ n, fuel = n + 1 := ⟨fuel - 1, by omega⟩
  rw [hstep]
  exact h fuel (by omega)

/-- Nothing is skipped in no steps. -/
theorem passes_self (inside : List Container) : Passes .more inside rest inside rest := by
  intro fuel hfuel
  exact ⟨fuel, hfuel, rfl⟩

/-- A skip that passes one part and then another. -/
theorem Passes.trans {expected : Expected} {inside inside' outside : List Container}
    {t t' : Text} (h : Passes expected inside t inside' t')
    (h' : Passes .more inside' t' outside rest) : Passes expected inside t outside rest := by
  intro fuel hfuel
  obtain ⟨left, hleft, heq⟩ := h fuel hfuel
  obtain ⟨left', hleft', heq'⟩ := h' left hleft
  exact ⟨left', hleft', heq.trans heq'⟩

variable {inside : List Container} {gap t t' : Text}

/-! ### One step of a skip -/

/-- Blanks make no difference to a skip, except behind the value that it is asked for. -/
theorem skipWithin_congr {expected : Expected} {fuel : Nat} (hblanks : skipBlanks t = skipBlanks t')
    (h : expected = .more → inside ≠ []) :
    skipWithin (fuel + 1) expected inside t = skipWithin (fuel + 1) expected inside t' := by
  cases expected with
  | value => rw [skipWithin, skipWithin, hblanks]
  | key => rw [skipWithin, skipWithin, hblanks]
  | more =>
      cases inside with
      | nil => exact absurd rfl (h rfl)
      | cons container inside =>
          rw [skipWithin.eq_def, skipWithin.eq_def (fuel + 1) .more _ t']
          simp only [hblanks]

/-- A skip that looks for the next part may as well start behind the blanks. -/
theorem skipWithin_skipBlanks {expected : Expected} {fuel : Nat} (h : expected ≠ .more) :
    skipWithin fuel expected inside (skipBlanks t) = skipWithin fuel expected inside t := by
  have hblanks : skipBlanks (skipBlanks t) = skipBlanks t := List.dropWhile_idempotent _ _
  cases fuel with
  | zero => rfl
  | succ fuel => exact skipWithin_congr hblanks fun hmore => absurd hmore h

/-- A value that begins with a quote is skipped as a string. -/
theorem skipWithin_string {fuel : Nat} : skipWithin (fuel + 1) .value inside ('"' :: t) =
    match skipString (t.length + 1) t with
    | .error e => .error e
    | .ok rest => skipWithin fuel .more inside rest := rfl

/-- A value that begins with a minus is skipped as a number. -/
theorem skipWithin_minus {fuel : Nat} : skipWithin (fuel + 1) .value inside ('-' :: t) =
    match skipNumber t with
    | .error e => .error e
    | .ok rest => skipWithin fuel .more inside rest := rfl

/-- A value that begins with a bracket is an array, which is over at once or open from here on. -/
theorem skipWithin_list {fuel : Nat} : skipWithin (fuel + 1) .value inside ('[' :: t) =
    match skipBlanks t with
    | ']' :: rest => skipWithin fuel .more inside rest
    | rest => skipWithin fuel .value (.list :: inside) rest := rfl

/-- A value that begins with a brace is an object, which is over at once or open from here on. -/
theorem skipWithin_object {fuel : Nat} : skipWithin (fuel + 1) .value inside ('{' :: t) =
    match skipBlanks t with
    | '}' :: rest => skipWithin fuel .more inside rest
    | rest => skipWithin fuel .key (.object :: inside) rest := rfl

/-- A key is a string. -/
theorem skipWithin_key {fuel : Nat} : skipWithin (fuel + 1) .key inside ('"' :: t) =
    match skipString (t.length + 1) t with
    | .error e => .error e
    | .ok rest =>
      match skipBlanks rest with
      | [] => .error .ended
      | ':' :: rest => skipWithin fuel .value inside rest
      | _ => .error .malformed := rfl

/-- A digit is no blank. -/
theorem isBlank_of_isDigit {c : Char} (h : c.isDigit = true) : isBlank c = false := by
  rw [Bool.eq_false_iff]
  intro hc
  simp only [isBlank, Bool.or_eq_true, decide_eq_true_eq] at hc
  rcases hc with ((rfl | rfl) | rfl) | rfl <;> exact absurd h (by decide)

/-- A value that begins with a digit is skipped as a number. -/
theorem skipWithin_digit {fuel : Nat} {c : Char} (h : c.isDigit = true) :
    skipWithin (fuel + 1) .value inside (c :: t) =
      match skipNumber (c :: t) with
      | .error e => .error e
      | .ok rest => skipWithin fuel .more inside rest := by
  rw [skipWithin, skipBlanks_cons (isBlank_of_isDigit h)]
  split
  case h_1 heq => cases heq
  case h_9 heq =>
    cases heq
    exact if_pos h
  all_goals -- no other value begins with a digit
    rename_i heq
    cases heq
    exact absurd h (by decide)

/-! ### Values -/

/-- Blanks in front are skipped, except behind the whole value, where nothing is expected. -/
theorem Passes.behind_gap {expected : Expected} {inside' : List Container} (hgap : IsGap gap)
    (h : expected = .more → inside ≠ []) (hp : Passes expected inside t inside' rest) :
    Passes expected inside (gap ++ t) inside' rest := by
  intro fuel hfuel
  rw [List.length_append] at hfuel
  obtain ⟨fuel, rfl⟩ : ∃ n, fuel = n + 1 := ⟨fuel - 1, by omega⟩
  rw [skipWithin_congr (skipBlanks_gap hgap) h]
  exact hp (fuel + 1) (by omega)

/-- A number is passed. -/
theorem passes_number {t : Text} (h : IsNumber t) (hrest : Ends rest) :
    Passes .value inside (t ++ rest) inside rest := by
  cases h with
  | positive ht =>
      have hskip := skipNumber_eq ht hrest
      obtain ⟨c, later, rfl, hdigit⟩ := ht.exists_cons
      rw [List.cons_append] at hskip
      refine .of_step (length_lt_behind _ _ _) (fun fuel => ?_) (passes_self inside)
      rw [List.cons_append, skipWithin_digit hdigit, hskip]
  | @negative t ht =>
      refine .of_step (length_lt_behind _ _ _) (fun fuel => ?_) (passes_self inside)
      rw [List.cons_append, skipWithin_minus, skipNumber_eq ht hrest]

/-- A string is passed. -/
theorem passes_string {marks : List Mark} {body : Text} (h : SpellsString marks body) :
    Passes .value inside ('"' :: (body ++ '"' :: rest)) inside rest := by
  have hshorter := Nat.lt_of_succ_lt (length_lt_behind '"' body ('"' :: rest))
  refine .of_step hshorter (fun fuel => ?_) (passes_self inside)
  have hle := h.length_le
  have hskip : skipString ((body ++ '"' :: rest).length + 1) (body ++ '"' :: rest) = .ok rest :=
    skipString_eq h (by rw [List.length_append]; omega)
  rw [skipWithin_string, hskip]

/-- A name is passed with its colon, up to a value with blanks in front. -/
theorem passes_name {name : List Mark} {key : Text} (h : SpellsName name key)
    {outside : List Container}
    (hv : ∀ gap, IsGap gap → Passes .value inside (gap ++ t) outside rest) :
    Passes .key inside (key ++ t) outside rest := by
  cases h with
  | @mk front body middle back hfront hbody hmiddle hback =>
      simp only [List.append_assoc, List.cons_append]
      refine .behind_gap hfront (by simp) ?_
      refine .of_step ?_ (fun fuel => ?_) (hv back hback)
      · simp only [List.length_append, List.length_cons]
        omega
      · have hle := hbody.length_le
        have hskip : skipString ((body ++ '"' :: (middle ++ ':' :: (back ++ t))).length + 1)
            (body ++ '"' :: (middle ++ ':' :: (back ++ t))) = .ok (middle ++ ':' :: (back ++ t)) :=
          skipString_eq hbody (by rw [List.length_append]; omega)
        have hcolon : skipBlanks (middle ++ ':' :: (back ++ t)) = ':' :: (back ++ t) := by
          rw [skipBlanks_gap hmiddle]
          rfl
        rw [skipWithin_key, hskip]
        simp only [hcolon]

/-- What a value begins with: not a blank, and no bracket that would close what is around it. -/
theorem Spells.exists_cons {v : Tree} {t : Text} (h : Spells v t) :
    ∃ c later, t = c :: later ∧ isBlank c = false ∧ c ≠ ']' := by
  cases h with
  | null => exact ⟨_, _, rfl, rfl, by decide⟩
  | boolTrue => exact ⟨_, _, rfl, rfl, by decide⟩
  | boolFalse => exact ⟨_, _, rfl, rfl, by decide⟩
  | number hnumber =>
      cases hnumber with
      | negative _ => exact ⟨_, _, rfl, rfl, by decide⟩
      | positive ht =>
          obtain ⟨c, later, rfl, hdigit⟩ := ht.exists_cons
          refine ⟨c, later, rfl, isBlank_of_isDigit hdigit, ?_⟩
          rintro rfl
          exact absurd hdigit (by decide)
  | string _ => exact ⟨_, _, rfl, rfl, by decide⟩
  | emptyArray _ => exact ⟨_, _, rfl, rfl, by decide⟩
  | array _ => exact ⟨_, _, rfl, rfl, by decide⟩
  | emptyObject _ => exact ⟨_, _, rfl, rfl, by decide⟩
  | object _ => exact ⟨_, _, rfl, rfl, by decide⟩

/-- Behind blanks, a value is what stands in front. -/
theorem Spells.skipBlanks_eq {v : Tree} {t front : Text} (h : Spells v t) (hfront : IsGap front)
    (rest : Text) : skipBlanks (front ++ (t ++ rest)) = t ++ rest := by
  obtain ⟨c, later, rfl, hblank, -⟩ := h.exists_cons
  rw [skipBlanks_gap hfront, List.cons_append, skipBlanks_cons hblank]

/-- The elements of an array that has some do not begin with its bracket. -/
theorem SpellsElements.exists_cons {elements : List Tree} {inner : Text}
    (h : SpellsElements elements inner) (rest : Text) :
    ∃ c later, skipBlanks (inner ++ rest) = c :: later ∧ c ≠ ']' := by
  have hvalue {v : Tree} {front t : Text} (hfront : IsGap front) (hv : Spells v t) (more : Text) :
      ∃ c later, skipBlanks (front ++ (t ++ more)) = c :: later ∧ c ≠ ']' := by
    rw [hv.skipBlanks_eq hfront]
    obtain ⟨c, later, rfl, -, hc⟩ := hv.exists_cons
    exact ⟨c, later ++ more, rfl, hc⟩
  cases h with
  | last hfront hv _ =>
      rw [List.append_assoc, List.append_assoc]
      exact hvalue hfront hv _
  | more hfront hv _ _ =>
      rw [List.append_assoc, List.append_assoc]
      exact hvalue hfront hv _

/-- A name, behind the blanks in front of it. -/
theorem SpellsName.exists_body {name : List Mark} {key : Text} (h : SpellsName name key) :
    ∃ body middle back, SpellsString name body ∧ IsGap middle ∧ IsGap back ∧
      ∀ t, skipBlanks (key ++ t) = '"' :: (body ++ '"' :: (middle ++ ':' :: (back ++ t))) := by
  obtain ⟨hfront, hbody, hmiddle, hback⟩ := h
  refine ⟨_, _, _, hbody, hmiddle, hback, fun t => ?_⟩
  rw [List.append_assoc, skipBlanks_gap hfront, List.cons_append, skipBlanks_cons rfl]
  simp only [List.append_assoc, List.cons_append]

/-- The members of an object that has some begin with a quote. -/
theorem SpellsMembers.exists_cons {members : List (List Mark × Tree)} {inner : Text}
    (h : SpellsMembers members inner) (rest : Text) :
    ∃ later, skipBlanks (inner ++ rest) = '"' :: later := by
  cases h with
  | last hname _ _ =>
      obtain ⟨_, _, _, -, -, -, hkey⟩ := hname.exists_body
      rw [List.append_assoc]
      exact ⟨_, hkey _⟩
  | more hname _ _ _ =>
      obtain ⟨_, _, _, -, -, -, hkey⟩ := hname.exists_body
      rw [List.append_assoc]
      exact ⟨_, hkey _⟩

/-- An array with elements: what stands behind its bracket is its first element. -/
theorem passes_list {outside : List Container} {c : Char} {later : Text}
    (hlater : skipBlanks t = c :: later) (hc : c ≠ ']')
    (h : Passes .value (.list :: inside) t outside rest) :
    Passes .value inside ('[' :: t) outside rest := by
  refine .of_step (by simp) (fun fuel => ?_) h
  rw [skipWithin_list]
  split
  case h_1 heq =>
    rw [hlater] at heq
    exact absurd (List.cons.inj heq).1 hc
  case h_2 => exact skipWithin_skipBlanks (by simp)

/-- An array without elements is passed, with the blanks in it. -/
theorem passes_emptyList (h : IsGap gap) :
    Passes .value inside ('[' :: (gap ++ ']' :: rest)) inside rest := by
  have hshorter := Nat.lt_of_succ_lt (length_lt_behind '[' gap (']' :: rest))
  refine .of_step hshorter (fun fuel => ?_) (passes_self inside)
  rw [skipWithin_list, skipBlanks_gap h]
  rfl

/-- An object with members: what stands behind its brace is its first name. -/
theorem passes_object {outside : List Container} {later : Text}
    (hlater : skipBlanks t = '"' :: later)
    (h : Passes .key (.object :: inside) t outside rest) :
    Passes .value inside ('{' :: t) outside rest := by
  refine .of_step (by simp) (fun fuel => ?_) h
  rw [skipWithin_object]
  split
  case h_1 heq =>
    rw [hlater] at heq
    cases heq
  case h_2 => exact skipWithin_skipBlanks (by simp)

/-- So is an object without members. -/
theorem passes_emptyObject (h : IsGap gap) :
    Passes .value inside ('{' :: (gap ++ '}' :: rest)) inside rest := by
  have hshorter := Nat.lt_of_succ_lt (length_lt_behind '{' gap ('}' :: rest))
  refine .of_step hshorter (fun fuel => ?_) (passes_self inside)
  rw [skipWithin_object, skipBlanks_gap h]
  rfl

/-- The whole of a value is passed, with the blanks in front of it. The induction goes along with
the grammar: elements are passed up to the bracket that closes the array, and members up to the
brace. -/
theorem passes_value {v : Tree} {t : Text} (h : Spells v t) :
    ∀ {gap rest : Text} {inside : List Container}, IsGap gap → Ends rest →
      Passes .value inside (gap ++ (t ++ rest)) inside rest := by
  refine @Spells.rec
    (fun _ t _ => ∀ {gap rest : Text} {inside : List Container}, IsGap gap → Ends rest →
      Passes .value inside (gap ++ (t ++ rest)) inside rest)
    (fun _ inner _ => ∀ {rest : Text} {inside : List Container},
      Passes .value (.list :: inside) (inner ++ ']' :: rest) inside rest)
    (fun _ inner _ => ∀ {rest : Text} {inside : List Container},
      Passes .key (.object :: inside) (inner ++ '}' :: rest) inside rest)
    ?null ?boolTrue ?boolFalse ?number ?string ?emptyArray ?array ?emptyObject ?object
    ?lastElement ?moreElements ?lastMember ?moreMembers v t h
  case null =>
    intro gap rest inside hgap _
    refine .behind_gap hgap (by simp) ?_
    exact .of_step (length_lt_behind _ _ _) (fun fuel => rfl) (passes_self inside)
  case boolTrue =>
    intro gap rest inside hgap _
    refine .behind_gap hgap (by simp) ?_
    exact .of_step (length_lt_behind _ _ _) (fun fuel => rfl) (passes_self inside)
  case boolFalse =>
    intro gap rest inside hgap _
    refine .behind_gap hgap (by simp) ?_
    exact .of_step (length_lt_behind _ _ _) (fun fuel => rfl) (passes_self inside)
  case number =>
    intro literal hnumber gap rest inside hgap hrest
    exact (passes_number hnumber hrest).behind_gap hgap (by simp)
  case string =>
    intro marks body hbody gap rest inside hgap _
    rw [List.cons_append, List.append_assoc]
    exact (passes_string hbody).behind_gap hgap (by simp)
  case emptyArray =>
    intro gap' hgap' gap rest inside hgap _
    rw [List.cons_append, List.append_assoc]
    exact (passes_emptyList hgap').behind_gap hgap (by simp)
  case array =>
    intro elements inner helements ih gap rest inside hgap _
    obtain ⟨c, later, hlater, hc⟩ := helements.exists_cons (']' :: rest)
    rw [List.cons_append, List.append_assoc]
    exact (passes_list hlater hc ih).behind_gap hgap (by simp)
  case emptyObject =>
    intro gap' hgap' gap rest inside hgap _
    rw [List.cons_append, List.append_assoc]
    exact (passes_emptyObject hgap').behind_gap hgap (by simp)
  case object =>
    intro members inner hmembers ih gap rest inside hgap _
    obtain ⟨later, hlater⟩ := hmembers.exists_cons ('}' :: rest)
    rw [List.cons_append, List.append_assoc]
    exact (passes_object hlater ih).behind_gap hgap (by simp)
  case lastElement =>
    intro v front t back hfront _ hback ih rest inside
    rw [List.append_assoc, List.append_assoc]
    refine (ih hfront (ends_bracket.behind_gap hback)).trans (.behind_gap hback (by simp) ?_)
    exact .of_step (by simp) (fun fuel => rfl) (passes_self inside)
  case moreElements =>
    intro v vs front t back inner hfront _ hback _ ih ihmore rest inside
    rw [List.append_assoc, List.append_assoc, List.append_assoc, List.cons_append]
    refine (ih hfront (ends_comma.behind_gap hback)).trans (.behind_gap hback (by simp) ?_)
    exact .of_step (by simp) (fun fuel => rfl) ihmore
  case lastMember =>
    intro name v key t back hname _ hback ih rest inside
    rw [List.append_assoc, List.append_assoc]
    refine passes_name hname fun gap hgap => ?_
    refine (ih hgap (ends_brace.behind_gap hback)).trans (.behind_gap hback (by simp) ?_)
    exact .of_step (by simp) (fun fuel => rfl) (passes_self inside)
  case moreMembers =>
    intro name v members key t back inner hname _ hback _ ih ihmore rest inside
    rw [List.append_assoc, List.append_assoc, List.append_assoc, List.cons_append]
    refine passes_name hname fun gap hgap => ?_
    refine (ih hgap (ends_comma.behind_gap hback)).trans (.behind_gap hback (by simp) ?_)
    exact .of_step (by simp) (fun fuel => rfl) ihmore

/-- **Skipping a value.** Any value that the grammar derives is skipped, whatever it is, and no
more than it. -/
theorem skipValue_eq {v : Tree} (h : Spells v t) (hgap : IsGap gap) (hrest : Ends rest) :
    skipValue (gap ++ (t ++ rest)) = .ok rest := by
  obtain ⟨left, hleft, heq⟩ := passes_value h hgap hrest _ (Nat.lt_add_of_pos_right Nat.two_pos)
  obtain ⟨left, rfl⟩ : ∃ n, left = n + 1 := ⟨left - 1, by omega⟩
  rw [skipValue, heq]
  rfl

end ModalLex.Json
