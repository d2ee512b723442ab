import ModalLex.Proofs.Config.Fields
import ModalLex.Proofs.Json.Writing

/-!
# Settings Written and Read Again

What `LexerConfig.toJson` writes is a JSON text (`LexerConfig.spells_toJson`), an object with all
settings, and **reading it gives the settings that were written**, whatever they are. The two sides
meet in the value that the text spells (`LexerConfig.tree`): writing is followed from the settings
to the value line by line, and reading from the value to the settings field by field. Neither
direction looks at the text of the other.

The name of the base state may hold any characters. That a written string stands for the text that
was to be written is `Json.textOf?_marksOf`.
-/

namespace ModalLex

open Json

/-! ### What is written -/

/-- An optional level as a value. -/
def LogConfig.ownTree : Option LogLevel → Tree
  | none => .null
  | some level => .string (marksOf level.name.toList)

/-- The log settings as a value. -/
def LogConfig.tree (config : LogConfig) : Tree := .object [
  (marksOf "global".toList, .string (marksOf config.global.name.toList)),
  (marksOf "compiler".toList, ownTree config.compiler),
  (marksOf "resolver".toList, ownTree config.resolver),
  (marksOf "engine".toList, ownTree config.engine),
  (marksOf "format".toList, .string (marksOf config.format.name.toList))]

/-- The settings as a value. -/
def LexerConfig.tree (config : LexerConfig) : Tree := .object [
  (marksOf "base_state".toList, .string (marksOf config.baseState.toList)),
  (marksOf "eager_compile".toList, .bool config.eagerCompile),
  (marksOf "log".toList, config.log.tree)]

/-! ### Writing -/

namespace LogConfig

variable {v : Tree} {value gap inner : Text} {members : List (List Mark × Tree)}

/-- The beginning of a line, up to the value. -/
def lineStart (indent : Nat) (name : String) : Text :=
  '\n' :: (List.replicate indent ' ' ++
    '"' :: (name.toList.flatMap escapeChar ++ '"' :: ([] ++ ':' :: [' '])))

/-- A line begins with blanks and a name that is written as a key. -/
theorem spells_lineStart (indent : Nat) (name : String) :
    SpellsName (marksOf name.toList) (lineStart indent name) := by
  have hfront : IsGap ('\n' :: List.replicate indent ' ') := by
    intro c hc
    rcases List.mem_cons.mp hc with rfl | hc
    · rfl
    · rw [List.eq_of_mem_replicate hc]
      rfl
  exact .mk hfront (spells_marksOf _) isGap_nil (by decide)

/-- The line of the last member, with the line break in front of it. -/
theorem spells_lastLine (indent : Nat) (name : String) (hv : Spells v value) (hgap : IsGap gap) :
    SpellsMembers [(marksOf name.toList, v)]
      ('\n' :: (member indent name value true ++ gap)) := by
  have hline : '\n' :: (member indent name value true ++ gap) =
      lineStart indent name ++ (value ++ ('\n' :: gap)) := by
    simp [member, lineStart, writeString]
  have hback : IsGap ('\n' :: gap) := by
    intro c hc
    rcases List.mem_cons.mp hc with rfl | hc
    · rfl
    · exact hgap c hc
  rw [hline]
  exact .last (spells_lineStart indent name) hv hback

/-- The line of a member and the lines behind it. -/
theorem spells_line (indent : Nat) (name : String) (hv : Spells v value)
    (hmore : SpellsMembers members ('\n' :: inner)) :
    SpellsMembers ((marksOf name.toList, v) :: members)
      ('\n' :: (member indent name value false ++ inner)) := by
  have hline : '\n' :: (member indent name value false ++ inner) =
      lineStart indent name ++ (value ++ ([] ++ ',' :: '\n' :: inner)) := by
    simp [member, lineStart, writeString]
  rw [hline]
  exact .more (spells_lineStart indent name) hv isGap_nil hmore

/-- The level of a stage is written as a name, or as `null` where the stage has none. -/
theorem spells_ownToJson (level : Option LogLevel) : Spells (ownTree level) (ownToJson level) := by
  cases level with
  | none => exact .null
  | some level => exact spells_writeString _

/-- **The log settings are written as their value.** -/
theorem spells_toJson (config : LogConfig) : Spells config.tree config.toJson := by
  have htext : config.toJson = '{' :: ('\n' ::
      (member 4 "global" (writeString config.global.name.toList) false ++
        (member 4 "compiler" (ownToJson config.compiler) false ++
          (member 4 "resolver" (ownToJson config.resolver) false ++
            (member 4 "engine" (ownToJson config.engine) false ++
              (member 4 "format" (writeString config.format.name.toList) true ++
                [' ', ' ']))))) ++ ['}']) := by
    simp only [toJson, List.append_assoc, List.cons_append, List.nil_append]
    rfl
  rw [htext]
  exact .object <|
    spells_line 4 "global" (spells_writeString _) <|
    spells_line 4 "compiler" (spells_ownToJson _) <|
    spells_line 4 "resolver" (spells_ownToJson _) <|
    spells_line 4 "engine" (spells_ownToJson _) <|
    spells_lastLine 4 "format" (spells_writeString _) (by decide)

end LogConfig

/-- **The settings are written as their value.** -/
theorem LexerConfig.spells_toJson (config : LexerConfig) : Spells config.tree config.toJson := by
  have htext : config.toJson = '{' :: ('\n' ::
      (LogConfig.member 2 "base_state" (writeString config.baseState.toList) false ++
        (LogConfig.member 2 "eager_compile"
            (if config.eagerCompile then "true".toList else "false".toList) false ++
          (LogConfig.member 2 "log" config.log.toJson true ++ []))) ++ ['}']) := by
    simp only [toJson, List.append_assoc, List.cons_append, List.nil_append]
  have heager : Spells (.bool config.eagerCompile)
      (if config.eagerCompile then "true".toList else "false".toList) := by
    cases config.eagerCompile with
    | true => exact .boolTrue
    | false => exact .boolFalse
  rw [htext]
  exact .object <|
    LogConfig.spells_line 2 "base_state" (spells_writeString _) <|
    LogConfig.spells_line 2 "eager_compile" heager <|
    LogConfig.spells_lastLine 2 "log" config.log.spells_toJson isGap_nil

/-! ### Reading -/

/-- A written member fills the field with its name. -/
theorem fillMembers_written {ρ : Type} {fillings : List (Filling ρ)} {seen : List String}
    {record next : ρ} {name : String} {filling : Filling ρ} {v : Tree}
    {members : List (List Mark × Tree)}
    (hfind : fillings.find? (fun filling => filling.name = name) = some filling)
    (hseen : seen.contains name = false) (hfill : filling.fill record v = some next) :
    fillMembers fillings seen record ((marksOf name.toList, v) :: members) =
      fillMembers fillings (name :: seen) next members := by
  have hpacked := String.ofList_toList (s := name)
  have hfresh : ¬seen.contains (String.ofList name.toList) = true := by
    rw [hpacked, hseen]
    exact Bool.false_ne_true
  rw [fillMembers_field (textOf?_marksOf _) (by rwa [hpacked]) hfresh, hfill, hpacked]
  rfl

/-- What is written for a setting gives the setting. -/
theorem filling_written {ρ α : Type} {name : String} {meaning : Tree → Option α}
    {put : ρ → α → ρ} {v : Tree} {a : α} (h : meaning v = some a) (record : ρ) :
    (filling name meaning put).fill record v = some (put record a) :=
  congrArg (Option.map (put record)) h

namespace LogConfig

/-- A level is read back from its name. -/
theorem level?_written (level : LogLevel) :
    level? (.string (marksOf level.name.toList)) = some level := by
  rw [level?, choice?, textOf?_marksOf]
  cases level <;> rfl

/-- A format is read back from its name. -/
theorem format?_written (format : LogFormat) :
    format? (.string (marksOf format.name.toList)) = some format := by
  rw [format?, choice?, textOf?_marksOf]
  cases format <;> rfl

/-- The level of a stage is read back, also if there is none. -/
theorem ownLevel?_written (level : Option LogLevel) : ownLevel? (ownTree level) = some level := by
  cases level with
  | none => rfl
  | some level =>
      rw [ownLevel?, ownTree, optional?, level?_written]
      · rfl
      · simp

/-- **Log settings come back from their value.** -/
theorem of?_tree (config : LogConfig) : of? config.tree = some config := by
  rw [of?, tree, fillRecord]
  rw [fillMembers_written rfl rfl (filling_written (level?_written _) _),
    fillMembers_written rfl rfl (filling_written (ownLevel?_written _) _),
    fillMembers_written rfl rfl (filling_written (ownLevel?_written _) _),
    fillMembers_written rfl rfl (filling_written (ownLevel?_written _) _),
    fillMembers_written rfl rfl (filling_written (format?_written _) _)]
  rfl

end LogConfig

namespace LexerConfig

/-- **Settings come back from their value.** -/
theorem of?_tree (config : LexerConfig) : of? config.tree = some config := by
  have heager : bool? (.bool config.eagerCompile) = some config.eagerCompile := rfl
  have hname : text? (.string (marksOf config.baseState.toList)) = some config.baseState.toList :=
    textOf?_marksOf _
  rw [of?, tree, fillRecord]
  rw [fillMembers_written rfl rfl (filling_written hname _),
    fillMembers_written rfl rfl (filling_written heager _),
    fillMembers_written rfl rfl (filling_written (LogConfig.of?_tree _) _),
    String.ofList_toList]
  rfl

/-- **Settings are read as they were written.** What is written is a JSON text, and reading it
succeeds and gives the same settings. -/
theorem ofJson_toJson (config : LexerConfig) :
    Spells config.tree config.toJson ∧ ofJson config.toJson = .ok config := by
  have hspells := config.spells_toJson
  have hread := ofJson_toOption hspells isGap_nil isGap_nil
  rw [List.nil_append, List.append_nil, of?_tree] at hread
  refine ⟨hspells, ?_⟩
  cases h : ofJson config.toJson with
  | ok read =>
      rw [h] at hread
      rw [Option.some.inj hread]
  | error e =>
      rw [h] at hread
      cases hread

end LexerConfig

end ModalLex
