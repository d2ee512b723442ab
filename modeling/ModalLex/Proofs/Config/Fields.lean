import ModalLex.Config.Json
import ModalLex.Proofs.Json.Meaning

/-!
# What Settings Mean in JSON

The settings are a record with a record in it. Each field has a value of its own type, so what the
readers of the fields make of a value says what a **well-typed** value is: a string that stands for
a text, a truth value, the name of a level or of a format. A name may also stand in an object, with
`null` for its value, and a stage may have `null` for a level.

`LexerConfig.ofJson_toOption` brings the readers of a text down to this: reading a text that spells
a value gives the settings that the value stands for (`LexerConfig.of?`), or a fault if it stands
for none.
-/

namespace ModalLex

open Json

/-- What a field makes of a value that its meaning takes. -/
def filling {ρ α : Type} (name : String) (meaning : Tree → Option α) (put : ρ → α → ρ) :
    Filling ρ where
  name := name
  fill record v := (meaning v).map (put record)

/-- A field takes what its reader means. -/
theorem means_field {ρ α : Type} {name : String} {reader : Reader α} {meaning : Tree → Option α}
    {put : ρ → α → ρ} (h : Means reader meaning) :
    (LogConfig.field name reader put).Means (filling name meaning put) := by
  refine ⟨rfl, fun record v t gap rest hv hgap hrest => ?_⟩
  rw [LogConfig.field, toOption_map, h hv hgap hrest]
  cases hm : meaning v <;> simp [filling, hm]

namespace LogConfig

/-- The level that a value names. -/
def level? : Tree → Option LogLevel := choice? levelChoices

/-- The level that a value names for a stage, where `null` stands for none. -/
def ownLevel? : Tree → Option (Option LogLevel) := optional? level?

/-- The format that a value names. -/
def format? : Tree → Option LogFormat := choice? formatChoices

/-- What the fields of the log settings make of values. -/
def fillings : List (Filling LogConfig) := [
  filling "global" level? fun c level => { c with global := level },
  filling "compiler" ownLevel? fun c level => { c with compiler := level },
  filling "resolver" ownLevel? fun c level => { c with resolver := level },
  filling "engine" ownLevel? fun c level => { c with engine := level },
  filling "format" format? fun c format => { c with format := format }]

/-- The log settings that a value stands for. -/
def of? : Tree → Option LogConfig := fillRecord fillings {}

theorem means_fields : List.Forall₂ Field.Means fields fillings :=
  .cons (means_field (means_readChoice _)) <|
    .cons (means_field (means_readOptional (means_readChoice _))) <|
    .cons (means_field (means_readOptional (means_readChoice _))) <|
    .cons (means_field (means_readOptional (means_readChoice _))) <|
    .cons (means_field (means_readChoice _)) .nil

/-- **What log settings in JSON mean.** -/
theorem means_reader : Means reader of? := means_readRecord _ means_fields _

end LogConfig

namespace LexerConfig

/-- What the fields of the settings make of values. -/
def fillings : List (Filling LexerConfig) := [
  filling "base_state" text? fun c name => { c with baseState := String.ofList name },
  filling "eager_compile" bool? fun c eager => { c with eagerCompile := eager },
  filling "log" LogConfig.of? fun c log => { c with log := log }]

/-- The settings that a value stands for. -/
def of? : Tree → Option LexerConfig := fillRecord fillings {}

theorem means_fields : List.Forall₂ Field.Means fields fillings :=
  .cons (means_field (means_readText _)) <|
    .cons (means_field means_readBool) <|
    .cons (means_field LogConfig.means_reader) .nil

/-- **Settings in a text.** A text that spells a value, with blanks around it, is read as the
settings that the value stands for. -/
theorem ofJson_toOption {v : Tree} {t front back : Text} (h : Spells v t) (hfront : IsGap front)
    (hback : IsGap back) : (ofJson (front ++ (t ++ back))).toOption = of? v :=
  readAll_toOption (means_readRecord _ means_fields _) h hfront hback

end LexerConfig

end ModalLex
