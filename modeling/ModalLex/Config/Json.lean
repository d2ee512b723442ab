import ModalLex.Config.Basic
import ModalLex.Json.Reader
import ModalLex.Json.Writer

/-!
# Settings in JSON

Settings are written as an object with all fields, indented by two blanks, and read from an
object with any of them or from an array with the first few. What is not given has its default.
-/

namespace ModalLex

namespace LogConfig

/-- The levels by name. -/
def levelChoices : List (String × LogLevel) := LogLevel.all.map fun level => (level.name, level)

/-- The formats by name. -/
def formatChoices : List (String × LogFormat) :=
  LogFormat.all.map fun format => (format.name, format)

/-- Reads a level. -/
def readLevel : Json.Reader LogLevel := Json.readChoice levelChoices

/-- A field that holds what a reader reads. -/
def field {ρ α : Type} (name : String) (reader : Json.Reader α) (put : ρ → α → ρ) :
    Json.Field ρ where
  name := name
  read record t := (reader t).map fun (a, rest) => (put record a, rest)

/-- The fields of the log settings. -/
def fields : List (Json.Field LogConfig) := [
  field "global" readLevel fun c level => { c with global := level },
  field "compiler" (Json.readOptional readLevel) fun c level => { c with compiler := level },
  field "resolver" (Json.readOptional readLevel) fun c level => { c with resolver := level },
  field "engine" (Json.readOptional readLevel) fun c level => { c with engine := level },
  field "format" (Json.readChoice formatChoices) fun c format => { c with format := format }]

/-- Reads log settings. -/
def reader : Json.Reader LogConfig := Json.readRecord "struct LogConfig" fields {}

/-- The log settings in a JSON text. -/
def ofJson (text : Text) : Except Json.ReadError LogConfig := Json.readAll reader text

/-- An optional level in JSON. -/
def ownToJson : Option LogLevel → Text
  | none => "null".toList
  | some level => Json.writeString level.name.toList

/-- One line of an indented object. -/
def member (indent : Nat) (name : String) (value : Text) (last : Bool) : Text :=
  List.replicate indent ' ' ++ Json.writeString name.toList ++ ": ".toList ++ value ++
    (if last then ['\n'] else [',', '\n'])

/-- The log settings as an object inside an object. -/
def toJson (config : LogConfig) : Text :=
  ['{', '\n'] ++
    member 4 "global" (Json.writeString config.global.name.toList) false ++
    member 4 "compiler" (ownToJson config.compiler) false ++
    member 4 "resolver" (ownToJson config.resolver) false ++
    member 4 "engine" (ownToJson config.engine) false ++
    member 4 "format" (Json.writeString config.format.name.toList) true ++
    "  ".toList ++ ['}']

end LogConfig

namespace LexerConfig

/-- The fields of the settings. -/
def fields : List (Json.Field LexerConfig) := [
  LogConfig.field "base_state" (Json.readText "a string")
    fun c name => { c with baseState := String.ofList name },
  LogConfig.field "eager_compile" Json.readBool fun c eager => { c with eagerCompile := eager },
  LogConfig.field "log" LogConfig.reader fun c log => { c with log := log }]

/-- Reads settings. -/
def reader : Json.Reader LexerConfig := Json.readRecord "struct LexerConfig" fields {}

/-- The settings in a JSON text. -/
def ofJson (text : Text) : Except Json.ReadError LexerConfig := Json.readAll reader text

/-- The settings as a JSON text. -/
def toJson (config : LexerConfig) : Text :=
  ['{', '\n'] ++
    LogConfig.member 2 "base_state" (Json.writeString config.baseState.toList) false ++
    LogConfig.member 2 "eager_compile"
      (if config.eagerCompile then "true".toList else "false".toList) false ++
    LogConfig.member 2 "log" config.log.toJson true ++ ['}']

end LexerConfig

end ModalLex
