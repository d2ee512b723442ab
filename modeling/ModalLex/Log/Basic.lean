/-!
# Log settings

What is logged is set by a level for everything and, for each of the three stages of the lexer,
perhaps a level of its own. Levels are ordered by how much they let through.
-/

namespace ModalLex

/-- How much is logged. As the level of an event, how important it is. -/
inductive LogLevel where
  | off
  | error
  | warn
  | info
  | debug
  | trace
deriving DecidableEq, Repr, Inhabited

namespace LogLevel

/-- The levels from the least to the most talkative. -/
def all : List LogLevel := [.off, .error, .warn, .info, .debug, .trace]

/-- The name of a level in settings. -/
def name : LogLevel → String
  | .off => "off"
  | .error => "error"
  | .warn => "warn"
  | .info => "info"
  | .debug => "debug"
  | .trace => "trace"

/-- The place of a level in their order. -/
def rank : LogLevel → Nat
  | .off => 0
  | .error => 1
  | .warn => 2
  | .info => 3
  | .debug => 4
  | .trace => 5

/-- Whether an event of one level passes a filter of another. Nothing passes `off`. -/
def passes (event filter : LogLevel) : Bool :=
  decide (event.rank ≤ filter.rank) && decide (0 < filter.rank)

/-- The constructor of a level, as shown in a description. -/
def describe : LogLevel → String
  | .off => "Off"
  | .error => "Error"
  | .warn => "Warn"
  | .info => "Info"
  | .debug => "Debug"
  | .trace => "Trace"

end LogLevel

/-- How a log line is written. -/
inductive LogFormat where
  | pretty
  | compact
  | json
deriving DecidableEq, Repr, Inhabited

namespace LogFormat

/-- All formats. -/
def all : List LogFormat := [.pretty, .compact, .json]

/-- The name of a format in settings. -/
def name : LogFormat → String
  | .pretty => "pretty"
  | .compact => "compact"
  | .json => "json"

/-- The constructor of a format, as shown in a description. -/
def describe : LogFormat → String
  | .pretty => "Pretty"
  | .compact => "Compact"
  | .json => "Json"

end LogFormat

/-- The stages of the lexer that have a log level of their own. -/
inductive Stage where
  | compiler
  | resolver
  | engine
deriving DecidableEq, Repr

namespace Stage

/-- All stages. -/
def all : List Stage := [.compiler, .resolver, .engine]

/-- The name of a stage. -/
def name : Stage → String
  | .compiler => "compiler"
  | .resolver => "resolver"
  | .engine => "engine"

/-- The target that the events of a stage are addressed to. -/
def target (stage : Stage) : String := "statelex::" ++ stage.name

end Stage

/-- Settings of the log. -/
structure LogConfig where
  global : LogLevel := .warn
  compiler : Option LogLevel := none
  resolver : Option LogLevel := none
  engine : Option LogLevel := none
  format : LogFormat := .compact
deriving DecidableEq, Repr, Inhabited

namespace LogConfig

/-- The level that a stage has for itself. -/
def own (config : LogConfig) : Stage → Option LogLevel
  | .compiler => config.compiler
  | .resolver => config.resolver
  | .engine => config.engine

/-- The level of a stage: its own, or else that of everything. -/
def levelFor (config : LogConfig) (stage : Stage) : LogLevel :=
  (config.own stage).getD config.global

/-- An optional level, as shown in a description. -/
def describeOwn : Option LogLevel → String
  | none => "None"
  | some level => "Some(" ++ level.describe ++ ")"

/-- The settings, as shown in a description. -/
def describe (config : LogConfig) : String :=
  "LogConfig \x7b global: " ++ config.global.describe ++
    ", compiler: " ++ describeOwn config.compiler ++
    ", resolver: " ++ describeOwn config.resolver ++
    ", engine: " ++ describeOwn config.engine ++
    ", format: " ++ config.format.describe ++ " \x7d"

end LogConfig

/-! ### Filters -/

/-- A filter sends an event to the level of the longest target that begins the event's target,
and to a default level if there is none. -/
structure LogFilter where
  directives : List (String × LogLevel)
  default : LogLevel
deriving DecidableEq, Repr

namespace LogFilter

/-- The filter of some settings: one directive for each stage. -/
def ofConfig (config : LogConfig) : LogFilter where
  directives := Stage.all.map fun stage => (stage.target, config.levelFor stage)
  default := config.global

/-- The longer of two directives. -/
def longer (best : Option (String × LogLevel)) (directive : String × LogLevel) :
    Option (String × LogLevel) :=
  match best with
  | some found => if found.1.length < directive.1.length then some directive else best
  | none => some directive

/-- The level that decides about a target. -/
def levelFor (filter : LogFilter) (target : String) : LogLevel :=
  let fitting := filter.directives.filter fun directive =>
    directive.1.toList.isPrefixOf target.toList
  match fitting.foldl longer none with
  | some directive => directive.2
  | none => filter.default

/-- Whether an event with a target and a level is let through. -/
def enabled (filter : LogFilter) (target : String) (level : LogLevel) : Bool :=
  level.passes (filter.levelFor target)

/-- The directives in the order of their targets. -/
def sortedDirectives (filter : LogFilter) : List (String × LogLevel) :=
  filter.directives.mergeSort fun a b => decide (a.1 ≤ b.1)

end LogFilter

end ModalLex
