import ModalLex.Log.Basic
import ModalLex.Text.Quoted

/-!
# Settings of a lexer

The state that a lexer starts in, whether its alternations are compiled when it is made, and the
settings of its log.
-/

namespace ModalLex

/-- Settings of a lexer. -/
structure LexerConfig where
  baseState : String := "start"
  eagerCompile : Bool := true
  log : LogConfig := {}
deriving DecidableEq, Repr, Inhabited

/-- The settings, as shown in a description. -/
def LexerConfig.describe (config : LexerConfig) : String :=
  "LexerConfig \x7b base_state: " ++ Text.quoted config.baseState.toList ++
    ", eager_compile: " ++ (if config.eagerCompile then "true" else "false") ++
    ", log: " ++ config.log.describe ++ " \x7d"

end ModalLex
