import ModalLex.Regex.Basic
import ModalLex.Value

/-!
# Errors

What can go wrong while a lexer is made and while it runs. Each error is a cause; its wording is
given by one `message` function per type.
-/

namespace ModalLex

/-- Why a lexer cannot be made, or an alternation cannot be built. -/
inductive ConfigError where
  | pattern (cause : PatternError)
  | missingBaseState (name : String)
  | duplicateState (name : String)
deriving DecidableEq, Repr

/-- The text of an error in the make of a lexer. -/
def ConfigError.message : ConfigError → String
  | .pattern cause => cause.message
  | .missingBaseState name => "base state `" ++ name ++ "` is not defined"
  | .duplicateState name => "state `" ++ name ++ "` is defined more than once"

/-- Why a state cannot be entered or left. -/
inductive StateError where
  | pushBase (name : String)
  | popEmpty
  | unknown (name : String)
deriving DecidableEq, Repr

/-- The text of an error of a state switch. -/
def StateError.message : StateError → String
  | .pushBase name => "cannot push the base state `" ++ name ++ "`"
  | .popEmpty => "cannot pop state: the state stack is empty"
  | .unknown name => "unknown state `" ++ name ++ "`"

/-- Why a cursor cannot be moved. -/
inductive CursorError where
  | beforeBoundary (cursor count boundary : Nat)
  | backwards (cursor target : Nat)
  | outOfBounds (offset length : Nat)
  | notCharBoundary (offset : Nat)
deriving DecidableEq, Repr

/-- The text of an error of a cursor move. -/
def CursorError.message : CursorError → String
  | .beforeBoundary cursor count boundary =>
    "cannot back up " ++ natText count ++ " character(s) from offset " ++ natText cursor ++
      ": the match ends at " ++ natText boundary
  | .backwards cursor target =>
    "cannot advance backwards from offset " ++ natText cursor ++ " to " ++ natText target
  | .outOfBounds offset length =>
    "offset " ++ natText offset ++ " is past the end of the input (length " ++
      natText length ++ ")"
  | .notCharBoundary offset => "offset " ++ natText offset ++ " is not on a character boundary"

/-- Why a pull fails. -/
inductive LexError where
  | config (cause : ConfigError)
  | state (cause : StateError)
  | cursor (cause : CursorError)
  | noMatch (offset : Nat) (state : String)
  | custom (text : String)
deriving DecidableEq, Repr

/-- The text of an error of a pull. -/
def LexError.message : LexError → String
  | .config cause => cause.message
  | .state cause => cause.message
  | .cursor cause => cause.message
  | .noMatch offset name =>
    "no rule matches at offset " ++ natText offset ++ " in state `" ++ name ++ "`"
  | .custom text => text

end ModalLex
