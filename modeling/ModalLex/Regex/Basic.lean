import ModalLex.Regex.Meaning
import ModalLex.Regex.Parser
import ModalLex.Regex.Program
import ModalLex.Regex.Size

/-!
# Compiled patterns

`Regex.compile` reads a pattern, finds its meaning and builds its program. Each of the three steps
can fail: the text is not a pattern, it has no meaning, or its program would be too large.
-/

namespace ModalLex

/-- Why a pattern is refused. An error of its syntax keeps the text it is about: where rules are
put together this is the text of them all. -/
inductive PatternError where
  /-- The text cannot be read as a pattern. -/
  | unreadable (text : Text)
  /-- The pattern can be read, but some part of it stands for no set of characters. -/
  | meaningless (text : Text)
  /-- The program of the pattern is over the limit. -/
  | tooLarge
deriving DecidableEq, Repr

/-- The wording of a pattern error. It shows neither the text nor which step of its syntax
failed. -/
def PatternError.message : PatternError → String
  | .unreadable _ | .meaningless _ => "error parsing pattern 0"
  | .tooLarge => "error building NFA"

/-- Options that hold from the start of a pattern. -/
structure PatternOptions where
  modes : Regex.Modes := {}
  verbose : Bool := false
  octal : Bool := false
deriving DecidableEq, Repr

/-- Switches on the option that a letter stands for; other letters change nothing. -/
def PatternOptions.switchOn (options : PatternOptions) : Char → PatternOptions
  | 'i' => { options with modes := options.modes.set .caseInsensitive true }
  | 'm' => { options with modes := options.modes.set .multiLine true }
  | 's' => { options with modes := options.modes.set .dotAll true }
  | 'U' => { options with modes := options.modes.set .swapGreed true }
  | 'x' => { options with verbose := true }
  | 'o' => { options with octal := true }
  | _ => options

/-- The options of some letters. -/
def PatternOptions.ofLetters (letters : Text) : PatternOptions :=
  letters.foldl PatternOptions.switchOn {}

/-- A compiled pattern: its program and the number of its groups. A group that cannot take part
in a match is not counted unless a later one can. -/
structure Regex where
  program : Regex.Program
  groups : Nat
deriving Inhabited

namespace Regex

/-- The expression of a pattern, or which step of its syntax fails. -/
def expr (options : PatternOptions) (pattern : Text) : Except PatternError Expr :=
  match Tree.parse? options.octal options.verbose pattern with
  | none => .error (.unreadable pattern)
  | some tree =>
    match tree.toExpr? options.modes with
    | none => .error (.meaningless pattern)
    | some (e, _) => .ok e

/-- The expression of a pattern, if it has one. -/
def expr? (options : PatternOptions) (pattern : Text) : Option Expr :=
  (expr options pattern).toOption

/-- Compiles a pattern. -/
def compile (options : PatternOptions) (pattern : Text) : Except PatternError Regex :=
  match expr options pattern with
  | .error cause => .error cause
  | .ok e => if e.fits then .ok ⟨e.program, e.maxGroup⟩ else .error .tooLarge

end Regex

end ModalLex
