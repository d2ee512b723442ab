import ModalLex.Dialogue
import ModalLex.Error
import ModalLex.Script.Condition

/-!
# Statements

The statements of a hook script and what running them asks for. A script is run under a
**budget**: every statement costs one unit when it starts, and a loop costs one unit for each look
at its condition. When the budget is exceeded the statement fails instead of running. So every
script ends, and a loop needs no other bound than what is left of the budget.

Which actions a hook has, and what its conditions see, is given by a `Dialect`.
-/

namespace ModalLex.Script

/-- What a statement can do to the lexer. -/
inductive Action where
  | push (name : String)
  | pop
  | abort
  | next (count : Nat)
  | peek
  | back (count : Nat)
  | advanceTo (offset : Nat)
  | advanceBy (bytes : Nat)
  | advanceFind (needle : Text)
  | unknown

/-- A statement. -/
inductive Stmt where
  | ifElse (cond : Cond) (yes no : List Stmt)
  | loop (cond : Cond) (body : List Stmt)
  /-- Runs the body; an error ends it, is noted and goes no further. -/
  | recover (body : List Stmt)
  | fail (message : String)
  | act (action : Action)

/-- What a script notes down while it runs. -/
inductive Note where
  | error (e : LexError)
  | next (c : Option Char) (position : Nat)
  | peek (c : Option Char) (position : Nat)
  | back (count position : Nat)
  | advanceTo (offset position : Nat)
  | advanceBy (bytes position : Nat)
  | advanceFind (distance : Option Nat) (position : Nat)

/-- How far a script has come: the units it has used and its notes. -/
structure Progress where
  used : Nat
  notes : Array Note := #[]

/-- Uses one unit. -/
def Progress.tick (p : Progress) : Progress := { p with used := p.used + 1 }

/-- What a hook's conditions see and which actions it has. -/
structure Dialect (Ask : Type) (Reply : Ask → Type) where
  observe : Dialogue Ask Reply Facts
  perform : Action → Dialogue Ask Reply (Except LexError (List Note))

/-- The end of a statement. -/
abbrev Outcome := Except LexError Unit × Progress

/-- The error of a statement that the budget does not cover. -/
def budgetExceeded : LexError := .custom "hook budget exceeded"

/-- The error of an action that a hook does not have. -/
def unsupported : LexError := .custom "unsupported statement"

section

variable {Ask : Type} {Reply : Ask → Type}

/-- Uses one unit and goes on if the budget covers it. -/
def charged (budget : Nat) (p : Progress) (go : Progress → Dialogue Ask Reply Outcome) :
    Dialogue Ask Reply Outcome :=
  if budget < p.used + 1 then .done (.error budgetExceeded, p.tick) else go p.tick

/-- Runs a body as long as a condition holds. -/
def runLoop (dialect : Dialect Ask Reply) (budget : Nat) (cond : Cond)
    (body : Progress → Dialogue Ask Reply Outcome) :
    (rounds : Nat) → Progress → Dialogue Ask Reply Outcome
  | 0, p => .done (.error budgetExceeded, p)
  | rounds + 1, p =>
    charged budget p fun p =>
      dialect.observe.bind fun facts =>
        if cond.holds facts then
          (body p).bind fun
            | (.error e, p) => .done (.error e, p)
            | (.ok (), p) => runLoop dialect budget cond body rounds p
        else .done (.ok (), p)

/-- Runs an action and notes what it did. -/
def runAction (dialect : Dialect Ask Reply) (action : Action) (p : Progress) :
    Dialogue Ask Reply Outcome :=
  (dialect.perform action).bind fun
    | .error e => .done (.error e, p)
    | .ok notes => .done (.ok (), { p with notes := p.notes ++ notes.toArray })

mutual

/-- Runs a statement. -/
def runStmt (dialect : Dialect Ask Reply) (budget : Nat) :
    Stmt → Progress → Dialogue Ask Reply Outcome
  | .ifElse cond yes no, p =>
    charged budget p fun p =>
      dialect.observe.bind fun facts =>
        if cond.holds facts then runBlock dialect budget yes p
        else runBlock dialect budget no p
  | .loop cond body, p =>
    runLoop dialect budget cond (runBlock dialect budget body) (budget + 1 - p.used + 1) p
  | .recover body, p =>
    charged budget p fun p =>
      (runBlock dialect budget body p).bind fun
        | (.error e, p) => .done (.ok (), { p with notes := p.notes.push (.error e) })
        | (.ok (), p) => .done (.ok (), p)
  | .fail message, p => charged budget p fun p => .done (.error (.custom message), p)
  | .act action, p => charged budget p (runAction dialect action)

/-- Runs statements in order up to the first error. -/
def runBlock (dialect : Dialect Ask Reply) (budget : Nat) :
    List Stmt → Progress → Dialogue Ask Reply Outcome
  | [], p => .done (.ok (), p)
  | stmt :: rest, p =>
    (runStmt dialect budget stmt p).bind fun
      | (.error e, p) => .done (.error e, p)
      | (.ok (), p) => runBlock dialect budget rest p

end

end

end ModalLex.Script
