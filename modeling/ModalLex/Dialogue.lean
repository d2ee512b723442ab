/-!
# Dialogues

A hook does not hold the state that it changes: it **asks** for one thing after the other and
goes on with the replies. A dialogue is the tree of these questions. Whoever runs it supplies the
answers, so the same hook can be run by different engines, and it can do nothing but what can be
asked for.
-/

namespace ModalLex

/-- A computation that asks questions and ends with a result. -/
inductive Dialogue (Ask : Type) (Reply : Ask → Type) (α : Type) : Type where
  | done (result : α)
  | ask (question : Ask) (next : Reply question → Dialogue Ask Reply α)

namespace Dialogue

variable {Ask : Type} {Reply : Ask → Type} {α β σ : Type}

/-- Goes on with a second dialogue when the first has ended. -/
def bind : Dialogue Ask Reply α → (α → Dialogue Ask Reply β) → Dialogue Ask Reply β
  | .done result, f => f result
  | .ask question next, f => .ask question fun reply => (next reply).bind f

instance : Monad (Dialogue Ask Reply) where
  pure := .done
  bind := bind

/-- Asks one question. -/
def question (q : Ask) : Dialogue Ask Reply (Reply q) := .ask q .done

/-- Runs a dialogue with answers that depend on a state and change it. -/
def run (answer : (q : Ask) → σ → Reply q × σ) : Dialogue Ask Reply α → σ → α × σ
  | .done result, s => (result, s)
  | .ask q next, s =>
    let (reply, s) := answer q s
    (next reply).run answer s

end Dialogue

end ModalLex
