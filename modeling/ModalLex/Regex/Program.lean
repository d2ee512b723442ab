import ModalLex.Regex.Expr

/-!
# Matcher programs

An expression is compiled to a list of instructions. `Expr.code e base` is the code of `e` laid
out from address `base` on: control enters at `base` and, when the expression has matched,
leaves at the address behind the code. A `split` names two addresses in order of preference.

A star over a body that can match the empty text is laid out as an optional plus, which keeps
the order of preference right when the body matches without moving.
-/

namespace ModalLex.Regex

/-- One instruction of a matcher. -/
inductive Instr where
  /-- Consumes the given character. -/
  | char (c : Char)
  /-- Consumes one character of the set. -/
  | set (s : CharSet)
  /-- Goes on at either address, preferring the first. -/
  | split (first second : Nat)
  /-- Goes on at the address. -/
  | jump (target : Nat)
  /-- Notes the current offset in a slot. -/
  | save (slot : Nat)
  /-- Goes on if the place is right. -/
  | look (place : Look)
  /-- Reports a match. -/
  | accept
deriving Repr, Inhabited

/-- A split that prefers the first address if greedy and the second otherwise. -/
def Instr.choose (greedy : Bool) (first second : Nat) : Instr :=
  if greedy then .split first second else .split second first

namespace Expr

/-- Some copies of a code, one behind the other. -/
def copies (code : Nat → List Instr) (length count base : Nat) : List Instr :=
  (List.range count).flatMap fun i => code (base + i * length)

/-- Some optional copies of a code, each inside the one before. -/
def optionalCopies (greedy : Bool) (code : Nat → List Instr) (length count base : Nat) :
    List Instr :=
  let exit := base + count * (length + 1)
  (List.range count).flatMap fun i =>
    let here := base + i * (length + 1)
    Instr.choose greedy (here + 1) exit :: code (here + 1)

/-- A code that repeats at least once. -/
def plusCode (greedy : Bool) (code : Nat → List Instr) (length base : Nat) : List Instr :=
  code base ++ [Instr.choose greedy base (base + length + 1)]

/-- A code that repeats any number of times; `consumes` tells that every round moves. -/
def starCode (greedy consumes : Bool) (code : Nat → List Instr) (length base : Nat) :
    List Instr :=
  let exit := base + length + 2
  if consumes then
    Instr.choose greedy (base + 1) exit :: code (base + 1) ++ [Instr.jump base]
  else
    Instr.choose greedy (base + 1) exit :: plusCode greedy code length (base + 1)

/-- The layout of a repetition of a body. -/
def repeatCode (lo : Nat) (hi : Option Nat) (greedy consumes : Bool)
    (code : Nat → List Instr) (base : Nat) : List Instr :=
  let length := (code 0).length
  match lo, hi with
  | 0, none => starCode greedy consumes code length base
  | lo + 1, none =>
    copies code length lo base ++ plusCode greedy code length (base + lo * length)
  | lo, some hi =>
    copies code length lo base ++
      optionalCopies greedy code length (hi - lo) (base + lo * length)

mutual

/-- The code of an expression from an address on. -/
def code : Expr → Nat → List Instr
  | .empty, _ => []
  | .text chars, _ => chars.map .char
  | .set s, _ => [.set s]
  | .look place, _ => [.look place]
  | .group index body, base =>
    .save (2 * index) :: body.code (base + 1) ++ [.save (2 * index + 1)]
  | .concat items, base => seqCode items base
  | .alternation branches, base => altCode branches base
  | .repetition lo hi greedy body, base =>
    repeatCode lo hi greedy body.consumes body.code base

/-- The code of some expressions one behind the other. -/
def seqCode : List Expr → Nat → List Instr
  | [], _ => []
  | e :: rest, base =>
    let first := e.code base
    first ++ seqCode rest (base + first.length)

/-- The code of some branches in order of preference. -/
def altCode : List Expr → Nat → List Instr
  | [], _ => [.set .empty]
  | e :: rest, base =>
    match rest with
    | [] => e.code base
    | _ :: _ =>
      let first := e.code (base + 1)
      let second := base + first.length + 2
      let others := altCode rest second
      .split (base + 1) second :: first ++ .jump (second + others.length) :: others

end

end Expr

/-- A program is the code of an expression with an `accept` behind it. -/
abbrev Program := Array Instr

/-- The program of an expression. -/
def Expr.program (e : Expr) : Program := (e.code 0 ++ [Instr.accept]).toArray

end ModalLex.Regex
