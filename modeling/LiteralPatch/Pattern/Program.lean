import LiteralPatch.Pattern.Expr

/-!
# Programs

An expression is matched by running a program: a list of instructions, each of which names its
successors.  `code e b k` lays out `e` from address `b` on, so that a run that has matched `e` goes on
at address `k`.

## Why the layout is forward

Every expression takes at least one instruction (the empty one takes a `jump`), and a run always
enters at the first: the entry of `code e b k` is `b`.  The length of the layout does not depend on
`b` or `k` (`size`).  So the address of every part is known before any part is laid out, nothing is
patched afterwards, and a statement about `e` at `b` and `k` goes by induction on `e`.

A loop over a body that may match the empty string is laid out as an optional `plus`.  There the way
back into the loop is an instruction of its own, behind the body, and a run that has gone through the
body without consuming anything finds the way back already taken.
-/

namespace LiteralPatch
namespace Pattern

/-- An instruction, with the addresses at which the run may go on. -/
inductive Instr where
  /-- Consumes one character of the set. -/
  | char (s : CharSet) (next : Nat)
  | look (a : Assertion) (next : Nat)
  /-- Notes the position under the slot. -/
  | mark (slot : Nat) (next : Nat)
  | jump (next : Nat)
  /-- Goes on at either address and prefers the first. -/
  | fork (preferred other : Nat)
  | accept
deriving Repr, Inhabited

namespace Instr

/-- A choice between another round of a loop and leaving it. -/
def loop (greedy : Bool) (round leave : Nat) : Instr :=
  if greedy then fork round leave else fork leave round

end Instr

namespace Expr

/-- The number of instructions of the layout. -/
def size : Expr → Nat
  | empty => 1
  | set _ => 1
  | look _ => 1
  | group _ e => e.size + 2
  | seq e f => e.size + f.size
  | alt e f => e.size + f.size + 1
  | opt _ e => e.size + 1
  | plus _ e => e.size + 1
  | star _ e => if e.nullable then e.size + 2 else e.size + 1

/-- The instructions of the expression from address `b` on, leading to address `k`. -/
def code : Expr → Nat → Nat → List Instr
  | empty, _, k => [.jump k]
  | set s, _, k => [.char s k]
  | look a, _, k => [.look a k]
  | group i e, b, k =>
    .mark (2 * i) (b + 1) :: (e.code (b + 1) (b + 1 + e.size) ++ [.mark (2 * i + 1) k])
  | seq e f, b, k => e.code b (b + e.size) ++ f.code (b + e.size) k
  | alt e f, b, k =>
    .fork (b + 1) (b + 1 + e.size) :: (e.code (b + 1) k ++ f.code (b + 1 + e.size) k)
  | opt greedy e, b, k => .loop greedy (b + 1) k :: e.code (b + 1) k
  | plus greedy e, b, k => e.code b (b + e.size) ++ [.loop greedy b k]
  | star greedy e, b, k =>
    if e.nullable then
      .loop greedy (b + 1) k ::
        (e.code (b + 1) (b + 1 + e.size) ++ [.loop greedy (b + 1) k])
    else .loop greedy (b + 1) k :: e.code (b + 1) b

/-- **The layout has the announced length,** wherever it starts and leads. -/
theorem length_code (e : Expr) (b k : Nat) : (e.code b k).length = e.size := by
  induction e generalizing b k with
  | empty => rfl
  | set _ => rfl
  | look _ => rfl
  | group i e ih => simp [code, size, ih]
  | seq e f ihe ihf => simp [code, size, ihe, ihf]
  | alt e f ihe ihf => simp [code, size, ihe, ihf]
  | opt g e ih => simp [code, size, ih]
  | plus g e ih => simp [code, size, ih]
  | star g e ih =>
    by_cases h : e.nullable = true
    · simp [code, size, h, ih]
    · simp [code, size, h, ih]

theorem size_pos (e : Expr) : 0 < e.size := by
  induction e with
  | star g e ih => unfold size; split <;> omega
  | _ => simp only [size]; omega

end Expr

/-- A program; runs start at address 0. -/
structure Program where
  code : Array Instr
deriving Inhabited

namespace Program

/-- The program that matches the expression and marks the whole match as group 0. -/
def ofExpr (e : Expr) : Program :=
  let whole := Expr.group 0 e
  ⟨(whole.code 0 whole.size ++ [Instr.accept]).toArray⟩

end Program
end Pattern
end LiteralPatch
