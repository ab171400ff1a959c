import LiteralPatch.CharSet
import LiteralPatch.Pattern.Assertion

/-!
# Expressions

What a pattern says once its notation is gone: characters are sets, flags are resolved, and counted
repetition is spelled out with the three loops `opt`, `plus` and `star`.

## What the constructors promise

Every choice has an order.  `alt e f` prefers `e`; a greedy loop prefers another round, a lazy one
prefers to leave.  A match is the first one in that order, so two expressions with the same language
may still match differently, and the functions below that build expressions keep the order in view.

* `repeated` spells out `e` between `min` and `max` times.  The optional rounds are nested, so that
  a later round is tried only inside an earlier one.  A subexpression that can only match the empty
  string is repeated at most once.
* `alternation` joins branches.  Branches that are single characters become one set.  If all
  branches have at least two factors and begin with the same ones, the common factors are taken
  once and the choice comes after them: the choice is then made inside each way of matching the
  common part.
-/

namespace LiteralPatch
namespace Pattern

/-- A regular expression with preferences and capture groups. -/
inductive Expr where
  | empty
  /-- One character of the set. -/
  | set (s : CharSet)
  | look (a : Assertion)
  /-- The capture group with this number. -/
  | group (index : Nat) (e : Expr)
  | seq (e f : Expr)
  | alt (e f : Expr)
  | opt (greedy : Bool) (e : Expr)
  | plus (greedy : Bool) (e : Expr)
  | star (greedy : Bool) (e : Expr)
deriving DecidableEq, Repr, Inhabited

namespace Expr

/-- Whether the expression may match without consuming a character. -/
def nullable : Expr → Bool
  | empty => true
  | set _ => false
  | look _ => true
  | group _ e => e.nullable
  | seq e f => e.nullable && f.nullable
  | alt e f => e.nullable || f.nullable
  | opt _ _ => true
  | plus _ e => e.nullable
  | star _ _ => true

/-- Whether the expression can only match the empty string. -/
def onlyEmpty : Expr → Bool
  | empty => true
  | set _ => false
  | look _ => true
  | group _ e => e.onlyEmpty
  | seq e f => e.onlyEmpty && f.onlyEmpty
  | alt e f => e.onlyEmpty && f.onlyEmpty
  | opt _ e => e.onlyEmpty
  | plus _ e => e.onlyEmpty
  | star _ e => e.onlyEmpty

/-- One character. -/
def char (c : Char) : Expr := set (CharSet.ofChar c)

/-- The expressions one after the other. -/
def chain : List Expr → Expr
  | [] => empty
  | [e] => e
  | e :: es => seq e (chain es)

/-- The expressions as alternatives, in order of preference. -/
def choice : List Expr → Expr
  | [] => set CharSet.empty
  | [e] => e
  | e :: es => alt e (choice es)

/-! ## Repetition -/

/-- Exactly `n` times, followed by `tail`. -/
def times : Nat → Expr → Expr → Expr
  | 0, _, tail => tail
  | n + 1, e, tail => seq e (times n e tail)

/-- At most `n + 1` times, each optional round inside the one before. -/
def atMost (greedy : Bool) (e : Expr) : Nat → Expr
  | 0 => opt greedy e
  | n + 1 => opt greedy (seq e (atMost greedy e n))

/-- Between `min` and `max` times, where `max` may be missing; assumes that `max` is not below
`min`. -/
def spellOut (min : Nat) (max : Option Nat) (greedy : Bool) (e : Expr) : Expr :=
  match min, max with
  | 0, none => star greedy e
  | n + 1, none => times n e (plus greedy e)
  | 0, some 0 => empty
  | 0, some (m + 1) => atMost greedy e m
  | n + 1, some m =>
    match m - (n + 1) with
    | 0 => times n e e
    | k + 1 => times (n + 1) e (atMost greedy e k)

/-- Repetition, where an expression that consumes nothing is repeated at most once. -/
def repeated (min : Nat) (max : Option Nat) (greedy : Bool) (e : Expr) : Expr :=
  if e.onlyEmpty then spellOut (Nat.min min 1) (some ((max.map (Nat.min 1)).getD 1)) greedy e
  else spellOut min max greedy e

/-! ## Alternation -/

/-- The sets of branches that are single characters, if all of them are. -/
def singles : List (List Expr) → Option (List CharSet)
  | [] => some []
  | [set s] :: rest => (singles rest).map (s :: ·)
  | _ => none

/-- The number of leading factors that two branches share. -/
def commonLength : List Expr → List Expr → Nat
  | e :: es, f :: fs => if e = f then commonLength es fs + 1 else 0
  | _, _ => 0

/-- The number of leading factors that all branches share; none, if one of them is a single
factor. -/
def sharedFactors (branches : List (List Expr)) : Nat :=
  match branches with
  | [] => 0
  | b :: rest =>
    if branches.all (2 ≤ ·.length) then
      rest.foldl (fun n c => Nat.min n (commonLength b c)) b.length
    else 0

/-- A choice between branches that share nothing. -/
def join (branches : List (List Expr)) : Expr :=
  match singles branches with
  | some sets => set (sets.foldl CharSet.union CharSet.empty)
  | none => choice (branches.map chain)

/-- A choice between branches, each given by its factors, as factors again. -/
def alternation (branches : List (List Expr)) : List Expr :=
  match branches with
  | [] => [set CharSet.empty]
  | [b] => b
  | b :: _ =>
    let n := sharedFactors branches
    b.take n ++ [join (branches.map (List.drop n))]

end Expr
end Pattern
end LiteralPatch
