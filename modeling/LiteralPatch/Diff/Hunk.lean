import LiteralPatch.Diff.Lines
import LiteralPatch.Diff.Slide

/-!
# Hunks

A diff is shown in hunks: changes that lie close together, with an equal line around them.  In a change
all deleted lines come before the inserted ones.  A hunk is headed by where it stands in the old and in the
new sequence.
-/

namespace LiteralPatch
namespace Diff

/-- Lines of the old sequence, from `old` on, that are replaced by lines of the new one, or stay. -/
structure Block where
  same : Bool
  old : Nat
  oldLength : Nat
  new : Nat
  newLength : Nat
deriving DecidableEq, Repr

namespace Block

/-- A run on its own. -/
def ofOp (o : Op) : Block :=
  match o.kind with
  | .equal => ⟨true, o.old, o.length, o.new, o.length⟩
  | .delete => ⟨false, o.old, o.length, o.new, 0⟩
  | .insert => ⟨false, o.old, 0, o.new, o.length⟩

/-- A block with the lines of a run after it added.  A block without old lines takes the place of the old
lines that are added, and one without new lines that of the new ones. -/
def join (x y : Block) : Block :=
  ⟨x.same,
    if x.oldLength = 0 then (if y.oldLength = 0 then x.old else y.old) else x.old,
    x.oldLength + y.oldLength,
    if x.newLength = 0 then (if y.newLength = 0 then x.new else y.new) else x.new,
    x.newLength + y.newLength⟩

/-- Joins neighbouring blocks that both stay or are both changed. -/
def joinAll : List Block → List Block
  | [] => []
  | x :: rest =>
    match joinAll rest with
    | [] => [x]
    | y :: ys => if x.same = y.same then x.join y :: ys else x :: y :: ys

end Block

/-- The number of equal lines around a change. -/
def context : Nat := 1

/-- The last lines of an equal block. -/
def Block.tail (x : Block) (n : Nat) : Block :=
  ⟨x.same, x.old + (x.oldLength - n), min n x.oldLength, x.new + (x.newLength - n),
    min n x.newLength⟩

/-- The first lines of an equal block. -/
def Block.head (x : Block) (n : Nat) : Block :=
  ⟨x.same, x.old, min n x.oldLength, x.new, min n x.newLength⟩

/-- Keeps the last lines of an equal block at the start. -/
def trimFirst : List Block → List Block
  | [] => []
  | x :: rest => if x.same then x.tail context :: rest else x :: rest

/-- Keeps the first lines of an equal block at the end. -/
def trimLast (blocks : List Block) : List Block :=
  match blocks.reverse with
  | [] => []
  | x :: rest => ((if x.same then x.head context else x) :: rest).reverse

/-- Divides blocks where more lines stay than belong to the changes on both sides; `group` holds the
blocks of the current group in reverse. -/
def groups : List Block → List Block → List (List Block)
  | group, [] => [group.reverse]
  | group, x :: rest =>
    if x.same ∧ 2 * context < x.oldLength then
      (x.head context :: group).reverse :: groups [x.tail context] rest
    else groups (x :: group) rest

/-- Whether a group has a change in it. -/
def hasChange (group : List Block) : Bool := group.any fun x => !x.same

/-- The hunks of a diff. -/
def hunks (a b : Array String) : List (List Block) :=
  let blocks := Block.joinAll ((slide a b (script a b)).map Block.ofOp)
  (groups [] (trimLast (trimFirst blocks))).filter hasChange

/-! ## Text -/

/-- A range of lines, counted from 1; a range of one line is named by it, and an empty one by the line
before it. -/
def rangeText (start stop : Nat) : String :=
  let length := stop - start
  if length = 1 then toString (start + 1)
  else toString (if length = 0 then start else start + 1) ++ "," ++ toString length

/-- The head of a hunk. -/
def header (hunk : List Block) : String :=
  match hunk.head?, hunk.getLast? with
  | some x, some y =>
    "@@ -" ++ rangeText x.old (y.old + y.oldLength) ++ " +" ++
      rangeText x.new (y.new + y.newLength) ++ " @@"
  | _, _ => ""

/-- What a line of a diff says. -/
inductive Mark where
  | stays
  | deleted
  | inserted
deriving DecidableEq, Repr

/-- Lines from a place on. -/
def slice (a : Array String) (start length : Nat) : List String :=
  ((List.range length).map fun i => a[start + i]?).filterMap id

/-- The lines of a block. -/
def blockLines (a b : Array String) (x : Block) : List (Mark × String) :=
  if x.same then (slice a x.old x.oldLength).map fun l => (.stays, l)
  else
    ((slice a x.old x.oldLength).map fun l => (.deleted, l)) ++
      (slice b x.new x.newLength).map fun l => (.inserted, l)

/-- The lines of a hunk. -/
def hunkLines (a b : Array String) (hunk : List Block) : List (Mark × String) :=
  hunk.flatMap (blockLines a b)

end Diff
end LiteralPatch
