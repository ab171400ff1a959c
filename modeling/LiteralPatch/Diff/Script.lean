/-!
# Shortest edit scripts

How one sequence of lines becomes another: runs of lines that stay, that are deleted, and that are
inserted.  The script has as few deletions and insertions as possible.  It is found by divide and conquer:
paths of edits grow from both ends of the two sequences, one edit at a time, and where they meet for the
first time the problem falls into two smaller ones.
-/

namespace LiteralPatch
namespace Diff

/-- What happens to a run of lines. -/
inductive Kind where
  | equal
  | delete
  | insert
deriving DecidableEq, Repr

/-- A run of lines that are treated alike.  It stands at `old` in the old sequence and at `new` in the new
one; lines that are deleted take no place in the new sequence, nor inserted ones in the old. -/
structure Op where
  kind : Kind
  old : Nat
  new : Nat
  length : Nat
deriving DecidableEq, Repr

/-- A part of the old sequence and a part of the new one. -/
structure Region where
  oldStart : Nat
  oldStop : Nat
  newStart : Nat
  newStop : Nat
deriving DecidableEq, Repr

namespace Region

def oldLength (r : Region) : Nat := r.oldStop - r.oldStart

def newLength (r : Region) : Nat := r.newStop - r.newStart

end Region

/-! ## Equal ends -/

/-- The number of lines that two parts begin with alike. -/
def commonStart (a b : Array String) (i iStop j jStop : Nat) : Nat :=
  if i < iStop ∧ j < jStop ∧ a[i]? = b[j]? then commonStart a b (i + 1) iStop (j + 1) jStop + 1 else 0
termination_by iStop - i

/-- The number of lines that two parts end with alike. -/
def commonEnd (a b : Array String) (i iStop j jStop : Nat) : Nat :=
  if i < iStop ∧ j < jStop ∧ a[iStop - 1]? = b[jStop - 1]? then
    commonEnd a b i (iStop - 1) j (jStop - 1) + 1
  else 0
termination_by iStop

/-! ## Where the paths meet -/

/-- How far the paths from one end reach on each diagonal; diagonal `k` is kept at place `k + zero`. -/
structure Frontier where
  zero : Nat
  reach : Array Nat

namespace Frontier

/-- A frontier for the diagonals from `-size` to `size`, before the first edit. -/
def start (size : Nat) : Frontier :=
  ⟨size, Array.replicate (2 * size + 1) 0⟩

def get (f : Frontier) (k : Int) : Nat := f.reach.getD (k + f.zero).toNat 0

def set (f : Frontier) (k : Int) (x : Nat) : Frontier :=
  { f with reach := f.reach.setIfInBounds (k + f.zero).toNat x }

/-- Where a path with `d` edits comes to diagonal `k`: from the neighbour that is further on. -/
def enter (f : Frontier) (d k : Int) : Nat :=
  if k = -d ∨ (k ≠ d ∧ f.get (k - 1) < f.get (k + 1)) then f.get (k + 1) else f.get (k - 1) + 1

end Frontier

/-- The diagonals that paths with `d` edits end on, from the highest down. -/
def diagonals (d : Nat) : List Int :=
  (List.range (d + 1)).map fun (i : Nat) => (d : Int) - 2 * i

/-- The two frontiers, and the point at which they have met. -/
structure Meeting where
  forward : Frontier
  backward : Frontier
  point : Option (Nat × Nat)

namespace Meeting

variable (a b : Array String) (r : Region)

/-- The difference of the two lengths: the diagonal of the far corner. -/
def shift : Int := (r.oldLength : Int) - r.newLength

/-- Lets the forward path on a diagonal grow by an edit and by all equal lines after it. -/
def growForward (d : Nat) (m : Meeting) (k : Int) : Meeting :=
  match m.point with
  | some _ => m
  | none =>
    let x := m.forward.enter d k
    let y := ((x : Int) - k).toNat
    let far := x + commonStart a b (r.oldStart + x) r.oldStop (r.newStart + y) r.newStop
    let forward := m.forward.set k far
    let odd := shift r % 2 = 1
    if odd ∧ (k - shift r).natAbs + 1 ≤ d ∧ r.oldLength ≤ far + m.backward.get (shift r - k) then
      ⟨forward, m.backward, some (r.oldStart + x, r.newStart + y)⟩
    else ⟨forward, m.backward, none⟩

/-- Lets the backward path on a diagonal grow by an edit and by all equal lines before it. -/
def growBackward (d : Nat) (m : Meeting) (k : Int) : Meeting :=
  match m.point with
  | some _ => m
  | none =>
    let x := m.backward.enter d k
    let y := ((x : Int) - k).toNat
    let more :=
      if x < r.oldLength ∧ y < r.newLength then
        commonEnd a b r.oldStart (r.oldStop - x) r.newStart (r.newStop - y)
      else 0
    let backward := m.backward.set k (x + more)
    let even := shift r % 2 = 0
    if even ∧ (k - shift r).natAbs ≤ d ∧ r.oldLength ≤ x + more + m.forward.get (shift r - k) then
      ⟨m.forward, backward, some (r.oldStop - (x + more), r.newStop - (y + more))⟩
    else ⟨m.forward, backward, none⟩

/-- Lets all paths grow by one edit, the forward ones first. -/
def grow (m : Meeting) (d : Nat) : Meeting :=
  (diagonals d).foldl (growBackward a b r d) ((diagonals d).foldl (growForward a b r d) m)

/-- The number of edits after which the paths must have met. -/
def limit : Nat := (r.oldLength + r.newLength + 1) / 2 + 1

/-- Grows paths until they have met. -/
def search : Nat → Nat → Meeting → Option (Nat × Nat)
  | 0, _, m => m.point
  | n + 1, d, m =>
    match m.point with
    | some p => some p
    | none => search n (d + 1) (grow a b r m d)

end Meeting

/-- A point on a shortest path through a region. -/
def meetingPoint (a b : Array String) (r : Region) : Option (Nat × Nat) :=
  let size := Meeting.limit r + 1
  Meeting.search a b r (Meeting.limit r) 0 ⟨Frontier.start size, Frontier.start size, none⟩

/-! ## The script -/

/-- A run, unless it is empty. -/
def run? (kind : Kind) (old new length : Nat) : List Op :=
  if length = 0 then [] else [⟨kind, old, new, length⟩]

/-- The script that deletes all and inserts all. -/
def replaceAll (r : Region) : List Op :=
  run? .delete r.oldStart r.newStart r.oldLength ++ run? .insert r.oldStart r.newStart r.newLength

/-- The region between the equal ends of a region. -/
def core (a b : Array String) (r : Region) : Region :=
  let start := commonStart a b r.oldStart r.oldStop r.newStart r.newStop
  let stop := commonEnd a b (r.oldStart + start) r.oldStop (r.newStart + start) r.newStop
  ⟨r.oldStart + start, r.oldStop - stop, r.newStart + start, r.newStop - stop⟩

/-- The script of a region, found in at most `fuel` divisions one inside the other. -/
def solve (a b : Array String) : Nat → Region → List Op
  | 0, r => replaceAll r
  | fuel + 1, r =>
    let inner := core a b r
    let middle :=
      if inner.oldLength = 0 ∨ inner.newLength = 0 then replaceAll inner
      else
        match meetingPoint a b inner with
        | some (x, y) =>
          solve a b fuel ⟨inner.oldStart, x, inner.newStart, y⟩ ++
            solve a b fuel ⟨x, inner.oldStop, y, inner.newStop⟩
        | none => replaceAll inner
    run? .equal r.oldStart r.newStart (inner.oldStart - r.oldStart) ++ middle ++
      run? .equal inner.oldStop inner.newStop (r.oldStop - inner.oldStop)

/-- The script that turns one sequence into another. -/
def script (a b : Array String) : List Op :=
  solve a b (a.size + b.size + 1) ⟨0, a.size, 0, b.size⟩

end Diff
end LiteralPatch
