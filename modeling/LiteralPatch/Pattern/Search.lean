import LiteralPatch.Pattern.Program

/-!
# Searching

A search runs a program on a text.  It keeps the *threads* that are alive at the current position in
order of preference, and moves all of them over one character at a time; a thread is an address and
the marks it has set, newest first.

## Why this finds the preferred match

A thread that reaches an address where a better thread already stands is dropped: whatever it could
still do, the better one does too, and is preferred.  So at each position an address is visited at
most once (`seen`), and a run takes at most (positions × instructions) steps for any pattern.  A
thread that reaches `accept` ends all threads after it, since each of them is less preferred, but none
before it.

The leftmost match is wanted, so starts are tried from left to right (`findFrom`).  Successive matches
do not overlap: the next search begins where the last match ended, and an empty match at that very
place is passed over (`findAll`).
-/

namespace LiteralPatch
namespace Pattern

/-- A position in a text: the character before it, its byte offset, and what follows. -/
structure Cursor where
  before : Option Char
  offset : Nat
  rest : List Char
deriving Repr, Inhabited

namespace Cursor

/-- The start of a text. -/
def start (text : List Char) : Cursor := ⟨none, 0, text⟩

/-- The position after the character `c`, when `rest` follows it. -/
def past (here : Cursor) (c : Char) (rest : List Char) : Cursor :=
  ⟨some c, here.offset + c.utf8Size, rest⟩

/-- An assertion at this position. -/
def satisfies (here : Cursor) (a : Assertion) : Bool :=
  a.holds here.before here.rest.head?

end Cursor

/-- A slot and the offset that was noted under it. -/
abbrev Mark := Nat × Nat

/-- An address to run from, and the marks set on the way, newest first. -/
structure Thread where
  pc : Nat
  marks : List Mark
deriving Repr, Inhabited

/-- The threads at one position: which addresses have been visited, and the threads that wait for a
character or accept, least preferred first. -/
structure Frontier where
  seen : Array Bool
  waiting : List Thread
deriving Inhabited

namespace Program

def size (p : Program) : Nat := p.code.size

/-- No address visited. -/
def fresh (p : Program) : Frontier :=
  ⟨Array.replicate p.size false, []⟩

/-- Follows everything that consumes no character, from the given threads in order.  Each pop that is
not discarded visits a new address and pushes at most two threads, so the fuel of `settle` is enough. -/
def spread (p : Program) (here : Cursor) : Nat → List Thread → Frontier → Frontier
  | 0, _, f => f
  | _ + 1, [], f => f
  | n + 1, t :: todo, f =>
    if f.seen.getD t.pc true then p.spread here n todo f
    else
      let f := { f with seen := f.seen.setIfInBounds t.pc true }
      match p.code[t.pc]? with
      | none => p.spread here n todo f
      | some (.jump k) => p.spread here n (⟨k, t.marks⟩ :: todo) f
      | some (.fork k l) => p.spread here n (⟨k, t.marks⟩ :: ⟨l, t.marks⟩ :: todo) f
      | some (.mark slot k) => p.spread here n (⟨k, (slot, here.offset) :: t.marks⟩ :: todo) f
      | some (.look a k) =>
        if here.satisfies a then p.spread here n (⟨k, t.marks⟩ :: todo) f
        else p.spread here n todo f
      | some (.char _ _) => p.spread here n todo { f with waiting := t :: f.waiting }
      | some .accept => p.spread here n todo { f with waiting := t :: f.waiting }

/-- Adds a thread, and all that it leads to without consuming a character, behind the threads that are
there. -/
def settle (p : Program) (here : Cursor) (t : Thread) (f : Frontier) : Frontier :=
  p.spread here (2 * p.size + 2) [t] f

/-- Moves threads, in order of preference, over the character `c` to the position `there`. -/
def advance (p : Program) (c : Char) (there : Cursor) : List Thread → Frontier → Frontier
  | [], f => f
  | t :: ts, f =>
    match p.code[t.pc]? with
    | some (.char s k) =>
      if s.has c then p.advance c there ts (p.settle there ⟨k, t.marks⟩ f)
      else p.advance c there ts f
    | _ => p.advance c there ts f

/-- Whether the thread has matched. -/
def accepts (p : Program) (t : Thread) : Bool :=
  match p.code[t.pc]? with
  | some .accept => true
  | _ => false

/-- The marks of a match and the position after it. -/
abbrev Success := List Mark × Cursor

/-- Runs threads, in order of preference, over the rest of the text; `best` is the match found so
far, to which every living thread is preferred. -/
def race (p : Program) : List Char → Cursor → List Thread → Option Success → Option Success
  | rest, here, threads, best =>
    let alive := threads.takeWhile (fun t => !p.accepts t)
    let best := match threads.find? p.accepts with
      | some t => some (t.marks, here)
      | none => best
    match rest with
    | [] => best
    | c :: rest' =>
      if alive.isEmpty then best
      else
        let there := here.past c rest'
        p.race rest' there (p.advance c there alive p.fresh).waiting.reverse best

/-- The preferred match that starts at the position. -/
def matchAt (p : Program) (here : Cursor) : Option Success :=
  p.race here.rest here (p.settle here ⟨0, []⟩ p.fresh).waiting.reverse none

/-- The leftmost match that starts at the position or later. -/
def findFrom (p : Program) : List Char → Cursor → Option Success
  | rest, here =>
    match p.matchAt here with
    | some found => some found
    | none =>
      match rest with
      | [] => none
      | c :: rest' => p.findFrom rest' (here.past c rest')

/-- The offset under a slot, as noted last. -/
def slot? (marks : List Mark) (slot : Nat) : Option Nat :=
  marks.lookup slot

/-- The start and end of a capture group, if it took part in the match. -/
def group? (marks : List Mark) (index : Nat) : Option (Nat × Nat) :=
  match slot? marks (2 * index), slot? marks (2 * index + 1) with
  | some a, some b => some (a, b)
  | _, _ => none

/-- The position one character on. -/
def stepOn (here : Cursor) : Option Cursor :=
  match here.rest with
  | [] => none
  | c :: rest => some (here.past c rest)

/-- The matches from the position on; `lastEnd` is where the previous one ended.  Every second step
at least moves on by a character, so twice the length of the text is enough fuel. -/
def findAllFrom (p : Program) : Nat → Cursor → Option Nat → List (List Mark)
  | 0, _, _ => []
  | n + 1, here, lastEnd =>
    match p.findFrom here.rest here with
    | none => []
    | some (marks, there) =>
      if group? marks 0 = some (there.offset, there.offset) ∧ lastEnd = some there.offset then
        match stepOn here with
        | none => []
        | some next => p.findAllFrom n next none
      else marks :: p.findAllFrom n there (some there.offset)

/-- All successive matches in a text. -/
def findAll (p : Program) (text : List Char) : List (List Mark) :=
  p.findAllFrom (2 * text.length + 2) (Cursor.start text) none

/-- Whether the text has a match. -/
def isMatch (p : Program) (text : List Char) : Bool :=
  (p.findFrom text (Cursor.start text)).isSome

end Program
end Pattern
end LiteralPatch
