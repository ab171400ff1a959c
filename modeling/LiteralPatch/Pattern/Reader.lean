import LiteralPatch.Pattern.Bracket

/-!
# From the text of a pattern to an expression

The reader goes over the text once, one item at a time, and builds the expression as it goes.  Its
state is the branch being read, the finished branches of the innermost open group, and the stack of
open groups around it; nesting is on that stack and never on the call stack.

An item is kept as the list of its *factors* (`Part`).  A group without a capture lends its factors to
the branch around it, so `a(?:bc)` and `abc` are the same expression, while a repetition makes one
factor of whatever it repeats.

Alongside goes the depth of the notation, which is limited (`depthLimit`), and a weight: about as many
steps as a reader of single bytes would need for the pattern.  It is limited too (`sizeLimit`), so
that a pattern like `(a{1000}){1000}{1000}` is refused before it is built.  The limit is meant for the
bytes of a compiled program, which the weight only estimates.
-/

namespace LiteralPatch
namespace Pattern

/-- An item of a branch. -/
inductive Part where
  /-- Inline flags: they match nothing and cannot be repeated. -/
  | directive
  | item (factors : List Expr) (depth weight : Nat)
deriving Repr

namespace Part

def factors : Part → List Expr
  | directive => []
  | item fs _ _ => fs

def depth : Part → Nat
  | directive => 0
  | item _ d _ => d

def weight : Part → Nat
  | directive => 0
  | item _ _ w => w

/-- The weight of a set: a step for each byte of a single character, two for a set of ASCII
characters, and two for each range of any other set.  This is an estimate: how many steps the ranges of a
set share when they are compiled is not looked at. -/
def setWeight (s : CharSet) : Nat :=
  match s.ranges with
  | [(lo, hi)] =>
    if lo = hi then if lo < 0x80 then 1 else if lo < 0x800 then 2 else if lo < 0x10000 then 3 else 4
    else 2
  | ranges => if s.below 0x80 then 2 else 2 * ranges.length

/-- A single set without inner notation. -/
def ofSet (s : CharSet) (depth : Nat) : Part := item [.set s] depth (setWeight s)

/-- A single expression without inner notation. -/
def atom : Expr → Part
  | .set s => ofSet s 0
  | e => item [e] 0 1

/-- The weight of a repetition of something that weighs `weight`. -/
def repeatedWeight (min : Nat) (max : Option Nat) (weight : Nat) : Nat :=
  match max with
  | none => Nat.max min 1 * weight + 2
  | some m => m * weight + if m = min then 0 else m - min + 1

end Part

/-- A finished branch. -/
structure Branch where
  factors : List Expr
  depth : Nat
  weight : Nat
deriving Repr

namespace Branch

/-- The branch made of items, given newest first.  Several items are one level deeper than they are
singly. -/
def ofParts (parts : List Part) : Branch :=
  let parts := parts.reverse
  let depth := parts.foldl (fun d p => Nat.max d p.depth) 0
  ⟨parts.flatMap Part.factors, if 2 ≤ parts.length then depth + 1 else depth,
    parts.foldl (fun w p => w + p.weight) 0⟩

/-- The alternation of branches, given in order. -/
def alternation (branches : List Branch) : Branch :=
  match branches with
  | [b] => b
  | _ =>
    ⟨Expr.alternation (branches.map Branch.factors),
      branches.foldl (fun d b => Nat.max d b.depth) 0 + 1,
      branches.foldl (fun w b => w + b.weight + 1) 0⟩

end Branch

/-- A group that has been opened: what was being read around it. -/
structure OpenGroup where
  flags : Flags
  branches : List Branch
  parts : List Part
  /-- The number of the capture, unless the group only groups. -/
  capture : Option Nat
deriving Repr

/-- The state of the reader. -/
structure Reader where
  flags : Flags
  /-- The finished branches of the innermost group, newest first. -/
  branches : List Branch
  /-- The items of the branch being read, newest first. -/
  parts : List Part
  /-- The groups that are open, innermost first. -/
  groups : List OpenGroup
  /-- The number of captures opened so far. -/
  captures : Nat
  /-- The named captures opened so far. -/
  names : List (List Char × Nat)
deriving Repr

/-- The deepest notation that is accepted. -/
def depthLimit : Nat := 250

/-- The largest weight that is accepted: 64 MiB of program at 32 bytes a step.  A program is not measured but
weighed, so a pattern that comes near the limit may be refused although its program would just fit, or be
accepted although it would not. -/
def sizeLimit : Nat := 2097152

namespace Reader

def start (flags : Flags) : Reader :=
  ⟨flags, [], [], [], 0, []⟩

def push (r : Reader) (p : Part) : Reader :=
  { r with parts := p :: r.parts }

/-! ## Groups and branches -/

/-- Ends a branch. -/
def nextBranch (r : Reader) : Reader :=
  { r with branches := Branch.ofParts r.parts :: r.branches, parts := [] }

/-- What has been read of the innermost group. -/
def body (r : Reader) : Branch :=
  Branch.alternation (Branch.ofParts r.parts :: r.branches).reverse

/-- Opens a group with the given flags inside. -/
def openGroup (r : Reader) (inner : Flags) (capture : Option Nat) : Reader :=
  { r with
    flags := inner, branches := [], parts := [],
    groups := ⟨r.flags, r.branches, r.parts, capture⟩ :: r.groups }

/-- Opens a group that captures. -/
def openCapture (r : Reader) : Reader :=
  { r.openGroup r.flags (some (r.captures + 1)) with captures := r.captures + 1 }

/-- Closes the innermost group; the flags are again what they were around it. -/
def closeGroup (r : Reader) : Except Fault Reader :=
  match r.groups with
  | [] => throw .groupUnopened
  | g :: groups =>
    let b := r.body
    let part := match g.capture with
      | some i => Part.item [.group i (.chain b.factors)] (b.depth + 1) (b.weight + 2)
      | none => Part.item b.factors (b.depth + 1) b.weight
    pure { r with flags := g.flags, branches := g.branches, parts := part :: g.parts, groups }

/-- Whether a character may stand in a name of a capture. -/
def isNameChar (first : Bool) (c : Char) : Bool :=
  let alphabetic := c.isAlpha ||
    (c.toNat ≥ 0x80 && ((Unicode.binary? "alphabetic").getD CharSet.empty).has c)
  if first then c == '_' || alphabetic
  else
    c == '_' || c == '.' || c == '[' || c == ']' || c.isDigit || alphabetic ||
      (c.toNat ≥ 0x80 && ((Unicode.category? "n").getD CharSet.empty).has c)

/-- The name of a capture, up to its closing bracket; names may not repeat. -/
def readName (r : Reader) (cs : List Char) : Except Fault (List Char × List Char) :=
  match cs.span (· ≠ '>') with
  | (_, []) => throw .groupNameUnfinished
  | ([], _) => throw .groupNameEmpty
  | (c :: name, _ :: rest) =>
    if isNameChar true c && name.all (isNameChar false) then
      if (r.names.lookup (c :: name)).isSome then throw .groupNameDuplicate
      else pure (c :: name, rest)
    else throw .groupNameInvalid

/-- Inline flags up to their end: the letters seen so far (a hyphen for the negation), and whether
the letters from here on switch a mode on. -/
def readFlags (flags : Flags) (seen : List Char) (on : Bool) :
    List Char → Except Fault ((Flags × Bool × Char) × List Char)
  | [] => throw .flagUnfinished
  | c :: cs =>
    if c = ':' ∨ c = ')' then
      if seen.head? = some '-' then throw .flagNegationDangling
      else pure ((flags, !seen.isEmpty, c), cs)
    else if c = '-' then
      if c ∈ seen then throw .flagNegationRepeated
      else readFlags flags (c :: seen) false cs
    else
      match flags.switch? c on with
      | none => throw .flagUnknown
      | some switched =>
        if c ∈ seen then throw .flagRepeated
        else readFlags switched (c :: seen) on cs

/-- What follows an opening parenthesis. -/
def readGroup (r : Reader) (cs : List Char) : Except Fault (Reader × List Char) :=
  match skip r.flags.verbose cs with
  | '?' :: '=' :: _ | '?' :: '!' :: _ => throw .lookAround
  | '?' :: '<' :: '=' :: _ | '?' :: '<' :: '!' :: _ => throw .lookAround
  | '?' :: 'P' :: '<' :: rest | '?' :: '<' :: rest => do
    let (name, rest) ← r.readName rest
    pure ({ r.openCapture with names := (name, r.captures + 1) :: r.names }, rest)
  | '?' :: [] => throw .groupUnclosed
  | '?' :: rest => do
    let ((flags, any, close), rest) ← readFlags r.flags [] true rest
    if close = ':' then pure (r.openGroup flags none, rest)
    else if any then pure ({ r with flags, parts := .directive :: r.parts }, rest)
    else throw .repetitionMissing
  | rest => pure (r.openCapture, rest)

/-! ## Repetition -/

/-- Replaces the last item by its repetition. -/
def repeatLast (r : Reader) (min : Nat) (max : Option Nat) (greedy : Bool) : Except Fault Reader :=
  match r.parts with
  | .item fs depth weight :: parts =>
    let e := Expr.chain fs
    let greedy := if r.flags.swapGreed then !greedy else greedy
    let weight := Part.repeatedWeight min max weight
    if sizeLimit < weight then throw .tooLarge
    else
      let factors :=
        if min = 1 ∧ max = some 1 then fs
        else
          match Expr.repeated min max greedy e with
          | .empty => []
          | e => [e]
      pure { r with parts := .item factors (depth + 1) weight :: parts }
  | _ => throw .repetitionMissing

/-- A question mark right after a repetition makes it lazy. -/
def readLazy : List Char → Bool × List Char
  | '?' :: cs => (false, cs)
  | cs => (true, cs)

/-- The bounds of a counted repetition, after the opening brace. -/
def readBounds (verbose : Bool) (cs : List Char) :
    Except Fault ((Nat × Option Nat) × List Char) := do
  if (skip verbose cs).isEmpty then throw .repetitionUnclosed
  let (min, rest) ← readDecimal verbose cs
  let ((min, max), rest) ← match rest with
    | ',' :: rest =>
      match skip verbose rest with
      | [] => throw .repetitionUnclosed
      | '\x7d' :: rest => pure ((min, none), '\x7d' :: rest)
      | rest => do
        let (max, rest) ← readDecimal verbose rest
        pure ((min, some max), rest)
    | _ => pure ((min, some min), rest)
  match rest with
  | '\x7d' :: rest =>
    match max with
    | some m => if min ≤ m then pure ((min, max), rest) else throw .repetitionCountInvalid
    | none => pure ((min, none), rest)
  | _ => throw .repetitionUnclosed

/-- A counted repetition, after the opening brace. -/
def readCounted (r : Reader) (cs : List Char) : Except Fault (Reader × List Char) := do
  let ((min, max), rest) ← readBounds r.flags.verbose cs
  let (greedy, rest) := readLazy (skip r.flags.verbose rest)
  pure (← r.repeatLast min max greedy, rest)

/-! ## Items -/

/-- The expression of an atom under the flags. -/
def ofAtom (flags : Flags) : Atom → Except Fault Expr
  | .literal c byte =>
    if byte && !flags.unicode && c.toNat ≥ 0x80 then throw .invalidText
    else pure (.set (flags.literal c))
  | .set s => pure (.set s)
  | .look a => pure (.look a)

/-- Reads one item; `c` is its first character. -/
def step (r : Reader) (c : Char) (cs : List Char) : Except Fault (Reader × List Char) :=
  let flags := r.flags
  match c with
  | '(' => r.readGroup cs
  | ')' => do pure (← r.closeGroup, cs)
  | '|' => pure (r.nextBranch, cs)
  | '[' => do
    let (v, rest) ← readClass flags cs
    pure (r.push (.ofSet v.set v.depth), rest)
  | '?' => do
    let (greedy, rest) := readLazy cs
    pure (← r.repeatLast 0 (some 1) greedy, rest)
  | '*' => do
    let (greedy, rest) := readLazy cs
    pure (← r.repeatLast 0 none greedy, rest)
  | '+' => do
    let (greedy, rest) := readLazy cs
    pure (← r.repeatLast 1 none greedy, rest)
  | '\x7b' => r.readCounted cs
  | '\\' => do
    let (atom, rest) ← readEscape flags cs
    pure (r.push (.atom (← ofAtom flags atom)), rest)
  | '.' => if flags.unicode then pure (r.push (.atom (.set flags.dot)), cs) else throw .invalidText
  | '^' =>
    pure (r.push (.atom (.look (if flags.multiLine then .lineStart flags.crlf else .textStart))), cs)
  | '$' =>
    pure (r.push (.atom (.look (if flags.multiLine then .lineEnd flags.crlf else .textEnd))), cs)
  | c => do pure (r.push (.atom (← ofAtom flags (.literal c false))), cs)

/-- Reads items to the end of the text; each takes at least one character, so the length of the text
is enough fuel. -/
def run : Nat → Reader → List Char → Except Fault Reader
  | n, r, cs =>
    match n, skip r.flags.verbose cs with
    | _, [] => pure r
    | 0, _ => throw .tooLarge
    | n + 1, c :: cs => do
      let (r, rest) ← r.step c cs
      run n r rest

end Reader

/-- A pattern that has been read: its expression, and the named captures in it. -/
structure Source where
  expr : Expr
  names : List (List Char × Nat)
deriving Repr

/-- The captures that occur in an expression. -/
def Expr.captures : Expr → List Nat
  | .empty | .set _ | .look _ => []
  | .group i e => i :: e.captures
  | .seq e f | .alt e f => e.captures ++ f.captures
  | .opt _ e | .plus _ e | .star _ e => e.captures

/-- Reads a pattern under the given flags.  A capture that is repeated zero times is no part of the
expression, and its name is forgotten with it. -/
def read (flags : Flags) (text : List Char) : Except Fault Source := do
  let r ← Reader.run text.length (Reader.start flags) text
  if !r.groups.isEmpty then throw .groupUnclosed
  let b := r.body
  if depthLimit < b.depth then throw .nestedTooDeep
  if sizeLimit < b.weight then throw .tooLarge
  let e := Expr.chain b.factors
  let captures := e.captures
  pure ⟨e, r.names.filter fun (_, i) => i ∈ captures⟩

end Pattern
end LiteralPatch
