import LiteralPatch.Pattern.Escape

/-!
# Bracketed classes

A class in brackets is a union of items: characters, ranges, classes by name, and further brackets.
Unions are combined by three operators of equal rank that associate to the left: `&&` (both), `--`
(only the first) and `~~` (exactly one).

The reader keeps the brackets that are open on an explicit stack (`Layer`), so nesting costs no
recursion.  Case is folded for the operands of an operator, for each class by name and for each
bracket as a whole, always before a negation: the complement of a folded set is closed under equality up to case.

Without Unicode a class is a set of bytes, and one that holds a byte above `0x7F` could match half a
character; it is refused.
-/

namespace LiteralPatch
namespace Pattern

/-- The operators between the unions of a bracket. -/
inductive SetOp where
  | inter
  | diff
  | symm
deriving DecidableEq, Repr

def SetOp.apply (op : SetOp) (s t : CharSet) : CharSet :=
  match op with
  | .inter => s.inter t
  | .diff => s.diff t
  | .symm => s.symmDiff t

/-- A class that has been read, with the depth of its notation. -/
structure ClassValue where
  set : CharSet
  depth : Nat
deriving Repr

/-- The items of a union read so far. -/
structure ClassUnion where
  set : CharSet
  count : Nat
  depth : Nat
deriving Repr

namespace ClassUnion

def empty : ClassUnion := ⟨CharSet.empty, 0, 0⟩

def push (u : ClassUnion) (s : CharSet) (depth : Nat) : ClassUnion :=
  ⟨u.set.union s, u.count + 1, Nat.max u.depth depth⟩

/-- A union of several items is one level deeper than its items. -/
def value (u : ClassUnion) : ClassValue :=
  ⟨u.set, if 2 ≤ u.count then u.depth + 1 else u.depth⟩

end ClassUnion

/-- What is open around the union being read. -/
inductive Layer where
  /-- A bracket: the union that it is an item of, and whether it is negated. -/
  | bracket (outer : ClassUnion) (negated : Bool)
  /-- The left operand of an operator. -/
  | operand (op : SetOp) (left : ClassValue)
deriving Repr

/-- The classes that may stand between `[:` and `:]`. -/
def posixClass (name : List Char) : Option CharSet :=
  match String.ofList name with
  | "alnum" => some (CharSet.ofRanges [(0x30, 0x39), (0x41, 0x5A), (0x61, 0x7A)])
  | "alpha" => some (CharSet.ofRanges [(0x41, 0x5A), (0x61, 0x7A)])
  | "ascii" => some (CharSet.interval 0 0x7F)
  | "blank" => some (CharSet.ofList [0x09, 0x20])
  | "cntrl" => some (CharSet.ofRanges [(0, 0x1F), (0x7F, 0x7F)])
  | "digit" => some (CharSet.interval 0x30 0x39)
  | "graph" => some (CharSet.interval 0x21 0x7E)
  | "lower" => some (CharSet.interval 0x61 0x7A)
  | "print" => some (CharSet.interval 0x20 0x7E)
  | "punct" =>
    some (CharSet.ofRanges [(0x21, 0x2F), (0x3A, 0x40), (0x5B, 0x60), (0x7B, 0x7E)])
  | "space" => some (CharSet.ofRanges [(0x09, 0x0D), (0x20, 0x20)])
  | "upper" => some (CharSet.interval 0x41 0x5A)
  | "word" =>
    some (CharSet.ofRanges [(0x30, 0x39), (0x41, 0x5A), (0x5F, 0x5F), (0x61, 0x7A)])
  | "xdigit" => some (CharSet.ofRanges [(0x30, 0x39), (0x41, 0x46), (0x61, 0x66)])
  | _ => none

/-- A class by name, from its opening `[:` on, and whether it is negated; `none` if the text is
something else. -/
def readPosix? (cs : List Char) : Option ((CharSet × Bool) × List Char) :=
  match cs with
  | '[' :: ':' :: rest =>
    let (negated, rest) := match rest with
      | '^' :: inner => (true, inner)
      | _ => (false, rest)
    match rest.span (· ≠ ':') with
    | (name, ':' :: ']' :: rest) =>
      (posixClass name).map fun s => ((s, negated), rest)
    | _ => none
  | _ => none

/-- One plain or escaped character of a class, or a class by its letter. -/
def readClassAtom (flags : Flags) : List Char → Except Fault (Atom × List Char)
  | [] => throw .classUnclosed
  | '\\' :: cs => readEscape flags cs
  | c :: cs => pure (.literal c false, cs)

/-- The literal at an end of a range. -/
def rangeEnd (flags : Flags) : Atom → Except Fault Char
  | .literal c _ =>
    if flags.unicode || c.toNat < 0x80 then pure c else throw .unicodeNotAllowed
  | _ => throw .classRangeLiteral

/-- An atom as an item of a class. -/
def atomSet (flags : Flags) : Atom → Except Fault CharSet
  | .literal c _ =>
    if flags.unicode || c.toNat < 0x80 then pure (CharSet.ofChar c) else throw .unicodeNotAllowed
  | .set s => pure s
  | .look _ => throw .classEscapeInvalid

/-- A single character, a class by its letter, or a range.  A hyphen before the closing bracket, or
before another hyphen, makes no range. -/
def readClassItem (flags : Flags) (cs : List Char) : Except Fault (CharSet × List Char) := do
  let (first, rest) ← readClassAtom flags cs
  let rest := skip flags.verbose rest
  match rest with
  | [] => throw .classUnclosed
  | '-' :: after =>
    let next := peekPast flags.verbose rest
    if next = some ']' ∨ next = some '-' then pure (← atomSet flags first, rest)
    else
      let after := skip flags.verbose after
      let (second, rest) ← readClassAtom flags after
      let lo ← rangeEnd flags first
      let hi ← rangeEnd flags second
      if lo ≤ hi then pure (CharSet.interval lo.toNat hi.toNat, rest)
      else throw .classRangeInvalid
  | _ => pure (← atomSet flags first, rest)

/-- Leading hyphens of a bracket, which are literal. -/
def readHyphens (verbose : Bool) : Nat → ClassUnion → List Char → ClassUnion × List Char
  | n + 1, u, '-' :: cs => readHyphens verbose n (u.push (CharSet.ofChar '-') 0) (skip verbose cs)
  | _, u, cs => (u, cs)

/-- The opening of a bracket, after `[`: a negation, leading hyphens, and a leading `]`, which is
literal. -/
def readBracketStart (flags : Flags) (cs : List Char) :
    Except Fault ((Bool × ClassUnion) × List Char) := do
  let cs := skip flags.verbose cs
  let (negated, cs) := match cs with
    | '^' :: rest => (true, skip flags.verbose rest)
    | _ => (false, cs)
  let (u, cs) := readHyphens flags.verbose cs.length ClassUnion.empty cs
  let (u, cs) := match u.count, cs with
    | 0, ']' :: rest => (u.push (CharSet.ofChar ']') 0, skip flags.verbose rest)
    | _, _ => (u, cs)
  if cs.isEmpty then throw .classUnclosed
  pure ((negated, u), cs)

/-- Applies the operator whose left operand waits, if there is one. -/
def closeOperand (flags : Flags) (right : ClassValue) : List Layer → ClassValue × List Layer
  | .operand op left :: layers =>
    (⟨op.apply (flags.folded left.set) (flags.folded right.set),
      Nat.max left.depth right.depth + 1⟩, layers)
  | layers => (right, layers)

/-- The set of a whole bracket, or of a class by name. -/
def bracketSet (flags : Flags) (negated : Bool) (s : CharSet) : Except Fault CharSet :=
  let s := flags.folded s
  let s := if negated then s.complementTo flags.last else s
  if flags.unicode || s.below 0x80 then pure s else throw .invalidText

/-- Reads items, brackets and operators until the outermost bracket closes.  Each round consumes a
character, so the length of the text is enough fuel. -/
def readBrackets (flags : Flags) :
    Nat → ClassUnion → List Layer → List Char → Except Fault (ClassValue × List Char)
  | 0, _, _, _ => throw .classUnclosed
  | n + 1, u, layers, cs =>
    match skip flags.verbose cs with
    | [] => throw .classUnclosed
    | '[' :: rest =>
      match readPosix? ('[' :: rest) with
      | some ((s, negated), rest) => do
        readBrackets flags n (u.push (← bracketSet flags negated s) 0) layers rest
      | none => do
        let ((negated, inner), rest) ← readBracketStart flags rest
        readBrackets flags n inner (.bracket u negated :: layers) rest
    | ']' :: rest =>
      let (v, layers) := closeOperand flags u.value layers
      match layers with
      | .bracket outer negated :: layers => do
        let s ← bracketSet flags negated v.set
        if layers.isEmpty then pure (⟨s, v.depth + 1⟩, rest)
        else readBrackets flags n (outer.push s (v.depth + 1)) layers rest
      | _ => throw .classUnclosed
    | '&' :: '&' :: rest =>
      let (v, layers) := closeOperand flags u.value layers
      readBrackets flags n ClassUnion.empty (.operand .inter v :: layers) rest
    | '-' :: '-' :: rest =>
      let (v, layers) := closeOperand flags u.value layers
      readBrackets flags n ClassUnion.empty (.operand .diff v :: layers) rest
    | '~' :: '~' :: rest =>
      let (v, layers) := closeOperand flags u.value layers
      readBrackets flags n ClassUnion.empty (.operand .symm v :: layers) rest
    | cs => do
      let (s, rest) ← readClassItem flags cs
      readBrackets flags n (u.push s 0) layers rest

/-- A bracketed class, after its opening bracket. -/
def readClass (flags : Flags) (cs : List Char) : Except Fault (ClassValue × List Char) := do
  let ((negated, u), rest) ← readBracketStart flags cs
  readBrackets flags (rest.length + 1) u [.bracket ClassUnion.empty negated] rest

end Pattern
end LiteralPatch
