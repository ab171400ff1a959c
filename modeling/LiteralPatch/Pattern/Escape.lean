import LiteralPatch.Pattern.Scan

/-!
# Escapes

What follows a backslash: a character that would otherwise have a meaning, a control character, a
character by its number, a class, or an assertion.  An ASCII letter or digit has a meaning or none,
and is never escaped idly; any other ASCII character may be.  The function `escaped` writes text so
that a pattern takes it literally.
-/

namespace LiteralPatch
namespace Pattern

/-- What one escape, or one plain character, denotes. -/
inductive Atom where
  /-- A literal character; `byte` says that it was given by exactly two hexadecimal digits. -/
  | literal (c : Char) (byte : Bool)
  | set (s : CharSet)
  | look (a : Assertion)
deriving Repr

/-- The characters that have a meaning somewhere in a pattern. -/
def metaCharacters : List Char :=
  ['\\', '.', '+', '*', '?', '(', ')', '|', '[', ']', '\x7b', '\x7d', '^', '$', '#', '&', '-', '~']

/-- Writes a text as a pattern that matches exactly this text. -/
def escaped (text : List Char) : List Char :=
  text.flatMap fun c => if c ∈ metaCharacters then ['\\', c] else [c]

/-- Whether a backslash before the character is allowed and idle. -/
def isIdle (c : Char) : Bool :=
  c ∈ metaCharacters || (c.toNat < 0x80 && !c.isAlphanum && c ≠ '<' && c ≠ '>')

/-- The class of digits, blanks or word characters, or of all others for a capital letter. -/
def perlClass (flags : Flags) (letter : Char) : Except Fault CharSet :=
  if flags.unicode then
    pure (match letter with
      | 'd' => Unicode.digit
      | 'D' => Unicode.notDigit
      | 's' => Unicode.whiteSpace
      | 'S' => Unicode.notWhiteSpace
      | 'w' => Unicode.word
      | _ => Unicode.notWord)
  else
    match letter with
    | 'd' => pure (CharSet.interval 0x30 0x39)
    | 's' => pure (CharSet.ofRanges [(0x09, 0x0D), (0x20, 0x20)])
    | 'w' => pure (CharSet.ofRanges [(0x30, 0x39), (0x41, 0x5A), (0x5F, 0x5F), (0x61, 0x7A)])
    | _ => throw .invalidText

/-- Splits a text at the first occurrence of a separator. -/
def splitAt? (sep : List Char) : List Char → Option (List Char × List Char)
  | [] => none
  | c :: cs =>
    if sep.isPrefixOf (c :: cs) then some ([], (c :: cs).drop sep.length)
    else (splitAt? sep cs).map fun (l, r) => (c :: l, r)

/-- The set that the text between the braces of a property class names.  A property and its value may
be joined by `!=`, `:` or `=`, all with the same meaning: only `\P` negates. -/
def propertySet (name : List Char) : Option CharSet :=
  match splitAt? ['!', '='] name <|> splitAt? [':'] name <|> splitAt? ['='] name with
  | some (p, v) => Unicode.valued? p v
  | none => Unicode.named? name

/-- A property class, after `\p` or `\P`.  Case is folded before the class is negated. -/
def readProperty (flags : Flags) (negated : Bool) (cs : List Char) : Except Fault (CharSet × List Char) := do
  let (name, rest) ← match skip flags.verbose cs with
    | [] => throw .escapeUnfinished
    | '\x7b' :: inner =>
      match gather flags.verbose (· ≠ '\x7d') false inner with
      | (_, []) => throw .escapeUnfinished
      | (name, _ :: rest) => pure (name, rest)
    | '\\' :: _ => throw .propertyInvalid
    | c :: rest => pure ([c], skip flags.verbose rest)
  if !flags.unicode then throw .unicodeNotAllowed
  match propertySet name with
  | none => throw .propertyUnknown
  | some s =>
    let s := flags.folded s
    pure (if negated then s.complement else s, rest)

/-- The word edge named in braces after `\b`, if the braces hold a name rather than a count. -/
def readWordEdge (flags : Flags) (cs : List Char) : Except Fault (WordEdge × List Char) :=
  let isNameChar (c : Char) : Bool := c.isAlpha || c == '-'
  match cs with
  | '\x7b' :: inner =>
    match skip flags.verbose inner with
    | [] => throw .wordEdgeUnclosed
    | c :: _ =>
      if !isNameChar c then pure (.boundary, cs)
      else
        match gather flags.verbose isNameChar false inner with
        | (name, '\x7d' :: rest) =>
          match String.ofList name with
          | "start" => pure (.start, rest)
          | "end" => pure (.stop, rest)
          | "start-half" => pure (.startHalf, rest)
          | "end-half" => pure (.stopHalf, rest)
          | _ => throw .wordEdgeUnknown
        | _ => throw .wordEdgeUnclosed
  | _ => pure (.boundary, cs)

/-- What follows a backslash. -/
def readEscape (flags : Flags) : List Char → Except Fault (Atom × List Char)
  | [] => throw .escapeUnfinished
  | c :: cs =>
    let hex (width : Nat) : Except Fault (Atom × List Char) := do
      let ((c, fixed), rest) ← readHex flags.verbose width cs
      pure (.literal c (fixed && width == 2), rest)
    if isDecimal c then throw .backreference
    else if isIdle c then pure (.literal c false, cs)
    else
      match c with
      | 'x' => hex 2
      | 'u' => hex 4
      | 'U' => hex 8
      | 'p' => do
        let (s, rest) ← readProperty flags false cs
        pure (.set s, rest)
      | 'P' => do
        let (s, rest) ← readProperty flags true cs
        pure (.set s, rest)
      | 'd' | 'D' | 's' | 'S' | 'w' | 'W' => do pure (.set (← perlClass flags c), cs)
      | 'a' => pure (.literal '\x07' false, cs)
      | 'f' => pure (.literal '\x0c' false, cs)
      | 't' => pure (.literal '\t' false, cs)
      | 'n' => pure (.literal '\n' false, cs)
      | 'r' => pure (.literal '\r' false, cs)
      | 'v' => pure (.literal '\x0b' false, cs)
      | 'A' => pure (.look .textStart, cs)
      | 'z' => pure (.look .textEnd, cs)
      | 'b' => do
        let (edge, rest) ← readWordEdge flags cs
        pure (.look (.word edge flags.unicode), rest)
      | 'B' => pure (.look (.word .inside flags.unicode), cs)
      | '<' => pure (.look (.word .start flags.unicode), cs)
      | '>' => pure (.look (.word .stop flags.unicode), cs)
      | _ => throw .escapeUnknown

end Pattern
end LiteralPatch
