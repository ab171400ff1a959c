import LiteralPatch.Toml.Scalar

/-!
# Strings of a document

Four kinds: with escapes or without, on one line or on several.  A string on several lines does not
contain a line break right after its opening quotes, and may end in up to two quotes of its own before
the closing ones.  In a string with escapes a backslash at the end of a line joins the lines.

Every reader starts after the opening quotes and returns what follows the closing ones.
-/

namespace LiteralPatch
namespace Toml
namespace Text

/-- Whether a character may stand in a string or a comment: no control character but the tab. -/
def isPlain (c : Char) : Bool :=
  c == '\t' || (0x20 ≤ c.toNat && c.toNat != 0x7F)

/-- The character with a code point that is given by exactly `n` hexadecimal digits. -/
def codePoint (n : Nat) (cs : List Char) : Except Fault (Char × List Char) :=
  let ds := cs.take n
  let value := Scalar.numberOf 16 ds
  if ds.length = n ∧ ds.all (fun d => Scalar.digitValue d < 16) ∧ value.isValidChar then
    .ok (Char.ofNat value, cs.drop n)
  else .error .escapeInvalid

/-- What follows a backslash. -/
def escape : List Char → Except Fault (Char × List Char)
  | 'b' :: cs => .ok ('\x08', cs)
  | 't' :: cs => .ok ('\t', cs)
  | 'n' :: cs => .ok ('\n', cs)
  | 'f' :: cs => .ok ('\x0c', cs)
  | 'r' :: cs => .ok ('\r', cs)
  | 'e' :: cs => .ok ('\x1b', cs)
  | '"' :: cs => .ok ('"', cs)
  | '\\' :: cs => .ok ('\\', cs)
  | 'x' :: cs => codePoint 2 cs
  | 'u' :: cs => codePoint 4 cs
  | 'U' :: cs => codePoint 8 cs
  | _ => .error .escapeInvalid

/-- A string with escapes on one line; `acc` is what has been read, in reverse. -/
def basic : Nat → List Char → List Char → Except Fault (String × List Char)
  | 0, _, _ => .error .unclosedString
  | n + 1, acc, cs =>
    match cs with
    | [] => .error .unclosedString
    | '"' :: rest => .ok (String.ofList acc.reverse, rest)
    | '\\' :: rest => do
      let (c, rest) ← escape rest
      basic n (c :: acc) rest
    | c :: rest => if isPlain c then basic n (c :: acc) rest else .error .controlCharacter

/-- A string without escapes on one line. -/
def literal (acc : List Char) : List Char → Except Fault (String × List Char)
  | [] => .error .unclosedString
  | '\'' :: rest => .ok (String.ofList acc.reverse, rest)
  | c :: rest => if isPlain c then literal (c :: acc) rest else .error .controlCharacter

/-- Drops a line break at the start. -/
def dropNewline : List Char → List Char
  | '\n' :: cs => cs
  | '\r' :: '\n' :: cs => cs
  | cs => cs

/-- The number of quotes at the start, up to five: three close the string, two may be its own. -/
def quotes (q : Char) (cs : List Char) : Nat :=
  ((cs.take 5).takeWhile (· == q)).length

/-- Drops blanks and line breaks. -/
def dropBlank : List Char → List Char
  | '\r' :: '\n' :: cs => dropBlank cs
  | c :: cs => if c == ' ' || c == '\t' || c == '\n' then dropBlank cs else c :: cs
  | [] => []

/-- After a backslash: what remains behind the line break that it hides, if there is one on this
line. -/
def joined? (cs : List Char) : Option (List Char) :=
  match cs.dropWhile fun c => c == ' ' || c == '\t' with
  | '\n' :: rest => some (dropBlank rest)
  | '\r' :: '\n' :: rest => some (dropBlank rest)
  | _ => none

/-- A string with escapes on several lines. -/
def basicLines : Nat → List Char → List Char → Except Fault (String × List Char)
  | 0, _, _ => .error .unclosedString
  | n + 1, acc, cs =>
    match cs with
    | [] => .error .unclosedString
    | '"' :: rest =>
      let k := quotes '"' cs
      if 3 ≤ k then
        .ok (String.ofList (List.replicate (k - 3) '"' ++ acc).reverse, cs.drop k)
      else basicLines n ('"' :: acc) rest
    | '\\' :: rest =>
      match joined? rest with
      | some rest => basicLines n acc rest
      | none => do
        let (c, rest) ← escape rest
        basicLines n (c :: acc) rest
    | '\n' :: rest => basicLines n ('\n' :: acc) rest
    | '\r' :: '\n' :: rest => basicLines n ('\n' :: '\r' :: acc) rest
    | c :: rest => if isPlain c then basicLines n (c :: acc) rest else .error .controlCharacter

/-- A string without escapes on several lines. -/
def literalLines : Nat → List Char → List Char → Except Fault (String × List Char)
  | 0, _, _ => .error .unclosedString
  | n + 1, acc, cs =>
    match cs with
    | [] => .error .unclosedString
    | '\'' :: rest =>
      let k := quotes '\'' cs
      if 3 ≤ k then
        .ok (String.ofList (List.replicate (k - 3) '\'' ++ acc).reverse, cs.drop k)
      else literalLines n ('\'' :: acc) rest
    | '\n' :: rest => literalLines n ('\n' :: acc) rest
    | '\r' :: '\n' :: rest => literalLines n ('\n' :: '\r' :: acc) rest
    | c :: rest => if isPlain c then literalLines n (c :: acc) rest else .error .controlCharacter

/-- The string that the text starts with, if it starts with a quote.  Each round of a reader takes a
character, so the length of the text is enough fuel. -/
def read? (cs : List Char) : Option (Except Fault (String × List Char)) :=
  match cs with
  | '"' :: '"' :: '"' :: rest => some (basicLines (cs.length + 1) [] (dropNewline rest))
  | '\'' :: '\'' :: '\'' :: rest => some (literalLines (cs.length + 1) [] (dropNewline rest))
  | '"' :: rest => some (basic (cs.length + 1) [] rest)
  | '\'' :: rest => some (literal [] rest)
  | _ => none

end Text
end Toml
end LiteralPatch
