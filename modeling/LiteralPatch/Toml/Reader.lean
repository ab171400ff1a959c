import LiteralPatch.Toml.Document
import LiteralPatch.Toml.Text

/-!
# Reading a document

Version 1.1 of the format: line breaks, comments and a trailing comma are allowed inside inline tables
as they are inside arrays, and the seconds of a time may be missing.  A byte order mark at the start is
skipped.

Arrays and inline tables nest at most `nestingLimit` deep.  Readers of nested values take fuel; of
two nested rounds at least one takes a character, so twice the length of the document is enough.
-/

namespace LiteralPatch
namespace Toml

/-- The deepest nesting of arrays and inline tables. -/
def nestingLimit : Nat := 80

namespace Reader

/-! ## Blanks -/

/-- Drops blanks. -/
def blanks (cs : List Char) : List Char :=
  cs.dropWhile fun c => c == ' ' || c == '\t'

/-- Reads a comment up to its line break. -/
def comment : List Char → Except Fault (List Char)
  | [] => .ok []
  | '\n' :: cs => .ok ('\n' :: cs)
  | '\r' :: '\n' :: cs => .ok ('\r' :: '\n' :: cs)
  | c :: cs => if Text.isPlain c then comment cs else .error .controlCharacter

/-- Drops blanks, line breaks and comments. -/
def gap : Nat → List Char → Except Fault (List Char)
  | 0, cs => .ok cs
  | n + 1, cs =>
    match cs with
    | '#' :: rest => do gap n (← comment rest)
    | '\n' :: rest => gap n rest
    | '\r' :: '\n' :: rest => gap n rest
    | ' ' :: rest => gap n rest
    | '\t' :: rest => gap n rest
    | cs => .ok cs

/-- Drops everything between two items. -/
def space (cs : List Char) : Except Fault (List Char) :=
  gap cs.length cs

/-- What may follow on the line of a finished item: blanks and a comment. -/
def endOfLine (cs : List Char) : Except Fault (List Char) := do
  let rest ← match blanks cs with
    | '#' :: rest => comment rest
    | rest => pure rest
  match rest with
  | [] => pure []
  | '\n' :: rest => pure rest
  | '\r' :: '\n' :: rest => pure rest
  | c :: _ => throw (.unexpectedCharacter c)

/-! ## Keys -/

def isBare (c : Char) : Bool :=
  c.isAlphanum || c == '_' || c == '-'

/-- One part of a key. -/
def simpleKey (cs : List Char) : Except Fault (String × List Char) :=
  match cs with
  | '"' :: rest => Text.basic (rest.length + 1) [] rest
  | '\'' :: rest => Text.literal [] rest
  | _ =>
    let (key, rest) := cs.span isBare
    if key.isEmpty then .error .keyMissing else .ok (String.ofList key, rest)

/-- A key, with dots between its parts and blanks around the dots. -/
def key : Nat → List Char → Except Fault (List String × List Char)
  | 0, _ => .error .keyMissing
  | n + 1, cs => do
    let (first, rest) ← simpleKey (blanks cs)
    match blanks rest with
    | '.' :: rest => do
      let (path, rest) ← key n rest
      pure (first :: path, rest)
    | rest => pure ([first], rest)

/-- A key, the equals sign after it, and the blanks around that. -/
def assigned (cs : List Char) : Except Fault (List String × List Char) := do
  let (path, rest) ← key (cs.length + 1) cs
  match rest with
  | '=' :: rest => pure (path, blanks rest)
  | c :: _ => throw (.unexpectedCharacter c)
  | [] => throw .unexpectedEnd

/-! ## Values -/

/-- Whether a character may stand in a scalar that is no string. -/
def isScalar (c : Char) : Bool :=
  c.isAlphanum || c == '+' || c == '-' || c == '_' || c == '.' || c == ':'

/-- The run of characters of a scalar.  A blank belongs to it between a date and a time. -/
def scalarRun (cs : List Char) : List Char × List Char :=
  let (first, rest) := cs.span isScalar
  match rest with
  | ' ' :: d :: more =>
    if Scalar.date? first = some [] ∧ Scalar.isDigit d then
      let (second, rest) := (d :: more).span isScalar
      (first ++ ' ' :: second, rest)
    else (first, rest)
  | _ => (first, rest)

mutual

/-- A value; `depth` is the nesting around it. -/
def value : Nat → Nat → List Char → Except Fault (Value × List Char)
  | 0, _, _ => .error .unexpectedEnd
  | n + 1, depth, cs =>
    match Text.read? cs with
    | some result => do
      let (text, rest) ← result
      pure (.string text, rest)
    | none =>
      match cs with
      | [] => throw .unexpectedEnd
      | '[' :: rest =>
        if nestingLimit ≤ depth then throw .nestedTooDeep
        else do
          let (items, rest) ← items n (depth + 1) rest
          pure (.array items, rest)
      | '\x7b' :: rest =>
        if nestingLimit ≤ depth then throw .nestedTooDeep
        else do
          let (entries, rest) ← entries n (depth + 1) [] rest
          pure (.table (finishEntries entries), rest)
      | c :: _ => do
        let (run, rest) := scalarRun cs
        if run.isEmpty then throw (.unexpectedCharacter c)
        pure (← Scalar.read run, rest)

/-- The items of an array, up to its closing bracket. -/
def items : Nat → Nat → List Char → Except Fault (List Value × List Char)
  | 0, _, _ => .error .unexpectedEnd
  | n + 1, depth, cs => do
    match ← space cs with
    | [] => throw .unexpectedEnd
    | ']' :: rest => pure ([], rest)
    | cs => do
      let (v, rest) ← value n depth cs
      match ← space rest with
      | ',' :: rest => do
        let (vs, rest) ← items n depth rest
        pure (v :: vs, rest)
      | ']' :: rest => pure ([v], rest)
      | c :: _ => throw (.unexpectedCharacter c)
      | [] => throw .unexpectedEnd

/-- The entries of an inline table, up to its closing brace. -/
def entries : Nat → Nat → Entries → List Char → Except Fault (Entries × List Char)
  | 0, _, _, _ => .error .unexpectedEnd
  | n + 1, depth, es, cs => do
    match ← space cs with
    | [] => throw .unexpectedEnd
    | '\x7d' :: rest => pure (es, rest)
    | cs => do
      let (path, rest) ← assigned cs
      let (v, rest) ← value n depth rest
      let es ← Entries.assign true v path es
      match ← space rest with
      | ',' :: rest => entries n depth es rest
      | '\x7d' :: rest => pure (es, rest)
      | c :: _ => throw (.unexpectedCharacter c)
      | [] => throw .unexpectedEnd

end

/-! ## Documents -/

/-- A header's key, up to the closing bracket. -/
def header (cs : List Char) : Except Fault (List String × List Char) := do
  let (path, rest) ← key (cs.length + 1) cs
  match rest with
  | ']' :: rest => pure (path, rest)
  | c :: _ => throw (.unexpectedCharacter c)
  | [] => throw .unexpectedEnd

/-- Reads headers and assignments; `here` is the key of the last header. -/
def lines : Nat → List String → Entries → List Char → Except Fault Entries
  | 0, _, es, _ => .ok es
  | n + 1, here, es, cs => do
    match ← space cs with
    | [] => pure es
    | '[' :: '[' :: rest => do
      let (path, rest) ← header rest
      match rest with
      | ']' :: rest => do
        let es ← Entries.openElement path es
        lines n path es (← endOfLine rest)
      | c :: _ => throw (.unexpectedCharacter c)
      | [] => throw .unexpectedEnd
    | '[' :: rest => do
      let (path, rest) ← header rest
      let es ← Entries.openTable path es
      lines n path es (← endOfLine rest)
    | cs => do
      let (path, rest) ← assigned cs
      let (v, rest) ← value (2 * rest.length + 2) 0 rest
      let es ← Entries.assignIn v path here es
      lines n here es (← endOfLine rest)

end Reader

/-- Reads a document; the answer is the entries of its outermost table. -/
def read (text : String) : Except Fault (List (String × Value)) := do
  let cs := match text.toList with
    | '\ufeff' :: cs => cs
    | cs => cs
  pure (finishEntries (← Reader.lines (cs.length + 1) [] [] cs))

end Toml
end LiteralPatch
