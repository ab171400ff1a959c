import LiteralPatch.Span
import LiteralPatch.Digest
import LiteralPatch.Text.Quoted

/-!
# Verified edits

An edit replaces the text at a span, and says what it expects to find there.  A batch of edits is
applied as a whole: every edit is validated against the text *as it was given* before anything is replaced, so
a batch either applies completely or leaves no trace.

## Why splicing from the end is right

Edits are carried out in descending order of their starts.  Replacing the text of one span moves
nothing before it, and no later span starts before it, so every offset still means what it meant in the
given text.  Two edits that overlap would break this, and are found as neighbours in that order.
-/

namespace LiteralPatch

/-- What an edit expects at its span. -/
inductive Expectation where
  /-- This very text. -/
  | exact (text : String)
  /-- A text with this digest. -/
  | digest (value : UInt64)
deriving DecidableEq, Repr

namespace Expectation

/-- The longest text, in bytes, that is kept as it is. -/
def exactLimit : Nat := 1024

/-- Expects the given text, by its digest if it is long. -/
def ofText (text : String) : Expectation :=
  if exactLimit < text.utf8ByteSize then digest (Digest.ofText text) else exact text

/-- Whether a text is as expected. -/
def accepts (e : Expectation) (text : String) : Bool :=
  match e with
  | exact expected => text == expected
  | digest value => Digest.ofText text == value

/-- The expectation, shown for a report of a mismatch. -/
def shown : Expectation → String
  | exact text => "ExactMatch(" ++ Text.Quoted.text text ++ ")"
  | digest value => "Hash(" ++ toString value.toNat ++ ")"

end Expectation

/-- The replacement of the text at a span. -/
structure Edit where
  span : Span
  newText : String
  expected : Expectation
deriving DecidableEq, Repr

/-- Why a batch of edits is refused. -/
inductive EditError where
  | mismatch (span : Span) (expected : Expectation) (found : String)
  | invalidSpan (span : Span) (length : Nat)
  /-- The first of the two starts no later than the second. -/
  | overlap (first second : Span)
deriving DecidableEq, Repr

namespace EditError

def message : EditError → String
  | mismatch span _ _ => "Before-text verification failed at " ++ span.message
  | invalidSpan span length =>
    "Invalid byte range: " ++ span.message ++ " in text of length " ++ toString length
  | overlap first second =>
    "Overlapping edits at " ++ first.message ++ " and " ++ second.message

end EditError

namespace Span

/-- The span as a part of the text, or the error that it is none. -/
def check (s : Span) (text : List Char) : Except EditError Unit :=
  if s.fits text then .ok () else .error (.invalidSpan s (Text.width text))

end Span

namespace Edit

/-- Replaces `old`, which is expected at the span, by `new`. -/
def replacing (span : Span) (old new : String) : Edit :=
  ⟨span, new, Expectation.ofText old⟩

/-- Whether the edit may be applied to the text. -/
def validate (e : Edit) (text : List Char) : Except EditError Unit :=
  if e.span.fits text then
    match e.span.slice? text with
    | none => .error (.invalidSpan e.span (Text.width text))
    | some found =>
      if e.expected.accepts (String.ofList found) then .ok ()
      else .error (.mismatch e.span e.expected (String.ofList found))
  else .error (.invalidSpan e.span (Text.width text))

/-- Replaces the text at the span, if the span lies at boundaries. -/
def splice? (e : Edit) (text : List Char) : Option (List Char) :=
  match Text.cut? text e.span.start, Text.cut? text e.span.stop with
  | some (left, _), some (_, right) => some (left ++ e.newText.toList ++ right)
  | _, _ => none

/-- The first neighbours that overlap, in edits given by descending start. -/
def overlap? : List Edit → Option (Span × Span)
  | later :: earlier :: rest =>
    if later.span.start < earlier.span.stop then some (earlier.span, later.span)
    else overlap? (earlier :: rest)
  | _ => none

/-- Replaces the text at one span after the other. -/
def spliceAll (text : List Char) : List Edit → Except EditError (List Char)
  | [] => .ok text
  | e :: rest =>
    match e.splice? text with
    | some next => spliceAll next rest
    | none => .error (.invalidSpan e.span (Text.width text))

/-- The edits by descending start; of edits with one start, the earlier listed comes first. -/
def descending (edits : List Edit) : List Edit :=
  edits.mergeSort fun a b => b.span.start ≤ a.span.start

/-- Applies a batch of edits to a text. -/
def applyAll (text : String) (edits : List Edit) : Except EditError String := do
  let cs := text.toList
  edits.forM (·.validate cs)
  let sorted := descending edits
  match overlap? sorted with
  | some (first, second) => throw (.overlap first second)
  | none => return String.ofList (← spliceAll cs sorted)

end Edit
end LiteralPatch
