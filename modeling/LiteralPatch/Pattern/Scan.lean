import LiteralPatch.Unicode.Property
import LiteralPatch.Unicode.Fold
import LiteralPatch.Pattern.Expr
import LiteralPatch.Pattern.Fault

/-!
# Reading characters of a pattern

Flags, and the small readers that the larger ones are made of.  In the verbose mode blanks and
comments (from `#` to the end of the line) are skipped nearly everywhere, also between the digits of
a count; every reader here therefore takes the mode.

Each reader returns what it read and the rest of the pattern.
-/

namespace LiteralPatch
namespace Pattern

/-- The modes that an inline flag can switch. -/
structure Flags where
  ignoreCase : Bool := false
  multiLine : Bool := false
  dotAll : Bool := false
  swapGreed : Bool := false
  unicode : Bool := true
  crlf : Bool := false
  verbose : Bool := false
deriving DecidableEq, Repr, Inhabited

namespace Flags

/-- Switches the mode that a letter names, if it names one. -/
def switch? (flags : Flags) (letter : Char) (on : Bool) : Option Flags :=
  match letter with
  | 'i' => some { flags with ignoreCase := on }
  | 'm' => some { flags with multiLine := on }
  | 's' => some { flags with dotAll := on }
  | 'U' => some { flags with swapGreed := on }
  | 'u' => some { flags with unicode := on }
  | 'R' => some { flags with crlf := on }
  | 'x' => some { flags with verbose := on }
  | _ => none

/-- The set that a literal character stands for. -/
def literal (flags : Flags) (c : Char) : CharSet :=
  if flags.ignoreCase then
    if flags.unicode then CharSet.ofCharFolded c else (CharSet.ofChar c).foldClosureAscii
  else CharSet.ofChar c

/-- The set that a dot stands for. -/
def dot (flags : Flags) : CharSet :=
  if flags.dotAll then CharSet.all
  else if flags.crlf then (CharSet.ofList [0x0A, 0x0D]).complement
  else (CharSet.single 0x0A).complement

/-- The last code point of a class: without Unicode, classes are sets of bytes. -/
def last (flags : Flags) : Nat :=
  if flags.unicode then CharSet.top else 0xFF

/-- Closes a set under equality up to case, where case is ignored. -/
def folded (flags : Flags) (s : CharSet) : CharSet :=
  if flags.ignoreCase then
    if flags.unicode then s.foldClosure else s.foldClosureAscii
  else s

end Flags

/-! ## Blanks and comments -/

/-- Drops blanks and comments; `inComment` says that one has begun. -/
def dropBlank : Bool → List Char → List Char
  | _, [] => []
  | true, c :: cs => dropBlank (c ≠ '\n') cs
  | false, c :: cs =>
    if Unicode.isWhite c then dropBlank false cs
    else if c = '#' then dropBlank true cs
    else c :: cs

/-- Drops blanks and comments in the verbose mode. -/
def skip (verbose : Bool) (cs : List Char) : List Char :=
  if verbose then dropBlank false cs else cs

/-- The characters up to the first that fails the test, without blanks and comments in the verbose
mode; `inComment` says that a comment has begun. -/
def gather (verbose : Bool) (test : Char → Bool) : Bool → List Char → List Char × List Char
  | _, [] => ([], [])
  | true, c :: cs => gather verbose test (c ≠ '\n') cs
  | false, c :: cs =>
    if verbose && Unicode.isWhite c then gather verbose test false cs
    else if verbose && c == '#' then gather verbose test true cs
    else if test c then
      let (taken, rest) := gather verbose test false cs
      (c :: taken, rest)
    else ([], c :: cs)

/-- The character after the next one, past blanks in the verbose mode.  A comment is entered but not
left: its first character that is no blank is the answer. -/
def peekPast (verbose : Bool) (cs : List Char) : Option Char :=
  match cs with
  | [] => none
  | _ :: rest =>
    if verbose then
      match rest.dropWhile Unicode.isWhite with
      | [] => rest.head?
      | '#' :: inner =>
        match inner.dropWhile Unicode.isWhite with
        | [] => rest.head?
        | c :: _ => some c
      | c :: _ => some c
    else rest.head?

/-! ## Numbers -/

def isDecimal (c : Char) : Bool := '0' ≤ c && c ≤ '9'

/-- The value of a string of decimal digits. -/
def decimalValue (ds : List Char) : Nat :=
  ds.foldl (fun n d => 10 * n + (d.toNat - '0'.toNat)) 0

/-- The limit of the counts of a repetition. -/
def countLimit : Nat := 0x100000000

/-- A decimal number below the limit, with blanks around it in any mode. -/
def readDecimal (verbose : Bool) (cs : List Char) : Except Fault (Nat × List Char) :=
  let (ds, rest) := gather verbose isDecimal false ((skip verbose cs).dropWhile Unicode.isWhite)
  let rest := rest.dropWhile Unicode.isWhite
  if ds.isEmpty then throw .repetitionCountMissing
  else if decimalValue ds < countLimit then pure (decimalValue ds, rest)
  else throw .decimalInvalid

/-- The character with this code point. -/
def scalar (n : Nat) : Except Fault Char :=
  if n.isValidChar then pure (Char.ofNat n) else throw .hexInvalid

/-- Exactly `n` hexadecimal digits; `acc` is the value so far. -/
def readHexDigits (verbose : Bool) : Nat → Nat → List Char → Except Fault (Nat × List Char)
  | 0, acc, cs => pure (acc, cs)
  | _ + 1, _, [] => throw .escapeUnfinished
  | n + 1, acc, c :: cs =>
    match Unicode.hexDigit? c with
    | none => throw .hexDigitInvalid
    | some d => readHexDigits verbose n (16 * acc + d) (skip verbose cs)

/-- A character by its code point, after `\x`, `\u` or `\U`: `width` digits, or any number of them
in braces.  The flag says whether the braces were absent. -/
def readHex (verbose : Bool) (width : Nat) (cs : List Char) : Except Fault ((Char × Bool) × List Char) :=
  match skip verbose cs with
  | [] => throw .escapeUnfinished
  | '\x7b' :: inner => do
    let (ds, rest) := gather verbose (· ≠ '\x7d') false inner
    match rest with
    | [] => throw .escapeUnfinished
    | _ :: rest =>
      if ds.isEmpty then throw .hexEmpty
      match ds.mapM Unicode.hexDigit? with
      | none => throw .hexDigitInvalid
      | some vs => pure ((← scalar (vs.foldl (fun n d => 16 * n + d) 0), false), skip verbose rest)
  | digits => do
    let (n, rest) ← readHexDigits verbose width 0 digits
    pure ((← scalar n, true), rest)

end Pattern
end LiteralPatch
