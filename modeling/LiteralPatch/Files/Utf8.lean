/-!
# Text from bytes

The bytes of a file are text if they are well-formed UTF-8.  If they are not, `Utf8.Fault` says where:
after the longest part that is text, either some bytes can be no part of any character, or the end
comes in the middle of one.
-/

namespace LiteralPatch
namespace Utf8

/-- Where bytes cease to be text. -/
structure Fault where
  /-- The number of bytes before the fault. -/
  index : Nat
  /-- The number of bytes that cannot stand there; `none` if the bytes end too early. -/
  length : Option Nat
deriving DecidableEq, Repr

namespace Fault

def message (f : Fault) : String :=
  match f.length with
  | some n =>
    "invalid utf-8 sequence of " ++ toString n ++ " bytes from index " ++ toString f.index
  | none => "incomplete utf-8 byte sequence from index " ++ toString f.index

end Fault

/-- Whether a byte lies in a range. -/
def within (lo hi b : UInt8) : Bool := lo ≤ b && b ≤ hi

/-- Whether a byte continues a character. -/
def continues (b : UInt8) : Bool := within 0x80 0xBF b

/-- The bytes that may follow the first byte of a character, and how many bytes come after those; `none`
if no character of several bytes starts so.  The narrower ranges leave out overlong forms, surrogates
and numbers beyond the last code point. -/
def follow? (b : UInt8) : Option ((UInt8 × UInt8) × Nat) :=
  if within 0xC2 0xDF b then some ((0x80, 0xBF), 0)
  else if b = 0xE0 then some ((0xA0, 0xBF), 1)
  else if b = 0xED then some ((0x80, 0x9F), 1)
  else if within 0xE1 0xEF b then some ((0x80, 0xBF), 1)
  else if b = 0xF0 then some ((0x90, 0xBF), 2)
  else if b = 0xF4 then some ((0x80, 0x8F), 2)
  else if within 0xF1 0xF3 b then some ((0x80, 0xBF), 2)
  else none

/-- Reads bytes from index `i` on: `start` is where the current character began, `next` the range for
its next byte and `owed` how many bytes follow that one, if the character is unfinished. -/
def scan : (start i : Nat) → Option ((UInt8 × UInt8) × Nat) → List UInt8 → Option Fault
  | _, _, none, [] => none
  | start, _, some _, [] => some ⟨start, none⟩
  | _, i, none, b :: bs =>
    if b < 0x80 then scan (i + 1) (i + 1) none bs
    else
      match follow? b with
      | some expected => scan i (i + 1) (some expected) bs
      | none => some ⟨i, some 1⟩
  | start, i, some ((lo, hi), owed), b :: bs =>
    if within lo hi b then
      match owed with
      | 0 => scan (i + 1) (i + 1) none bs
      | owed + 1 => scan start (i + 1) (some ((0x80, 0xBF), owed)) bs
    else some ⟨start, some (i - start)⟩

/-- The first fault, if there is one. -/
def fault? (bytes : ByteArray) : Option Fault :=
  scan 0 0 none bytes.toList

/-- The text that bytes hold. -/
def decode (bytes : ByteArray) : Except Fault String :=
  match String.fromUTF8? bytes with
  | some text => .ok text
  | none => .error ((fault? bytes).getD ⟨0, none⟩)

end Utf8
end LiteralPatch
