import LiteralPatch.Json.Value

/-!
# JSON, laid out for reading

Each item of an array and each field of an object has a line of its own, two spaces further in than what
it belongs to; an array or object without any is a pair of brackets.  In a string the quote, the
backslash and the control characters are escaped, and everything else stays as it is.
-/

namespace LiteralPatch
namespace Json

/-- A digit of a number below 16. -/
def hexDigit (n : Nat) : Char := (Nat.toDigits 16 n).headD '0'

/-- A character of a string. -/
def escaped (c : Char) : List Char :=
  match c with
  | '"' => ['\\', '"']
  | '\\' => ['\\', '\\']
  | '\x08' => ['\\', 'b']
  | '\x0c' => ['\\', 'f']
  | '\n' => ['\\', 'n']
  | '\r' => ['\\', 'r']
  | '\t' => ['\\', 't']
  | c =>
    if c.toNat < 0x20 then ['\\', 'u', '0', '0', hexDigit (c.toNat / 16), hexDigit (c.toNat % 16)]
    else [c]

/-- A string in quotes. -/
def quoted (s : String) : List Char :=
  '"' :: s.toList.flatMap escaped ++ ['"']

/-- A new line, `depth` levels in. -/
def newline (depth : Nat) : List Char :=
  '\n' :: List.replicate (2 * depth) ' '

mutual

/-- A value whose first line stands `depth` levels in. -/
def layout (depth : Nat) : Json → List Char
  | null => ['n', 'u', 'l', 'l']
  | boolean true => ['t', 'r', 'u', 'e']
  | boolean false => ['f', 'a', 'l', 's', 'e']
  | number n => Nat.toDigits 10 n
  | string s => quoted s
  | array [] => ['[', ']']
  | array (v :: vs) =>
    '[' :: newline (depth + 1) ++ layout (depth + 1) v ++ layoutItems depth vs ++ newline depth ++ [']']
  | object [] => ['\x7b', '\x7d']
  | object ((k, v) :: es) =>
    '\x7b' :: newline (depth + 1) ++ quoted k ++ [':', ' '] ++ layout (depth + 1) v ++
      layoutFields depth es ++ newline depth ++ ['\x7d']

/-- The items of an array after the first. -/
def layoutItems (depth : Nat) : List Json → List Char
  | [] => []
  | v :: vs => ',' :: newline (depth + 1) ++ layout (depth + 1) v ++ layoutItems depth vs

/-- The fields of an object after the first. -/
def layoutFields (depth : Nat) : List (String × Json) → List Char
  | [] => []
  | (k, v) :: es =>
    ',' :: newline (depth + 1) ++ quoted k ++ [':', ' '] ++ layout (depth + 1) v ++
      layoutFields depth es

end

/-- The text of a value. -/
def pretty (v : Json) : String := String.ofList (layout 0 v)

end Json
end LiteralPatch
