import LiteralPatch.Unicode.Property

/-!
# Text in quotes

Text inside a message is quoted so that it can be read unambiguously: the quote and the backslash are
escaped, the usual control characters have short names, and whatever cannot be seen, or attaches itself
to the character before it, is given by its number in lower hexadecimal.  A printable character stays
as it is, ASCII or not.
-/

namespace LiteralPatch
namespace Text
namespace Quoted

/-- The characters that cannot be seen: controls, formats, unassigned and private ones, and all
separators but the space. -/
def unseen : CharSet :=
  ["Cc", "Cf", "Cn", "Co", "Zl", "Zp", "Zs"].foldl
    (fun acc name => acc.union ((Unicode.ofTable Unicode.categoryTable name).getD CharSet.empty))
    CharSet.empty

/-- The characters that attach themselves to the one before. -/
def attached : CharSet :=
  (Unicode.ofTable Unicode.binaryTable "graphemeextend").getD CharSet.empty

/-- Whether a character is shown as it is. -/
def isShown (c : Char) : Bool :=
  if c.toNat < 0x80 then 0x20 ≤ c.toNat && c.toNat < 0x7F
  else !unseen.has c && !attached.has c

/-- A number in lower hexadecimal. -/
def hex (n : Nat) : List Char := Nat.toDigits 16 n

/-- One character inside quotes of the given kind. -/
def encodeChar (quote c : Char) : List Char :=
  if c = quote then ['\\', c]
  else
    match c with
    | '\x00' => ['\\', '0']
    | '\t' => ['\\', 't']
    | '\r' => ['\\', 'r']
    | '\n' => ['\\', 'n']
    | '\\' => ['\\', '\\']
    | c => if isShown c then [c] else ['\\', 'u', '\x7b'] ++ hex c.toNat ++ ['\x7d']

/-- A character in single quotes. -/
def char (c : Char) : String :=
  String.ofList ('\'' :: encodeChar '\'' c ++ ['\''])

/-- A text in double quotes. -/
def text (s : String) : String :=
  String.ofList ('"' :: s.toList.flatMap (encodeChar '"') ++ ['"'])

end Quoted
end Text
end LiteralPatch
