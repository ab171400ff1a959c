import LiteralPatch.Json.Value
import LiteralPatch.Proofs.Version.Strict

/-!
# JSON texts

Which texts are JSON, and of which values.  The grammar is that of the format, as far as the values go: numbers
are natural, and an escape by code stands for one character of the basic plane.  White space may stand wherever
the format lets it stand.

A value may hold values, so the relation between texts and values is built in layers: `IsValue d` holds for the
values that are nested less than `d` deep, and `Layer` says what one more level looks like.  Arrays and objects
are both a `Group` of parts between brackets; a part of an array is a value, and a part of an object is a field.
-/

namespace LiteralPatch
namespace Json

open Version (numeral)

variable {α : Type} {R S : List Char → α → Prop}

/-! ## White space and strings -/

/-- The characters of insignificant white space. -/
def isBlank (c : Char) : Bool := c == ' ' || c == '\n' || c == '\r' || c == '\t'

def Blanks (cs : List Char) : Prop := ∀ c ∈ cs, isBlank c = true

/-- The characters with an escape of one letter, behind the letter. -/
def shortEscapes : List (Char × Char) :=
  [('"', '"'), ('\\', '\\'), ('/', '/'), ('b', '\x08'), ('f', '\x0c'), ('n', '\n'), ('r', '\r'), ('t', '\t')]

/-- The value of a hexadecimal digit. -/
def hexValue? (c : Char) : Option Nat :=
  if '0' ≤ c ∧ c ≤ '9' then some (c.toNat - 48)
  else if 'a' ≤ c ∧ c ≤ 'f' then some (c.toNat - 87)
  else if 'A' ≤ c ∧ c ≤ 'F' then some (c.toNat - 55)
  else none

/-- The number that hexadecimal digits denote. -/
def hexNumber? (cs : List Char) : Option Nat :=
  (cs.mapM hexValue?).map (List.foldl (16 * · + ·) 0)

/-- How a character is written in a string. -/
inductive IsCharacter : List Char → Char → Prop where
  | plain {c : Char} : c ≠ '"' → c ≠ '\\' → 0x20 ≤ c.toNat → IsCharacter [c] c
  | short {letter c : Char} : (letter, c) ∈ shortEscapes → IsCharacter ['\\', letter] c
  | code {digits : List Char} {c : Char} : digits.length = 4 → hexNumber? digits = some c.toNat →
      IsCharacter ('\\' :: 'u' :: digits) c

/-- The characters of a string, one after the other. -/
inductive IsBody : List Char → List Char → Prop where
  | nil : IsBody [] []
  | cons {cs rest : List Char} {c : Char} {s : List Char} : IsCharacter cs c → IsBody rest s →
      IsBody (cs ++ rest) (c :: s)

/-- A string in quotes. -/
inductive IsString : List Char → String → Prop where
  | mk {body : List Char} {s : String} : IsBody body s.toList → IsString ('"' :: (body ++ ['"'])) s

/-! ## Values -/

/-- A part with white space around it. -/
inductive Padded (R : List Char → α → Prop) : List Char → α → Prop where
  | mk {before cs after : List Char} {a : α} : Blanks before → R cs a → Blanks after →
      Padded R (before ++ (cs ++ after)) a

/-- One part or more, separated by commas. -/
inductive Separated (R : List Char → α → Prop) : List Char → List α → Prop where
  | last {cs : List Char} {a : α} : Padded R cs a → Separated R cs [a]
  | more {cs rest : List Char} {a : α} {as : List α} : Padded R cs a → Separated R rest as →
      Separated R (cs ++ ',' :: rest) (a :: as)

/-- Any number of parts between brackets. -/
inductive Group (opening closing : Char) (R : List Char → α → Prop) : List Char → List α → Prop where
  | empty {gap : List Char} : Blanks gap → Group opening closing R (opening :: (gap ++ [closing])) []
  | parts {cs : List Char} {as : List α} : Separated R cs as →
      Group opening closing R (opening :: (cs ++ [closing])) as

/-- A field of an object: a name, a colon and a value. -/
inductive IsField (R : List Char → Json → Prop) : List Char → String × Json → Prop where
  | mk {name before after cs : List Char} {k : String} {v : Json} : IsString name k → Blanks before →
      Blanks after → R cs v → IsField R (name ++ (before ++ ':' :: (after ++ cs))) (k, v)

/-- A value whose parts are written as `R` says. -/
inductive Layer (R : List Char → Json → Prop) : List Char → Json → Prop where
  | null : Layer R ['n', 'u', 'l', 'l'] null
  | yes : Layer R ['t', 'r', 'u', 'e'] (boolean true)
  | no : Layer R ['f', 'a', 'l', 's', 'e'] (boolean false)
  | number (n : Nat) : Layer R (numeral n) (number n)
  | string {cs : List Char} {s : String} : IsString cs s → Layer R cs (string s)
  | array {cs : List Char} {vs : List Json} : Group '[' ']' R cs vs → Layer R cs (array vs)
  | object {cs : List Char} {fs : List (String × Json)} : Group '\x7b' '\x7d' (IsField R) cs fs →
      Layer R cs (object fs)

/-- The texts of values that are nested less than `d` deep. -/
def IsValue : Nat → List Char → Json → Prop
  | 0 => fun _ _ => False
  | d + 1 => Layer (IsValue d)

/-- A JSON text. -/
def IsText (text : String) (v : Json) : Prop := ∃ d, Padded (IsValue d) text.toList v

/-! ## Deeper values -/

theorem Padded.mono (h : ∀ cs a, R cs a → S cs a) {cs : List Char} {a : α} : Padded R cs a → Padded S cs a
  | .mk hbefore hcs hafter => .mk hbefore (h _ _ hcs) hafter

theorem Separated.mono (h : ∀ cs a, R cs a → S cs a) {cs : List Char} {as : List α} (hsep : Separated R cs as) :
    Separated S cs as := by
  induction hsep with
  | last hpart => exact .last (hpart.mono h)
  | more hpart _ ih => exact .more (hpart.mono h) ih

theorem Group.mono {opening closing : Char} (h : ∀ cs a, R cs a → S cs a) {cs : List Char} {as : List α} :
    Group opening closing R cs as → Group opening closing S cs as
  | .empty hgap => .empty hgap
  | .parts hsep => .parts (hsep.mono h)

theorem Layer.mono {R S : List Char → Json → Prop} (h : ∀ cs v, R cs v → S cs v) {cs : List Char} {v : Json}
    (hlayer : Layer R cs v) : Layer S cs v := by
  cases hlayer with
  | null => exact .null
  | yes => exact .yes
  | no => exact .no
  | number n => exact .number n
  | string hs => exact .string hs
  | array hgroup => exact .array (hgroup.mono h)
  | object hgroup =>
    refine .object (hgroup.mono ?_)
    rintro _ _ ⟨hname, hbefore, hafter, hv⟩
    exact ⟨hname, hbefore, hafter, h _ _ hv⟩

/-- What is nested less than `d` deep is nested less than any greater number. -/
theorem IsValue.mono {d : Nat} : ∀ {cs : List Char} {v : Json}, IsValue d cs v → IsValue (d + 1) cs v := by
  induction d with
  | zero => exact fun h => h.elim
  | succ d ih => exact fun h => Layer.mono (fun _ _ => ih) h

theorem IsValue.of_le {d e : Nat} (hle : d ≤ e) {cs : List Char} {v : Json} (h : IsValue d cs v) :
    IsValue e cs v := by
  induction hle with
  | refl => exact h
  | step _ ih => exact ih.mono

end Json
end LiteralPatch
