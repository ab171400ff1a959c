import LiteralPatch.Toml.Value

/-!
# Scalars that are not strings

A scalar is recognised as a whole: the reader cuts out the longest run of characters that could belong
to one, and the functions here decide what it is.  Underscores may stand between digits and nowhere
else; a decimal number has no superfluous leading zero; integers fit into 64 bits with a sign.
-/

namespace LiteralPatch
namespace Toml
namespace Scalar

def isDigit (c : Char) : Bool := '0' ≤ c && c ≤ '9'

/-- The value of a digit in any base up to 16. -/
def digitValue (c : Char) : Nat :=
  if isDigit c then c.toNat - '0'.toNat
  else if 'a' ≤ c ∧ c ≤ 'f' then c.toNat - 'a'.toNat + 10
  else if 'A' ≤ c ∧ c ≤ 'F' then c.toNat - 'A'.toNat + 10
  else 16

/-- Digits of a base with single underscores between them, without the underscores. -/
def digits? (base : Nat) : List Char → Option (List Char)
  | [] => none
  | [c] => if digitValue c < base then some [c] else none
  | c :: '_' :: rest =>
    if digitValue c < base then (digits? base rest).map (c :: ·) else none
  | c :: rest => if digitValue c < base then (digits? base rest).map (c :: ·) else none

def numberOf (base : Nat) (ds : List Char) : Nat :=
  ds.foldl (fun n d => base * n + digitValue d) 0

/-- Splits a sign off. -/
def signed : List Char → Bool × List Char
  | '+' :: cs => (false, cs)
  | '-' :: cs => (true, cs)
  | cs => (false, cs)

/-- Decimal digits without a superfluous leading zero. -/
def plain? (cs : List Char) : Option (List Char) :=
  match digits? 10 cs with
  | some ('0' :: _ :: _) => none
  | ds => ds

/-! ## Integers -/

/-- The least number that an integer is below. -/
def integerLimit : Int := 0x8000000000000000

/-- An integer of 64 bits. -/
def bounded (n : Int) : Except Fault Value :=
  if -integerLimit ≤ n ∧ n < integerLimit then .ok (.integer n) else .error .integerTooLarge

def integer? (cs : List Char) : Option (Except Fault Value) :=
  match cs with
  | '0' :: 'x' :: ds => (digits? 16 ds).map fun ds => bounded (numberOf 16 ds)
  | '0' :: 'o' :: ds => (digits? 8 ds).map fun ds => bounded (numberOf 8 ds)
  | '0' :: 'b' :: ds => (digits? 2 ds).map fun ds => bounded (numberOf 2 ds)
  | _ =>
    let (negative, ds) := signed cs
    (plain? ds).map fun ds =>
      bounded (if negative then -(numberOf 10 ds : Int) else numberOf 10 ds)

/-! ## Floats -/

/-- An exponent, with its letter. -/
def isExponent : List Char → Bool
  | 'e' :: cs | 'E' :: cs => (digits? 10 (signed cs).2).isSome
  | _ => false

/-- Whether a decimal number, given by its significant digits and the power of ten of the last of them,
is too large for a double. -/
def overflows (mantissa : Nat) (exponent : Int) : Bool :=
  if mantissa = 0 then false
  else
    let size : Int := (Nat.toDigits 10 mantissa).length + exponent
    if size < 309 then false
    else if 309 < size then true
    else
      -- the least value that rounds to infinity is 2^1024 - 2^970
      let bound := Nat.pow 2 1024 - Nat.pow 2 970
      match exponent with
      | .ofNat e => bound ≤ mantissa * Nat.pow 10 e
      | .negSucc e => bound * Nat.pow 10 (e + 1) ≤ mantissa

/-- The value of an exponent, with its letter; none if it is empty. -/
def exponentOf (cs : List Char) : Int :=
  let (negative, ds) := signed (cs.drop 1)
  let n : Int := numberOf 10 (ds.filter isDigit)
  if negative then -n else n

def float? (cs : List Char) : Option Value :=
  let (_, body) := signed cs
  let text := Value.float (String.ofList cs)
  if body = ['i', 'n', 'f'] ∨ body = ['n', 'a', 'n'] then some text
  else
    let (whole, rest) := body.span fun c => isDigit c || c == '_'
    match plain? whole with
    | none => none
    | some ds =>
      let finite (fraction exponent : List Char) : Option Value :=
        if overflows (numberOf 10 (ds ++ fraction)) (exponentOf exponent - fraction.length) then none
        else some text
      match rest with
      | '.' :: rest =>
        let (fraction, rest) := rest.span fun c => isDigit c || c == '_'
        match digits? 10 fraction with
        | none => none
        | some fraction => if rest.isEmpty || isExponent rest then finite fraction rest else none
      | rest => if isExponent rest then finite [] rest else none

/-! ## Dates and times -/

/-- Reads exactly `n` digits. -/
def take? (n : Nat) (cs : List Char) : Option (Nat × List Char) :=
  let ds := cs.take n
  if ds.length = n ∧ ds.all isDigit then some (numberOf 10 ds, cs.drop n) else none

def isLeap (year : Nat) : Bool :=
  year % 4 == 0 && (year % 100 != 0 || year % 400 == 0)

def daysIn (year month : Nat) : Nat :=
  if month = 2 then (if isLeap year then 29 else 28)
  else if month ∈ [4, 6, 9, 11] then 30
  else 31

/-- A date, and what follows it. -/
def date? (cs : List Char) : Option (List Char) :=
  match take? 4 cs with
  | some (year, '-' :: rest) =>
    match take? 2 rest with
    | some (month, '-' :: rest) =>
      match take? 2 rest with
      | some (day, rest) =>
        if 1 ≤ month ∧ month ≤ 12 ∧ 1 ≤ day ∧ day ≤ daysIn year month then some rest else none
      | none => none
    | _ => none
  | _ => none

/-- A fraction of a second, if there is one, and what follows it. -/
def fraction? : List Char → Option (List Char)
  | '.' :: cs =>
    let (ds, rest) := cs.span isDigit
    if ds.isEmpty then none else some rest
  | cs => some cs

/-- A time, whose seconds may be missing, and what follows it. -/
def time? (cs : List Char) : Option (List Char) :=
  match take? 2 cs with
  | some (hour, ':' :: rest) =>
    match take? 2 rest with
    | some (minute, rest) =>
      if 23 < hour ∨ 59 < minute then none
      else
        match rest with
        | ':' :: rest =>
          match take? 2 rest with
          | some (second, rest) => if second ≤ 60 then fraction? rest else none
          | none => none
        | rest => some rest
    | none => none
  | _ => none

/-- Whether the text is an offset from universal time. -/
def isOffset : List Char → Bool
  | ['Z'] | ['z'] => true
  | c :: cs =>
    (c == '+' || c == '-') &&
      match take? 2 cs with
      | some (hour, ':' :: rest) =>
        match take? 2 rest with
        | some (minute, []) => hour ≤ 23 && minute ≤ 59
        | _ => false
      | _ => false
  | [] => false

/-- Whether the text is a date, a time, or a date and a time with or without an offset. -/
def isDateTime (cs : List Char) : Bool :=
  match date? cs with
  | some [] => true
  | some (c :: rest) =>
    (c == 'T' || c == 't' || c == ' ') &&
      match time? rest with
      | some [] => true
      | some offset => isOffset offset
      | none => false
  | none => time? cs == some []

/-! ## All of them -/

/-- The scalar that a run of characters denotes. -/
def read (cs : List Char) : Except Fault Value :=
  if cs = "true".toList then .ok (.boolean true)
  else if cs = "false".toList then .ok (.boolean false)
  else
    match integer? cs with
    | some result => result
    | none =>
      match float? cs with
      | some v => .ok v
      | none => if isDateTime cs then .ok (.dateTime (String.ofList cs)) else .error .scalarInvalid

end Scalar
end Toml
end LiteralPatch
