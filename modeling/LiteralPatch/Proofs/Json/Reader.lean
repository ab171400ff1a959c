import LiteralPatch.Proofs.Json.Grammar
import LiteralPatch.Proofs.Text.Front

/-!
# Reading JSON

A reader from left to right, which never goes back: the first character of a value says what kind of value it is.
It reads every text of the grammar that is not nested too deeply (`IsValue.read`), and since it gives one answer, a
text is a JSON text of one value only (`IsText.unique`).

What is read may be followed by anything but a digit.  That is the only way in which text behind a value could be
taken for a part of it, and in the grammar a digit never stands there.
-/

namespace LiteralPatch
namespace Json

open Text (isDigit)
open Version (numeral valueOf)

variable {α : Type} {R : List Char → α → Prop} {item : List Char → Option (α × List Char)}
  {cs rest : List Char}

/-! ## The reader -/

def skip (cs : List Char) : List Char := cs.dropWhile isBlank

/-- An escape, behind its backslash. -/
def readEscape : List Char → Option (Char × List Char)
  | 'u' :: a :: b :: c :: d :: rest =>
    (hexNumber? [a, b, c, d]).bind fun n => if n.isValidChar then some (Char.ofNat n, rest) else none
  | letter :: rest => (shortEscapes.lookup letter).map fun c => (c, rest)
  | [] => none

/-- A character of a string. -/
def readCharacter : List Char → Option (Char × List Char)
  | [] => none
  | c :: rest =>
    if c = '\\' then readEscape rest
    else if c = '"' ∨ c.toNat < 0x20 then none
    else some (c, rest)

/-- The rest of a string, with at most `fuel` characters. -/
def readBody : Nat → List Char → Option (List Char × List Char)
  | 0, _ => none
  | fuel + 1, cs =>
    if cs.head? = some '"' then some ([], cs.tail)
    else do
      let (c, rest) ← readCharacter cs
      let (s, rest) ← readBody fuel rest
      pure (c :: s, rest)

def readString : List Char → Option (String × List Char)
  | '"' :: rest => (readBody (rest.length + 1) rest).map fun (s, rest) => (String.ofList s, rest)
  | _ => none

/-- A natural number without superfluous zeros. -/
def readNumber (cs : List Char) : Option (Nat × List Char) :=
  match cs.takeWhile isDigit with
  | [] => none
  | '0' :: _ :: _ => none
  | digits => some (valueOf digits, cs.dropWhile isDigit)

/-- At most `fuel` parts up to a closing bracket, at least one. -/
def readParts (closing : Char) (item : List Char → Option (α × List Char)) :
    Nat → List Char → Option (List α × List Char)
  | 0, _ => none
  | fuel + 1, cs => do
    let (a, rest) ← item (skip cs)
    match skip rest with
    | [] => none
    | c :: rest =>
      if c = closing then some ([a], rest)
      else if c = ',' then (readParts closing item fuel rest).map fun (as, rest) => (a :: as, rest)
      else none

/-- The parts of an array or object, behind the opening bracket. -/
def readGroup (closing : Char) (item : List Char → Option (α × List Char)) (cs : List Char) :
    Option (List α × List Char) :=
  match skip cs with
  | [] => none
  | c :: rest => if c = closing then some ([], rest) else readParts closing item (cs.length + 1) cs

def readField (value : List Char → Option (Json × List Char)) (cs : List Char) :
    Option ((String × Json) × List Char) := do
  let (name, rest) ← readString cs
  match skip rest with
  | ':' :: rest =>
    let (v, rest) ← value (skip rest)
    pure ((name, v), rest)
  | _ => none

/-- A value that is nested less than `depth` deep. -/
def readValue : Nat → List Char → Option (Json × List Char)
  | 0, _ => none
  | depth + 1, cs =>
    match cs with
    | 'n' :: 'u' :: 'l' :: 'l' :: rest => some (null, rest)
    | 't' :: 'r' :: 'u' :: 'e' :: rest => some (boolean true, rest)
    | 'f' :: 'a' :: 'l' :: 's' :: 'e' :: rest => some (boolean false, rest)
    | '"' :: _ => (readString cs).map fun (s, rest) => (string s, rest)
    | '[' :: rest => (readGroup ']' (readValue depth) rest).map fun (vs, rest) => (array vs, rest)
    | '\x7b' :: rest =>
      (readGroup '\x7d' (readField (readValue depth)) rest).map fun (fs, rest) => (object fs, rest)
    | _ => (readNumber cs).map fun (n, rest) => (number n, rest)

/-- How deep a text may be nested that is read. -/
def maxDepth : Nat := 128

/-- The value of a JSON text. -/
def parse (text : String) : Option Json := do
  let (v, rest) ← readValue maxDepth (skip text.toList)
  if skip rest = [] then pure v else none

/-! ## Strings and numbers -/

/-- No digit stands at the front. -/
def Stops (rest : List Char) : Prop := ∀ c ∈ rest.head?, isDigit c = false

/-- The reader reads what is written as `R` says, and stops behind it. -/
def Reads (R : List Char → α → Prop) (item : List Char → Option (α × List Char)) : Prop :=
  ∀ ⦃cs a⦄, R cs a → ∀ ⦃rest⦄, Stops rest → item (cs ++ rest) = some (a, rest)

theorem Blanks.skip_append (hblanks : Blanks cs) (hrest : ∀ c ∈ rest.head?, isBlank c = false) :
    skip (cs ++ rest) = rest :=
  Front.dropWhile_eq ⟨rfl, hblanks, hrest⟩

theorem readEscape_short {letter c : Char} (h : (letter, c) ∈ shortEscapes) (rest : List Char) :
    readEscape (letter :: rest) = some (c, rest) := by
  have htable : ∀ e ∈ shortEscapes, e.1 ≠ 'u' ∧ shortEscapes.lookup e.1 = some e.2 := by decide
  obtain ⟨hcode, hlookup⟩ := htable _ h
  unfold readEscape
  split
  · next heq => exact absurd (List.cons.inj heq).1 hcode
  · next heq =>
    obtain ⟨rfl, rfl⟩ := List.cons.inj heq
    rw [hlookup, Option.map_some]
  · next heq => cases heq

theorem IsCharacter.read {c : Char} (h : IsCharacter cs c) (rest : List Char) :
    readCharacter (cs ++ rest) = some (c, rest) := by
  cases h with
  | plain hquote hbackslash hcontrol =>
    rw [List.singleton_append, readCharacter, if_neg hbackslash, if_neg]
    exact not_or.2 ⟨hquote, Nat.not_lt.2 hcontrol⟩
  | @short letter c hshort =>
    rw [List.cons_append, List.singleton_append, readCharacter, if_pos rfl]
    exact readEscape_short hshort rest
  | @code digits c hlength hnumber =>
    obtain ⟨a, b, c', d, rfl⟩ : ∃ a b c d, digits = [a, b, c, d] := by
      match digits, hlength with
      | [a, b, c, d], _ => exact ⟨a, b, c, d, rfl⟩
    show (hexNumber? [a, b, c', d]).bind _ = _
    rw [hnumber, Option.bind_some, if_pos (show c.toNat.isValidChar from c.valid), Char.ofNat_toNat]
    rfl

/-- No character of a string begins with a quote. -/
theorem IsCharacter.head?_ne {c : Char} (h : IsCharacter cs c) : ∃ d ds, cs = d :: ds ∧ d ≠ '"' := by
  cases h with
  | plain hquote _ _ => exact ⟨_, _, rfl, hquote⟩
  | short _ => exact ⟨_, _, rfl, by decide⟩
  | code _ _ => exact ⟨_, _, rfl, by decide⟩

theorem IsBody.read {body s : List Char} (h : IsBody body s) {fuel : Nat} (hfuel : body.length < fuel)
    (rest : List Char) : readBody fuel (body ++ '"' :: rest) = some (s, rest) := by
  induction h generalizing fuel with
  | nil =>
    obtain ⟨fuel, rfl⟩ := Nat.exists_eq_add_one_of_ne_zero (Nat.ne_of_gt (Nat.zero_lt_of_lt hfuel))
    rfl
  | @cons cs tail c s hchar _ ih =>
    obtain ⟨d, ds, hds, hquote⟩ := hchar.head?_ne
    rw [List.length_append, hds, List.length_cons] at hfuel
    obtain ⟨fuel, rfl⟩ := Nat.exists_eq_add_one_of_ne_zero (Nat.ne_of_gt (Nat.zero_lt_of_lt hfuel))
    have hhead : (cs ++ tail ++ '"' :: rest).head? ≠ some '"' := by
      rw [hds]
      exact fun heq => hquote (Option.some.inj heq)
    rw [readBody, if_neg hhead, List.append_assoc, hchar.read]
    show (readBody fuel (tail ++ '"' :: rest)).bind _ = _
    rw [ih (by omega)]
    rfl

theorem IsString.read {s : String} (h : IsString cs s) (rest : List Char) :
    readString (cs ++ rest) = some (s, rest) := by
  obtain @⟨body, s, hbody⟩ := h
  have htext : '"' :: (body ++ ['"']) ++ rest = '"' :: (body ++ '"' :: rest) := by simp
  rw [htext, readString, hbody.read (by simp), Option.map_some]
  dsimp only
  rw [String.ofList_toList]

theorem readNumber_numeral (n : Nat) (hrest : Stops rest) :
    readNumber (numeral n ++ rest) = some (n, rest) := by
  have hfront : Front isDigit (numeral n ++ rest) (numeral n) rest :=
    ⟨rfl, Version.isDigit_of_mem_numeral, hrest⟩
  rw [readNumber, hfront.takeWhile_eq, hfront.dropWhile_eq]
  split
  · next hnil => exact absurd hnil (Version.numeral_ne_nil n)
  · next hzero => exact absurd (Version.eq_nil_of_numeral hzero) (List.cons_ne_nil _ _)
  · rw [Version.valueOf_numeral]

/-! ## Parts between brackets -/

/-- What is written as `R` says begins with a character that is neither white space nor the closing bracket. -/
def Begins (closing : Char) (R : List Char → α → Prop) : Prop :=
  ∀ ⦃cs a⦄, R cs a → ∃ c rest, cs = c :: rest ∧ isBlank c = false ∧ c ≠ closing

/-- A character that may close a group of parts. -/
structure Closes (closing : Char) : Prop where
  not_digit : isDigit closing = false
  not_blank : isBlank closing = false
  ne_comma : closing ≠ ','

theorem not_isDigit_of_isBlank {c : Char} (h : isBlank c = true) : isDigit c = false := by
  have hcases : ((c = ' ' ∨ c = '\n') ∨ c = '\r') ∨ c = '\t' := by
    simpa only [isBlank, Bool.or_eq_true, beq_iff_eq] using h
  obtain ((rfl | rfl) | rfl) | rfl := hcases <;> rfl

/-- White space and what stops a reader stop it together. -/
theorem Blanks.stops_append (hblanks : Blanks cs) (hrest : Stops rest) : Stops (cs ++ rest) := by
  cases cs with
  | nil => exact hrest
  | cons c cs =>
    rintro _ ⟨⟩
    exact not_isDigit_of_isBlank (hblanks c List.mem_cons_self)

theorem stops_cons {c : Char} (h : isDigit c = false) : Stops (c :: rest) := by
  rintro _ ⟨⟩
  exact h

variable {closing : Char} {a : α}

/-- A part is found behind white space. -/
theorem Padded.skip_append (hbegins : Begins closing R) (h : Padded R cs a) (rest : List Char) :
    ∃ c more, skip (cs ++ rest) = c :: more ∧ c ≠ closing := by
  obtain @⟨before, cs, after, a, hbefore, hcs, hafter⟩ := h
  obtain ⟨c, more, rfl, hblank, hclosing⟩ := hbegins hcs
  refine ⟨c, more ++ after ++ rest, ?_, hclosing⟩
  rw [List.append_assoc, hbefore.skip_append (by rintro _ ⟨⟩; exact hblank)]
  rfl

/-- A part is read, and behind it white space up to what ends it. -/
theorem Padded.read (hbegins : Begins closing R) (hreads : Reads R item) (h : Padded R cs a) {c : Char}
    (hdigit : isDigit c = false) (hblank : isBlank c = false) (rest : List Char) :
    ∃ more, item (skip (cs ++ c :: rest)) = some (a, more) ∧ skip more = c :: rest := by
  obtain @⟨before, cs, after, a, hbefore, hcs, hafter⟩ := h
  have hfirst : ∀ d ∈ (cs ++ (after ++ c :: rest)).head?, isBlank d = false := by
    obtain ⟨d, more, rfl, hd, -⟩ := hbegins hcs
    rintro _ ⟨⟩
    exact hd
  refine ⟨after ++ c :: rest, ?_, hafter.skip_append (by rintro _ ⟨⟩; exact hblank)⟩
  rw [List.append_assoc, List.append_assoc, hbefore.skip_append hfirst]
  exact hreads hcs (hafter.stops_append (stops_cons hdigit))

theorem Separated.read (hbegins : Begins closing R) (hreads : Reads R item) (hcloses : Closes closing)
    {as : List α} (h : Separated R cs as) {fuel : Nat} (hfuel : cs.length < fuel) (rest : List Char) :
    readParts closing item fuel (cs ++ closing :: rest) = some (as, rest) := by
  -- each part and its comma take at least one character, so the fuel lasts
  induction h generalizing fuel with
  | last hpart =>
    obtain ⟨fuel, rfl⟩ := Nat.exists_eq_add_one_of_ne_zero (Nat.ne_of_gt (Nat.zero_lt_of_lt hfuel))
    obtain ⟨more, hitem, hskip⟩ := hpart.read hbegins hreads hcloses.not_digit hcloses.not_blank rest
    rw [readParts, hitem]
    simp [hskip]
  | @more cs tail a as hpart _ ih =>
    obtain ⟨fuel, rfl⟩ := Nat.exists_eq_add_one_of_ne_zero (Nat.ne_of_gt (Nat.zero_lt_of_lt hfuel))
    rw [List.length_append, List.length_cons] at hfuel
    obtain ⟨more, hitem, hskip⟩ := hpart.read hbegins hreads (c := ',') rfl rfl (tail ++ closing :: rest)
    have htail := ih (show tail.length < fuel by omega)
    rw [readParts, List.append_assoc, List.cons_append, hitem]
    simp [hskip, hcloses.ne_comma.symm, htail]

/-- The parts of a group do not begin with the closing bracket. -/
theorem Separated.skip_append (hbegins : Begins closing R) {as : List α} (h : Separated R cs as)
    (rest : List Char) : ∃ c more, skip (cs ++ rest) = c :: more ∧ c ≠ closing := by
  cases h with
  | last hpart => exact hpart.skip_append hbegins rest
  | more hpart _ =>
    rw [List.append_assoc]
    exact hpart.skip_append hbegins _

/-- **A group is read,** if its parts are. -/
theorem Group.read {opening : Char} (hbegins : Begins closing R) (hreads : Reads R item)
    (hcloses : Closes closing) {as : List α} (h : Group opening closing R cs as) (rest : List Char) :
    ∃ inner, cs = opening :: inner ∧ readGroup closing item (inner ++ rest) = some (as, rest) := by
  cases h with
  | @empty gap hgap =>
    refine ⟨_, rfl, ?_⟩
    have hskip : skip (gap ++ [closing] ++ rest) = closing :: rest := by
      rw [List.append_assoc]
      exact hgap.skip_append (by rintro _ ⟨⟩; exact hcloses.not_blank)
    rw [readGroup, hskip]
    exact if_pos rfl
  | @parts cs as hparts =>
    refine ⟨_, rfl, ?_⟩
    rw [List.append_assoc, List.singleton_append]
    obtain ⟨c, more, hskip, hne⟩ := hparts.skip_append hbegins (closing :: rest)
    rw [readGroup, hskip]
    dsimp only
    rw [if_neg hne, hparts.read hbegins hreads hcloses (by simp)]

/-! ## Values -/

theorem IsString.begins {s : String} (h : IsString cs s) : ∃ rest, cs = '"' :: rest := by
  obtain ⟨-⟩ := h
  exact ⟨_, rfl⟩

theorem begins_field (R : List Char → Json → Prop) : Begins '\x7d' (IsField R) := by
  rintro _ _ ⟨hname, -, -, -⟩
  obtain ⟨rest, rfl⟩ := hname.begins
  exact ⟨_, _, rfl, rfl, by decide⟩

/-- A value begins with a bracket, a quote, a digit or one of three letters. -/
theorem begins_value (d : Nat) : Begins ']' (IsValue d) := by
  cases d with
  | zero => exact fun _ _ h => h.elim
  | succ d =>
    rintro cs v h
    cases (show Layer (IsValue d) cs v from h) with
    | null => exact ⟨_, _, rfl, rfl, by decide⟩
    | yes => exact ⟨_, _, rfl, rfl, by decide⟩
    | no => exact ⟨_, _, rfl, rfl, by decide⟩
    | number n =>
      obtain ⟨c, ds, hds⟩ := List.exists_cons_of_ne_nil (Version.numeral_ne_nil n)
      have hdigit := Version.isDigit_of_mem_numeral c (hds ▸ List.mem_cons_self)
      refine ⟨c, ds, hds, Bool.eq_false_iff.2 fun hblank => ?_, ?_⟩
      · exact Bool.false_ne_true ((not_isDigit_of_isBlank hblank).symm.trans hdigit)
      · rintro rfl
        exact absurd hdigit (by decide)
    | string hs =>
      obtain ⟨rest, rfl⟩ := hs.begins
      exact ⟨_, _, rfl, rfl, by decide⟩
    | array hgroup => cases hgroup <;> exact ⟨_, _, rfl, rfl, by decide⟩
    | object hgroup => cases hgroup <;> exact ⟨_, _, rfl, rfl, by decide⟩

theorem reads_field {R : List Char → Json → Prop} {value : List Char → Option (Json × List Char)}
    (hbegins : Begins ']' R) (hreads : Reads R value) : Reads (IsField R) (readField value) := by
  rintro _ _ @⟨name, before, after, cs, k, v, hname, hbefore, hafter, hv⟩ rest hrest
  have hcolon : skip (before ++ ':' :: (after ++ (cs ++ rest))) = ':' :: (after ++ (cs ++ rest)) :=
    hbefore.skip_append (by rintro _ ⟨⟩; rfl)
  have hvalue : skip (after ++ (cs ++ rest)) = cs ++ rest := by
    obtain ⟨c, more, rfl, hblank, -⟩ := hbegins hv
    exact hafter.skip_append (by rintro _ ⟨⟩; exact hblank)
  simp only [readField, List.append_assoc, List.cons_append, hname.read]
  simp [hcolon, hvalue, hreads hv hrest]

/-- In front of a digit the reader takes a number. -/
theorem readValue_of_digit (depth : Nat) {c : Char} (hc : isDigit c = true) (cs : List Char) :
    readValue (depth + 1) (c :: cs) = (readNumber (c :: cs)).map fun (n, rest) => (number n, rest) := by
  have hne : ∀ d, isDigit d = false → c ≠ d := by
    rintro d hd rfl
    exact Bool.false_ne_true (hd.symm.trans hc)
  rw [readValue]
  all_goals exact fun _ heq => hne _ rfl (List.cons.inj heq).1

/-- **The reader reads every value** that is not nested more deeply than it goes. -/
theorem IsValue.read (d : Nat) : Reads (IsValue d) (readValue d) := by
  induction d with
  | zero => exact fun _ _ h => h.elim
  | succ d ih =>
    rintro cs v h rest hrest
    cases (show Layer (IsValue d) cs v from h) with
    | null => rfl
    | yes => rfl
    | no => rfl
    | number n =>
      obtain ⟨c, ds, hds⟩ := List.exists_cons_of_ne_nil (Version.numeral_ne_nil n)
      have hdigit := Version.isDigit_of_mem_numeral c (hds ▸ List.mem_cons_self)
      have hread := readNumber_numeral n hrest
      rw [hds, List.cons_append] at hread ⊢
      rw [readValue_of_digit d hdigit, hread]
      rfl
    | string hs =>
      have hread := hs.read rest
      obtain ⟨more, rfl⟩ := hs.begins
      show (readString _).map _ = _
      rw [hread]
      rfl
    | array hgroup =>
      obtain ⟨inner, rfl, hread⟩ := hgroup.read (begins_value d) ih ⟨rfl, rfl, by decide⟩ rest
      show (readGroup ']' (readValue d) (inner ++ rest)).map _ = _
      rw [hread]
      rfl
    | object hgroup =>
      obtain ⟨inner, rfl, hread⟩ := hgroup.read (begins_field _) (reads_field (begins_value d) ih)
        ⟨rfl, rfl, by decide⟩ rest
      show (readGroup '\x7d' (readField (readValue d)) (inner ++ rest)).map _ = _
      rw [hread]
      rfl

/-! ## Texts -/

theorem stops_nil : Stops [] := nofun

theorem Padded.readValue_skip {d : Nat} {v : Json} (h : Padded (IsValue d) cs v) :
    ∃ rest, readValue d (skip cs) = some (v, rest) ∧ skip rest = [] := by
  obtain @⟨before, cs, after, v, hbefore, hcs, hafter⟩ := h
  have hfirst : ∀ c ∈ (cs ++ after).head?, isBlank c = false := by
    obtain ⟨c, more, rfl, hblank, -⟩ := begins_value d hcs
    rintro _ ⟨⟩
    exact hblank
  have hstops : Stops after := by simpa using hafter.stops_append stops_nil
  have hend : skip (after ++ []) = [] := hafter.skip_append nofun
  refine ⟨after, ?_, by rwa [List.append_nil] at hend⟩
  rw [hbefore.skip_append hfirst, IsValue.read d hcs hstops]

/-- A text that is not nested too deeply is read as its value. -/
theorem parse_eq_some {d : Nat} {text : String} {v : Json} (h : Padded (IsValue d) text.toList v)
    (hd : d ≤ maxDepth) : parse text = some v := by
  obtain ⟨rest, hread, hrest⟩ := (h.mono fun _ _ => IsValue.of_le hd).readValue_skip
  rw [parse, hread]
  exact if_pos hrest

/-- **A text is a JSON text of one value only.** -/
theorem IsText.unique {text : String} {v w : Json} (hv : IsText text v) (hw : IsText text w) : v = w := by
  obtain ⟨d, hv⟩ := hv
  obtain ⟨e, hw⟩ := hw
  obtain ⟨_, hreadv, -⟩ := (hv.mono fun _ _ => IsValue.of_le (Nat.le_max_left d e)).readValue_skip
  obtain ⟨_, hreadw, -⟩ := (hw.mono fun _ _ => IsValue.of_le (Nat.le_max_right d e)).readValue_skip
  exact (Prod.mk.inj (Option.some.inj (hreadv.symm.trans hreadw))).1

end Json
end LiteralPatch
