import LiteralPatch.Text.Number
import Mathlib.Data.Nat.Digits.Defs

/-!
# Numbers that fit are read, and others are not taken for them

What a text says is defined without a limit: digits denote the sum of their places, and any zeros may stand
in front (`Denotes`, `Decimal`).  The reader goes from left to right, keeps what it has read so far, and gives
up as soon as this does not fit into 64 bits.

Giving up early loses nothing.  Every further digit multiplies what has been read by ten and adds to it, so a
number is at least as large as what any front of its digits denotes, and a front that does not fit stands in
front of a number that does not fit (`readDigits_eq_some_iff`).  Hence the reader has no reason to fail but
that the text is no number or that the number is too large (`readWord?_eq_some_iff`).  In particular zeros in
front never make it fail, and there may be more of them than a word has digits (`Denotes.zeros_append`).
-/

namespace LiteralPatch
namespace Text

variable {cs ds : List Char} {d : Char} {acc m n : Nat}

/-! ## What digits denote -/

/-- The sum of the places of decimal digits, the last one being that of the units. -/
def placeValue (ds : List Char) : Nat := Nat.ofDigits 10 (ds.map digitValue).reverse

theorem placeValue_cons (d : Char) (ds : List Char) :
    placeValue (d :: ds) = digitValue d * 10 ^ ds.length + placeValue ds := by
  rw [placeValue, List.map_cons, Nat.ofDigits_reverse_cons, List.length_map, Nat.add_comm, Nat.mul_comm]
  rfl

/-- A digit is taken from those to come and goes to those that have been read. -/
theorem shift_placeValue_cons (acc : Nat) (d : Char) (ds : List Char) :
    acc * 10 ^ (d :: ds).length + placeValue (d :: ds) =
      (10 * acc + digitValue d) * 10 ^ ds.length + placeValue ds := by
  rw [placeValue_cons, List.length_cons, Nat.pow_succ]
  ring

theorem foldl_digitValue (acc : Nat) (ds : List Char) :
    ds.foldl (fun n d => 10 * n + digitValue d) acc = acc * 10 ^ ds.length + placeValue ds := by
  induction ds generalizing acc with
  | nil => exact (Nat.mul_one acc).symm
  | cons d ds ih => rw [List.foldl_cons, ih, shift_placeValue_cons]

/-- The digits denote the number: there is one at least, and all are ASCII digits. -/
structure Denotes (ds : List Char) (n : Nat) : Prop where
  ne_nil : ds ≠ []
  isDigit : ∀ d ∈ ds, d.isDigit = true
  value : placeValue ds = n

/-- Zeros in front leave the number what it is, however many they are. -/
theorem Denotes.zeros_append (h : Denotes ds n) (zeros : Nat) :
    Denotes (List.replicate zeros '0' ++ ds) n := by
  refine ⟨List.append_ne_nil_of_right_ne_nil _ h.ne_nil, fun d hd => ?_, ?_⟩
  · rcases List.mem_append.1 hd with hd | hd
    · obtain rfl := List.eq_of_mem_replicate hd
      rfl
    · exact h.isDigit d hd
  · have hzero : digitValue '0' = 0 := rfl
    rw [← h.value, placeValue, List.map_append, List.map_replicate, hzero, List.reverse_append,
      List.reverse_replicate, Nat.ofDigits_append_replicate_zero, placeValue]

/-- The text is the number in decimal, behind one plus sign or without a sign. -/
inductive Decimal (cs : List Char) (n : Nat) : Prop where
  | bare (h : Denotes cs n)
  | signed {ds : List Char} (hsign : cs = '+' :: ds) (h : Denotes ds n)

theorem Denotes.plus_notMem (h : Denotes ds n) : '+' ∉ ds := fun hmem =>
  absurd (h.isDigit '+' hmem) (by decide)

theorem decimal_plus_cons_iff : Decimal ('+' :: ds) n ↔ Denotes ds n := by
  constructor
  · rintro (h | ⟨hsign, h⟩)
    · exact absurd List.mem_cons_self h.plus_notMem
    · rwa [(List.cons.inj hsign).2]
  · exact .signed rfl

theorem decimal_iff_of_head?_ne_plus (hsign : cs.head? ≠ some '+') : Decimal cs n ↔ Denotes cs n := by
  refine ⟨?_, .bare⟩
  rintro (h | ⟨rfl, -⟩)
  · exact h
  · exact absurd rfl hsign

/-- A text is the decimal form of one number at most. -/
theorem Decimal.unique (hm : Decimal cs m) (hn : Decimal cs n) : m = n := by
  by_cases hsign : cs.head? = some '+'
  · obtain ⟨ds, rfl⟩ := List.head?_eq_some_iff.1 hsign
    rw [← (decimal_plus_cons_iff.1 hm).value, (decimal_plus_cons_iff.1 hn).value]
  · rw [← ((decimal_iff_of_head?_ne_plus hsign).1 hm).value,
      ((decimal_iff_of_head?_ne_plus hsign).1 hn).value]

/-- A decimal form has a first character, a digit or a plus sign, and digits behind it. -/
theorem Decimal.exists_cons (h : Decimal cs n) : ∃ c rest, cs = c :: rest ∧
    (c = '+' ∨ c.isDigit = true) ∧ ∀ d ∈ rest, d.isDigit = true := by
  rcases h with h | ⟨rfl, h⟩
  · obtain ⟨c, rest, rfl⟩ := List.exists_cons_of_ne_nil h.ne_nil
    obtain ⟨hc, hrest⟩ := List.forall_mem_cons.1 h.isDigit
    exact ⟨c, rest, rfl, .inr hc, hrest⟩
  · exact ⟨'+', _, rfl, .inl rfl, h.isDigit⟩

/-! ## Reading -/

/-- **Digits are read exactly if the number that they end at fits.**  The number starts with what has been
read, followed by as many places as there are digits left. -/
theorem readDigits_eq_some_iff (hacc : acc < wordLimit) : readDigits acc ds = some n ↔
    (∀ d ∈ ds, d.isDigit = true) ∧ acc * 10 ^ ds.length + placeValue ds = n ∧ n < wordLimit := by
  induction ds generalizing acc with
  | nil =>
    have hvalue : acc * 10 ^ ([] : List Char).length + placeValue [] = acc := Nat.mul_one acc
    rw [hvalue]
    constructor
    · intro h
      obtain rfl := Option.some.inj h
      exact ⟨List.forall_mem_nil _, rfl, hacc⟩
    · rintro ⟨-, h, -⟩
      exact congrArg some h
  | cons d ds ih =>
    have hdigit : isDigit d = d.isDigit := rfl
    rw [shift_placeValue_cons, List.forall_mem_cons, and_assoc, readDigits, hdigit]
    split
    · next hd =>
      rw [and_iff_right hd]
      dsimp only
      split
      · next hnext => exact ih hnext
      · next hnext =>
        -- what follows cannot make the number smaller again
        have hgrows : 10 * acc + digitValue d ≤ (10 * acc + digitValue d) * 10 ^ ds.length :=
          Nat.le_mul_of_pos_right _ (Nat.pow_pos (by decide))
        refine ⟨nofun, ?_⟩
        rintro ⟨-, rfl, hfits⟩
        omega
    · next hd => exact ⟨nofun, fun h => absurd h.1 hd⟩

theorem readDigits_zero_eq_some_iff (hne : ds ≠ []) :
    readDigits 0 ds = some n ↔ Denotes ds n ∧ n < wordLimit := by
  rw [readDigits_eq_some_iff (by decide), Nat.zero_mul, Nat.zero_add, ← and_assoc]
  exact and_congr_left' ⟨fun h => ⟨hne, h.1, h.2⟩, fun h => ⟨h.isDigit, h.value⟩⟩

/-- **A text is read as a number exactly if it is the decimal form of that number and the number fits.** -/
theorem readWord?_eq_some_iff : readWord? cs = some n ↔ Decimal cs n ∧ n < wordLimit := by
  unfold readWord?
  split
  · exact ⟨nofun, fun h => nomatch h.1.exists_cons⟩
  · refine ⟨nofun, fun h => ?_⟩
    exact absurd rfl (decimal_plus_cons_iff.1 h.1).ne_nil
  · next ds hne =>
    rw [decimal_plus_cons_iff, readDigits_zero_eq_some_iff hne]
  · next hnil hplus hsigned =>
    have hsign : cs.head? ≠ some '+' := by
      intro hhead
      obtain ⟨ds, rfl⟩ := List.head?_eq_some_iff.1 hhead
      exact hsigned ds rfl
    rw [decimal_iff_of_head?_ne_plus hsign, readDigits_zero_eq_some_iff hnil]

end Text
end LiteralPatch
