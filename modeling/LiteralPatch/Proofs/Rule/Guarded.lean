import LiteralPatch.Proofs.Text.Number
import LiteralPatch.Rule

/-!
# What a guard lets through

A guard with a bound is there so that no limit is lowered: it may let a value through only if the value is a
number below the bound.  It reads the value into 64 bits, so the danger is a value that is too large to be
read and then counts as small, by wrapping round or as a default.  No value does
(`Guard.lessThan_allows_numbers_below`): what is let through is the decimal form of a number below the bound,
and every decimal form of such a number is let through.

That every number below the bound can be read takes a bound of 64 bits, and tables have no other bounds
(`RuleTable.boundsFit_of_ofEntries`).  What the guard means for a rule is `ValueRule.below_of_mem_find`: every
value that the rule replaces is a number below the bound.
-/

namespace LiteralPatch

open Text

namespace Guard

variable {bound : Nat} {s : String}

/-- Let through are the numbers that fit and are below the bound. -/
theorem lessThan_allows_iff : (lessThan bound).allows s = true ↔
    ∃ n, (Decimal s.toList n ∧ n < wordLimit) ∧ n < bound := by
  rw [allows]
  constructor
  · intro h
    split at h
    · next n hread => exact ⟨n, readWord?_eq_some_iff.1 hread, of_decide_eq_true h⟩
    · cases h
  · rintro ⟨n, hn, hlt⟩
    rw [readWord?_eq_some_iff.2 hn]
    exact decide_eq_true hlt

/-- **A guard with a bound lets through the numbers below it,** in decimal, with one plus sign or without and
with any zeros in front, and nothing else.  In particular no number that does not fit into 64 bits is let
through, and what is let through has a first character, a digit or a plus sign, and then digits only. -/
theorem lessThan_allows_numbers_below (hbound : bound < wordLimit) :
    ((lessThan bound).allows s = true ↔ ∃ n < bound, Decimal s.toList n) ∧
      (∀ n, Decimal s.toList n → wordLimit ≤ n → (lessThan bound).allows s = false) ∧
      ((lessThan bound).allows s = true → ∃ c rest, s.toList = c :: rest ∧
        (c = '+' ∨ c.isDigit = true) ∧ ∀ d ∈ rest, d.isDigit = true) := by
  refine ⟨?_, fun n hn hlarge => ?_, fun h => ?_⟩
  · rw [lessThan_allows_iff]
    constructor
    · rintro ⟨n, ⟨hn, -⟩, hlt⟩
      exact ⟨n, hlt, hn⟩
    · rintro ⟨n, hlt, hn⟩
      exact ⟨n, ⟨hn, Nat.lt_trans hlt hbound⟩, hlt⟩
  · rw [← Bool.not_eq_true, lessThan_allows_iff]
    rintro ⟨m, ⟨hm, hfits⟩, -⟩
    obtain rfl := hm.unique hn
    omega
  · obtain ⟨n, ⟨hn, -⟩, -⟩ := lessThan_allows_iff.1 h
    exact hn.exists_cons

/-- Zeros in front, more than a word has digits, do not keep a number from being let through, and a number
that would wrap round to one is not let through. -/
theorem lessThan_allows_numbers_below_wide : 200000 < wordLimit ∧
    (lessThan 200000).allows "+0000000000000000000000199999" = true ∧
    (lessThan 200000).allows "18446744073709551617" = false := by
  have hbound : 200000 < wordLimit := by decide
  refine ⟨hbound, (lessThan_allows_numbers_below hbound).1.2 ⟨199999, by decide, ?_⟩,
    (lessThan_allows_numbers_below hbound).2.1 18446744073709551617 ?_ (by decide)⟩
  · have hdigits : Denotes "199999".toList 199999 := ⟨by decide, by decide, by decide⟩
    exact .signed rfl (hdigits.zeros_append 22)
  · exact .bare ⟨by decide, by decide, by decide⟩

end Guard

namespace ValueRule

variable {r : ValueRule} {bound : Nat}

theorem below_of_wants (hguard : r.guard = some (.lessThan bound)) {value : String}
    (h : r.wants value = true) : ∃ n < bound, Decimal value.toList n := by
  rw [wants, hguard, Bool.and_eq_true] at h
  obtain ⟨n, ⟨hn, -⟩, hlt⟩ := Guard.lessThan_allows_iff.1 h.2
  exact ⟨n, hlt, hn⟩

/-- **A guarded rule replaces nothing but numbers below its bound.** -/
theorem below_of_mem_find (hguard : r.guard = some (.lessThan bound)) {text : String} :
    ∀ ch ∈ r.find text, ∃ n < bound, Decimal ch.oldValue.toList n := by
  intro ch hch
  obtain ⟨v, hv, rfl⟩ := List.mem_map.1 hch
  exact below_of_wants hguard (List.mem_filter.1 hv).2

end ValueRule
end LiteralPatch
