import Mathlib.Data.String.Basic

/-!
# Texts in the order of their bytes

Texts are compared character by character, and file systems compare their bytes.  In UTF-8 both give the same
order (`Text.lt_iff_bytes`): of two characters the lesser one has the lesser byte where their bytes first differ,
and they do differ somewhere before either of them ends.
-/

namespace LiteralPatch
namespace Text

/-- The bytes of a text. -/
def bytes (s : String) : List UInt8 := s.toUTF8.data.toList

theorem bytes_eq_flatMap (s : String) : bytes s = s.toList.flatMap String.utf8EncodeChar := by
  conv => lhs; rw [← String.ofList_toList (s := s)]
  rw [bytes, String.toUTF8_eq_toByteArray]
  exact List.toList_data_toByteArray

/-- Numbers compare as what is in front of their last six bits, and then as these. -/
theorem lt_sixBits {a b : Nat} (h : a < b) : a / 64 < b / 64 ∨ a / 64 = b / 64 ∧ a % 64 < b % 64 := by
  omega

/-- Bytes of different characters are ordered as the characters, whatever follows them. -/
theorem utf8EncodeChar_append_lt {c d : Char} (h : c < d) (xs ys : List UInt8) :
    String.utf8EncodeChar c ++ xs < String.utf8EncodeChar d ++ ys := by
  have hlt : c.val.toNat < d.val.toNat := h
  have hbound : d.val.toNat < 1114112 := by
    have hvalid := d.valid
    simp only [UInt32.isValidChar, Nat.isValidChar] at hvalid
    omega
  simp only [String.utf8EncodeChar]
  generalize c.val.toNat = m at hlt
  generalize d.val.toNat = n at hlt hbound
  by_cases hfour : m ≤ 65535
  · split_ifs <;>
      simp only [List.cons_append, List.cons_lt_cons_iff, UInt8.lt_iff_toNat_lt, ← UInt8.toNat_inj,
        UInt8.toNat_ofNat'] <;>
      omega
  · -- of two characters of four bytes each, the bytes are the digits
    have hm : ¬ m ≤ 127 ∧ ¬ m ≤ 2047 := by omega
    have hn : ¬ n ≤ 127 ∧ ¬ n ≤ 2047 ∧ ¬ n ≤ 65535 := by omega
    have hlast := lt_sixBits hlt
    have hmiddle : m / 64 < n / 64 → m / 4096 < n / 4096 ∨ m / 4096 = n / 4096 ∧ m / 64 % 64 < n / 64 % 64 := by
      simpa only [Nat.div_div_eq_div_mul] using lt_sixBits (a := m / 64) (b := n / 64)
    have hfirst : m / 4096 < n / 4096 →
        m / 262144 < n / 262144 ∨ m / 262144 = n / 262144 ∧ m / 4096 % 64 < n / 4096 % 64 := by
      simpa only [Nat.div_div_eq_div_mul] using lt_sixBits (a := m / 4096) (b := n / 4096)
    have hlead : (m / 262144 % 8 + 240) % 2 ^ 8 = m / 262144 + 240 ∧
        (n / 262144 % 8 + 240) % 2 ^ 8 = n / 262144 + 240 := by omega
    have hbyte : ∀ k, (k % 64 + 128) % 2 ^ 8 = k % 64 + 128 := by omega
    simp only [hm, hn, hfour, if_false, List.cons_append, List.cons_lt_cons_iff, UInt8.lt_iff_toNat_lt,
      ← UInt8.toNat_inj, UInt8.toNat_ofNat', hbyte, hlead, Nat.add_lt_add_iff_right, Nat.add_right_cancel_iff]
    rcases hlast with hlt64 | ⟨heq64, hlast⟩
    · rcases hmiddle hlt64 with hlt4096 | ⟨heq4096, hmiddle⟩
      · rcases hfirst hlt4096 with hlt262144 | ⟨heq262144, hfirst⟩
        · exact .inl hlt262144
        · exact .inr ⟨heq262144, .inl hfirst⟩
      · have hquotients : m / 262144 = n / 262144 ∧ m / 4096 % 64 = n / 4096 % 64 := by omega
        exact .inr ⟨hquotients.1, .inr ⟨hquotients.2, .inl hmiddle⟩⟩
    · have hquotients : m / 262144 = n / 262144 ∧ m / 4096 % 64 = n / 4096 % 64 := by omega
      exact .inr ⟨hquotients.1, .inr ⟨hquotients.2, .inr ⟨congrArg (· % 64) heq64, .inl hlast⟩⟩⟩

theorem flatMap_lt {cs ds : List Char} (h : cs < ds) :
    cs.flatMap String.utf8EncodeChar < ds.flatMap String.utf8EncodeChar := by
  induction h with
  | @nil d ds =>
    rw [List.flatMap_nil, List.flatMap_cons]
    cases hbytes : String.utf8EncodeChar d with
    | nil => exact absurd hbytes (String.utf8EncodeChar_ne_nil)
    | cons b bs => exact .nil
  | rel hlt => exact utf8EncodeChar_append_lt hlt _ _
  | cons _ ih => exact List.append_left_lt ih

/-- **Texts are in the order of their bytes.** -/
theorem lt_iff_bytes {s t : String} : s < t ↔ bytes s < bytes t := by
  have hmono : ∀ {s t : String}, s < t → bytes s < bytes t := by
    intro s t h
    rw [bytes_eq_flatMap, bytes_eq_flatMap]
    exact flatMap_lt (String.lt_iff.1 h)
  refine ⟨hmono, fun h => ?_⟩
  rcases lt_trichotomy s t with hlt | rfl | hgt
  · exact hlt
  · exact absurd h (List.lt_irrefl _)
  · exact absurd (hmono hgt) (List.lt_asymm h)

end Text
end LiteralPatch
