import LiteralPatch.Proofs.Attempts
import LiteralPatch.Proofs.Text.Front
import LiteralPatch.Version.Reader
import Mathlib.Data.Nat.Digits.Lemmas
import Std.Data.String.ToNat

/-!
# Strict versions

A strict version has one written form, so reading it can be said through writing it: a text is read as a
version exactly if it is the text of that version and the version is a valid one (`Version.read_eq_ok_iff`).
The readers of the parts have statements of the same form.  A number takes all digits that follow, and the
identifiers behind a sign take all characters that may stand in them, so each statement also says what may
come next.
-/

namespace LiteralPatch

open Text

namespace Version

/-! ## Numbers -/

/-- A number in decimal. -/
def numeral (n : Nat) : List Char := (toString n).toList

theorem numeral_eq (n : Nat) : numeral n = Nat.toDigits 10 n := by
  rw [numeral, Nat.toString_eq_ofList_toDigits, String.toList_ofList]

theorem numeral_ne_nil (n : Nat) : numeral n ≠ [] := by
  rw [numeral_eq]
  exact Nat.toDigits_ne_nil

theorem isDigit_of_mem_numeral {n : Nat} : ∀ d ∈ numeral n, isDigit d = true := by
  intro d hd
  rw [numeral_eq] at hd
  exact Nat.isDigit_of_mem_toDigits (by decide) (by decide) hd

@[simp] theorem valueOf_numeral (n : Nat) : valueOf (numeral n) = n := by
  rw [numeral_eq]
  exact Nat.ofDigitChars_eq_foldl.symm.trans Nat.ofDigitChars_ten_toDigits

/-- A number of two digits or more is its front and its last digit. -/
theorem numeral_of_le {n : Nat} (h : 10 ≤ n) : numeral n = numeral (n / 10) ++ numeral (n % 10) := by
  rw [numeral_eq, numeral_eq, numeral_eq, Nat.toDigits_of_base_le (by decide) h,
    Nat.toDigits_of_lt_base (Nat.mod_lt n (by decide))]

/-- No digits follow a zero in front. -/
theorem eq_nil_of_numeral {n : Nat} {ds : List Char} (h : numeral n = '0' :: ds) : ds = [] := by
  induction n using Nat.strong_induction_on generalizing ds with
  | _ n ih =>
    by_cases hn : n < 10
    · rw [numeral_eq, Nat.toDigits_of_lt_base hn] at h
      exact (List.cons.inj h).2.symm
    · -- the number begins as its front does, which would be zero
      rw [numeral_of_le (by omega)] at h
      obtain ⟨d, front, hfront⟩ := List.exists_cons_of_ne_nil (numeral_ne_nil (n / 10))
      rw [hfront, List.cons_append] at h
      obtain ⟨rfl, -⟩ := List.cons.inj h
      have hzero : numeral (n / 10) = numeral 0 := by rw [hfront, ih (n / 10) (by omega) hfront]; rfl
      have hvalue := congrArg valueOf hzero
      rw [valueOf_numeral, valueOf_numeral] at hvalue
      omega

theorem digitValue_lt {d : Char} (hd : isDigit d = true) : digitValue d < 10 ∧ d.toNat = 48 + digitValue d := by
  have hbounds : 48 ≤ d.toNat ∧ d.toNat ≤ 57 := by
    simpa [isDigit, Char.le_def, UInt32.le_iff_toNat_le] using hd
  have hvalue : digitValue d = d.toNat - 48 := rfl
  omega

/-- A digit is the numeral of its value. -/
theorem numeral_digitValue {d : Char} (hd : isDigit d = true) : numeral (digitValue d) = [d] := by
  obtain ⟨hlt, hcode⟩ := digitValue_lt hd
  have hdigit : Nat.digitChar (digitValue d) = d := by
    rw [← Char.toNat_inj, Nat.toNat_digitChar_of_lt_ten hlt, hcode]
  rw [numeral_eq, Nat.toDigits_of_lt_base hlt, hdigit]

/-- Further digits are written behind a number that is not zero. -/
theorem numeral_foldl {ds : List Char} (hdigits : ∀ d ∈ ds, isDigit d = true) {n : Nat} (hn : 0 < n) :
    numeral (ds.foldl (fun n c => 10 * n + digitValue c) n) = numeral n ++ ds := by
  induction ds generalizing n with
  | nil => rw [List.foldl_nil, List.append_nil]
  | cons d ds ih =>
    obtain ⟨hd, hds⟩ := List.forall_mem_cons.1 hdigits
    have hstep := Nat.toDigits_append_toDigits (b := 10) (by decide) hn (digitValue_lt hd).1
    rw [List.foldl_cons, ih hds (by omega), numeral_eq, ← hstep, ← numeral_eq, ← numeral_eq,
      numeral_digitValue hd, List.append_assoc, List.singleton_append]

/-- **Digits without a superfluous zero are the numeral of their value.** -/
theorem numeral_valueOf {ds : List Char} (hne : ds ≠ []) (hdigits : ∀ d ∈ ds, isDigit d = true)
    (hzero : ∀ rest, ds = '0' :: rest → rest = []) : numeral (valueOf ds) = ds := by
  obtain ⟨d, rest, rfl⟩ := List.exists_cons_of_ne_nil hne
  obtain ⟨hd, hrest⟩ := List.forall_mem_cons.1 hdigits
  by_cases hd0 : d = '0'
  · subst hd0
    have hvalue : valueOf ['0'] = digitValue '0' := rfl
    rw [hzero rest rfl, hvalue, numeral_digitValue hd]
  · have hpos : 0 < 10 * 0 + digitValue d := by
      obtain ⟨-, hcode⟩ := digitValue_lt hd
      have hne0 : d.toNat ≠ '0'.toNat := fun h => hd0 (Char.toNat_inj.1 h)
      have h0 : '0'.toNat = 48 := rfl
      omega
    rw [valueOf, List.foldl_cons, numeral_foldl hrest hpos, Nat.mul_zero, Nat.zero_add,
      numeral_digitValue hd, List.singleton_append]

/-- **A number is read from its numeral,** and from nothing else, if it fits and no digit follows. -/
theorem readNumber_eq_ok_iff {part : Part} {cs rest : List Char} {n : Nat} :
    readNumber part cs = .ok (n, rest) ↔
      n < wordLimit ∧ Front isDigit cs (numeral n) rest := by
  rw [Front.iff]
  constructor
  · intro h
    rw [readNumber] at h
    split at h
    · cases h
    · cases h
    · cases h
    · next hzero hnext hend =>
      split at h
      · next hlt =>
        obtain ⟨rfl, rfl⟩ := Prod.mk.inj (Except.ok.inj h)
        have hne : cs.takeWhile isDigit ≠ [] := by
          intro hnil
          cases hrest : cs.dropWhile isDigit with
          | nil => exact hend hnil hrest
          | cons c rest => exact hnext c rest hnil hrest
        refine ⟨hlt, (numeral_valueOf hne (fun d hd => List.mem_takeWhile_imp hd) fun rest h => ?_).symm, rfl⟩
        cases rest with
        | nil => rfl
        | cons d rest => exact absurd h (hzero d rest)
      · cases h
  · rintro ⟨hlt, hfront, hrest⟩
    rw [readNumber, hfront, hrest]
    split
    · next hnil => exact absurd hnil (numeral_ne_nil n)
    · next hnil => exact absurd hnil (numeral_ne_nil n)
    · next hzero => cases eq_nil_of_numeral hzero
    · rw [valueOf_numeral, if_pos hlt]

theorem readNumber_numeral (part : Part) {n : Nat} {rest : List Char} (hlt : n < wordLimit)
    (hrest : ∀ c ∈ rest.head?, isDigit c = false) :
    readNumber part (numeral n ++ rest) = .ok (n, rest) :=
  readNumber_eq_ok_iff.2 ⟨hlt, rfl, isDigit_of_mem_numeral, hrest⟩

theorem readDot_eq_ok_iff {part : Part} {cs rest : List Char} :
    readDot part cs = .ok rest ↔ cs = '.' :: rest := by
  unfold readDot
  split
  · simp
  · next hdot => simpa using fun h _ => hdot h
  · simp

/-! ## Segments -/

/-- A character goes to the first segment behind it, or a dot opens one in front. -/
theorem exists_segments_cons (c : Char) (cs : List Char) : ∃ s ss, segments cs = s :: ss ∧
    segments (c :: cs) = if c = '.' then [] :: s :: ss else (c :: s) :: ss := by
  cases hsplit : segments cs with
  | cons s ss => exact ⟨s, ss, rfl, by rw [segments, hsplit]⟩
  | nil =>
    cases cs with
    | nil => cases hsplit
    | cons d ds =>
      rw [segments] at hsplit
      split at hsplit
      · cases hsplit
      · split at hsplit <;> cases hsplit

theorem segments_eq_splitOn (cs : List Char) : segments cs = cs.splitOn '.' := by
  induction cs with
  | nil => rfl
  | cons c cs ih =>
    obtain ⟨s, ss, hsplit, hcons⟩ := exists_segments_cons c cs
    rw [hcons, List.splitOn_cons_eq_if_modifyHead, ← ih, hsplit]
    simp

/-- The segments are made of the characters of the text, without the dots. -/
theorem mem_segments {cs s : List Char} (hs : s ∈ segments cs) : ∀ c ∈ s, c ∈ cs ∧ c ≠ '.' := by
  induction cs generalizing s with
  | nil =>
    obtain rfl := List.mem_singleton.1 hs
    exact fun c hc => nomatch hc
  | cons x cs ih =>
    obtain ⟨t, ts, hsplit, hcons⟩ := exists_segments_cons x cs
    rw [hsplit] at ih
    have hold : ∀ u ∈ t :: ts, ∀ c ∈ u, c ∈ x :: cs ∧ c ≠ '.' := fun u hu c hc =>
      ⟨List.mem_cons_of_mem x (ih hu c hc).1, (ih hu c hc).2⟩
    rw [hcons] at hs
    split at hs
    · rcases List.mem_cons.1 hs with rfl | hs
      · exact fun c hc => nomatch hc
      · exact hold s hs
    · next hx =>
      rcases List.mem_cons.1 hs with rfl | hs
      · exact List.forall_mem_cons.2 ⟨⟨List.mem_cons_self, hx⟩, hold t List.mem_cons_self⟩
      · exact hold s (List.mem_cons_of_mem t hs)

/-- A segment that can stand behind a sign: one character or more, each of an identifier. -/
def IsSegment (s : List Char) : Prop := s ≠ [] ∧ ∀ c ∈ s, isIdentifier c = true

/-- Parts behind a sign, with dots between them; without parts there is no sign. -/
def written (sign : Char) (parts : List String) : List Char :=
  if parts = [] then [] else sign :: ['.'].intercalate (parts.map String.toList)

theorem written_of_ne_nil (sign : Char) {parts : List String} (h : parts ≠ []) :
    written sign parts = sign :: ['.'].intercalate (parts.map String.toList) := if_neg h

/-- A written form begins with its sign. -/
theorem eq_sign_of_mem_head? {sign : Char} {parts : List String} :
    ∀ c ∈ (written sign parts).head?, c = sign := by
  unfold written
  split
  · exact fun c hc => nomatch hc
  · rintro _ ⟨⟩
    rfl

/-- Behind the numbers of a version stands a sign, if anything does. -/
theorem eq_signs_of_mem_head? {pre build : List String} :
    ∀ c ∈ (written '-' pre ++ written '+' build).head?, c = '-' ∨ c = '+' := by
  intro c hc
  rw [List.head?_append, Option.mem_def, Option.or_eq_some_iff] at hc
  rcases hc with hc | ⟨-, hc⟩
  · exact .inl (eq_sign_of_mem_head? c hc)
  · exact .inr (eq_sign_of_mem_head? c hc)

/-- What stands in a joined text is a separator or stands in one of the parts. -/
theorem mem_of_mem_intercalate {sep : List Char} {parts : List (List Char)} {c : Char}
    (hc : c ∈ sep.intercalate parts) : c ∈ sep ∨ ∃ part ∈ parts, c ∈ part := by
  induction parts with
  | nil => simp at hc
  | cons part parts ih =>
    by_cases hparts : parts = []
    · subst hparts
      exact .inr ⟨part, List.mem_cons_self, by simpa using hc⟩
    · rw [List.intercalate_cons_of_ne_nil hparts, List.mem_append, List.mem_append] at hc
      rcases hc with (hc | hc) | hc
      · exact .inr ⟨part, List.mem_cons_self, hc⟩
      · exact .inl hc
      · exact (ih hc).imp id fun ⟨part', hpart', hmem⟩ => ⟨part', List.mem_cons_of_mem part hpart', hmem⟩

/-- The reader takes the text of each valid value, and nothing else that is made of such characters. -/
structure TakesText {α : Type} (read : List Char → Except Fault α) (text : α → String) (Valid : α → Prop) :
    Prop where
  iff : ∀ s, (∀ c ∈ s, isIdentifier c = true) → ∀ a, read s = .ok a ↔ Valid a ∧ s = (text a).toList
  chars : ∀ a, Valid a → ∀ c ∈ (text a).toList, isIdentifier c = true

section TakesText

variable {α : Type} {read : List Char → Except Fault α} {text : α → String} {Valid : α → Prop}
  {cs front rest : List Char} {as : List α} {sign : Char}

theorem not_isIdentifier_dot : isIdentifier '.' = false := by decide

theorem isIdentifier_of_isDotted {c : Char} (h : isDotted c = true) (hc : c ≠ '.') :
    isIdentifier c = true := by
  simpa [isDotted, hc] using h

/-- Segments with the texts of valid values are read one by one. -/
theorem TakesText.forall₂_iff (h : TakesText read text Valid) {ss : List (List Char)}
    (hchars : ∀ s ∈ ss, ∀ c ∈ s, isIdentifier c = true) :
    List.Forall₂ (fun s a => read s = .ok a) ss as ↔
      (∀ a ∈ as, Valid a) ∧ ss = as.map fun a => (text a).toList := by
  induction ss generalizing as with
  | nil =>
    rw [List.forall₂_nil_left_iff]
    constructor
    · rintro rfl
      exact ⟨by simp, rfl⟩
    · exact fun h => List.map_eq_nil_iff.1 h.2.symm
  | cons s ss ih =>
    obtain ⟨hs, hss⟩ := List.forall_mem_cons.1 hchars
    rw [List.forall₂_cons_left_iff]
    constructor
    · rintro ⟨a, as, ha, has, rfl⟩
      obtain ⟨hvalid, rfl⟩ := (h.iff s hs a).1 ha
      obtain ⟨hvalids, rfl⟩ := (ih hss).1 has
      exact ⟨List.forall_mem_cons.2 ⟨hvalid, hvalids⟩, rfl⟩
    · rintro ⟨hvalid, hmap⟩
      cases as with
      | nil => cases hmap
      | cons a as =>
        obtain ⟨rfl, rfl⟩ := List.cons.inj hmap
        obtain ⟨ha, has⟩ := List.forall_mem_cons.1 hvalid
        exact ⟨a, as, (h.iff _ hs a).2 ⟨ha, rfl⟩, (ih hss).2 ⟨has, rfl⟩, rfl⟩

/-- Text between dots is read segment by segment: it is that of the values, with dots in between. -/
theorem TakesText.mapM_segments (h : TakesText read text Valid) (hfront : ∀ c ∈ front, isDotted c = true) :
    (segments front).mapM read = .ok as ↔
      as ≠ [] ∧ (∀ a ∈ as, Valid a) ∧ front = ['.'].intercalate (as.map fun a => (text a).toList) := by
  have hchars : ∀ s ∈ segments front, ∀ c ∈ s, isIdentifier c = true := fun s hs c hc =>
    isIdentifier_of_isDotted (hfront c (mem_segments hs c hc).1) (mem_segments hs c hc).2
  rw [mapM_eq_ok_iff, h.forall₂_iff hchars, segments_eq_splitOn]
  constructor
  · rintro ⟨hvalid, hsplit⟩
    refine ⟨?_, hvalid, by rw [← hsplit, List.intercalate_splitOn]⟩
    rintro rfl
    exact List.splitOn_ne_nil _ _ hsplit
  · rintro ⟨hne, hvalid, rfl⟩
    refine ⟨hvalid, List.splitOn_intercalate '.' (fun s hs hdot => ?_) (by simpa using hne)⟩
    obtain ⟨a, ha, rfl⟩ := List.mem_map.1 hs
    exact Bool.false_ne_true (not_isIdentifier_dot.symm.trans (h.chars a (hvalid a ha) '.' hdot))

/-- The texts of valid values and the dots between them are made of the characters that are read. -/
theorem TakesText.isDotted_of_mem (h : TakesText read text Valid) (hvalid : ∀ a ∈ as, Valid a) :
    ∀ c ∈ ['.'].intercalate (as.map fun a => (text a).toList), isDotted c = true := by
  intro c hc
  rcases mem_of_mem_intercalate hc with hdot | ⟨s, hs, hmem⟩
  · obtain rfl := List.mem_singleton.1 hdot
    rfl
  · obtain ⟨a, ha, rfl⟩ := List.mem_map.1 hs
    rw [isDotted, h.chars a (hvalid a ha) c hmem, Bool.true_or]

theorem readSegments_of_head?_ne (hhead : cs.head? ≠ some sign) :
    readSegments sign read cs = .ok ([], cs) := by
  unfold readSegments
  split
  · rfl
  · next c rest =>
    rw [if_neg]
    rintro rfl
    exact hhead rfl

theorem readSegments_cons_eq_ok_iff : readSegments sign read (sign :: cs) = .ok (as, rest) ↔
    (segments (cs.takeWhile isDotted)).mapM read = .ok as ∧ cs.dropWhile isDotted = rest := by
  rw [readSegments, if_pos rfl, bind_eq_ok_iff]
  constructor
  · rintro ⟨bs, hbs, heq⟩
    obtain ⟨rfl, rfl⟩ := Prod.mk.inj (Except.ok.inj heq)
    exact ⟨hbs, rfl⟩
  · rintro ⟨has, rfl⟩
    exact ⟨as, has, rfl⟩

/-- **What stands behind a sign is read from its written form,** if nothing follows that would be read as well:
the sign, or where it has been, a character that may stand in a segment. -/
theorem TakesText.readSegments_eq_ok_iff (h : TakesText read text Valid) :
    readSegments sign read cs = .ok (as, rest) ↔
      (∀ a ∈ as, Valid a) ∧ cs = written sign (as.map text) ++ rest ∧
        (as = [] → rest.head? ≠ some sign) ∧ (as ≠ [] → ∀ c ∈ rest.head?, isDotted c = false) := by
  have hwritten : as ≠ [] → written sign (as.map text) =
      sign :: ['.'].intercalate (as.map fun a => (text a).toList) := by
    intro hne
    rw [written_of_ne_nil sign (by simpa using hne), List.map_map]
    rfl
  by_cases hhead : cs.head? = some sign
  · obtain ⟨cs, rfl⟩ : ∃ tail, cs = sign :: tail := ⟨cs.tail, List.eq_cons_of_mem_head? hhead⟩
    rw [readSegments_cons_eq_ok_iff, h.mapM_segments fun c hc => List.mem_takeWhile_imp hc]
    constructor
    · rintro ⟨⟨hne, hvalid, hfront⟩, hrest⟩
      have hread := Front.iff.2 ⟨hfront, hrest⟩
      refine ⟨hvalid, ?_, fun hnil => absurd hnil hne, fun _ => hread.stops⟩
      rw [hwritten hne, List.cons_append, ← hread.append_eq]
    · rintro ⟨hvalid, heq, hnone, hstops⟩
      have hne : as ≠ [] := by
        rintro rfl
        exact hnone rfl (by rw [← hhead, heq]; rfl)
      rw [hwritten hne, List.cons_append] at heq
      have hread := Front.mk (List.cons.inj heq).2 (h.isDotted_of_mem hvalid) (hstops hne)
      exact ⟨⟨hne, hvalid, hread.takeWhile_eq⟩, hread.dropWhile_eq⟩
  · rw [readSegments_of_head?_ne hhead]
    constructor
    · intro heq
      obtain ⟨rfl, rfl⟩ := Prod.mk.inj (Except.ok.inj heq)
      exact ⟨by simp, rfl, fun _ => hhead, fun hne => absurd rfl hne⟩
    · rintro ⟨-, heq, -, -⟩
      by_cases has : as = []
      · rw [has, heq, has]
        rfl
      · rw [hwritten has] at heq
        exact absurd (by rw [heq]; rfl) hhead

end TakesText
end Version

/-! ## Valid versions -/

/-- The identifier can stand in a pre-release; a name is told from a number by a character that is no
digit. -/
def Identifier.Valid : Identifier → Prop
  | .number _ => True
  | .name s => Version.IsSegment s.toList ∧ ∃ c ∈ s.toList, isDigit c = false

namespace Version

/-- The version can be written so that it is read again: its numbers have 64 bits, and its identifiers are
made of the characters of identifiers. -/
structure Valid (v : Version) : Prop where
  major_lt : v.major < wordLimit
  minor_lt : v.minor < wordLimit
  patch_lt : v.patch < wordLimit
  pre : ∀ i ∈ v.pre, i.Valid
  build : ∀ s ∈ v.build, IsSegment s.toList

theorem isIdentifier_of_isDigit {c : Char} (h : isDigit c = true) : isIdentifier c = true := by
  simp [isIdentifier, h]

theorem readIdentifier_numeral (n : Nat) : readIdentifier (numeral n) = .ok (.number n) := by
  obtain ⟨c, cs, hcs⟩ := List.exists_cons_of_ne_nil (numeral_ne_nil n)
  have hdigits : (c :: cs).all isDigit = true :=
    List.all_eq_true.2 fun d hd => isDigit_of_mem_numeral d (hcs ▸ hd)
  have hzero : ¬ (c = '0' ∧ cs ≠ []) := by
    rintro ⟨rfl, hne⟩
    exact hne (eq_nil_of_numeral hcs)
  rw [hcs, readIdentifier, if_pos hdigits, if_neg hzero, ← hcs, valueOf_numeral]

theorem readIdentifier_name {s : List Char} (hs : s ≠ []) (hname : ∃ c ∈ s, isDigit c = false) :
    readIdentifier s = .ok (.name (String.ofList s)) := by
  obtain ⟨c, cs, rfl⟩ := List.exists_cons_of_ne_nil hs
  obtain ⟨d, hd, hd'⟩ := hname
  rw [readIdentifier, if_neg]
  exact fun hdigits => Bool.false_ne_true (hd'.symm.trans (List.all_eq_true.1 hdigits d hd))

theorem takesText_identifier : TakesText readIdentifier Identifier.text Identifier.Valid where
  iff := by
    intro s hs i
    constructor
    · intro h
      unfold readIdentifier at h
      split at h
      · cases h
      · next c cs =>
        split at h
        · next hdigits =>
          split at h
          · cases h
          · next hzero =>
            obtain rfl := Except.ok.inj h
            refine ⟨trivial, (numeral_valueOf (List.cons_ne_nil c cs) (List.all_eq_true.1 hdigits) ?_).symm⟩
            intro rest hrest
            obtain ⟨rfl, rfl⟩ := List.cons.inj hrest
            exact Classical.not_not.1 fun hne => hzero ⟨rfl, hne⟩
        · next hname =>
          obtain rfl := Except.ok.inj h
          rw [Identifier.Valid, Identifier.text, String.toList_ofList]
          rw [Bool.not_eq_true, List.all_eq_false] at hname
          obtain ⟨d, hd, hd'⟩ := hname
          exact ⟨⟨⟨List.cons_ne_nil c cs, hs⟩, d, hd, Bool.eq_false_iff.2 hd'⟩, rfl⟩
    · rintro ⟨hvalid, rfl⟩
      cases i with
      | number n => exact readIdentifier_numeral n
      | name t => rw [Identifier.text, readIdentifier_name hvalid.1.1 hvalid.2, String.ofList_toList]
  chars := by
    intro i hvalid
    cases i with
    | number n => exact fun c hc => isIdentifier_of_isDigit (isDigit_of_mem_numeral c hc)
    | name s => exact hvalid.1.2

theorem takesText_build : TakesText readBuildSegment id fun s => IsSegment s.toList where
  iff := by
    intro s hs t
    rw [readBuildSegment]
    split
    · next hnil => simpa [hnil, IsSegment] using fun h _ heq => h (by simpa using heq.symm)
    · next hne =>
      rw [Except.ok.injEq, ← String.toList_inj, String.toList_ofList]
      constructor
      · exact fun heq => ⟨heq ▸ ⟨hne, hs⟩, heq⟩
      · exact fun h => h.2
  chars := fun t ht => ht.2

theorem toList_text (v : Version) : v.text.toList =
    numeral v.major ++ '.' :: (numeral v.minor ++ '.' :: (numeral v.patch ++
      (written '-' (v.pre.map Identifier.text) ++ written '+' v.build))) := by
  have hpre : (if v.pre.isEmpty then "" else "-" ++ v.pre.text).toList =
      written '-' (v.pre.map Identifier.text) := by
    cases hp : v.pre with
    | nil => rfl
    | cons i is =>
      rw [written_of_ne_nil _ (by simp)]
      simp [Prerelease.text, String.toList_intercalate]
  have hbuild : (if v.build.isEmpty then "" else "+" ++ v.buildText).toList = written '+' v.build := by
    cases hb : v.build with
    | nil => rfl
    | cons s ss =>
      rw [written_of_ne_nil _ (by simp)]
      simp [buildText, String.toList_intercalate, hb]
  rw [text]
  simp only [String.toList_append, hpre, hbuild, numeral]
  simp

/-- What is read as a version is the text of it. -/
theorem eq_text_of_read {cs : List Char} {v : Version} (h : read cs = .ok v) :
    v.Valid ∧ cs = v.text.toList := by
  rw [read] at h
  split at h
  · cases h
  obtain ⟨⟨major, cs₁⟩, hmajor, h⟩ := bind_eq_ok_iff.1 h
  obtain ⟨cs₂, hdot, h⟩ := bind_eq_ok_iff.1 h
  obtain ⟨⟨minor, cs₃⟩, hminor, h⟩ := bind_eq_ok_iff.1 h
  obtain ⟨cs₄, hdot', h⟩ := bind_eq_ok_iff.1 h
  obtain ⟨⟨patch, cs₅⟩, hpatch, h⟩ := bind_eq_ok_iff.1 h
  obtain ⟨⟨pre, cs₆⟩, hpre, h⟩ := bind_eq_ok_iff.1 h
  obtain ⟨⟨build, cs₇⟩, hbuild, h⟩ := bind_eq_ok_iff.1 h
  dsimp only at hdot hminor hdot' hpatch hpre hbuild h
  split at h
  · obtain rfl := Except.ok.inj h
    obtain ⟨hmajorlt, hmajor⟩ := readNumber_eq_ok_iff.1 hmajor
    obtain rfl := readDot_eq_ok_iff.1 hdot
    obtain ⟨hminorlt, hminor⟩ := readNumber_eq_ok_iff.1 hminor
    obtain rfl := readDot_eq_ok_iff.1 hdot'
    obtain ⟨hpatchlt, hpatch⟩ := readNumber_eq_ok_iff.1 hpatch
    obtain ⟨hprevalid, rfl, -, -⟩ := takesText_identifier.readSegments_eq_ok_iff.1 hpre
    obtain ⟨hbuildvalid, rfl, -, -⟩ := takesText_build.readSegments_eq_ok_iff.1 hbuild
    refine ⟨⟨hmajorlt, hminorlt, hpatchlt, hprevalid, hbuildvalid⟩, ?_⟩
    rw [toList_text, hmajor.append_eq, hminor.append_eq, hpatch.append_eq, List.map_id, List.append_nil]
  · cases h

/-- A valid version is read from its text: what may not follow a part does not follow it, since the signs are
neither digits nor dotted. -/
theorem Valid.read_text {v : Version} (hv : v.Valid) : read v.text.toList = .ok v := by
  have hsigns : ∀ c ∈ (written '-' (v.pre.map Identifier.text) ++ written '+' v.build).head?,
      isDigit c = false := by
    intro c hc
    obtain rfl | rfl := eq_signs_of_mem_head? c hc <;> rfl
  have hpre : readSegments '-' readIdentifier
      (written '-' (v.pre.map Identifier.text) ++ written '+' v.build) =
        .ok (v.pre, written '+' v.build) := by
    refine takesText_identifier.readSegments_eq_ok_iff.2 ⟨hv.pre, rfl, fun _ hc => ?_, fun _ c hc => ?_⟩
    · exact absurd (eq_sign_of_mem_head? _ hc) (by decide)
    · rw [eq_sign_of_mem_head? c hc]
      rfl
  have hbuild : readSegments '+' readBuildSegment (written '+' v.build) = .ok (v.build, []) := by
    refine takesText_build.readSegments_eq_ok_iff.2 ⟨hv.build, ?_, fun _ hc => ?_, fun _ c hc => ?_⟩
    · rw [List.map_id, List.append_nil]
    · cases hc
    · cases hc
  rw [toList_text, read, if_neg (by simp [numeral_ne_nil]),
    readNumber_numeral _ hv.major_lt (by rintro _ ⟨⟩; rfl)]
  show (readNumber .minor (numeral v.minor ++ _)).bind _ = _
  rw [readNumber_numeral _ hv.minor_lt (by rintro _ ⟨⟩; rfl)]
  show (readNumber .patch (numeral v.patch ++ _)).bind _ = _
  rw [readNumber_numeral _ hv.patch_lt hsigns]
  show (readSegments '-' readIdentifier _).bind _ = _
  rw [hpre]
  show (readSegments '+' readBuildSegment _).bind _ = _
  rw [hbuild]
  rfl

/-- **A text is read as a version exactly if it is the text of that version,** and the version is valid. -/
theorem read_eq_ok_iff {cs : List Char} {v : Version} :
    read cs = .ok v ↔ v.Valid ∧ cs = v.text.toList := by
  refine ⟨eq_text_of_read, ?_⟩
  rintro ⟨hv, rfl⟩
  exact hv.read_text

end Version
end LiteralPatch
