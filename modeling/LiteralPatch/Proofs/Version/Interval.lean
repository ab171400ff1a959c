import LiteralPatch.Proofs.Version.Host
import Mathlib.Data.List.Lex

/-!
# Bounds on versions

Tables say which hosts they are for by bounds: the triple of a release behind one of the four signs of order.
A list of bounds, written with commas and as many spaces as one likes (`Bound.Written`), is a requirement that
means what it says: a release satisfies it exactly if its triple, compared number by number from the left, keeps
every bound (`Version.satisfies_bounds`).  Build metadata do not count.

A pre-release never satisfies bounds, although its triple may keep all of them.  A requirement admits
pre-releases only of triples that it names with a pre-release itself, and the bounds name releases.
-/

namespace LiteralPatch

open Text Unicode Version

namespace Requirement

/-! ## Bounds -/

/-- The signs of order. -/
inductive Sign where
  | atLeast
  | greater
  | atMost
  | less
deriving DecidableEq, Repr

namespace Sign

def text : Sign → List Char
  | atLeast => ['>', '=']
  | greater => ['>']
  | atMost => ['<', '=']
  | less => ['<']

def operator : Sign → Operator
  | atLeast => .atLeast
  | greater => .greater
  | atMost => .atMost
  | less => .less

end Sign

/-- A sign of order and the triple of a release, in numbers of 64 bits. -/
structure Bound where
  sign : Sign
  major : Nat
  minor : Nat
  patch : Nat
  lt_wordLimit : ∀ n ∈ [major, minor, patch], n < wordLimit

namespace Bound

def triple (b : Bound) : List Nat := [b.major, b.minor, b.patch]

/-- A triple keeps the bound, in the lexicographic order of triples. -/
def Holds (b : Bound) (t : List Nat) : Prop :=
  match b.sign with
  | .atLeast => b.triple ≤ t
  | .greater => b.triple < t
  | .atMost => t ≤ b.triple
  | .less => t < b.triple

instance (b : Bound) (t : List Nat) : Decidable (b.Holds t) :=
  match b with
  | ⟨.atLeast, major, minor, patch, _⟩ => inferInstanceAs (Decidable ([major, minor, patch] ≤ t))
  | ⟨.greater, major, minor, patch, _⟩ => inferInstanceAs (Decidable ([major, minor, patch] < t))
  | ⟨.atMost, major, minor, patch, _⟩ => inferInstanceAs (Decidable (t ≤ [major, minor, patch]))
  | ⟨.less, major, minor, patch, _⟩ => inferInstanceAs (Decidable (t < [major, minor, patch]))

/-- Nothing but spaces. -/
def Spaces (cs : List Char) : Prop := ∀ c ∈ cs, c = ' '

instance (cs : List Char) : Decidable (Spaces cs) := inferInstanceAs (Decidable (∀ c ∈ cs, c = ' '))

/-- The bound with some text between sign and triple. -/
def written (b : Bound) (gap : List Char) : List Char :=
  b.sign.text ++ gap ++ dotted b.triple

/-- One bound or more, separated by commas, with any number of spaces behind signs and around commas. -/
inductive Written : List Char → List Bound → Prop where
  | last {b : Bound} {gap : List Char} (hgap : Spaces gap) : Written (b.written gap) [b]
  | more {b : Bound} {gap before after rest : List Char} {bs : List Bound} (hgap : Spaces gap)
    (hbefore : Spaces before) (hafter : Spaces after) (hrest : Written rest bs) :
    Written (b.written gap ++ (before ++ ',' :: (after ++ rest))) (b :: bs)

/-- The comparator that a bound is read as. -/
def comparator (b : Bound) : Comparator :=
  ⟨b.sign.operator, b.major, some b.minor, some b.patch, []⟩

section Fields

variable (b : Bound)

@[simp] theorem comparator_operator : b.comparator.operator = b.sign.operator := rfl

@[simp] theorem comparator_major : b.comparator.major = b.major := rfl

@[simp] theorem comparator_minor : b.comparator.minor = some b.minor := rfl

@[simp] theorem comparator_patch : b.comparator.patch = some b.patch := rfl

@[simp] theorem comparator_pre : b.comparator.pre = [] := rfl

end Fields

/-! ## Reading bounds -/

theorem Spaces.dropSpaces_append {gap : List Char} (h : Spaces gap) (rest : List Char)
    (hrest : ∀ c ∈ rest.head?, c ≠ ' ') : dropSpaces (gap ++ rest) = rest :=
  Front.dropWhile_eq ⟨rfl, fun c hc => beq_iff_eq.2 (h c hc), fun c hc => beq_false_of_ne (hrest c hc)⟩

theorem ne_space_of_isDigit {c : Char} (hc : isDigit c = true) : c ≠ ' ' := by
  rintro rfl
  exact absurd hc (by decide)

theorem isDigit_of_mem_head?_numeral (n : Nat) (rest : List Char) :
    ∀ c ∈ (numeral n ++ rest).head?, isDigit c = true := by
  intro c hc
  rw [List.head?_append_of_ne_nil _ (numeral_ne_nil n)] at hc
  exact isDigit_of_mem_numeral c (List.mem_of_mem_head? hc)

theorem dotted_triple (b : Bound) : dotted b.triple =
    numeral b.major ++ '.' :: (numeral b.minor ++ '.' :: numeral b.patch) := by
  simp [dotted, triple, List.intercalate_cons_of_ne_nil]

/-- The sign is read, and then the spaces up to the digit behind it. -/
theorem readOperator_text (sign : Sign) {gap cs : List Char} (hgap : Spaces gap)
    (hcs : ∀ c ∈ cs.head?, isDigit c = true) :
    readOperator (sign.text ++ (gap ++ cs)) = (some sign.operator, gap ++ cs) ∧ dropSpaces (gap ++ cs) = cs := by
  have hnext : (gap ++ cs).head? ≠ some '=' := by
    intro heq
    cases gap with
    | nil => exact absurd (hcs _ heq) (by decide)
    | cons c gap =>
      obtain rfl := Option.some.inj heq
      exact absurd (hgap _ List.mem_cons_self) (by decide)
  refine ⟨?_, hgap.dropSpaces_append _ fun c hc => ne_space_of_isDigit (hcs c hc)⟩
  generalize gap ++ cs = rest at hnext ⊢
  cases sign with
  | atLeast => rfl
  | atMost => rfl
  | greater =>
    show readOperator ('>' :: rest) = _
    unfold readOperator
    split <;> simp_all [Sign.operator]
  | less =>
    show readOperator ('<' :: rest) = _
    unfold readOperator
    split <;> simp_all [Sign.operator]

/-- A number behind a dot, where no further digit follows. -/
theorem readComponent_numeral (part : Part) {n : Nat} (hn : n < wordLimit) (rest : List Char)
    (hrest : ∀ c ∈ rest.head?, isDigit c = false) :
    readComponent part ('.' :: (numeral n ++ rest)) = .ok (.number n, rest) := by
  obtain ⟨d, ds, hds⟩ := List.exists_cons_of_ne_nil (numeral_ne_nil n)
  have hwild : isWildcard d = false := by
    have hdigit := isDigit_of_mem_numeral d (hds ▸ List.mem_cons_self)
    have hne : ∀ x, isDigit x = false → (d == x) = false := by
      rintro x hx
      refine beq_false_of_ne ?_
      rintro rfl
      exact Bool.false_ne_true (hx.symm.trans hdigit)
    rw [isWildcard, hne '*' rfl, hne 'x' rfl, hne 'X' rfl]
    rfl
  have hread := readNumber_numeral part hn hrest
  rw [hds, List.cons_append] at hread ⊢
  rw [readComponent, hwild, hread]
  rfl

/-- **One bound is read as its comparator,** up to the comma or the end. -/
theorem readComparator_written (b : Bound) {gap : List Char} (hgap : Spaces gap) (rest : List Char)
    (hrest : ∀ c ∈ rest.head?, c = ' ' ∨ c = ',') :
    readComparator (b.written gap ++ rest) = .ok ((b.comparator, .patch), dropSpaces rest) := by
  have hnext : ∀ x, x ≠ ' ' → x ≠ ',' → rest.head? ≠ some x := fun x hspace hcomma hx =>
    (hrest x hx).elim hspace hcomma
  have hstops : ∀ c ∈ rest.head?, isDigit c = false := by
    intro c hc
    obtain rfl | rfl := hrest c hc <;> rfl
  obtain ⟨hmajor, hminor, hpatch, -⟩ := by simpa only [List.forall_mem_cons] using b.lt_wordLimit
  obtain ⟨tail, htail⟩ : ∃ tail, tail = '.' :: (numeral b.minor ++ '.' :: (numeral b.patch ++ rest)) := ⟨_, rfl⟩
  have hsplit : b.written gap ++ rest = b.sign.text ++ (gap ++ (numeral b.major ++ tail)) := by
    simp [written, dotted_triple, htail]
  obtain ⟨hsign, hdrop⟩ := readOperator_text b.sign hgap (isDigit_of_mem_head?_numeral b.major tail)
  have hfirst : readNumber .major (numeral b.major ++ tail) = .ok (b.major, tail) :=
    readNumber_numeral .major hmajor (by rw [htail]; rintro _ ⟨⟩; rfl)
  have hsecond : readComponent .minor tail = .ok (.number b.minor, '.' :: (numeral b.patch ++ rest)) := by
    rw [htail]
    exact readComponent_numeral .minor hminor _ (by rintro _ ⟨⟩; rfl)
  have hthird := readComponent_numeral .patch hpatch rest hstops
  have hpre : readSegments '-' readIdentifier rest = .ok ([], rest) :=
    readSegments_of_head?_ne (hnext '-' (by decide) (by decide))
  have hbuild : readSegments '+' readBuildSegment rest = .ok ([], rest) :=
    readSegments_of_head?_ne (hnext '+' (by decide) (by decide))
  rw [hsplit, readComparator, hsign]
  dsimp only
  rw [hdrop, hfirst]
  show (readComponent .minor _).bind _ = _
  rw [hsecond]
  show (readComponent .patch _).bind _ = _
  rw [hthird]
  show ((readSegments '-' readIdentifier rest).bind _).bind _ = _
  rw [hpre]
  show ((readSegments '+' readBuildSegment rest).bind _).bind _ = _
  rw [hbuild]
  rfl

/-! ## The ends of a list of bounds -/

theorem exists_written (b : Bound) (gap : List Char) :
    ∃ c cs, b.written gap = c :: cs ∧ (c = '<' ∨ c = '>') := by
  unfold written
  cases b.sign with
  | atLeast => exact ⟨_, _, rfl, .inr rfl⟩
  | greater => exact ⟨_, _, rfl, .inr rfl⟩
  | atMost => exact ⟨_, _, rfl, .inl rfl⟩
  | less => exact ⟨_, _, rfl, .inl rfl⟩

/-- A list of bounds begins with a sign. -/
theorem Written.begins {text : List Char} {bs : List Bound} (h : Written text bs) :
    ∃ c cs, text = c :: cs ∧ (c = '<' ∨ c = '>') := by
  cases h with
  | @last b gap _ => exact exists_written b gap
  | @more b gap _ _ _ _ _ _ _ _ =>
    obtain ⟨c, cs, hcs, hc⟩ := exists_written b gap
    exact ⟨c, _, by rw [hcs]; rfl, hc⟩

/-- A list of bounds ends with a digit. -/
theorem Written.ends {text : List Char} {bs : List Bound} (h : Written text bs) :
    ∃ cs d, text = cs ++ [d] ∧ isDigit d = true := by
  induction h with
  | @last b gap _ =>
    obtain ⟨ds, d, hds⟩ := (List.eq_nil_or_concat (numeral b.patch)).resolve_left (numeral_ne_nil _)
    have hd : d ∈ numeral b.patch := by simp [hds]
    refine ⟨b.sign.text ++ gap ++ numeral b.major ++ '.' :: numeral b.minor ++ '.' :: ds, d, ?_,
      isDigit_of_mem_numeral d hd⟩
    simp [written, dotted_triple, hds]
  | @more b gap before after rest bs _ _ _ _ ih =>
    obtain ⟨cs, d, rfl, hd⟩ := ih
    exact ⟨b.written gap ++ (before ++ ',' :: (after ++ cs)), d, by simp, hd⟩

/-- **Bounds are read as their comparators,** as many as there may be. -/
theorem Written.readComparators_eq {text : List Char} {bs : List Bound} (h : Written text bs) {count : Nat}
    (hcount : bs.length ≤ count) : readComparators count text = .ok (bs.map comparator) := by
  induction h generalizing count with
  | @last b gap hgap =>
    obtain ⟨count, rfl⟩ : ∃ n, count = n + 1 := ⟨count - 1, by simp at hcount; omega⟩
    have hread := b.readComparator_written hgap [] fun _ hc => nomatch hc
    rw [List.append_nil] at hread
    rw [readComparators, hread]
    rfl
  | @more b gap before after rest bs hgap hbefore hafter hrest ih =>
    obtain ⟨count, rfl⟩ : ∃ n, count = n + 1 := ⟨count - 1, by simp at hcount; omega⟩
    rw [List.length_cons] at hcount
    have hhead : ∀ c ∈ (before ++ ',' :: (after ++ rest)).head?, c = ' ' ∨ c = ',' := by
      intro c hc
      cases before with
      | nil => exact .inr (Option.some.inj hc).symm
      | cons d before => exact .inl (hbefore c (List.mem_of_mem_head? hc))
    have hread := b.readComparator_written hgap _ hhead
    rw [hbefore.dropSpaces_append _ (by rintro _ ⟨⟩; decide)] at hread
    have hbegin : ∀ c ∈ rest.head?, c ≠ ' ' := by
      obtain ⟨s, cs, rfl, hs⟩ := hrest.begins
      rintro _ ⟨⟩
      rcases hs with rfl | rfl <;> decide
    rw [readComparators, hread]
    dsimp only
    rw [if_pos rfl, hafter.dropSpaces_append _ hbegin, ih (by omega)]
    rfl

/-- A requirement of bounds, as many as a requirement may have. -/
theorem Written.read_eq {text : List Char} {bs : List Bound} (h : Written text bs)
    (hcount : bs.length ≤ maxComparators) : read text = .ok ⟨bs.map comparator⟩ := by
  have hread := h.readComparators_eq hcount
  obtain ⟨c, cs, rfl, hc⟩ := h.begins
  have hdrop : dropSpaces (c :: cs) = c :: cs := by
    rcases hc with rfl | rfl <;> rfl
  have hwild : isWildcard c = false := by
    rcases hc with rfl | rfl <;> rfl
  rw [read, hdrop]
  dsimp only
  rw [hwild, hread]
  rfl

/-! ## What bounds accept -/

/-- Triples are compared number by number. -/
theorem triple_lt_triple {a b c a' b' c' : Nat} :
    [a, b, c] < [a', b', c'] ↔ a < a' ∨ a = a' ∧ (b < b' ∨ b = b' ∧ c < c') := by
  simp [List.cons_lt_cons_iff]

theorem triple_le_triple {a b c a' b' c' : Nat} :
    [a, b, c] ≤ [a', b', c'] ↔ [a, b, c] < [a', b', c'] ∨ a = a' ∧ b = b' ∧ c = c' := by
  rw [le_iff_lt_or_eq]
  simp

section Accepts

variable {v : Version} (b : Bound)

theorem isExact_comparator (hv : v.pre = []) :
    b.comparator.isExact v = true ↔ v.major = b.major ∧ v.minor = b.minor ∧ v.patch = b.patch := by
  simp [Comparator.isExact, hv, and_assoc]

theorem isGreater_comparator (hv : v.pre = []) :
    b.comparator.isGreater v = true ↔ b.triple < v.triple := by
  rw [triple, Version.triple, triple_lt_triple]
  -- the first number in which the triples differ decides, and of equal triples the release is the last
  by_cases hmajor : v.major = b.major
  · by_cases hminor : v.minor = b.minor
    · by_cases hpatch : v.patch = b.patch
      · simp [Comparator.isGreater, hmajor, hminor, hpatch, hv, Prerelease.order]
      · simp [Comparator.isGreater, hmajor, hminor, hpatch]
    · simp [Comparator.isGreater, hmajor, hminor, Ne.symm hminor]
  · have hfirst : b.comparator.isGreater v = decide (b.major < v.major) := if_pos hmajor
    simp [hfirst, Ne.symm hmajor]

theorem isLess_comparator (hv : v.pre = []) :
    b.comparator.isLess v = true ↔ v.triple < b.triple := by
  rw [triple, Version.triple, triple_lt_triple]
  by_cases hmajor : v.major = b.major
  · by_cases hminor : v.minor = b.minor
    · by_cases hpatch : v.patch = b.patch
      · simp [Comparator.isLess, hmajor, hminor, hpatch, hv, Prerelease.order]
      · simp [Comparator.isLess, hmajor, hminor, hpatch]
    · simp [Comparator.isLess, hmajor, hminor]
  · have hfirst : b.comparator.isLess v = decide (v.major < b.major) := if_pos hmajor
    simp [hfirst, hmajor]

/-- **A release is accepted exactly if its triple keeps the bound.** -/
theorem accepts_comparator (hv : v.pre = []) : b.comparator.accepts v = true ↔ b.Holds v.triple := by
  have hexact := b.isExact_comparator hv
  have hgreater := b.isGreater_comparator hv
  have hless := b.isLess_comparator hv
  obtain ⟨sign, major, minor, patch, hlt⟩ := b
  cases sign with
  | atLeast =>
    show (_ || _) = true ↔ _ ≤ _
    rw [Bool.or_eq_true, hexact, hgreater]
    show _ ↔ [major, minor, patch] ≤ [v.major, v.minor, v.patch]
    rw [triple_le_triple, or_comm, eq_comm (a := v.major), eq_comm (a := v.minor), eq_comm (a := v.patch)]
    rfl
  | greater => exact hgreater
  | atMost =>
    show (_ || _) = true ↔ _ ≤ _
    rw [Bool.or_eq_true, hexact, hless]
    show _ ↔ [v.major, v.minor, v.patch] ≤ [major, minor, patch]
    rw [triple_le_triple, or_comm]
    rfl
  | less => exact hless

/-- No bound asks for a pre-release. -/
theorem asksForPre_comparator (v : Version) : b.comparator.asksForPre v = false := by
  simp [Comparator.asksForPre]

end Accepts

/-- **Bounds accept the releases that keep all of them,** and no pre-release. -/
theorem accepts_eq (bs : List Bound) (v : Version) :
    Requirement.accepts ⟨bs.map comparator⟩ v = decide (v.pre = [] ∧ ∀ b ∈ bs, b.Holds v.triple) := by
  have hasks : (bs.map comparator).any (·.asksForPre v) = false := by
    rw [List.any_map, List.any_eq_false]
    exact fun b _ => Bool.eq_false_iff.1 (b.asksForPre_comparator v)
  rw [Requirement.accepts, hasks, Bool.or_false, Bool.eq_iff_iff, Bool.and_eq_true, decide_eq_true_iff,
    List.isEmpty_iff, and_comm, List.all_map, List.all_eq_true]
  exact and_congr_right fun hv => forall₂_congr fun b _ => b.accepts_comparator hv

end Bound
end Requirement

/-! ## White space around a text -/

namespace Text

theorem trimLeft_append {before text : List Char} (hbefore : ∀ c ∈ before, isWhite c = true)
    (htext : ∀ c ∈ text.head?, isWhite c = false) : trimLeft (before ++ text) = text :=
  Front.dropWhile_eq ⟨rfl, hbefore, htext⟩

/-- Trimming leaves what neither begins nor ends with white space. -/
theorem trim_append {before text after : List Char} (hbefore : ∀ c ∈ before, isWhite c = true)
    (hafter : ∀ c ∈ after, isWhite c = true) (hne : text ≠ [])
    (hfirst : ∀ c ∈ text.head?, isWhite c = false) (hlast : ∀ c ∈ text.getLast?, isWhite c = false) :
    trim (before ++ text ++ after) = text := by
  rw [trim, List.append_assoc, trimLeft_append hbefore (by rwa [List.head?_append_of_ne_nil _ hne]),
    List.reverse_append, trimLeft_append (by simpa using hafter) (by rwa [List.head?_reverse]),
    List.reverse_reverse]

end Text

/-! ## Hosts -/

namespace Version

open Requirement Bound

theorem trim_written {before text after : List Char} {bs : List Bound} (h : Written text bs)
    (hbefore : ∀ c ∈ before, isWhite c = true) (hafter : ∀ c ∈ after, isWhite c = true) :
    trim (before ++ text ++ after) = text := by
  obtain ⟨s, cs, hs, hsign⟩ := h.begins
  obtain ⟨ds, d, hds, hd⟩ := h.ends
  refine trim_append hbefore hafter (by simp [hs]) ?_ ?_
  · rw [hs]
    rintro _ ⟨⟩
    rcases hsign with rfl | rfl <;> rfl
  · rw [hds, List.getLast?_concat]
    rintro _ ⟨⟩
    exact not_isWhite_of_isDotted (by rw [isDotted, isIdentifier_of_isDigit hd, Bool.true_or])

/-- A requirement of bounds is decided by the version of the host alone. -/
theorem satisfies_written {raw requirement : String} {before text after : List Char} {bs : List Bound}
    {v : Version} (hhost : ofHost raw = .ok v) (h : Written text bs) (hcount : bs.length ≤ maxComparators)
    (hbefore : ∀ c ∈ before, isWhite c = true) (hafter : ∀ c ∈ after, isWhite c = true)
    (hrequirement : requirement.toList = before ++ text ++ after) :
    satisfies raw (some requirement) = .ok (decide (v.pre = [] ∧ ∀ b ∈ bs, b.Holds v.triple)) := by
  have htrim : Text.trimmed requirement = String.ofList text := by
    rw [Text.trimmed, hrequirement, trim_written h hbefore hafter]
  have hne : String.ofList text ≠ "" := by
    obtain ⟨c, cs, rfl, -⟩ := h.begins
    exact fun hnil => List.cons_ne_nil _ _ (String.ofList_inj.1 hnil)
  unfold satisfies
  rw [Option.map_some, htrim]
  split
  · next hnone => cases hnone
  · next hnil => exact absurd (Option.some.inj hnil) hne
  · next hsome =>
    obtain rfl := Option.some.inj hsome
    rw [hhost, String.toList_ofList, h.read_eq hcount]
    exact congrArg Except.ok (accepts_eq bs v)

/-- **Bounds mean intervals**: of every requirement of one bound up to as many as a requirement may have, with
any white space around it, and every host that reports a version, the answer is whether the version is a release
whose triple keeps all the bounds.  All the other reports of the same triple and pre-release get the same answer,
whatever their build metadata. -/
theorem satisfies_bounds {raw requirement : String} {before text after : List Char} {bs : List Bound}
    {v : Version} (hhost : ofHost raw = .ok v) (h : Written text bs) (hcount : bs.length ≤ maxComparators)
    (hbefore : ∀ c ∈ before, isWhite c = true) (hafter : ∀ c ∈ after, isWhite c = true)
    (hrequirement : requirement.toList = before ++ text ++ after) :
    satisfies raw (some requirement) = .ok (decide (v.pre = [] ∧ ∀ b ∈ bs, b.Holds v.triple)) ∧
      ∀ (raw' : String) (v' : Version), ofHost raw' = .ok v' → v'.triple = v.triple → v'.pre = v.pre →
        satisfies raw' (some requirement) = satisfies raw (some requirement) := by
  have hanswer := fun (raw : String) v (hhost : ofHost raw = .ok v) =>
    satisfies_written hhost h hcount hbefore hafter hrequirement
  refine ⟨hanswer raw v hhost, fun raw' v' hhost' htriple hpre => ?_⟩
  rw [hanswer raw v hhost, hanswer raw' v' hhost', htriple, hpre]

/-- Two bounds, loosely written and with white space around them, and a release between them in two spellings. -/
theorem satisfies_bounds_between :
    Written ">= 1.2.0,  <1.4.0".toList [⟨.atLeast, 1, 2, 0, by decide⟩, ⟨.less, 1, 4, 0, by decide⟩] ∧
      satisfies "v1.3+b" (some "\t>= 1.2.0,  <1.4.0 ") = .ok true ∧
      satisfies "1.3" (some "\t>= 1.2.0,  <1.4.0 ") = .ok true := by
  have hwritten : Written ">= 1.2.0,  <1.4.0".toList
      [⟨.atLeast, 1, 2, 0, by decide⟩, ⟨.less, 1, 4, 0, by decide⟩] := by
    have htext : ">= 1.2.0,  <1.4.0".toList = Bound.written ⟨.atLeast, 1, 2, 0, by decide⟩ [' '] ++
        ([] ++ ',' :: ([' ', ' '] ++ Bound.written ⟨.less, 1, 4, 0, by decide⟩ [])) := by
      decide
    rw [htext]
    exact .more (by decide) (by decide) (by decide) (.last (by decide))
  have hbuild : ofHost "v1.3+b" = .ok ⟨1, 3, 0, [], ["b"]⟩ := by
    rw [ofHost_eq_ok_iff]
    rfl
  have hplain : ofHost "1.3" = .ok ⟨1, 3, 0, [], []⟩ := by
    rw [ofHost_eq_ok_iff]
    rfl
  have hsplit : "\t>= 1.2.0,  <1.4.0 ".toList = ['\t'] ++ ">= 1.2.0,  <1.4.0".toList ++ [' '] := by
    decide
  have hbounds := satisfies_bounds hbuild hwritten (by decide) (by decide) (by decide) hsplit
  have hloose := hbounds.2 "1.3" _ hplain rfl rfl
  rw [hloose, hbounds.1]
  exact ⟨hwritten, by decide, by decide⟩

end Version
end LiteralPatch
