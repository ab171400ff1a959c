import LiteralPatch.Proofs.Pattern.Reading
import LiteralPatch.Proofs.Pattern.Spelling

/-!
# The pieces of rule patterns

Rule patterns are made of five kinds of expressions: literal text, blanks, stretches without one
character, word edges and, once, a value.  Each has a name here, what it spells between two texts, and the
parts from which the reader makes it.

Punctuation has no case, so a pattern that ignores case takes it as it is (`sameText_punctuation`).
-/

namespace LiteralPatch

namespace Unicode

/-- Characters without case that stand in patterns. -/
def punctuation : List Char := ['"', ':', '(', ')', '\x7b', '\x7d']

theorem orbit_punctuation : ∀ c ∈ punctuation, orbit c.toNat = [c.toNat] := by decide +kernel

theorem sameFold_punctuation {c d : Char} (hc : c ∈ punctuation) : SameFold d c ↔ d = c := by
  constructor
  · intro h
    have hmem : d.toNat ∈ orbit c.toNat := mem_orbit.2 h
    rw [orbit_punctuation c hc, List.mem_singleton] at hmem
    exact Char.toNat_inj.1 hmem
  · rintro rfl
    rfl

theorem sameText_punctuation {c : Char} {w : List Char} (hc : c ∈ punctuation) :
    SameText w [c] ↔ w = [c] := by
  rw [sameText_cons]
  constructor
  · rintro ⟨d, ds, rfl, hd, hds⟩
    rw [(sameFold_punctuation hc).1 hd, sameText_nil.1 hds]
  · rintro rfl
    exact ⟨c, [], rfl, rfl, rfl⟩

end Unicode

namespace Pattern

open Unicode

namespace Expr

/-- A text, taken literally. -/
def text (ic : Bool) (cs : List Char) : List Expr :=
  cs.map fun c => .set ((initialFlags ic).literal c)

/-- A stretch without the character. -/
def without (x : Char) (greedy : Bool) : Expr :=
  .star greedy (.set (CharSet.ofChar x).complement)

def blanks : Expr := .star true (.set whiteSpace)

def someBlanks : Expr := .plus true (.set whiteSpace)

def edge : Expr := .look (.word .boundary true)

variable {l w r : List Char} {x : Char} {greedy : Bool}

theorem spells_text {cs : List Char} :
    (chain (text false cs)).Spells l w r ↔ w = cs :=
  spells_chain_exact

theorem spells_text_folded {cs : List Char} :
    (chain (text true cs)).Spells l w r ↔ SameText w cs :=
  spells_chain_folded

theorem spells_without : (without x greedy).Spells l w r ↔ x ∉ w := by
  rw [without, spells_star_set]
  have hhas : ∀ c, (CharSet.ofChar x).complement.has c = true ↔ c ≠ x := by
    intro c
    rw [CharSet.has_complement, Bool.not_eq_true', ← Bool.not_eq_true, CharSet.has_ofChar]
  simp only [hhas]
  constructor
  · exact fun h hx => h x hx rfl
  · rintro h c hc rfl
    exact h hc

theorem spells_blanks : blanks.Spells l w r ↔ ∀ c ∈ w, isWhite c = true :=
  spells_star_set

theorem spells_someBlanks :
    someBlanks.Spells l w r ↔ w ≠ [] ∧ ∀ c ∈ w, isWhite c = true :=
  spells_plus_set

theorem spells_edge : edge.Spells l w r ↔
    w = [] ∧ Assertion.isWordAt true l.getLast? ≠ Assertion.isWordAt true r.head? := by
  rw [edge, spells_look]
  simp [Assertion.holds]

/-- Literal text in front. -/
theorem spells_text_append {cs : List Char} {es : List Expr} :
    (chain (text true cs ++ es)).Spells l w r ↔
      ∃ u v, w = u ++ v ∧ SameText u cs ∧ (chain es).Spells (l ++ u) v r := by
  simp only [spells_chain_append, spells_text_folded]

theorem spells_punctuation_cons {c : Char} (hc : c ∈ punctuation) {es : List Expr} :
    (chain (text true [c] ++ es)).Spells l w r ↔
      ∃ v, w = c :: v ∧ (chain es).Spells (l ++ [c]) v r := by
  rw [spells_text_append]
  constructor
  · rintro ⟨u, v, rfl, hu, hv⟩
    rw [sameText_punctuation hc] at hu
    subst hu
    exact ⟨v, rfl, hv⟩
  · rintro ⟨v, rfl, hv⟩
    exact ⟨[c], v, rfl, (sameText_punctuation hc).2 rfl, hv⟩

end Expr

namespace Reader

variable {ic : Bool}

/-- The part of a stretch without the character. -/
def withoutPart (x : Char) (greedy : Bool) : Part :=
  loopPart 0 greedy (CharSet.ofChar x).complement 1

def blanksPart : Part := loopPart 0 true whiteSpace 0

def someBlanksPart : Part := loopPart 1 true whiteSpace 0

@[simp] theorem factors_textParts (cs : List Char) :
    (textParts ic cs).flatMap Part.factors = Expr.text ic cs := by
  induction cs with
  | nil => rfl
  | cons c cs ih =>
    rw [textParts, List.map_cons, List.flatMap_cons]
    exact congrArg (_ :: ·) ih

@[simp] theorem factors_withoutPart (x : Char) (greedy : Bool) :
    (withoutPart x greedy).factors = [Expr.without x greedy] := rfl

@[simp] theorem factors_blanksPart : blanksPart.factors = [Expr.blanks] := rfl

@[simp] theorem factors_someBlanksPart : someBlanksPart.factors = [Expr.someBlanks] := rfl

@[simp] theorem factors_edgePart : edgePart.factors = [Expr.edge] := rfl

theorem setWeight_le (s : CharSet) : Part.setWeight s ≤ 2 * s.ranges.length + 2 := by
  unfold Part.setWeight
  split
  · next h =>
    rw [h, List.length_singleton]
    grind
  · grind

/-- A literal character is light: it has few counterparts up to case. -/
theorem plain_literalPart (c : Char) : Plain (literalPart ic c) := by
  refine ⟨fun e he => ?_, fun e he => ?_, Nat.zero_le 2, ?_⟩
  · obtain rfl := List.mem_singleton.1 he
    rfl
  · obtain rfl := List.mem_singleton.1 he
    rfl
  · refine Nat.le_trans (setWeight_le _) ?_
    cases ic with
    | false => exact (by decide : 2 * 1 + 2 ≤ 1000)
    | true =>
      have hlength : (CharSet.ofCharFolded c).ranges.length ≤ 498 :=
        Nat.le_trans (CharSet.length_ofCharFolded c) (by decide +kernel)
      show 2 * (CharSet.ofCharFolded c).ranges.length + 2 ≤ 1000
      omega

@[simp] theorem allPlain_textParts (cs : List Char) : AllPlain (textParts ic cs) := by
  intro p hp
  obtain ⟨c, -, rfl⟩ := List.mem_map.1 hp
  exact plain_literalPart c

@[simp] theorem plain_withoutPart (x : Char) (greedy : Bool) : Plain (withoutPart x greedy) := by
  refine ⟨fun e he => ?_, fun e he => ?_, Nat.le_refl 2, ?_⟩
  · obtain rfl := List.mem_singleton.1 he
    rfl
  · obtain rfl := List.mem_singleton.1 he
    rfl
  · have hlength : (CharSet.ofChar x).complement.ranges.length ≤ 2 := by
      show (([(0, CharSet.top)] : List (Nat × Nat)).flatMap
        (CharSet.piece x.toNat x.toNat)).length ≤ 2
      rw [List.flatMap_singleton, CharSet.piece]
      grind
    have hweight := setWeight_le (CharSet.ofChar x).complement
    show 1 * Part.setWeight (CharSet.ofChar x).complement + 2 ≤ 1000
    omega

@[simp] theorem plain_blanksPart : Plain blanksPart :=
  ⟨by decide, by decide, by decide, by decide⟩

@[simp] theorem plain_someBlanksPart : Plain someBlanksPart :=
  ⟨by decide, by decide, by decide, by decide⟩

@[simp] theorem plain_edgePart : Plain edgePart :=
  ⟨by decide, by decide, by decide, by decide⟩

theorem reads_blanks : Reads ic ['\\', 's', '*'] [blanksPart] :=
  reads_white.star (by decide)

theorem reads_someBlanks : Reads ic ['\\', 's', '+'] [someBlanksPart] :=
  reads_white.plus (by decide)

theorem reads_without (ic : Bool) {x : Char} (hx : x ∈ excluded) :
    Reads ic ['[', '^', x, ']', '*'] [withoutPart x true] := by
  refine (reads_excluded hx).star ?_
  revert x
  decide

theorem reads_without_lazy (ic : Bool) {x : Char} (hx : x ∈ excluded) :
    Reads ic ['[', '^', x, ']', '*', '?'] [withoutPart x false] := by
  refine (reads_excluded hx).lazyStar ?_
  revert x
  decide

end Reader
end Pattern
end LiteralPatch
