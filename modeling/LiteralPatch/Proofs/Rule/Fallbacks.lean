import LiteralPatch.Table.Definition

/-!
# Which pattern a change comes from

A value rule has its patterns in order, the primary one first and then the fallbacks from the strictest to
the loosest.  Its changes all come from one of them, the first that has a value in the text
(`ValueRule.find_source`); whether a value is then left out, because it reads as the replacement or because
the guard rejects it, makes no difference.

A pattern whose group is optional may match without a value, and such a match counts for nothing.  A primary
pattern that matches but never with a value is passed over as one that does not match, and a fallback
decides.  Where each match has a value, the pattern is the first that matches
(`ValueRule.find_source_of_captures`).
-/

namespace LiteralPatch

open Pattern

namespace Pattern.Program

/-- All successive matches are none exactly if there is no first one. -/
theorem findAll_eq_nil_iff {p : Program} {text : List Char} :
    p.findAll text = [] ↔ p.isMatch text = false := by
  have hrest : (Cursor.start text).rest = text := rfl
  rw [findAll, findAllFrom, hrest, isMatch]
  cases p.findFrom text (Cursor.start text) with
  | none => simp
  | some found => simp

end Pattern.Program

namespace ValuePattern

variable {p : ValuePattern} {text : String}

/-- Every match of the pattern in the text has a value. -/
def Captures (p : ValuePattern) (text : String) : Prop :=
  ∀ marks ∈ p.pattern.program.findAll text.toList, p.captureOf text.toList marks ≠ none

/-- Where every match has a value, a match is all that is needed for one. -/
theorem Captures.findValues_ne_nil_iff (h : p.Captures text) :
    p.findValues text ≠ [] ↔ p.pattern.isMatch text = true := by
  rw [← Bool.not_eq_false, Pattern.isMatch, ← Program.findAll_eq_nil_iff, findValues, ne_eq,
    List.filterMap_eq_nil_iff]
  refine not_congr ⟨fun hnone => ?_, fun hnil => by simp [hnil]⟩
  exact List.eq_nil_iff_forall_not_mem.2 fun marks hmarks => h marks hmarks (hnone marks hmarks)

end ValuePattern

/-- The pattern at this place among all patterns of a rule. -/
def MatchSource.ofPlace : Nat → MatchSource
  | 0 => .primary
  | n + 1 => .fallback (n + 1)

namespace ValueRule

variable {r : ValueRule} {text : String} {has has' : ValuePattern → Prop}

/-- The patterns of the rule, in the order in which they are tried. -/
def patterns (r : ValueRule) : List ValuePattern := r.primary :: r.fallbacks

/-- The source is the first pattern of the rule that has the property. -/
def FirstWith (r : ValueRule) (has : ValuePattern → Prop) (source : MatchSource) : Prop :=
  ∃ i p, source = .ofPlace i ∧ r.patterns[i]? = some p ∧ has p ∧
    ∀ j < i, ∀ q ∈ r.patterns[j]?, ¬ has q

/-- There is one first pattern only. -/
theorem FirstWith.unique {source source' : MatchSource} (h : r.FirstWith has source)
    (h' : r.FirstWith has source') : source = source' := by
  obtain ⟨i, p, rfl, hp, hhas, hbefore⟩ := h
  obtain ⟨i', p', rfl, hp', hhas', hbefore'⟩ := h'
  rcases Nat.lt_trichotomy i i' with hlt | rfl | hlt
  · exact absurd hhas (hbefore' i hlt p hp)
  · rfl
  · exact absurd hhas' (hbefore i' hlt p' hp')

theorem FirstWith.congr {source : MatchSource} (h : r.FirstWith has source)
    (hsame : ∀ p ∈ r.patterns, (has p ↔ has' p)) : r.FirstWith has' source := by
  obtain ⟨i, p, hsource, hp, hhas, hbefore⟩ := h
  refine ⟨i, p, hsource, hp, (hsame p (List.mem_of_getElem? hp)).1 hhas, fun j hj q hq => ?_⟩
  exact fun hhas' => hbefore j hj q hq ((hsame q (List.mem_of_getElem? hq)).2 hhas')

/-- The values of the first fallback that has any, if there is one. -/
theorem firstFallback_cases (text : String) (place : Nat) (ps : List ValuePattern) :
    (firstFallback text place ps).2 = [] ∨ ∃ i p, ps[i]? = some p ∧ p.findValues text ≠ [] ∧
      (∀ j < i, ∀ q ∈ ps[j]?, q.findValues text = []) ∧
      firstFallback text place ps = (.fallback (place + i), p.findValues text) := by
  induction ps generalizing place with
  | nil => exact .inl rfl
  | cons p ps ih =>
    rw [firstFallback]
    split
    · next hnone =>
      refine (ih (place + 1)).imp id ?_
      rintro ⟨i, q, hq, hne, hbefore, hfirst⟩
      refine ⟨i + 1, q, hq, hne, fun j hj => ?_, by rw [hfirst, Nat.add_right_comm, Nat.add_assoc]⟩
      cases j with
      | zero =>
        rintro _ ⟨⟩
        exact hnone
      | succ j => exact hbefore j (Nat.lt_of_succ_lt_succ hj)
    · next hsome =>
      exact .inr ⟨0, p, rfl, fun h => hsome h, fun j hj => absurd hj (Nat.not_lt_zero j), rfl⟩

/-- **A rule is about the values of its first pattern that has any,** or about none. -/
theorem locate_cases (r : ValueRule) (text : String) :
    (r.locate text).2 = [] ∨ ∃ i p, r.patterns[i]? = some p ∧ p.findValues text ≠ [] ∧
      (∀ j < i, ∀ q ∈ r.patterns[j]?, q.findValues text = []) ∧
      r.locate text = (.ofPlace i, p.findValues text) := by
  rw [locate]
  split
  · next hnone =>
    refine (firstFallback_cases text 1 r.fallbacks).imp id ?_
    rintro ⟨i, p, hp, hne, hbefore, hfirst⟩
    refine ⟨i + 1, p, hp, hne, fun j hj => ?_, by rw [hfirst, Nat.add_comm]; rfl⟩
    cases j with
    | zero =>
      rintro _ ⟨⟩
      exact hnone
    | succ j => exact hbefore j (Nat.lt_of_succ_lt_succ hj)
  · next hsome =>
    exact .inr ⟨0, r.primary, rfl, fun h => hsome h, fun j hj => absurd hj (Nat.not_lt_zero j), rfl⟩

/-- **Every change comes from the first pattern that has a value in the text,** whatever becomes of the
value.  So all changes come from one pattern, and from the primary one if it has a value at all. -/
theorem find_source (r : ValueRule) (text : String) :
    ∀ ch ∈ r.find text, r.FirstWith (fun p => p.findValues text ≠ []) ch.source := by
  intro ch hch
  rw [find] at hch
  obtain hnil | ⟨i, p, hp, hne, hbefore, hlocate⟩ := r.locate_cases text
  · simp [hnil] at hch
  · rw [hlocate] at hch
    obtain ⟨v, -, rfl⟩ := List.mem_map.1 hch
    exact ⟨i, p, rfl, hp, hne, fun j hj q hq hsome => hsome (hbefore j hj q hq)⟩

/-- **Where each match has a value, every change comes from the first pattern that matches.** -/
theorem find_source_of_captures (hcaptures : ∀ p ∈ r.patterns, p.Captures text) :
    ∀ ch ∈ r.find text, r.FirstWith (fun p => p.pattern.isMatch text = true) ch.source :=
  fun ch hch => (r.find_source text ch hch).congr fun p hp => (hcaptures p hp).findValues_ne_nil_iff

/-- The primary pattern of such a rule may match without a value; then the fallback decides. -/
example :
    ((ValueRule.compile "limit" "limit(?::(?P<value>[0-9]))?" ["max:(?P<value>[0-9])"] "9" none
        false).run.run PatternCache.empty).1.toOption.map (fun r =>
      (r.primary.pattern.isMatch "limit max:5", (r.find "limit max:5").map Change.source)) =
      some (true, [.fallback 1]) := by
  decide +kernel

end ValueRule
end LiteralPatch
