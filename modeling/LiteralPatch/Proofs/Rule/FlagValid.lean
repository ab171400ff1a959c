import LiteralPatch.Proofs.Rule.FlagFound

/-!
# Every marker and key make a flag rule

The pattern of a flag is a template with two texts in it, and these may hold anything: a bracket that would
open a class, a group of the same name, a brace behind the quote, a backslash at either end.  Escaped, such a
text is read as its characters wherever it stands (`Pattern.Reader.reads_escaped_text`), so nothing in it
can reach what stands around it.  What is read is the template, with its one group.

So there are two reasons only to refuse a flag rule: both literals are the same, or the pattern is too
large.  The second is about the length of the texts and not about what is in them
(`FlagScope.compile_pattern_ne_tooLarge`).
-/

namespace LiteralPatch

open Pattern Pattern.Reader

/-- **A pattern that is read as parts around the capture compiles, with its value group,** unless it is too
large. -/
theorem ValuePattern.compile_around {ic : Bool} {source : String} {pre value post : List Char}
    {ps vs qs : List Part} (hsource : source.toList = pre ++ opening ++ value ++ ')' :: post)
    (hps : Reads ic pre ps) (hvs : Reads ic value vs) (hqs : Reads ic post qs)
    (hplain : AllPlain (ps ++ vs ++ qs)) :
    Pattern.compile source ic = .error .tooLarge ∨
      ∃ p, Pattern.compile source ic = .ok p ∧ p.captureNamed valueGroup = some 1 := by
  rw [Pattern.compile, hsource, read_around hps hvs hqs hplain]
  split
  · exact .inl rfl
  · exact .inr ⟨_, rfl, rfl⟩

namespace FlagScope

variable (scope : FlagScope) (marker key : String) (literal : Bool)

/-- The pattern of a flag is read, and has its value group. -/
theorem compile_pattern :
    Pattern.compile (scope.pattern marker key literal) true = .error .tooLarge ∨
      ∃ p, Pattern.compile (scope.pattern marker key literal) true = .ok p ∧
        p.captureNamed valueGroup = some 1 :=
  ValuePattern.compile_around (toList_pattern scope marker key literal)
    (reads_lead scope marker.toList key.toList) (reads_literal literal) reads_edge
    (allPlain_parts scope marker.toList key.toList literal)

/-- The size speaks only against long markers and keys. -/
theorem compile_pattern_ne_tooLarge (hlength : marker.toList.length + key.toList.length ≤ 1900) :
    Pattern.compile (scope.pattern marker key literal) true ≠ .error .tooLarge := by
  obtain ⟨p, hgives, -⟩ := scope.exists_frames marker key literal hlength
  have hcompile := ((hgives "").of_ensures (ValuePattern.compile_ensures _ _ _)).compile_eq
  rw [hcompile]
  exact fun h => nomatch h

/-- A marker that is heavy enough makes the pattern too large. -/
theorem compile_pattern_tooLarge (hweight : sizeLimit < totalWeight (textParts true marker.toList)) :
    Pattern.compile (scope.pattern marker key literal) true = .error .tooLarge := by
  have hparts : totalWeight (textParts true marker.toList) ≤
      totalWeight (scope.parts marker.toList key.toList) := by
    cases scope <;> simp only [parts, totalWeight_append] <;> omega
  have hread := read_around (reads_lead scope marker.toList key.toList) (reads_literal literal) reads_edge
    (allPlain_parts scope marker.toList key.toList literal)
  rw [← toList_pattern, if_pos] at hread
  · rw [Pattern.compile, hread]
    rfl
  · rw [weight_around, totalWeight_append, totalWeight_append]
    omega

end FlagScope

namespace FlagRule

open Compiling

variable {name marker key : String} {old new : Bool} {scope : FlagScope}

/-- A literal that would be replaced by itself is refused before anything is read. -/
theorem compile_ends_noOpFlag (hsame : old = new) :
    (compile name marker key old new scope).Ends (.error (.noOpFlag name old)) := by
  intro c
  rw [compile, if_pos hsame]
  rfl

/-- **A flag rule is made exactly of two different literals,** whatever its marker and its key hold and
whatever is in the cache.  Its pattern is read and has a value group, so a pattern that is not too large is
never the reason to refuse the rule. -/
theorem compile_ok_iff (name marker key : String) (old new : Bool) (scope : FlagScope)
    (hsize : Pattern.compile (scope.pattern marker key old) true ≠ .error .tooLarge) :
    (∃ p, Pattern.compile (scope.pattern marker key old) true = .ok p ∧
      p.captureNamed valueGroup = some 1) ∧
    ∀ c : PatternCache,
      ((∃ rule, ((ExceptT.run (compile name marker key old new scope)).run c).1 = .ok rule) ↔
        old ≠ new) ∧
      ∀ e, ((ExceptT.run (compile name marker key old new scope)).run c).1 = .error e →
        e = .noOpFlag name old := by
  obtain ⟨p, hp, hgroup⟩ := (scope.compile_pattern marker key old).resolve_left hsize
  refine ⟨⟨p, hp, hgroup⟩, fun c => ?_⟩
  by_cases hsame : old = new
  · rw [compile_ends_noOpFlag hsame c]
    refine ⟨⟨?_, fun hne => absurd hsame hne⟩, fun e he => (Except.error.inj he).symm⟩
    rintro ⟨rule, hrule⟩
    cases hrule
  · rw [(compile_gives hsame (ValuePattern.compile_gives hp hgroup)).ends c]
    exact ⟨⟨fun _ => hsame, fun _ => ⟨_, rfl⟩⟩, fun e he => nomatch he⟩

/-- A marker that would be a group of its own, with a class left open and a backslash at either end. -/
def hostileMarker : String := "\\(?P<value>[^\x7d\"\\"

/-- A key that would close the group and repeat what stands before it. -/
def hostileKey : String := ")\x7b2,1\x7d\u0007é\\"

/-- Such texts make a rule in every scope. -/
theorem compile_ok_iff_hostile :
    Pattern.compile (FlagScope.keyedObject.pattern hostileMarker hostileKey false) true ≠
        .error .tooLarge ∧
      (∃ p, Pattern.compile (FlagScope.keyedObject.pattern hostileMarker hostileKey false) true = .ok p ∧
        p.captureNamed valueGroup = some 1) ∧
      ∀ c : PatternCache,
        ((∃ rule, ((ExceptT.run (compile "flag" hostileMarker hostileKey false true
            .keyedObject)).run c).1 = .ok rule) ↔ false ≠ true) ∧
        ∀ e, ((ExceptT.run (compile "flag" hostileMarker hostileKey false true
            .keyedObject)).run c).1 = .error e → e = .noOpFlag "flag" false := by
  have hsize := FlagScope.keyedObject.compile_pattern_ne_tooLarge hostileMarker hostileKey false (by decide)
  exact ⟨hsize, compile_ok_iff "flag" hostileMarker hostileKey false true .keyedObject hsize⟩

end FlagRule
end LiteralPatch
