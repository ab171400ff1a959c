import LiteralPatch.Proofs.Rule.FlagFound

/-!
# A flag rule is a value rule over its own pattern

Flag rules and value rules find their changes separately.  A value rule leaves out what already reads as its
replacement and what its guard rejects; a flag rule leaves out nothing.  Still the two agree
(`FlagRule.find_eq_valueRule`), because the pattern of a flag captures the old literal only, up to case, and no
spelling of one literal is the other (`FlagScope.value_ne_of_mem`).
-/

namespace LiteralPatch

open Pattern Pattern.Expr Unicode

theorem Pattern.source_of_compile {source : String} {ic : Bool} {p : Pattern}
    (h : Pattern.compile source ic = .ok p) : p.source = source := by
  have hkey := PatternCache.eq_of_compile (k := ⟨source, ic⟩) h
  exact (congrArg PatternKey.source hkey).symm

namespace ValueRule

variable {r : ValueRule}

/-- Without fallbacks, the primary pattern is what counts. -/
theorem locate_of_fallbacks_eq_nil (h : r.fallbacks = []) (text : String) :
    r.locate text = (.primary, r.primary.findValues text) := by
  rw [locate, h, firstFallback]
  split
  · next hnil => rw [hnil]
  · rfl

/-- A value rule without fallbacks and without a guard replaces every value, if none of them is the
replacement. -/
theorem find_of_unguarded (hfallbacks : r.fallbacks = []) (hguard : r.guard = none) {text : String}
    (hne : ∀ v ∈ r.primary.findValues text, v.value ≠ r.replacement) :
    r.find text =
      (r.primary.findValues text).map fun v => ⟨v.value, r.replacement, v.span, .primary⟩ := by
  have hall : (r.primary.findValues text).filter (fun v => r.wants v.value) =
      r.primary.findValues text := by
    refine List.filter_eq_self.2 fun v hv => ?_
    simp [wants, hguard, hne v hv]
  rw [find, locate_of_fallbacks_eq_nil hfallbacks]
  dsimp only
  rw [hall]

end ValueRule

namespace FlagScope

variable {scope : FlagScope} {name marker key : String} {old new : Bool} {rule : Rule}

/-- **What the pattern of a flag captures is never the new literal.** -/
theorem value_ne_of_mem {p : ValuePattern} (hne : old ≠ new)
    (hframes : p.Frames (scope.factors marker.toList key.toList)
      (chain (text true (literalText old).toList)) [edge]) {text : String} :
    ∀ v ∈ p.findValues text, v.value ≠ literalText new := by
  intro v hv heq
  obtain ⟨a, b, c, -, -, hvalue, hframed⟩ := (hframes.findValues_placed text).exists_of_mem v hv
  have hsame := (framed_iff_occurs.1 hframed).literal_eq
  rw [show b = (literalText new).toList by rw [← heq, hvalue, String.toList_ofList]] at hsame
  exact not_sameText_literalText hne hsame

end FlagScope

namespace FlagRule

open FlagScope

variable {scope : FlagScope} {name marker key : String} {old new : Bool} {rule : Rule}

/-- **A flag rule is the value rule over the pattern that it describes itself by,** ignoring case, with its new
literal as the replacement, without fallbacks and without a guard: both find the same changes in every
text.  And every change that it finds is of the primary pattern and puts another text in place of the old
one. -/
theorem find_eq_valueRule
    (h : (RuleDefinition.flag name marker key old new scope).compile.Gives rule) :
    ∃ source value, rule.describe = [source] ∧
      (RuleDefinition.value name source [] (literalText new) none true).compile.Gives value ∧
      ∀ text, rule.find text = value.find text ∧
        ∀ ch ∈ rule.find text, ch.source = .primary ∧ ch.oldValue ≠ ch.newValue := by
  cases h.of_ensures (RuleDefinition.compile_ensures _) with
  | @flag _ _ _ _ _ _ p hne hp =>
    have hframes := frames_of_compile hp.compile_eq hp.group_eq
    have hsource := Pattern.source_of_compile hp.compile_eq
    refine ⟨scope.pattern marker key old, .value ⟨name, p, [], literalText new, none⟩, ?_, ?_, fun text => ?_⟩
    · rw [Rule.describe, hsource]
    · exact RuleDefinition.compile_value_gives (ValuePattern.compile_gives hp.compile_eq hp.group_eq) .nil
    · have hvalues : ∀ v ∈ p.findValues text, v.value ≠ literalText new := value_ne_of_mem hne hframes
      have hfind := ValueRule.find_of_unguarded (r := ⟨name, p, [], literalText new, none⟩) rfl rfl hvalues
      refine ⟨hfind.symm, fun ch hch => ?_⟩
      obtain ⟨v, hv, rfl⟩ := List.mem_map.1 hch
      exact ⟨rfl, hvalues v hv⟩

/-- A flag in the object of its marker, both spelled in another case than the rule has them. -/
def lateMarker : String := "\x7b\"id\":\"m\",\"K\" : False\x7d"

/-- A rule for what stands behind a marker. -/
def switchEntry : RuleDefinition := .flag "switch" "M" "k" false true .entry

/-- Such a flag is found, and the value rule finds it as well. -/
theorem find_eq_valueRule_lateMarker :
    ∃ rule, switchEntry.compile.Gives rule ∧ rule.find lateMarker ≠ [] ∧
      ∃ source value, rule.describe = [source] ∧
        (RuleDefinition.value "switch" source [] (literalText true) none true).compile.Gives value ∧
        ∀ text, rule.find text = value.find text ∧
          ∀ ch ∈ rule.find text, ch.source = .primary ∧ ch.oldValue ≠ ch.newValue := by
  obtain ⟨rule, hgives⟩ : ∃ rule, switchEntry.compile.Gives rule :=
    exists_gives (by decide) (by decide)
  refine ⟨rule, hgives, fun hnil => ?_, find_eq_valueRule hgives⟩
  refine (find_eq_nil_iff hgives lateMarker).1 hnil
    "\x7b\"id\":\"m\",\"K\" : ".toList "False".toList "\x7d".toList rfl ⟨?_, rfl, ?_⟩
  · exact ⟨"\x7b\"id\":".toList, "\"m\",\"K\" : ".toList, rfl, ['m'], [], [','], "\"K\" : ".toList, rfl,
      rfl, by simp, by decide, ['K'], [' '], [' '], rfl, rfl, by decide, by decide⟩
  · rintro _ ⟨⟩
    decide +kernel

end FlagRule
end LiteralPatch
