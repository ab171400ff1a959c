import LiteralPatch.Proofs.Rule.Filled
import LiteralPatch.Proofs.Rule.Tied
import LiteralPatch.Proofs.Table.Valid

/-!
# Applying a rule that has been compiled

The patterns of a compiled rule come from expressions, and so its changes stand one behind the other, in any
text (`RuleDefinition.Describes.exists_walk`).  Applying it fails exactly if two of them are tied, and never
if its value groups cannot match the empty text (`Rule.NeverEmpty.exists_apply`).
-/

namespace LiteralPatch

open Pattern

theorem ValuePattern.Of.exists_expr {source : String} {ic : Bool} {p : ValuePattern}
    (h : ValuePattern.Of source ic p) : ∃ e, p.pattern.program = Program.ofExpr e := by
  have hcompile := h.compile_eq
  rw [Pattern.compile] at hcompile
  cases hread : Pattern.read (initialFlags ic) source.toList with
  | error fault =>
    rw [hread] at hcompile
    cases hcompile
  | ok read =>
    rw [hread] at hcompile
    exact ⟨read.expr, by rw [← Except.ok.inj hcompile]⟩

namespace Rule

variable {rule : Rule} {text : String}

/-- The patterns of the rule, the primary one first. -/
def patterns : Rule → List ValuePattern
  | value r => r.primary :: r.fallbacks
  | flag r => [r.pattern]

/-- The changes of a rule are the captures of one of its patterns, or some of them, each replaced by the
same text. -/
theorem exists_find (rule : Rule) (text : String) : ∃ p ∈ rule.patterns, ∃ (test : String → Bool)
    (new : String) (source : MatchSource), rule.find text = [] ∨ rule.find text =
      ((p.findValues text).filter fun v => test v.value).map fun v => ⟨v.value, new, v.span, source⟩ := by
  cases rule with
  | value r =>
    obtain ⟨p, hp, source, hlocate | hlocate⟩ := r.exists_locate text
    · refine ⟨p, hp, r.wants, r.replacement, source, .inr ?_⟩
      rw [find, ValueRule.find, hlocate]
    · refine ⟨p, hp, r.wants, r.replacement, source, .inl ?_⟩
      rw [find, ValueRule.find, hlocate]
      rfl
  | flag r =>
    refine ⟨r.pattern, List.mem_singleton.2 rfl, fun _ => true, FlagScope.literalText r.target, .primary,
      .inr ?_⟩
    rw [List.filter_true]
    rfl

/-- **The changes of a rule stand one behind the other,** if its patterns come from expressions. -/
theorem exists_walk (h : ∀ p ∈ rule.patterns, ∃ e, p.pattern.program = Program.ofExpr e)
    (text : String) : ∃ out, Walk [] text.toList (rule.find text) out := by
  obtain ⟨p, hp, test, new, source, hfind | hfind⟩ := rule.exists_find text
  · rw [hfind]
    exact ⟨_, .none⟩
  · obtain ⟨e, he⟩ := h p hp
    rw [hfind]
    exact ((ValuePattern.findValues_placed he text).filter test).exists_walk new source

/-- **A rule whose changes stand one behind the other fails exactly at a tie,** and then for an overlap. -/
theorem apply_of_walk {out : List Char} (h : Walk [] text.toList (rule.find text) out) :
    (Tied (rule.find text) → ∃ s t, rule.apply text = .error ⟨rule.name, .overlap s t⟩) ∧
      (¬ Tied (rule.find text) → ∃ result, rule.apply text = .ok result) := by
  obtain ⟨hrefused, hmade⟩ := h.applyAll_error_iff
  rw [apply]
  split
  · next hnil =>
    rw [hnil]
    refine ⟨?_, fun _ => ⟨none, rfl⟩⟩
    rintro ⟨front, a, b, back, hsplit, -⟩
    exact absurd hsplit (by simp)
  · constructor
    · intro htied
      obtain ⟨s, t, herror⟩ := hrefused htied
      exact ⟨s, t, by rw [herror]⟩
    · intro hfree
      obtain ⟨made, hok⟩ := hmade hfree
      exact ⟨_, by rw [hok]⟩

/-- No value group of the rule can match the empty text. -/
def NeverEmpty (rule : Rule) : Prop := ∀ p ∈ rule.patterns, p.NeverEmpty

/-- No change of such a rule is of an empty text. -/
theorem NeverEmpty.start_lt_stop (h : rule.NeverEmpty) (text : String) :
    ∀ ch ∈ rule.find text, ch.span.start < ch.span.stop := by
  obtain ⟨p, hp, test, new, source, hfind | hfind⟩ := rule.exists_find text
  · rw [hfind]
    exact fun ch hch => nomatch hch
  · rw [hfind]
    intro ch hch
    obtain ⟨v, hv, rfl⟩ := List.mem_map.1 hch
    exact (h p hp).start_lt_stop text v (List.mem_of_mem_filter hv)

/-- **Such a rule never fails.** -/
theorem NeverEmpty.exists_apply (h : rule.NeverEmpty) (text : String) :
    ∃ result, rule.apply text = .ok result := by
  obtain ⟨out, hwalk⟩ := exists_walk (fun p hp => (h p hp).imp fun _ he => he.1) text
  exact (apply_of_walk hwalk).2 (hwalk.not_tied (h.start_lt_stop text))

end Rule

/-- **The changes of a rule that is described by a declaration stand one behind the other.** -/
theorem RuleDefinition.Describes.exists_walk {d : RuleDefinition} {rule : Rule} (h : d.Describes rule)
    (text : String) : ∃ out, Walk [] text.toList (rule.find text) out := by
  refine Rule.exists_walk ?_ text
  cases h with
  | value hp hps =>
    exact List.forall_mem_cons.2 ⟨hp.exists_expr, forall_of_forall₂ hps fun _ _ _ h => h.exists_expr⟩
  | flag _ hp => exact List.forall_mem_singleton.2 hp.exists_expr

end LiteralPatch
