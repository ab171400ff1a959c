import LiteralPatch.Proofs.Profile.WholeWords
import LiteralPatch.Proofs.Rule.FlagFound

/-!
# Rules that never fail

What a rule finds are places of the text with what stands there, so its edits are never out of bounds and
never about another text, even where an old value is so long that only its digest is compared.  A rule fails
at a tie alone (`Rule.RefusedAtTies`), and if its value groups cannot match the empty text it has none.

Every flag rule is of this kind, whatever its marker and key are, and so is every rule of the built-in
profiles.
-/

namespace LiteralPatch

open Pattern

namespace Rule

/-- The rule fails for an overlap or not at all, and exactly where two consecutive changes are tied. -/
structure RefusedAtTies (rule : Rule) : Prop where
  only_overlap : ∀ text error, rule.apply text = .error error →
    ∃ s t, error = ⟨rule.name, .overlap s t⟩
  overlap_iff : ∀ text,
    (∃ s t, rule.apply text = .error ⟨rule.name, .overlap s t⟩) ↔ Tied (rule.find text)

/-- The rule can be applied to any text. -/
def NeverFails (rule : Rule) : Prop := ∀ text, ∃ result, rule.apply text = .ok result

theorem refusedAtTies_of_walk {rule : Rule}
    (h : ∀ text : String, ∃ out, Walk [] text.toList (rule.find text) out) : rule.RefusedAtTies := by
  have hcases : ∀ text,
      (Tied (rule.find text) ∧ ∃ s t, rule.apply text = .error ⟨rule.name, .overlap s t⟩) ∨
        ¬ Tied (rule.find text) ∧ ∃ result, rule.apply text = .ok result := by
    intro text
    obtain ⟨out, hwalk⟩ := h text
    obtain ⟨hrefused, happlied⟩ := apply_of_walk hwalk
    by_cases htied : Tied (rule.find text)
    · exact .inl ⟨htied, hrefused htied⟩
    · exact .inr ⟨htied, happlied htied⟩
  constructor
  · intro text error herror
    rcases hcases text with ⟨-, s, t, hoverlap⟩ | ⟨-, result, hok⟩
    · exact ⟨s, t, Except.error.inj (herror.symm.trans hoverlap)⟩
    · rw [hok] at herror
      cases herror
  · intro text
    rcases hcases text with ⟨htied, hoverlap⟩ | ⟨hfree, result, hok⟩
    · exact iff_of_true hoverlap htied
    · refine iff_of_false ?_ hfree
      rintro ⟨s, t, hoverlap⟩
      rw [hok] at hoverlap
      cases hoverlap

end Rule

namespace Profile

/-- The declaration compiles to a rule whose values are never empty. -/
def CompilesToFilled (d : RuleDefinition) : Prop :=
  ∃ rule, d.compile.Gives rule ∧ rule.NeverEmpty

theorem filled_of_known {d : RuleDefinition} (h : Known d) : CompilesToFilled d := by
  rcases h with rfl | rfl | hswitches | ⟨name, g, hg, rfl⟩
  · obtain ⟨p, hp, hframes⟩ := exists_frames_limit
    obtain ⟨q, hq, hframes'⟩ := exists_frames_return
    refine ⟨_, RuleDefinition.compile_value_gives (hp _) (.cons (hq _) .nil), ?_⟩
    refine List.forall_mem_cons.2 ⟨hframes.neverEmpty rfl, List.forall_mem_singleton.2 ?_⟩
    exact hframes'.neverEmpty rfl
  · obtain ⟨p, hp, hframes⟩ := exists_frames_level
    refine ⟨_, RuleDefinition.compile_value_gives (hp _) .nil, ?_⟩
    exact List.forall_mem_singleton.2 (hframes.neverEmpty rfl)
  · obtain ⟨rule, hgives, -⟩ := compiles_of_switches hswitches
    cases d with
    | value => exact hswitches.elim
    | flag => exact ⟨rule, hgives, FlagScope.neverEmpty_of_gives hgives⟩
  · have hplain : ∀ g ∈ gates, (∀ x ∈ g.1.toList, x ∉ metaCharacters) ∧
        (∀ x ∈ g.2.toList, x ∉ metaCharacters) ∧
        g.1.toList.length + g.2.toList.length ≤ 1900 ∧
        (Expr.chain (Expr.text true g.2.toList)).nullable = false := by decide
    obtain ⟨hword, hliteral, hlength, hnullable⟩ := hplain g hg
    obtain ⟨p, hp, hframes⟩ := exists_frames_gate hword hliteral hlength
    refine ⟨_, RuleDefinition.compile_value_gives (hp _) .nil, ?_⟩
    exact List.forall_mem_singleton.2 (hframes.neverEmpty hnullable)

/-- **Both profiles compile, to rules whose values are never empty.** -/
theorem compile_filled {p : Profile} (hp : p ∈ all) : ∃ sets : List RuleSet,
    p.table.compile.Gives sets ∧ ∀ s ∈ sets, ∀ rule ∈ s.rules, rule.NeverEmpty := by
  obtain ⟨sets, hgives, hsets⟩ := RuleTable.exists_compile_gives fun s hs d hd =>
    filled_of_known (known_profile hp s hs d hd)
  exact ⟨sets, hgives, forall_of_forall₂ hsets fun _ _ _ hset =>
    forall_of_forall₂ hset.2 fun _ _ _ h => h⟩

end Profile

/-- **A compiled rule fails exactly at a tie, and then for an overlap.**  So it never fails if its value
groups cannot match the empty text; the rules for flags are like this, whatever the marker and the key are,
and the rules of the built-in profiles. -/
theorem compiled_rules_apply {d : RuleDefinition} {rule : Rule} (hd : d.compile.Gives rule) :
    rule.RefusedAtTies ∧ (rule.NeverEmpty → rule.NeverFails) ∧
      (∀ name marker key old new scope, d = .flag name marker key old new scope →
        rule.NeverEmpty ∧ rule.NeverFails) ∧
      ∀ p ∈ Profile.all, ∃ sets, p.table.compile.Gives sets ∧
        ∀ s ∈ sets, ∀ r ∈ s.rules, r.NeverEmpty ∧ r.NeverFails := by
  have hdescribes : d.Describes rule := hd.of_ensures d.compile_ensures
  have hfilled : ∀ {r : Rule}, r.NeverEmpty → r.NeverEmpty ∧ r.NeverFails := fun h => ⟨h, h.exists_apply⟩
  refine ⟨Rule.refusedAtTies_of_walk hdescribes.exists_walk, Rule.NeverEmpty.exists_apply, ?_, ?_⟩
  · rintro name marker key old new scope rfl
    exact hfilled (FlagScope.neverEmpty_of_gives hd)
  · intro p hp
    obtain ⟨sets, hgives, hsets⟩ := Profile.compile_filled hp
    exact ⟨sets, hgives, fun s hs r hr => hfilled (hsets s hs r hr)⟩

/-- A rule with a value that may be empty, and that is kept from one round to the next. -/
def twoRounds : RuleDefinition :=
  .value "two rounds" "(?:[-b]|(?P<value>a?))\x7b2\x7d\\b" [] "c" none false

/-- It is refused in this text: the first match is the dash, behind which the value of the second round is
empty, and the second match has its value there in the first round. -/
theorem compiled_rules_apply_twoRounds :
    ∃ rule, twoRounds.compile.Gives rule ∧ Tied (rule.find "-ab") ∧
      rule.RefusedAtTies ∧ (rule.NeverEmpty → rule.NeverFails) ∧
      (∀ name marker key old new scope, twoRounds = .flag name marker key old new scope →
        rule.NeverEmpty ∧ rule.NeverFails) ∧
      ∀ p ∈ Profile.all, ∃ sets, p.table.compile.Gives sets ∧
        ∀ s ∈ sets, ∀ r ∈ s.rules, r.NeverEmpty ∧ r.NeverFails := by
  have hrun : ((ExceptT.run twoRounds.compile).run PatternCache.empty).1.map
      (fun rule => rule.find "-ab") =
        .ok [⟨"", "c", ⟨1, 1⟩, .primary⟩, ⟨"a", "c", ⟨1, 2⟩, .primary⟩] := by
    decide +kernel
  obtain ⟨rule, hgives, hfind⟩ := twoRounds.compile_cacheFree.exists_gives hrun
  exact ⟨rule, hgives, ⟨[], _, _, [], hfind, rfl, rfl⟩, compiled_rules_apply hgives⟩

end LiteralPatch
