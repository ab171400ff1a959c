import LiteralPatch.Proofs.Table.Defects

/-!
# Well-formed tables

A table is well-formed if it has sets with names and rules, and rules with different names that can be used by
themselves (`RuleTable.WellFormed`).  This is what validation accepts, except for one thing that nobody writes
into a table: the pattern that is made of a flag has a size, and with a marker or a key that is long enough it
is too large (`RuleTable.validation_refuses_large`).  So well-formed tables whose flags fit are those without
issues, and any other table has one issue for each condition that it violates
(`RuleTable.issues_report_defects`).

A name that is used several times is reported for each use but the first.
-/

namespace LiteralPatch

namespace RuleDefinition

/-- The fields of the rule are filled, its sources are value patterns, its literals are different. -/
def WellFormed : RuleDefinition → Prop
  | value _ primary fallbacks replacement _ ic =>
    Text.trimmed primary ≠ "" ∧ replacement ≠ "" ∧
      ∀ source ∈ primary :: fallbacks, ValuePattern.IsSource source ic
  | flag _ marker key old new _ => Text.trimmed marker ≠ "" ∧ Text.trimmed key ≠ "" ∧ old ≠ new

/-- The pattern that is made of a flag is not too large. -/
def FlagFits : RuleDefinition → Prop
  | value .. => True
  | flag _ marker key old _ scope =>
    Pattern.compile (scope.pattern marker key old) true ≠ .error .tooLarge

theorem wellFormed_iff {d : RuleDefinition} :
    d.WellFormed ∧ d.FlagFits ↔ (∀ field, ¬ d.Lacks field) ∧ d.Compilable := by
  cases d with
  | value name primary fallbacks replacement guard ic =>
    constructor
    · rintro ⟨⟨hprimary, hreplacement, hsources⟩, -⟩
      refine ⟨?_, hsources⟩
      rintro field (hblank | _)
      · exact hprimary hblank
      · exact hreplacement rfl
    · rintro ⟨hfields, hsources⟩
      refine ⟨⟨fun hblank => hfields _ (.primary hblank), ?_, hsources⟩, trivial⟩
      rintro rfl
      exact hfields _ .replacement
  | flag name marker key old new scope =>
    constructor
    · rintro ⟨⟨hmarker, hkey, hne⟩, hfits⟩
      refine ⟨?_, hne, hfits⟩
      rintro field (_ | _ | hblank | hblank)
      · exact hmarker hblank
      · exact hkey hblank
    · rintro ⟨hfields, hne, hfits⟩
      exact ⟨⟨fun hblank => hfields _ (.marker hblank), fun hblank => hfields _ (.key hblank), hne⟩, hfits⟩

end RuleDefinition

/-- No two members have the same image if no member has that of one in front of it. -/
theorem nodup_map_iff_take {α β : Type} {f : α → β} {as : List α} :
    (as.map f).Nodup ↔ ∀ n a, as[n]? = some a → ∀ b ∈ as.take n, f b ≠ f a := by
  rw [List.Nodup, List.pairwise_map, List.pairwise_iff_getElem]
  constructor
  · intro h n a ha b hb
    obtain ⟨hn, rfl⟩ := List.getElem?_eq_some_iff.1 ha
    obtain ⟨m, hm, rfl⟩ := List.mem_take_iff_getElem.1 hb
    exact h m n _ hn (by omega)
  · intro h m n hm hn hlt
    exact h n _ (List.getElem?_eq_getElem hn) _ (List.mem_take_iff_getElem.2 ⟨m, by omega, rfl⟩)

namespace RuleTable

/-- The table can be used as it is declared. -/
structure WellFormed (t : RuleTable) : Prop where
  someSet : t.sets ≠ []
  setNamed : ∀ s ∈ t.sets, Text.trimmed s.name ≠ ""
  setFilled : ∀ s ∈ t.sets, s.rules ≠ []
  named : ∀ d ∈ t.rules, Text.trimmed d.name ≠ ""
  distinct : (t.rules.map RuleDefinition.name).Nodup
  wellFormed : ∀ d ∈ t.rules, d.WellFormed

variable {t : RuleTable}

/-- A well-formed table whose flags fit violates no condition. -/
theorem WellFormed.not_defect (h : t.WellFormed) (hfits : ∀ d ∈ t.rules, d.FlagFits) {condition : Condition}
    {issue : Issue} : ¬ t.Defect condition issue := by
  intro hdefect
  have hrule : ∀ d ∈ t.rules, (∀ field, ¬ d.Lacks field) ∧ d.Compilable := fun d hd =>
    RuleDefinition.wellFormed_iff.1 ⟨h.wellFormed d hd, hfits d hd⟩
  cases hdefect with
  | someSet hempty => exact h.someSet hempty
  | ofSet hs hdefect =>
    have hmem := List.mem_of_getElem? hs
    cases hdefect with
    | named hblank => exact h.setNamed _ hmem hblank
    | filled hempty => exact h.setFilled _ hmem hempty
  | @ofRule n d _ _ hd hdefect =>
    have hmem := List.mem_of_getElem? hd
    cases hdefect with
    | named hblank => exact h.named d hmem hblank
    | unused hnamed hbefore =>
      obtain ⟨b, hb, hname⟩ := hbefore
      exact nodup_map_iff_take.1 h.distinct n d hd b hb hname
    | filled hnamed hlacks => exact (hrule d hmem).1 _ hlacks
    | compiles hnamed hfails =>
      have hnone := RuleDefinition.failure?_eq_none_iff.2 (hrule d hmem).2
      rw [RuleDefinition.failure?_eq_some_iff.2 hfails] at hnone
      cases hnone

/-- **A table without defects is well-formed, and its flags fit,** and so is no other. -/
theorem wellFormed_iff_no_defect :
    (t.WellFormed ∧ ∀ d ∈ t.rules, d.FlagFits) ↔ ∀ condition issue, ¬ t.Defect condition issue := by
  refine ⟨fun ⟨h, hfits⟩ _ _ => h.not_defect hfits, fun h => ?_⟩
  have hset : ∀ s ∈ t.sets, ∀ condition issue, ¬ SetDefect s condition issue := by
    intro s hs condition issue hdefect
    obtain ⟨i, hi⟩ := List.mem_iff_getElem?.1 hs
    exact h _ _ (.ofSet hi hdefect)
  have hrule : ∀ n d, t.rules[n]? = some d → ∀ condition issue,
      ¬ RuleDefect (t.rules.take n) d condition issue :=
    fun n d hd condition issue hdefect => h _ _ (.ofRule hd hdefect)
  have hnamed : ∀ d ∈ t.rules, Text.trimmed d.name ≠ "" := by
    intro d hd hblank
    obtain ⟨n, hn⟩ := List.mem_iff_getElem?.1 hd
    exact hrule n d hn _ _ (.named hblank)
  have hdistinct : (t.rules.map RuleDefinition.name).Nodup := by
    refine nodup_map_iff_take.2 fun n d hd b hb hname => ?_
    exact hrule n d hd _ _ (.unused (hnamed d (List.mem_of_getElem? hd)) ⟨b, hb, hname⟩)
  have husable : ∀ d ∈ t.rules, d.WellFormed ∧ d.FlagFits := by
    intro d hd
    obtain ⟨n, hn⟩ := List.mem_iff_getElem?.1 hd
    refine RuleDefinition.wellFormed_iff.2 ⟨fun field hlacks => ?_, ?_⟩
    · exact hrule n d hn _ _ (.filled (hnamed d hd) hlacks)
    · rw [← RuleDefinition.failure?_eq_none_iff, Option.eq_none_iff_forall_ne_some]
      intro cause hcause
      exact hrule n d hn _ _ (.compiles (hnamed d hd) (RuleDefinition.failure?_eq_some_iff.1 hcause))
  exact ⟨⟨fun hempty => h _ _ (.someSet hempty), fun s hs hblank => hset s hs _ _ (.named hblank),
    fun s hs hempty => hset s hs _ _ (.filled hempty), hnamed, hdistinct, fun d hd => (husable d hd).1⟩,
    fun d hd => (husable d hd).2⟩

theorem issues_eq_nil_iff (t : RuleTable) (c : PatternCache) :
    (t.issues.run c).1 = [] ↔ t.WellFormed ∧ ∀ d ∈ t.rules, d.FlagFits := by
  rw [wellFormed_iff_no_defect, issues_eq_defects, List.map_eq_nil_iff, List.eq_nil_iff_forall_not_mem]
  simp only [Prod.forall, mem_defects]

/-! ## Names that are used several times -/

variable {name : String}

/-- A rule is reported for its name if a rule in front of it has it. -/
theorem count_ruleDefects (hname : Text.isBlank name = false) (rules : List RuleDefinition)
    (d : RuleDefinition) (n : Nat) :
    ((ruleDefects rules (d, n)).map Prod.snd).count (.duplicateRule name) =
      if d.name = name ∧ name ∈ (rules.take n).map RuleDefinition.name then 1 else 0 := by
  unfold ruleDefects
  by_cases hblank : Text.isBlank d.name = true
  · have hne : d.name ≠ name := by
      rintro rfl
      exact Bool.false_ne_true (hname.symm.trans hblank)
    simp [hblank, hne]
  · have hrepeated : ((if d.name ∈ (rules.take n).map RuleDefinition.name then
        [(RuleCondition.unused, Issue.duplicateRule d.name)] else []).map Prod.snd).count
          (.duplicateRule name) =
        if d.name = name ∧ name ∈ (rules.take n).map RuleDefinition.name then 1 else 0 := by
      by_cases hsame : d.name = name
      · subst hsame
        simp only [true_and]
        split <;> simp
      · have hother : Issue.duplicateRule d.name ≠ .duplicateRule name := fun h =>
          hsame (Issue.duplicateRule.inj h)
        split <;> simp [hsame, hother]
    have hmissing : ((d.missingFields.map fun field => (RuleCondition.filled field,
        Issue.missingField (some d.name) field)).map Prod.snd).count (.duplicateRule name) = 0 := by
      simp [List.count_eq_zero]
    have hinvalid : ((d.failure?.map fun cause => (RuleCondition.compiles,
        Issue.invalidRule d.name cause)).toList.map Prod.snd).count (.duplicateRule name) = 0 := by
      cases d.failure? <;> simp
    rw [if_neg hblank, List.map_append, List.map_append, List.count_append, List.count_append]
    dsimp only
    rw [hrepeated, hmissing, hinvalid, Nat.add_zero]

/-- Each use of a name is reported, except for the first in the table. -/
theorem count_tagged_ruleDefects (hname : Text.isBlank name = false) {rules before ds : List RuleDefinition}
    (hrules : rules = before ++ ds) :
    ((tagged Condition.ofRule (ruleDefects rules) before.length ds).map Prod.snd).count
        (.duplicateRule name) + ((before.map RuleDefinition.name).count name - 1) =
      (rules.map RuleDefinition.name).count name - 1 := by
  induction ds generalizing before with
  | nil => rw [hrules, List.append_nil, tagged_nil, List.map_nil, List.count_nil, Nat.zero_add]
  | cons d ds ih =>
    have htake : rules.take before.length = before := by rw [hrules, List.take_left]
    have hbehind : rules = (before ++ [d]) ++ ds := by simp [hrules]
    have hlater := ih hbehind
    have hmap : ((ruleDefects rules (d, before.length)).map fun e =>
        (Condition.ofRule before.length e.1, e.2)).map Prod.snd =
          (ruleDefects rules (d, before.length)).map Prod.snd := by
      rw [List.map_map]
      rfl
    rw [List.length_append, List.length_singleton, List.map_append, List.count_append, List.map_singleton,
      List.count_singleton] at hlater
    rw [tagged_cons, List.map_append, List.count_append, hmap, count_ruleDefects hname, htake]
    by_cases hsame : d.name = name
    · rw [if_pos (beq_iff_eq.2 hsame)] at hlater
      simp only [hsame, true_and, ← List.count_pos_iff]
      split <;> omega
    · rw [if_neg (by simpa using hsame)] at hlater
      rw [if_neg fun h => hsame h.1]
      omega

/-- **A name that is not blank is reported for each use but the first.** -/
theorem count_duplicateRule (t : RuleTable) (c : PatternCache) (name : String) :
    (t.issues.run c).1.count (.duplicateRule name) =
      if Text.trimmed name = "" then 0 else (t.rules.map RuleDefinition.name).count name - 1 := by
  rw [issues_eq_defects]
  split
  · next hblank =>
    rw [List.count_eq_zero]
    intro hmem
    obtain ⟨⟨condition, issue⟩, hdefect, hissue⟩ := List.mem_map.1 hmem
    obtain rfl : issue = .duplicateRule name := hissue
    -- whoever repeats a name has one
    cases mem_defects.1 hdefect with
    | ofSet _ hdefect => cases hdefect
    | ofRule _ hdefect =>
      cases hdefect with
      | unused hnamed _ => exact hnamed hblank
  · next hnamed =>
    have hname : Text.isBlank name = false := by rwa [← Text.isBlank_iff, Bool.not_eq_true] at hnamed
    have hrules := count_tagged_ruleDefects hname (List.nil_append t.rules).symm
    have hsets : ((tagged Condition.ofSet setDefects 0 t.sets).map Prod.snd).count (.duplicateRule name) = 0 := by
      rw [List.count_eq_zero]
      intro hmem
      obtain ⟨⟨condition, issue⟩, hdefect, hissue⟩ := List.mem_map.1 hmem
      obtain rfl : issue = .duplicateRule name := hissue
      obtain ⟨i, s, k, -, hdefect, -⟩ := mem_tagged.1 hdefect
      cases mem_setDefects.1 hdefect
    have hempty : ((if t.sets.isEmpty then [(Condition.someSet, Issue.noRuleSets)] else []).map Prod.snd).count
        (.duplicateRule name) = 0 := by
      split <;> simp
    rw [(t.defects_perm.map Prod.snd).count_eq, List.map_append, List.map_append, List.count_append,
      List.count_append, hempty, hsets, ← hrules]
    simp

/-! ## What validation accepts and what it reports -/

/-- **Validation accepts the well-formed tables whose flags fit, and of all others it reports each defect once.**
A table has no issues exactly if it is well-formed and no pattern that is made of a flag is too large.  The
issues are those of the conditions that are violated, one for each.  A name that is used several times is
reported for each use but the first, unless it is blank. -/
theorem issues_report_defects (t : RuleTable) (c : PatternCache) :
    ((t.issues.run c).1 = [] ↔ t.WellFormed ∧ ∀ d ∈ t.rules, d.FlagFits) ∧
    (∃ reported : List (Condition × Issue), (t.issues.run c).1 = reported.map Prod.snd ∧
      (reported.map Prod.fst).Nodup ∧
      ∀ condition issue, (condition, issue) ∈ reported ↔ t.Defect condition issue) ∧
    ∀ name, (t.issues.run c).1.count (.duplicateRule name) =
      if Text.trimmed name = "" then 0 else (t.rules.map RuleDefinition.name).count name - 1 :=
  ⟨t.issues_eq_nil_iff c, ⟨t.defects, t.issues_eq_defects c, t.nodup_defects, fun _ _ => mem_defects⟩,
    t.count_duplicateRule c⟩

/-- A table with one flag, which has the marker. -/
def oneFlag (marker : String) : RuleTable :=
  ⟨⟨"", none, none⟩, [⟨"s", [.flag "f" marker "k" false true .entry]⟩]⟩

theorem oneFlag_wellFormed {marker : String} (hmarker : Text.trimmed marker ≠ "") :
    (oneFlag marker).WellFormed where
  someSet := List.cons_ne_nil _ _
  setNamed := List.forall_mem_singleton.2 (by decide : Text.trimmed "s" ≠ "")
  setFilled := List.forall_mem_singleton.2 (List.cons_ne_nil _ _)
  named := List.forall_mem_singleton.2 (by decide : Text.trimmed "f" ≠ "")
  distinct := List.nodup_singleton _
  wellFormed := List.forall_mem_singleton.2 ⟨hmarker, by decide, by decide⟩

/-- A letter, so many times.  This one stands for three characters up to case. -/
def heavyMarker (n : Nat) : String := String.ofList (List.replicate n 'k')

theorem trimmed_heavyMarker {n : Nat} (hn : n ≠ 0) : Text.trimmed (heavyMarker n) ≠ "" := by
  rw [ne_eq, ← Text.isBlank_iff, Text.isBlank, heavyMarker, String.toList_ofList, List.all_eq_true]
  intro hwhite
  exact absurd (hwhite 'k' (List.mem_replicate.2 ⟨hn, rfl⟩)) (by decide)

theorem not_flagFits_heavyMarker {n : Nat} (hn : Pattern.sizeLimit < 6 * n) :
    ¬ (RuleDefinition.flag "f" (heavyMarker n) "k" false true .entry).FlagFits := by
  have hletter : (Pattern.Reader.literalPart true 'k').weight = 6 := by decide +kernel
  have hweight :
      Pattern.Reader.totalWeight (Pattern.Reader.textParts true (List.replicate n 'k')) = 6 * n := by
    clear hn
    induction n with
    | zero => rfl
    | succ n ih =>
      rw [List.replicate_succ, Pattern.Reader.textParts, List.map_cons, Pattern.Reader.totalWeight, hletter,
        ← Pattern.Reader.textParts, ih]
      omega
  refine not_not.2 (FlagScope.compile_pattern_tooLarge .entry (heavyMarker n) "k" false ?_)
  rwa [heavyMarker, String.toList_ofList, hweight]

/-- **Not every well-formed table is valid**: a marker may make the pattern of its flag too large. -/
theorem validation_refuses_large :
    ¬ ∀ (t : RuleTable) (c : PatternCache), (t.issues.run c).1 = [] ↔ t.WellFormed := by
  intro haccepts
  have hvalid := (haccepts (oneFlag (heavyMarker 600000)) PatternCache.empty).2
    (oneFlag_wellFormed (trimmed_heavyMarker (by omega)))
  obtain ⟨-, hfits⟩ := ((oneFlag (heavyMarker 600000)).issues_eq_nil_iff PatternCache.empty).1 hvalid
  exact not_flagFits_heavyMarker (by rw [Pattern.sizeLimit]; omega) (List.forall_mem_singleton.1 hfits)

end RuleTable
end LiteralPatch
