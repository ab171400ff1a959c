import LiteralPatch.Proofs.Rule.FlagValid
import LiteralPatch.Proofs.Table.Agreement

/-!
# Why a declaration does not compile

A rule that replaces values compiles its sources in their order and fails at the first that is no pattern, or
a pattern without a value group.  A flag rule fails if both literals are the same; its pattern is always read,
so otherwise it fails only if that pattern is too large.  `RuleDefinition.Fails` lists these reasons with the
error that each of them gives, and there are no others (`RuleDefinition.failure?_eq_some_iff`).
-/

namespace LiteralPatch

open Compiling

/-! ## One source -/

namespace ValuePattern

/-- The source is a pattern, and it has a value group. -/
def IsSource (source : String) (ic : Bool) : Prop :=
  ∃ p group, Pattern.compile source ic = .ok p ∧ p.captureNamed valueGroup = some group

/-- Why a source of the rule is refused. -/
inductive Refuses (rule source : String) (ic : Bool) : RuleError → Prop where
  | invalid {fault : Pattern.Fault} : Pattern.compile source ic = .error fault →
      Refuses rule source ic (.invalidPattern rule source fault)
  | noGroup {p : Pattern} : Pattern.compile source ic = .ok p → p.captureNamed valueGroup = none →
      Refuses rule source ic (.missingValueGroup rule)

/-- How compiling a source ends. -/
def ending (rule source : String) (ic : Bool) : Except RuleError ValuePattern :=
  match Pattern.compile source ic with
  | .ok p => ofPattern rule p
  | .error fault => .error (.invalidPattern rule source fault)

variable {rule source : String} {ic : Bool}

theorem compile_ends (rule source : String) (ic : Bool) :
    (compile rule source ic).Ends (ending rule source ic) := by
  refine (gives_fetch ⟨source, ic⟩).ends.bind
    (g := fun result => match result with
      | .ok p => ofPattern rule p
      | .error fault => .error (.invalidPattern rule source fault)) fun result => ?_
  cases result with
  | error fault => exact fun _ => rfl
  | ok p =>
    show Ends (MonadExcept.ofExcept (ofPattern rule p)) (ofPattern rule p)
    cases ofPattern rule p with
    | error cause => exact fun _ => rfl
    | ok v => exact fun _ => rfl

theorem ending_eq_error_iff {cause : RuleError} :
    ending rule source ic = .error cause ↔ Refuses rule source ic cause := by
  unfold ending
  constructor
  · intro h
    split at h
    · next p hp =>
      unfold ofPattern at h
      split at h
      · cases h
      · next hgroup =>
        obtain rfl := Except.error.inj h
        exact .noGroup hp hgroup
    · next fault hfault =>
      obtain rfl := Except.error.inj h
      exact .invalid hfault
  · rintro (hfault | ⟨hp, hgroup⟩)
    · rw [hfault]
    · simp only [hp, ofPattern, hgroup]

/-- **A source is accepted or refused,** and for one reason. -/
theorem causeOf?_ending_eq_none_iff : causeOf? (ending rule source ic) = none ↔ IsSource source ic := by
  unfold ending IsSource
  cases hcompile : Pattern.compile source ic with
  | error fault => simp [causeOf?]
  | ok p => cases hgroup : p.captureNamed valueGroup <;> simp [ofPattern, hgroup, causeOf?]

end ValuePattern

/-! ## One declaration -/

namespace RuleDefinition

variable {name primary replacement marker key : String} {fallbacks : List String} {guard : Option Guard}
  {ic old new : Bool} {scope : FlagScope} {cause : RuleError}

/-- Why a declaration does not compile. -/
inductive Fails : RuleDefinition → RuleError → Prop where
  /-- The first source that is refused. -/
  | source {name primary replacement : String} {fallbacks : List String} {guard : Option Guard} {ic : Bool}
      {before after : List String} {source : String} {cause : RuleError}
      (hsources : primary :: fallbacks = before ++ source :: after)
      (hbefore : ∀ b ∈ before, ValuePattern.IsSource b ic)
      (hrefuses : ValuePattern.Refuses name source ic cause) :
      Fails (.value name primary fallbacks replacement guard ic) cause
  | idle {name marker key : String} {literal : Bool} {scope : FlagScope} :
      Fails (.flag name marker key literal literal scope) (.noOpFlag name literal)
  | large {name marker key : String} {old new : Bool} {scope : FlagScope} (hne : old ≠ new)
      (hlarge : Pattern.compile (scope.pattern marker key old) true = .error .tooLarge) :
      Fails (.flag name marker key old new scope)
        (.invalidPattern name (scope.pattern marker key old) .tooLarge)

/-- A rule that replaces values fails at the first of its sources that is refused. -/
theorem failure?_value :
    (value name primary fallbacks replacement guard ic).failure? =
      (primary :: fallbacks).findSome? fun source => causeOf? (ValuePattern.ending name source ic) := by
  have hrule : (ValueRule.compile name primary fallbacks replacement guard ic).Ends (do
      let p ← ValuePattern.ending name primary ic
      let ps ← fallbacks.mapM fun source => ValuePattern.ending name source ic
      pure ⟨name, p, ps, replacement, guard⟩) :=
    (ValuePattern.compile_ends name primary ic).bind fun p =>
      (ends_mapM (fun source => ValuePattern.compile_ends name source ic) fallbacks).bind fun ps =>
        (gives_pure (⟨name, p, ps, replacement, guard⟩ : ValueRule)).ends
  have hdefinition : (value name primary fallbacks replacement guard ic).compile.Ends _ :=
    hrule.bind fun rule => (gives_pure (Rule.value rule)).ends
  rw [failure?_of_ends hdefinition, List.findSome?_cons, ← causeOf?_mapM]
  cases ValuePattern.ending name primary ic with
  | error cause => rfl
  | ok p => cases fallbacks.mapM fun source => ValuePattern.ending name source ic <;> rfl

theorem fails_flag_iff : (flag name marker key old new scope).Fails cause ↔
    old = new ∧ cause = .noOpFlag name old ∨
      old ≠ new ∧ Pattern.compile (scope.pattern marker key old) true = .error .tooLarge ∧
        cause = .invalidPattern name (scope.pattern marker key old) .tooLarge := by
  constructor
  · rintro (_ | _ | ⟨hne, hlarge⟩)
    · exact .inl ⟨rfl, rfl⟩
    · exact .inr ⟨hne, hlarge, rfl⟩
  · rintro (⟨rfl, rfl⟩ | ⟨hne, hlarge, rfl⟩)
    · exact .idle
    · exact .large hne hlarge

/-- A flag rule fails if its literals are the same, and else only by the size of its pattern. -/
theorem failure?_flag : (flag name marker key old new scope).failure? =
    if old = new then some (.noOpFlag name old)
    else causeOf? (ValuePattern.ending name (scope.pattern marker key old) true) := by
  have hlift {result : Except RuleError FlagRule}
      (h : (FlagRule.compile name marker key old new scope).Ends result) :
      (flag name marker key old new scope).failure? = causeOf? result := by
    have hdefinition : (flag name marker key old new scope).compile.Ends _ :=
      h.bind fun rule => (gives_pure (Rule.flag rule)).ends
    rw [failure?_of_ends hdefinition]
    cases result <;> rfl
  by_cases hsame : old = new
  · rw [hlift (FlagRule.compile_ends_noOpFlag hsame), if_pos hsame]
    rfl
  · rw [if_neg hsame]
    have hrule : (FlagRule.compile name marker key old new scope).Ends (do
        let p ← ValuePattern.ending name (scope.pattern marker key old) true
        pure ⟨name, new, p⟩) := by
      rw [FlagRule.compile, if_neg hsame]
      exact (ValuePattern.compile_ends _ _ _).bind fun p =>
        (gives_pure (⟨name, new, p⟩ : FlagRule)).ends
    rw [hlift hrule]
    cases ValuePattern.ending name (scope.pattern marker key old) true <;> rfl

/-- **A declaration fails to compile for these reasons,** and for no others. -/
theorem failure?_eq_some_iff {d : RuleDefinition} : d.failure? = some cause ↔ d.Fails cause := by
  cases d with
  | value name primary fallbacks replacement guard ic =>
    rw [failure?_value, List.findSome?_eq_some_iff]
    simp only [causeOf?_eq_some_iff, ValuePattern.ending_eq_error_iff,
      ValuePattern.causeOf?_ending_eq_none_iff]
    constructor
    · rintro ⟨before, source, after, hsources, hrefuses, hbefore⟩
      exact .source hsources hbefore hrefuses
    · rintro ⟨hsources, hbefore, hrefuses⟩
      exact ⟨_, _, _, hsources, hrefuses, hbefore⟩
  | flag name marker key old new scope =>
    rw [failure?_flag, fails_flag_iff]
    split
    · next hsame => simp [hsame, eq_comm]
    · next hne =>
      rw [causeOf?_eq_some_iff, ValuePattern.ending]
      rcases scope.compile_pattern marker key old with hlarge | ⟨p, hp, hgroup⟩
      · simp [hlarge, hne, eq_comm]
      · simp [hp, ValuePattern.ofPattern, hgroup, hne]

/-- All sources of the rule are accepted; or its literals differ, and its pattern is not too large. -/
def Compilable : RuleDefinition → Prop
  | value _ primary fallbacks _ _ ic => ∀ source ∈ primary :: fallbacks, ValuePattern.IsSource source ic
  | flag _ marker key old new scope =>
    old ≠ new ∧ Pattern.compile (scope.pattern marker key old) true ≠ .error .tooLarge

/-- Nothing else is asked of a declaration that compiles. -/
theorem failure?_eq_none_iff {d : RuleDefinition} : d.failure? = none ↔ d.Compilable := by
  cases d with
  | value name primary fallbacks replacement guard ic =>
    rw [failure?_value, List.findSome?_eq_none_iff]
    simp only [ValuePattern.causeOf?_ending_eq_none_iff, Compilable]
  | flag name marker key old new scope =>
    simp only [Option.eq_none_iff_forall_ne_some, ne_eq, failure?_eq_some_iff, fails_flag_iff, Compilable]
    constructor
    · intro h
      have hne : old ≠ new := fun hsame => h _ (.inl ⟨hsame, rfl⟩)
      exact ⟨hne, fun hlarge => h _ (.inr ⟨hne, hlarge, rfl⟩)⟩
    · rintro ⟨hne, hsize⟩ cause (⟨hsame, -⟩ | ⟨-, hlarge, -⟩)
      · exact hne hsame
      · exact hsize hlarge

end RuleDefinition
end LiteralPatch
