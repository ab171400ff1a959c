import LiteralPatch.Proofs.Attempts
import LiteralPatch.Table.Decode

/-!
# The bounds of guards fit

A guard takes a number of the document as its bound, but none that is negative or has more than 64 bits.  So
every table that can be read has bounds that fit (`RuleTable.boundsFit_of_ofEntries`), which is what a guard
needs to let through every number below its bound.

A decoder reads the fields of a record one after the other, and what it gives depends on a few of them only.
`Decode.Ensures` says what a decoder gives if it gives something; the fields that do not matter are passed over
by `Decode.ensures_bind`.
-/

namespace LiteralPatch

open Text

/-- The bound, if there is one, is a number of 64 bits. -/
def Guard.Fits : Guard → Prop
  | lessThan bound => bound < wordLimit
  | oneOf _ => True

/-- The guard of the rule, if it has one, has a bound that fits. -/
def RuleDefinition.BoundFits : RuleDefinition → Prop
  | value _ _ _ _ guard _ => ∀ g ∈ guard, g.Fits
  | flag .. => True

namespace Decode

variable {α β : Type} {r : Record} {place : Nat} {name : String} {decode : Toml.Value → Except DecodeFault α}
  {Q : α → Prop} {v : Toml.Value}

/-! ## Fields and lists -/

/-- Whatever comes out has the property. -/
def Ensures (result : Except DecodeFault α) (Q : α → Prop) : Prop := ∀ a, result = .ok a → Q a

theorem ensures_pure {a : α} (h : Q a) : Ensures (pure a) Q := by
  intro b hb
  exact Except.ok.inj hb ▸ h

theorem ensures_error (fault : DecodeFault) : Ensures (.error fault) Q := nofun

/-- What comes out of two steps, where the first one ensures something. -/
theorem Ensures.bind {result : Except DecodeFault α} {f : α → Except DecodeFault β} {P : β → Prop}
    (h : Ensures result Q) (hf : ∀ a, Q a → Ensures (f a) P) : Ensures (result >>= f) P := by
  intro b hb
  obtain ⟨a, ha, hb⟩ := bind_eq_ok_iff.1 hb
  exact hf a (h a ha) b hb

/-- What comes out of two steps, whatever the first one gives. -/
theorem ensures_bind {result : Except DecodeFault α} {f : α → Except DecodeFault β} {P : β → Prop}
    (hf : ∀ a, Ensures (f a) P) : Ensures (result >>= f) P := by
  have htrue : Ensures result fun _ => True := fun _ _ => trivial
  exact htrue.bind fun a _ => hf a

theorem ensures_required (h : ∀ v, Ensures (decode v) Q) : Ensures (r.required place name decode) Q := by
  unfold Record.required
  split
  · exact h _
  · exact ensures_error _

theorem ensures_optional {default : α} (h : ∀ v, Ensures (decode v) Q) (hdefault : Q default) :
    Ensures (r.optional place name default decode) Q := by
  unfold Record.optional
  split
  · exact h _
  · exact ensures_pure hdefault

theorem ensures_list (h : ∀ v, Ensures (decode v) Q) (v : Toml.Value) :
    Ensures (list name decode v) fun as => ∀ a ∈ as, Q a := by
  unfold list
  split
  · exact fun as has => forall_of_forall₂ (mapM_eq_ok_iff.1 has) fun v _ => h v
  · exact ensures_error _

/-! ## From a number to the rules of a set -/

theorem word_ensures (v : Toml.Value) : Ensures (word name v) (· < wordLimit) := by
  unfold word
  split
  · split
    · next hfits => exact ensures_pure (by omega)
    · exact ensures_error _
  · exact ensures_error _

theorem guard_ensures (v : Toml.Value) : Ensures (guard v) Guard.Fits := by
  refine ensures_bind fun ⟨tag, r⟩ => ?_
  dsimp only
  split
  · refine ensures_bind fun _ => ?_
    exact (ensures_required word_ensures).bind fun bound hbound => ensures_pure hbound
  · refine ensures_bind fun _ => ensures_bind fun values => ?_
    exact ensures_pure trivial
  · exact ensures_error _

theorem rule_ensures (v : Toml.Value) : Ensures (rule v) RuleDefinition.BoundFits := by
  have hguard : ∀ v, Ensures (some <$> guard v) fun guard => ∀ g ∈ guard, g.Fits := by
    intro v
    rw [map_eq_pure_bind]
    refine (guard_ensures v).bind fun g hg => ensures_pure ?_
    rintro _ ⟨⟩
    exact hg
  have hnone : ∀ g ∈ (none : Option Guard), g.Fits := by rintro _ ⟨⟩
  refine ensures_bind fun ⟨tag, r⟩ => ?_
  dsimp only
  split
  · refine ensures_bind fun _ => ensures_bind fun name => ensures_bind fun primary => ?_
    refine ensures_bind fun fallbacks => ensures_bind fun replacement => ?_
    refine (ensures_optional hguard hnone).bind fun guard hfits => ?_
    exact ensures_bind fun ic => ensures_pure hfits
  · refine ensures_bind fun _ => ensures_bind fun name => ensures_bind fun marker => ?_
    refine ensures_bind fun key => ensures_bind fun old => ensures_bind fun new => ?_
    exact ensures_bind fun scope => ensures_pure trivial
  · exact ensures_error _

theorem ruleSet_ensures (v : Toml.Value) : Ensures (ruleSet v) fun set => ∀ rule ∈ set.rules, rule.BoundFits := by
  refine ensures_bind fun r => ensures_bind fun name => ?_
  refine (ensures_optional (ensures_list rule_ensures) (List.forall_mem_nil _)).bind fun rules hrules => ?_
  exact ensures_pure hrules

end Decode

/-- **Every bound of a table that has been read fits.** -/
theorem RuleTable.boundsFit_of_ofEntries {entries : List (String × Toml.Value)} {t : RuleTable}
    (h : ofEntries entries = .ok t) : ∀ set ∈ t.sets, ∀ rule ∈ set.rules, rule.BoundFits := by
  have hsets : Decode.Ensures (ofEntries entries) fun t => ∀ set ∈ t.sets, ∀ rule ∈ set.rules, rule.BoundFits := by
    refine Decode.ensures_bind fun metadata => ?_
    refine (Decode.ensures_optional (Decode.ensures_list Decode.ruleSet_ensures) (List.forall_mem_nil _)).bind ?_
    exact fun sets hsets => Decode.ensures_pure hsets
  exact hsets t h

end LiteralPatch
