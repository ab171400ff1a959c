import LiteralPatch.Proofs.Rule.FlagFound

/-!
# The run in front of a flag

A flag belongs to a marker in front of it, and the run between the two has no closing brace.  What the marker
is to look like is up to the scope (`FlagScope.MarkerEnds`): for an entry it begins a string, for an object it
stands anywhere behind an opening brace and a quote.  This is all that the scopes differ in, and the rest of
a flag is the same in each (`FlagScope.Shape`): the run, the key, the colon, the literal.

So whether a flag is touched is read off the stretch that reaches back from its key to the closest closing
brace.  If no marker ends in it, then the rule leaves the flag alone (`FlagScope.find_shapes`).  It is the end
that counts, because the string that a marker begins may have closing braces of its own.
-/

namespace LiteralPatch

open Text Unicode

/-- A change stands in one place of the text only. -/
theorem Change.Stands.unique {text : String} {ch : Change} {a v c a' v' c' : List Char}
    (h : ch.Stands text a v c) (h' : ch.Stands text a' v' c') : a = a' := by
  have hwidth : width a = width a' := by
    have hspan := h.span_eq.symm.trans h'.span_eq
    exact (Span.mk.inj hspan).1
  have heq : a ++ (v ++ c) = a' ++ (v' ++ c') := by
    rw [← List.append_assoc, ← List.append_assoc, ← h.text_eq, h'.text_eq]
  exact (append_inj_of_width heq hwidth).1

namespace FlagScope

variable {scope : FlagScope} {name marker key : String} {old new : Bool} {rule : Rule}

/-- With its last character, `p` completes what a scope asks for in front of the run. -/
def MarkerEnds (scope : FlagScope) (marker p : List Char) : Prop :=
  match scope with
  | .entry => ∃ l m s, p = l ++ '"' :: (m ++ (s ++ ['"'])) ∧ SameText m marker ∧ '"' ∉ s
  | .keyedObject => ∃ l m s g w, p = l ++ '"' :: (m ++ (s ++ '"' :: (g ++ ':' :: (w ++ ['\x7b'])))) ∧
      SameText m marker ∧ '"' ∉ s ∧ ':' ∉ g ∧ ∀ x ∈ w, isWhite x = true
  | .object => ∃ l g m, p = l ++ '\x7b' :: (g ++ '"' :: m) ∧ '\x7d' ∉ g ∧ SameText m marker

/-- A flag with its marker: the marker ends `p`, the run is `g`, the quoted key with its colon is `t` and the
literal is `v`. -/
structure Shape (scope : FlagScope) (marker key : List Char) (literal : Bool) (p g t v c : List Char) :
    Prop where
  markerEnds : scope.MarkerEnds marker p
  run : '\x7d' ∉ g
  keyLeadsUp : KeyLeadsUp key t
  literal_eq : SameText v (literalText literal).toList
  after : ∀ x ∈ c.head?, isWord x = false

/-- What leads up to a flag is a marker, a run and the key. -/
theorem exists_leadsUp_iff {m k a : List Char} :
    (∃ l u, a = l ++ u ∧ scope.LeadsUp m k u) ↔
      ∃ p g t, a = p ++ g ++ t ∧ scope.MarkerEnds m p ∧ '\x7d' ∉ g ∧ KeyLeadsUp k t := by
  constructor
  · rintro ⟨l, u, rfl, hu⟩
    cases scope with
    | entry =>
      obtain ⟨m', s, g, t, rfl, hm, hs, hg, ht⟩ := hu
      exact ⟨_, g, t, by simp, ⟨l, m', s, rfl, hm, hs⟩, hg, ht⟩
    | keyedObject =>
      obtain ⟨m', s, g, w, g', t, rfl, hm, hs, hg, hw, hg', ht⟩ := hu
      exact ⟨_, g', t, by simp, ⟨l, m', s, g, w, rfl, hm, hs, hg, hw⟩, hg', ht⟩
    | object =>
      obtain ⟨g, m', g', t, rfl, hg, hm, hg', ht⟩ := hu
      exact ⟨_, g', t, by simp, ⟨l, g, m', rfl, hg, hm⟩, hg', ht⟩
  · rintro ⟨p, g', t, rfl, hp, hg', ht⟩
    cases scope with
    | entry =>
      obtain ⟨l, m', s, rfl, hm, hs⟩ := hp
      exact ⟨l, _, by simp, m', s, g', t, rfl, hm, hs, hg', ht⟩
    | keyedObject =>
      obtain ⟨l, m', s, g, w, rfl, hm, hs, hg, hw⟩ := hp
      exact ⟨l, _, by simp, m', s, g, w, g', t, rfl, hm, hs, hg, hw, hg', ht⟩
    | object =>
      obtain ⟨l, g, m', rfl, hg, hm⟩ := hp
      exact ⟨l, _, by simp, g, m', g', t, rfl, hg, hm, hg', ht⟩

/-- Between a text in front and `c` stands a literal of a flag exactly if the text in front has the shape. -/
theorem occurs_iff_shape {m k a v c : List Char} {literal : Bool} :
    scope.Occurs m k literal a v c ↔ ∃ p g t, a = p ++ g ++ t ∧ scope.Shape m k literal p g t v c := by
  constructor
  · rintro ⟨hleads, hv, hc⟩
    obtain ⟨p, g, t, ha, hp, hg, ht⟩ := exists_leadsUp_iff.1 hleads
    exact ⟨p, g, t, ha, hp, hg, ht, hv, hc⟩
  · rintro ⟨p, g, t, ha, hp, hg, ht, hv, hc⟩
    exact ⟨exists_leadsUp_iff.2 ⟨p, g, t, ha, hp, hg, ht⟩, hv, hc⟩

/-- A stretch without closing braces reaches no further back than to the closest one. -/
theorem exists_prefix_of_run {x run p g : List Char} (hx : ∀ y ∈ x.getLast?, y = '\x7d')
    (hg : '\x7d' ∉ g) (heq : x ++ run = p ++ g) : ∃ r, p = x ++ r ∧ run = r ++ g := by
  rcases List.append_eq_append_iff.1 heq with ⟨r, rfl, rfl⟩ | ⟨z, rfl, rfl⟩
  · exact ⟨r, rfl, rfl⟩
  · rcases List.eq_nil_or_concat z with rfl | ⟨z, b, rfl⟩
    · exact ⟨[], by simp, by simp⟩
    · obtain rfl : b = '\x7d' := hx b (by simp)
      exact absurd (by simp) hg

/-- **A flag rule finds flags behind markers, and only these.**  Every change is of a literal that has the
shape of the scope, for any marker and key.  There is no change exactly if nothing in the text has it.  And a
flag is left alone if no marker ends in the run of its key, from the closest closing brace or from the start
of the text. -/
theorem find_shapes
    (h : (RuleDefinition.flag name marker key old new scope).compile.Gives rule) (text : String) :
    (∀ ch ∈ rule.find text, ∃ p g t v c, ch.Stands text (p ++ g ++ t) v c ∧
        scope.Shape marker.toList key.toList old p g t v c) ∧
      (rule.find text = [] ↔ ¬ ∃ p g t v c, text.toList = p ++ g ++ t ++ v ++ c ∧
        scope.Shape marker.toList key.toList old p g t v c) ∧
      ∀ x run t v c, (∀ y ∈ x.getLast?, y = '\x7d') → KeyLeadsUp key.toList t →
        (∀ r, r <+: run → ¬ scope.MarkerEnds marker.toList (x ++ r)) →
        ∀ ch ∈ rule.find text, ¬ ch.Stands text (x ++ run ++ t) v c := by
  have hchanges : ∀ ch ∈ rule.find text, ∃ p g t v c, ch.Stands text (p ++ g ++ t) v c ∧
      scope.Shape marker.toList key.toList old p g t v c := by
    intro ch hch
    obtain ⟨a, v, c, hstands, -, hoccurs⟩ := changes_occur h text ch hch
    obtain ⟨p, g, t, rfl, hshape⟩ := occurs_iff_shape.1 hoccurs
    exact ⟨p, g, t, v, c, hstands, hshape⟩
  refine ⟨hchanges, ?_, ?_⟩
  · rw [find_eq_nil_iff h text]
    constructor
    · rintro hnone ⟨p, g, t, v, c, htext, hshape⟩
      exact hnone _ v c htext (occurs_iff_shape.2 ⟨p, g, t, rfl, hshape⟩)
    · intro hnone a v c htext hoccurs
      obtain ⟨p, g, t, rfl, hshape⟩ := occurs_iff_shape.1 hoccurs
      exact hnone ⟨p, g, t, v, c, htext, hshape⟩
  · intro x run t v c hx ht hmarkers ch hch hstands
    obtain ⟨p, g, t', v', c', hstands', hshape⟩ := hchanges ch hch
    -- the key ends both texts, so the run of the shape lies in the run of the flag
    obtain ⟨hfront, rfl⟩ := ht.cancel hshape.keyLeadsUp (hstands.unique hstands')
    obtain ⟨r, rfl, rfl⟩ := exists_prefix_of_run hx hshape.run hfront
    exact hmarkers r (List.prefix_append r g) hshape.markerEnds

/-- Two objects with the same flag, one behind the marker and the other behind the end of its object. -/
def twoObjects : String := "\x7b\"m\":\x7b\"k\":false\x7d\x7d,\x7b\"n\":\x7b\"k\":false\x7d\x7d"

/-- A rule for the flag of an entry. -/
def switchOfEntry : RuleDefinition := .flag "switch" "m" "k" false true .entry

/-- The first flag has the shape of an entry. -/
theorem shape_twoObjects : FlagScope.entry.Shape "m".toList "k".toList false "\x7b\"m\"".toList
    ":\x7b".toList "\"k\":".toList "false".toList "\x7d\x7d,\x7b\"n\":\x7b\"k\":false\x7d\x7d".toList where
  markerEnds := ⟨['\x7b'], ['m'], [], rfl, rfl, by simp⟩
  run := by decide
  keyLeadsUp := ⟨['k'], [], [], rfl, rfl, by simp, by simp⟩
  literal_eq := rfl
  after := by
    rintro _ ⟨⟩
    decide +kernel

/-- The flag behind the marker is found. -/
theorem find_shapes_twoObjects :
    ∃ rule, switchOfEntry.compile.Gives rule ∧ rule.find twoObjects ≠ [] ∧
      (∀ ch ∈ rule.find twoObjects, ∃ p g t v c, ch.Stands twoObjects (p ++ g ++ t) v c ∧
        FlagScope.entry.Shape "m".toList "k".toList false p g t v c) ∧
      ∀ x run t v c, (∀ y ∈ x.getLast?, y = '\x7d') → KeyLeadsUp "k".toList t →
        (∀ r, r <+: run → ¬ FlagScope.entry.MarkerEnds "m".toList (x ++ r)) →
        ∀ ch ∈ rule.find twoObjects, ¬ ch.Stands twoObjects (x ++ run ++ t) v c := by
  obtain ⟨rule, hgives⟩ : ∃ rule, switchOfEntry.compile.Gives rule :=
    exists_gives (by decide) (by decide)
  obtain ⟨hchanges, hnil, huntouched⟩ := find_shapes hgives twoObjects
  refine ⟨rule, hgives, fun hfind => ?_, hchanges, huntouched⟩
  exact hnil.1 hfind ⟨_, _, _, _, _, rfl, shape_twoObjects⟩

end FlagScope
end LiteralPatch
