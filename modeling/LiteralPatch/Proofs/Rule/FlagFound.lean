import LiteralPatch.Proofs.Rule.Applied
import LiteralPatch.Proofs.Rule.FlagShape
import LiteralPatch.Proofs.Rule.Rewriting
import LiteralPatch.Proofs.Text.WordRuns
import Mathlib.Data.List.Basic

/-!
# What a compiled flag rule finds

Whatever its marker and key are, a flag rule that compiles finds literals behind what leads up to a flag in
its scope (`FlagScope.changes_occur`), never an empty one (`FlagScope.neverEmpty_of_gives`), and none only
where no flag stands (`FlagScope.find_eq_nil_iff`).

## Flags in keyed objects

This scope is meant for flags of an object that the marker keys, with nothing but blanks between the closing
quote of the key and its colon (`FlagScope.KeyedLeadsUp`).  The pattern falls short of that.  Its gap in front
of the colon is free of colons and of nothing else, so it also reaches over a bracket, a comma or the closing
brace of the object that the marker stands in, up to an object under another key, and the flag of that object
is switched (`FlagScope.keyedObject_under_other_key`).  What is sure of every change is only that some object
opens behind the marker (`FlagScope.keyedObject_changes`).
-/

namespace LiteralPatch

open Pattern Pattern.Expr Text Unicode

/-- The change is of what stands between `a` and `c`. -/
structure Change.Stands (text : String) (ch : Change) (a v c : List Char) : Prop where
  text_eq : text.toList = a ++ v ++ c
  span_eq : ch.span = ⟨Text.width a, Text.width (a ++ v)⟩
  old_eq : ch.oldValue = String.ofList v

namespace FlagScope

variable {scope : FlagScope} {name marker key : String} {old new : Bool} {rule : Rule}

theorem literal_nullable (literal : Bool) :
    (chain (text true (literalText literal).toList)).nullable = false := by
  cases literal <;> rfl

/-- No spelling of one boolean literal is the other. -/
theorem not_sameText_literalText :
    ∀ {old new : Bool}, old ≠ new → ¬ SameText (literalText new).toList (literalText old).toList := by
  decide

/-- A compiled flag rule switches to its new literal, and its pattern frames the old one. -/
theorem exists_frames_of_gives
    (h : (RuleDefinition.flag name marker key old new scope).compile.Gives rule) :
    ∃ p : ValuePattern, rule = .flag ⟨name, new, p⟩ ∧ old ≠ new ∧
      p.Frames (scope.factors marker.toList key.toList)
        (chain (text true (literalText old).toList)) [edge] := by
  cases h.of_ensures (RuleDefinition.compile_ensures _) with
  | flag hne hp => exact ⟨_, rfl, hne, frames_of_compile hp.compile_eq hp.group_eq⟩

/-- The value of a flag is never empty. -/
theorem neverEmpty_of_gives
    (h : (RuleDefinition.flag name marker key old new scope).compile.Gives rule) : rule.NeverEmpty := by
  obtain ⟨p, rfl, -, hframes⟩ := exists_frames_of_gives h
  exact List.forall_mem_singleton.2 (hframes.neverEmpty (literal_nullable old))

/-- **Every change of a flag rule is of a literal that occurs as a flag,** for any marker and key. -/
theorem changes_occur
    (h : (RuleDefinition.flag name marker key old new scope).compile.Gives rule) (text : String) :
    ∀ ch ∈ rule.find text, ∃ a v c, ch.Stands text a v c ∧ ch.newValue = literalText new ∧
      scope.Occurs marker.toList key.toList old a v c := by
  obtain ⟨p, rfl, -, hframes⟩ := exists_frames_of_gives h
  intro ch hch
  obtain ⟨v, hv, rfl⟩ := List.mem_map.1 hch
  obtain ⟨a, b, c, htext, hspan, hvalue, hframed⟩ :=
    (hframes.findValues_placed text).exists_of_mem v hv
  exact ⟨a, b, c, ⟨htext, hspan, hvalue⟩, rfl, framed_iff_occurs.1 hframed⟩

/-- **A flag rule finds nothing exactly where no flag stands,** for any marker and key. -/
theorem find_eq_nil_iff
    (h : (RuleDefinition.flag name marker key old new scope).compile.Gives rule) (text : String) :
    rule.find text = [] ↔
      ∀ a v c, text.toList = a ++ v ++ c → ¬ scope.Occurs marker.toList key.toList old a v c := by
  obtain ⟨p, rfl, -, hframes⟩ := exists_frames_of_gives h
  rw [Rule.find, FlagRule.find, List.map_eq_nil_iff,
    hframes.findValues_eq_nil_iff (literal_nullable old)]
  simp only [framed_iff_occurs]

/-- **A flag is a whole word:** in front of it stands a colon or a blank. -/
theorem Occurs.wholeWord {m k a v c : List Char} (h : scope.Occurs m k old a v c) : WholeWord a v c := by
  obtain ⟨hliteral, hletters⟩ := literalText_letters old
  obtain ⟨l, u, rfl, hu⟩ := h.leadsUp
  obtain ⟨x, t, rfl, k', w, w', rfl, -, -, hw'⟩ := hu.keyLeadsUp
  refine ⟨?_, isWord_of_sameText hletters h.literal_eq, ?_, h.after⟩
  · rintro rfl
    exact hliteral (List.eq_nil_of_length_eq_zero h.literal_eq.length_eq.symm)
  · have hsep : ∀ y ∈ ':' :: w', isWord y = false := by
      refine List.forall_mem_cons.2 ⟨by decide +kernel, fun y hy => isWord_eq_false_of_isWhite (hw' y hy)⟩
    have hend := getLast?_of_not_isWord (a := l ++ x ++ '"' :: (k' ++ '"' :: w)) (List.cons_ne_nil _ _) hsep
    simpa using hend

/-- The changes of a flag rule stand one behind the other, each of a literal that occurs as a flag. -/
theorem exists_rewrites
    (h : (RuleDefinition.flag name marker key old new scope).compile.Gives rule) (text : String) :
    ∃ out, Rewrites (fun a v w c => scope.Occurs marker.toList key.toList old a v c ∧
      w = (literalText new).toList) [] text.toList (rule.find text) out := by
  obtain ⟨p, rfl, -, hframes⟩ := exists_frames_of_gives h
  have hplaced := (hframes.findValues_placed text).mono fun _ _ _ => framed_iff_occurs.1
  exact hplaced.exists_rewrites (fun _ _ _ ho => ho.wholeWord.ne_nil) (literalText new) .primary

/-- A flag with a marker and a key that are not too long compiles to a rule. -/
theorem exists_gives (hne : old ≠ new) (hlength : marker.toList.length + key.toList.length ≤ 1900) :
    ∃ rule, (RuleDefinition.flag name marker key old new scope).compile.Gives rule := by
  obtain ⟨p, hp, -⟩ := scope.exists_frames marker key old hlength
  exact ⟨_, RuleDefinition.compile_flag_gives hne (hp name)⟩

/-! ## Keyed objects -/

/-- **What is found for a keyed object stands in some object behind the marker:** in front of it are a quote,
the marker up to case, the rest of a string, a gap without a colon, a colon and the brace of an object, which
is not closed before the key. -/
theorem keyedObject_changes
    (h : (RuleDefinition.flag name marker key old new .keyedObject).compile.Gives rule) (text : String) :
    ∀ ch ∈ rule.find text, ∃ l m s g w g' t v c,
      ch.Stands text
        (l ++ '"' :: (m ++ (s ++ '"' :: (g ++ ':' :: (w ++ '\x7b' :: (g' ++ t)))))) v c ∧
      SameText m marker.toList ∧ '"' ∉ s ∧ ':' ∉ g ∧ (∀ x ∈ w, isWhite x = true) ∧ '\x7d' ∉ g' ∧
      KeyLeadsUp key.toList t ∧ SameText v (literalText old).toList ∧
      ∀ x ∈ c.head?, isWord x = false := by
  intro ch hch
  obtain ⟨a, v, c, hstands, -, ⟨l, u, rfl, hu⟩, hv, hc⟩ := changes_occur h text ch hch
  obtain ⟨m, s, g, w, g', t, rfl, hm, hs, hg, hw, hg', ht⟩ := hu
  exact ⟨l, m, s, g, w, g', t, v, c, hstands, hm, hs, hg, hw, hg', ht, hv, hc⟩

/-- The text leads up to a flag in an object that the marker keys: only blanks stand between the closing
quote and the colon. -/
def KeyedLeadsUp (marker key u : List Char) : Prop :=
  ∃ m s w w' g t, u = '"' :: (m ++ (s ++ '"' :: (w ++ ':' :: (w' ++ '\x7b' :: (g ++ t))))) ∧
    SameText m marker ∧ '"' ∉ s ∧ (∀ x ∈ w, isWhite x = true) ∧ (∀ x ∈ w', isWhite x = true) ∧
    '\x7d' ∉ g ∧ KeyLeadsUp key t

/-- An object behind the marker, under a key of its own. -/
def otherKey : String := "[\"m\"],o:\x7b\"k\":false\x7d"

/-- Nothing in it leads up to a flag in an object that a marker keys. -/
theorem not_keyedLeadsUp_otherKey {a v c l u marker key : List Char}
    (htext : otherKey.toList = a ++ v ++ c) (ha : a = l ++ u) : ¬ KeyedLeadsUp marker key u := by
  rintro ⟨m, s, w, w', g, t, rfl, -, -, hw, -, -, -⟩
  -- there is one brace, and one colon in front of it
  have hbrace : "[\"m\"],o:".toList ++ '\x7b' :: "\"k\":false\x7d".toList =
      (l ++ '"' :: (m ++ (s ++ '"' :: (w ++ ':' :: w')))) ++ '\x7b' :: (g ++ t ++ v ++ c) :=
    htext.trans (by simp [ha])
  obtain ⟨hfront, -, -⟩ := (List.append_cons_inj_of_notMem (by decide) (by decide)).1 hbrace
  have hcolon : "[\"m\"],o".toList ++ ':' :: [] = (l ++ '"' :: (m ++ (s ++ '"' :: w))) ++ ':' :: w' :=
    hfront.trans (by simp)
  obtain ⟨hquote, -, -⟩ := (List.append_cons_inj_of_notMem (by decide) (by decide)).1 hcolon
  -- so the last character in front of the colon is a quote or a blank, but it is a letter
  have hlast : ∀ x ∈ ('"' :: w).getLast?, x = '"' ∨ isWhite x = true := by
    intro x hx
    rcases List.mem_cons.1 (List.mem_of_getLast? hx) with rfl | hmem
    · exact .inl rfl
    · exact .inr (hw x hmem)
  have hletter : ('"' :: w).getLast? = some 'o' := by
    have hfull : (l ++ '"' :: (m ++ (s ++ '"' :: w))).getLast? = some 'o' := by
      rw [← hquote]
      rfl
    simpa [List.getLast?_append, List.getLast?_cons] using hfull
  exact absurd (hlast 'o' hletter) (by decide)

/-- Its flag stands behind the marker all the same. -/
theorem occurs_otherKey : FlagScope.keyedObject.Occurs "m".toList "k".toList false
    "[\"m\"],o:\x7b\"k\":".toList "false".toList "\x7d".toList where
  leadsUp := ⟨['['], "\"m\"],o:\x7b\"k\":".toList, rfl, ['m'], [], "],o".toList, [], [], "\"k\":".toList, rfl,
    rfl, by simp, by decide, by simp, by simp, ['k'], [], [], rfl, rfl, by simp, by simp⟩
  literal_eq := rfl
  after := by
    rintro _ ⟨⟩
    decide +kernel

/-- A rule for the objects of a marker. -/
def switchInObject : RuleDefinition := .flag "switch" "m" "k" false true .keyedObject

theorem exists_find_otherKey :
    ∃ rule, switchInObject.compile.Gives rule ∧ ∃ ch, ch ∈ rule.find otherKey := by
  obtain ⟨rule, hgives⟩ : ∃ rule, switchInObject.compile.Gives rule :=
    exists_gives (by decide) (by decide)
  refine ⟨rule, hgives, List.exists_mem_of_ne_nil _ fun hnil => ?_⟩
  exact (find_eq_nil_iff hgives otherKey).1 hnil _ _ _ rfl occurs_otherKey

/-- **The scope is missed:** the rule finds a flag in an object that is not keyed by the marker. -/
theorem keyedObject_under_other_key :
    ∃ rule, switchInObject.compile.Gives rule ∧ ∃ ch ∈ rule.find otherKey,
      ¬ ∃ a v c, ch.Stands otherKey a v c ∧
        ∃ l u, a = l ++ u ∧ KeyedLeadsUp "m".toList "k".toList u := by
  obtain ⟨rule, hgives, ch, hch⟩ := exists_find_otherKey
  refine ⟨rule, hgives, ch, hch, ?_⟩
  rintro ⟨a, v, c, hstands, l, u, ha, hu⟩
  exact not_keyedLeadsUp_otherKey hstands.text_eq ha hu

/-- The flag that it finds stands in the first object behind the marker. -/
theorem keyedObject_changes_otherKey :
    ∃ rule, switchInObject.compile.Gives rule ∧ rule.find otherKey ≠ [] ∧
      ∀ ch ∈ rule.find otherKey, ∃ l m s g w g' t v c,
        ch.Stands otherKey
          (l ++ '"' :: (m ++ (s ++ '"' :: (g ++ ':' :: (w ++ '\x7b' :: (g' ++ t)))))) v c ∧
        SameText m "m".toList ∧ '"' ∉ s ∧ ':' ∉ g ∧ (∀ x ∈ w, isWhite x = true) ∧ '\x7d' ∉ g' ∧
        KeyLeadsUp "k".toList t ∧ SameText v "false".toList ∧
        ∀ x ∈ c.head?, isWord x = false := by
  obtain ⟨rule, hgives, ch, hch⟩ := exists_find_otherKey
  exact ⟨rule, hgives, List.ne_nil_of_mem hch, keyedObject_changes hgives otherKey⟩

end FlagScope
end LiteralPatch
