import LiteralPatch.Proofs.Patch.Trail
import LiteralPatch.Proofs.Rule.FlagFound
import LiteralPatch.Proofs.Rule.Reworded

/-!
# Applying a flag rule until nothing is left

One application need not switch every flag.  A match runs from a marker to a flag behind it, and of several
flags behind one marker it takes one and passes over the others, which the next application may find.

What can be said is said of the words of the text.  A literal that is switched is a whole word, since a
colon or a blank stands in front of it (`FlagScope.Occurs.wholeWord`).  So an application leaves as many words
fewer that read the old literal as it makes changes, and applications come to an end: where the rule finds
nothing, no flag with the old literal stands (`FlagScope.applications_switch`).
-/

namespace LiteralPatch

open Pattern Pattern.Expr Text Unicode

/-- Applications of a rule one after the other, each to what the one before has left, with their changes. -/
inductive Applications (rule : Rule) : String → List (List Change) → String → Prop where
  | start {text : String} : Applications rule text [] text
  | next {text mid out : String} {changes : List Change} {later : List (List Change)}
    (happly : rule.apply text = .ok (some ⟨mid, changes⟩)) (hlater : Applications rule mid later out) :
    Applications rule text (changes :: later) out

/-- Every application has something to change. -/
theorem Applications.length_le {rule : Rule} {text out : String} {passes : List (List Change)}
    (h : Applications rule text passes out) : passes.length ≤ passes.flatten.length := by
  induction h with
  | start => simp
  | next happly _ ih =>
    obtain ⟨-, hne, -⟩ := Rule.apply_eq_some happly
    have hpos := List.length_pos_iff.2 hne
    rw [List.flatten_cons, List.length_append, List.length_cons]
    omega

namespace FlagScope

variable {scope : FlagScope} {name marker key : String} {old new : Bool} {rule : Rule}

/-- How many words of the text read the literal, up to case. -/
def literalCount (literal : Bool) (t : List Char) : Nat :=
  (wordRuns t).countP fun run => decide (SameText run (literalText literal).toList)

theorem literalText_isWord (literal : Bool) : ∀ x ∈ (literalText literal).toList, isWord x = true :=
  isWord_of_sameText (literalText_letters literal).2 rfl

/-- **An application leaves as many words fewer with the old literal as it makes changes.** -/
theorem literalCount_of_apply
    (h : (RuleDefinition.flag name marker key old new scope).compile.Gives rule) {text next : String}
    {changes : List Change} (happly : rule.apply text = .ok (some ⟨next, changes⟩)) :
    changes.length + literalCount old next.toList = literalCount old text.toList := by
  obtain ⟨out, hout⟩ := exists_rewrites h text
  obtain ⟨-, -, hne, -⟩ := exists_frames_of_gives h
  refine (hout.of_apply happly).countP_wordRuns (fun _ _ _ _ ho => ho.1.wholeWord) ?_ ?_
  · rintro a v w c ⟨-, rfl⟩
    exact ⟨(literalText_letters new).1, literalText_isWord new⟩
  · rintro a v w c ⟨ho, rfl⟩
    exact ⟨decide_eq_true ho.literal_eq, decide_eq_false (not_sameText_literalText hne)⟩

/-- So do several. -/
theorem literalCount_of_applications
    (h : (RuleDefinition.flag name marker key old new scope).compile.Gives rule) {text out : String}
    {passes : List (List Change)} (happlied : Applications rule text passes out) :
    passes.flatten.length + literalCount old out.toList = literalCount old text.toList := by
  induction happlied with
  | start => simp
  | next happly _ ih =>
    have hfirst := literalCount_of_apply h happly
    rw [List.flatten_cons, List.length_append]
    omega

/-- As long as a flag can be found, the rule can be applied once more, and so there is an end. -/
theorem exists_applications
    (h : (RuleDefinition.flag name marker key old new scope).compile.Gives rule) (text : String) :
    ∃ passes out, Applications rule text passes out ∧ rule.find out = [] := by
  induction hn : literalCount old text.toList using Nat.strong_induction_on generalizing text with
  | _ n ih =>
    obtain ⟨result, happly⟩ := (neverEmpty_of_gives h).exists_apply text
    cases result with
    | none => exact ⟨[], text, .start, Rule.apply_eq_none_iff.1 happly⟩
    | some made =>
      obtain ⟨mid, changes⟩ := made
      have hcount := literalCount_of_apply h happly
      obtain ⟨-, hne, -⟩ := Rule.apply_eq_some happly
      have hpos := List.length_pos_iff.2 hne
      obtain ⟨later, out, hlater, hdone⟩ := ih _ (by omega) mid rfl
      exact ⟨changes :: later, out, .next happly hlater, hdone⟩

/-- **Applied again and again, a flag rule switches every flag.**  There are no more applications than words
that read the old literal, each change takes one of these words away, and in the end no flag of the kind
stands in the text. -/
theorem applications_switch
    (h : (RuleDefinition.flag name marker key old new scope).compile.Gives rule) (text : String) :
    (∀ passes out, Applications rule text passes out →
      passes.flatten.length + literalCount old out.toList = literalCount old text.toList ∧
        passes.length ≤ literalCount old text.toList) ∧
      ∃ passes out, Applications rule text passes out ∧
        ∀ a v c, out.toList = a ++ v ++ c → ¬ scope.Occurs marker.toList key.toList old a v c := by
  constructor
  · intro passes out happlied
    have hcount := literalCount_of_applications h happlied
    have hlength := happlied.length_le
    exact ⟨hcount, by omega⟩
  · obtain ⟨passes, out, happlied, hdone⟩ := exists_applications h text
    exact ⟨passes, out, happlied, (find_eq_nil_iff h out).1 hdone⟩

end FlagScope
end LiteralPatch
