import LiteralPatch.Proofs.Rule.Rewriting
import LiteralPatch.Proofs.Text.WordRuns

/-!
# Changes that put words in place of words

Where every change puts a word in place of a whole word, the runs of the text stay apart, and each change is
one of a run.  So if all old words are of a kind, and no new word is, the text loses as many words of the
kind as there are changes (`Rewrites.countP_wordRuns`).
-/

namespace LiteralPatch

open Text Unicode

namespace Rewrites

variable {P : List Char → List Char → List Char → List Char → Prop} {l a b n c c' r r' : List Char}
  {chs : List Change}

/-- Behind a word, the first character stays. -/
theorem head?_eq (h : Rewrites P l r chs r') (hP : ∀ a v w c, P a v w c → WholeWord a v c)
    (hl : ∃ x ∈ l.getLast?, isWord x = true) : r'.head? = r.head? := by
  cases h with
  | none => rfl
  | @next l a b c c' ch chs hword =>
    cases a with
    | cons x a => rfl
    | nil =>
      obtain ⟨x, hx, hword'⟩ := hl
      have hout := (hP _ _ _ _ hword).before x (by rwa [List.append_nil])
      rw [hword'] at hout
      cases hout

/-- A word that is put in place of a whole word is one as well, whatever is rewritten behind it. -/
theorem wholeWord (h : Rewrites P (l ++ a ++ b) c chs c') (hP : ∀ a v w c, P a v w c → WholeWord a v c)
    (hold : WholeWord (l ++ a) b c) (hne : n ≠ []) (hnew : ∀ x ∈ n, isWord x = true) :
    WholeWord a n c' := by
  have hlast : ∃ x ∈ (l ++ a ++ b).getLast?, isWord x = true := by
    rw [List.getLast?_append_of_ne_nil _ hold.ne_nil]
    exact ⟨b.getLast hold.ne_nil, List.getLast_mem_getLast? hold.ne_nil,
      hold.isWord _ (List.getLast_mem hold.ne_nil)⟩
  exact ⟨hne, hnew, hold.of_append.before, by rw [h.head?_eq hP hlast]; exact hold.after⟩

/-- **Words of a kind that are replaced, and not brought in, become fewer by the number of the changes.** -/
theorem countP_wordRuns {kind : List Char → Bool} (h : Rewrites P l r chs r')
    (hP : ∀ a v w c, P a v w c → WholeWord a v c)
    (hnew : ∀ a v w c, P a v w c → w ≠ [] ∧ ∀ x ∈ w, isWord x = true)
    (hkind : ∀ a v w c, P a v w c → kind v = true ∧ kind w = false) :
    chs.length + (wordRuns r').countP kind = (wordRuns r).countP kind := by
  induction h with
  | none => simp
  | @next l a b c c' ch chs hword hb _ _ hrest ih =>
    have hold := hP _ _ _ _ hword
    obtain ⟨hne, hletters⟩ := hnew _ _ _ _ hword
    obtain ⟨hbefore, hafter⟩ := hkind _ _ _ _ hword
    rw [hold.of_append.wordRuns_eq, (hrest.wholeWord hP hold hne hletters).wordRuns_eq]
    simp only [List.countP_append, List.countP_cons, hbefore, hafter, List.length_cons, reduceIte,
      Bool.false_eq_true]
    omega

end Rewrites
end LiteralPatch
