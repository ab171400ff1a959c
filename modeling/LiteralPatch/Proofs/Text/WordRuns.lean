import LiteralPatch.Unicode.Word
import Mathlib.Data.List.SplitBy

/-!
# A text as words and separators

`wordRuns` cuts a text into maximal runs of word characters and of others, which alternate.  A cut is made
exactly where a word begins or ends, so the runs of a text that is divided at such a place are those of its
two parts (`wordRuns_append`); and a text that stands between two others as a whole word is one of the runs
(`WholeWord.wordRuns_eq`).
-/

namespace LiteralPatch
namespace Text

open Unicode

/-- The maximal runs of word characters and of other characters, in order. -/
def wordRuns (t : List Char) : List (List Char) :=
  t.splitBy fun a b => isWord a == isWord b

@[simp] theorem wordRuns_nil : wordRuns [] = [] := rfl

theorem flatten_wordRuns (t : List Char) : (wordRuns t).flatten = t :=
  List.flatten_splitBy _ t

theorem wordRuns_injective {t u : List Char} (h : wordRuns t = wordRuns u) : t = u := by
  rw [← flatten_wordRuns t, h, flatten_wordRuns]

theorem nil_notMem_wordRuns (t : List Char) : [] ∉ wordRuns t :=
  List.nil_notMem_splitBy _ t

/-- How many words the text has. -/
def wordCount (t : List Char) : Nat :=
  (wordRuns t).countP fun run => run.all isWord

/-- A word begins or ends between the two texts, unless one of them is empty. -/
def Divided (l r : List Char) : Prop :=
  ∀ x ∈ l.getLast?, ∀ y ∈ r.head?, isWord x ≠ isWord y

theorem divided_nil_left (r : List Char) : Divided [] r := fun _ hx => nomatch hx

theorem divided_nil_right (l : List Char) : Divided l [] := fun _ _ _ hy => nomatch hy

theorem Divided.left {l a b : List Char} (h : Divided l (a ++ b)) : Divided l a := by
  cases a with
  | nil => exact divided_nil_right l
  | cons c a => exact h

/-- **Runs do not reach across a place where a word begins or ends.** -/
theorem wordRuns_append {l r : List Char} (h : Divided l r) :
    wordRuns (l ++ r) = wordRuns l ++ wordRuns r :=
  List.splitBy_append fun x hx y hy => beq_eq_false_iff_ne.2 (h x hx y hy)

/-- A text whose characters are of one kind is one run. -/
theorem wordRuns_of_forall {w : List Char} (hne : w ≠ []) {kind : Bool}
    (h : ∀ c ∈ w, isWord c = kind) : wordRuns w = [w] := by
  refine List.splitBy_of_isChain hne ?_
  refine List.Pairwise.isChain (List.pairwise_of_forall_mem_list fun a ha b hb => ?_)
  rw [h a ha, h b hb]
  exact beq_self_eq_true kind

/-- No word ends with a stretch of characters that do not belong to words. -/
theorem getLast?_of_not_isWord {a u : List Char} (hne : u ≠ []) (hu : ∀ x ∈ u, isWord x = false) :
    ∀ x ∈ (a ++ u).getLast?, isWord x = false := by
  rw [List.getLast?_append_of_ne_nil a hne]
  exact fun x hx => hu x (List.mem_of_mem_getLast? hx)

/-- Between the texts `a` and `c`, the text `b` is a word from its beginning to its end. -/
structure WholeWord (a b c : List Char) : Prop where
  ne_nil : b ≠ []
  isWord : ∀ x ∈ b, Unicode.isWord x = true
  before : ∀ x ∈ a.getLast?, Unicode.isWord x = false
  after : ∀ x ∈ c.head?, Unicode.isWord x = false

namespace WholeWord

variable {a b c : List Char}

theorem divided_before (h : WholeWord a b c) : Divided a b := by
  intro x hx y hy
  rw [h.before x hx, h.isWord y (List.mem_of_mem_head? hy)]
  exact Bool.false_ne_true

theorem divided_after (h : WholeWord a b c) : Divided b c := by
  intro x hx y hy
  rw [h.isWord x (List.mem_of_mem_getLast? hx), h.after y hy]
  exact Bool.false_ne_true.symm

/-- **A whole word is one of the runs.** -/
theorem wordRuns_eq (h : WholeWord a b c) :
    wordRuns (a ++ b ++ c) = wordRuns a ++ b :: wordRuns c := by
  have hafter : Divided (a ++ b) c := by
    intro x hx
    rw [List.getLast?_append_of_ne_nil a h.ne_nil] at hx
    exact h.divided_after x hx
  rw [wordRuns_append hafter, wordRuns_append h.divided_before,
    wordRuns_of_forall h.ne_nil h.isWord, List.append_assoc]
  rfl

/-- A whole word behind a longer text is one behind the end of that text. -/
theorem of_append {l : List Char} (h : WholeWord (l ++ a) b c) : WholeWord a b c where
  ne_nil := h.ne_nil
  isWord := h.isWord
  before x hx := by
    refine h.before x ?_
    cases a with
    | nil => cases hx
    | cons d a => rwa [List.getLast?_append_of_ne_nil l (List.cons_ne_nil d a)]
  after := h.after

end WholeWord
end Text
end LiteralPatch
