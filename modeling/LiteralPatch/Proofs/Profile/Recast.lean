import LiteralPatch.Proofs.Rule.Reworded
import LiteralPatch.Profile

/-!
# What the built-in rules do to the words of a text

A built-in rule replaces whole words, and which replacement a word may suffer is settled by what stands
before it: a boolean behind one of the keys that rules open becomes `true`, one behind a key that they
shut becomes `false`, and what is returned becomes `true`.  `Recasts before v w` says this for one word,
given the runs before it.

## Why no word is replaced twice

The words that decide (keys, and words that end in `return`) are never replaced, nor are they among the
words that replacements bring in.  So a word is judged the same after every rule, and no word that a
replacement brings in can be replaced again at the same place (`Recasts.not_again`).

`RecastAt` relates the runs of a text to those of a rewritten one and keeps the places of the words that
have been replaced.  It is transitive, with the places of both (`RecastAt.trans`), and as no place comes
twice, every replacement shows in the end (`RecastAt.ne`).

The walk over a text that makes the changes of one rule is such a recasting (`Rewrites.recastAt`).
-/

namespace LiteralPatch

open Text Unicode

namespace Profile

/-- The keys of flags that are switched on. -/
def openKeys : List String := ["available", "enabled", "visible"]

/-- The keys of flags that are switched off. -/
def shutKeys : List String := ["requiresPro", "beta", "disabled", "hidden"]

/-- The limit that replaces smaller ones. -/
def raisedLimit : Nat := 200000

/-- The last run is a separator with a colon, and the one before it is one of the keys, up to case. -/
def Keyed (keys : List String) (before : List (List Char)) : Prop :=
  ∃ sep key rest, before = sep :: key :: rest ∧ ':' ∈ sep ∧ ∃ k ∈ keys, SameText key k.toList

/-- The last run is blank, and the one before it ends in `return`, up to case. -/
def Returned (before : List (List Char)) : Prop :=
  ∃ sep word rest, before = sep :: word :: rest ∧ (∀ c ∈ sep, isWhite c = true) ∧
    ∃ u v, word = u ++ v ∧ SameText v "return".toList

/-- Behind the given runs, the nearest first, the word `v` may become `w`. -/
inductive Recasts (before : List (List Char)) : List Char → List Char → Prop where
  | limit {v : List Char} (hdigits : ∀ c ∈ v, isDigit c = true)
    (hlength : 3 ≤ v.length ∧ v.length ≤ 6) (hvalue : Pattern.decimalValue v < raisedLimit) :
    Recasts before v "200000".toList
  | level {v : List Char} (h : v = ['0'] ∨ v = ['1']) : Recasts before v "2".toList
  | unlock {v : List Char} (hkey : Keyed openKeys before) (h : SameText v "false".toList) :
    Recasts before v "true".toList
  | lock {v : List Char} (hkey : Keyed shutKeys before) (h : SameText v "true".toList) :
    Recasts before v "false".toList
  | lift {v : List Char} (hreturn : Returned before)
    (h : SameText v "false".toList ∨ SameText v "null".toList) : Recasts before v "true".toList

/-- The words that replacements bring in. -/
def newWords : List (List Char) :=
  ["200000".toList, "2".toList, "true".toList, "false".toList]

theorem Recasts.mem_newWords {before : List (List Char)} {v w : List Char}
    (h : Recasts before v w) : w ∈ newWords := by
  cases h <;> decide

/-! ## Judging a word after other words have changed -/

/-- Two runs are equal, unless the second has been brought in. -/
def Steady (x y : List Char) : Prop := x = y ∨ y ∈ newWords

theorem Steady.eq {x y : List Char} (h : Steady x y) (hy : y ∉ newWords) : x = y :=
  h.resolve_right hy

theorem Keyed.steady {keys : List String} {b b' : List (List Char)} (h : Keyed keys b')
    (hb : List.Forall₂ Steady b b')
    (hkeys : ∀ k ∈ keys, ∀ w ∈ newWords, ¬ SameText w k.toList) : Keyed keys b := by
  obtain ⟨sep, key, rest, rfl, hsep, k, hk, hkey⟩ := h
  cases hb with
  | cons hsep' hb =>
    cases hb with
    | cons hkey' hb =>
      rw [hsep'.eq fun hmem => absurd hsep ((by decide : ∀ w ∈ newWords, ':' ∉ w) sep hmem),
        hkey'.eq fun hmem => hkeys k hk key hmem hkey]
      exact ⟨sep, key, _, rfl, hsep, k, hk, hkey⟩

/-- No word that is brought in ends in `return`. -/
theorem not_sameText_return {u v : List Char} (h : u ++ v ∈ newWords) :
    ¬ SameText v "return".toList := by
  intro hv
  have hlength := hv.length_eq
  have hshort : ∀ w ∈ newWords, w.length = 6 → ¬ SameText w "return".toList := by decide
  have hbound : ∀ w ∈ newWords, w.length ≤ 6 := by decide
  have hsum := hbound _ h
  rw [List.length_append, hlength] at hsum
  obtain rfl : u = [] := List.eq_nil_of_length_eq_zero (by
    have : "return".toList.length = 6 := rfl
    omega)
  exact hshort v h hlength hv

theorem Returned.steady {b b' : List (List Char)} (h : Returned b')
    (hb : List.Forall₂ Steady b b') : Returned b := by
  obtain ⟨sep, word, rest, rfl, hsep, u, v, rfl, hv⟩ := h
  cases hb with
  | cons hsep' hb =>
    cases hb with
    | cons hword' hb =>
      have hblank : sep ∉ newWords := fun hmem => absurd hsep
        ((by decide : ∀ w ∈ newWords, ¬ ∀ c ∈ w, isWhite c = true) sep hmem)
      rw [hsep'.eq hblank, hword'.eq fun hmem => not_sameText_return hmem hv]
      exact ⟨sep, u ++ v, _, rfl, hsep, u, v, rfl, hv⟩

/-- A word is judged as it was before other words changed. -/
theorem Recasts.steady {b b' : List (List Char)} {v w : List Char} (h : Recasts b' v w)
    (hb : List.Forall₂ Steady b b') : Recasts b v w := by
  cases h with
  | limit hdigits hlength hvalue => exact .limit hdigits hlength hvalue
  | level h => exact .level h
  | unlock hkey h => exact .unlock (hkey.steady hb (by decide)) h
  | lock hkey h => exact .lock (hkey.steady hb (by decide)) h
  | lift hreturn h => exact .lift (hreturn.steady hb) h

/-! ## No word is replaced twice -/

theorem Keyed.disjoint {b : List (List Char)} (h : Keyed openKeys b) : ¬ Keyed shutKeys b := by
  rintro ⟨sep', key', rest', hb, -, k', hk', hkey'⟩
  obtain ⟨sep, key, rest, rfl, -, k, hk, hkey⟩ := h
  obtain ⟨-, rfl, -⟩ : sep = sep' ∧ key = key' ∧ rest = rest' := by simpa using hb
  have hdistinct : ∀ k ∈ openKeys, ∀ k' ∈ shutKeys, ¬ SameText k.toList k'.toList := by decide
  exact hdistinct k hk k' hk' (hkey.symm.trans hkey')

theorem Returned.not_keyed {keys : List String} {b : List (List Char)} (h : Returned b) :
    ¬ Keyed keys b := by
  rintro ⟨sep', key', rest', hb, hcolon, -⟩
  obtain ⟨sep, word, rest, rfl, hsep, -⟩ := h
  obtain ⟨rfl, -⟩ : sep = sep' ∧ _ := by simpa using hb
  exact absurd (hsep ':' hcolon) (by decide)

theorem Recasts.ne {b : List (List Char)} {v w : List Char} (h : Recasts b v w) : v ≠ w := by
  rintro rfl
  cases h with
  | limit _ _ hvalue => exact absurd hvalue (by decide)
  | level h => exact absurd h (by decide)
  | unlock _ h => exact absurd h (by decide)
  | lock _ h => exact absurd h (by decide)
  | lift _ h => exact absurd h (by decide)

/-- **A word that has been brought in stays.** -/
theorem Recasts.not_again {b : List (List Char)} {v w x : List Char} (h : Recasts b v w) :
    ¬ Recasts b w x := by
  intro h'
  cases h with
  | limit _ _ _ =>
    cases h' with
    | limit _ _ hvalue => exact absurd hvalue (by decide)
    | level h => exact absurd h (by decide)
    | unlock _ h => exact absurd h (by decide)
    | lock _ h => exact absurd h (by decide)
    | lift _ h => exact absurd h (by decide)
  | level _ =>
    cases h' with
    | limit _ hlength _ => exact absurd hlength (by decide)
    | level h => exact absurd h (by decide)
    | unlock _ h => exact absurd h (by decide)
    | lock _ h => exact absurd h (by decide)
    | lift _ h => exact absurd h (by decide)
  | unlock hkey _ =>
    cases h' with
    | limit hdigits _ _ => exact absurd hdigits (by decide)
    | level h => exact absurd h (by decide)
    | unlock _ h => exact absurd h (by decide)
    | lock hkey' _ => exact hkey.disjoint hkey'
    | lift _ h => exact absurd h (by decide)
  | lock hkey _ =>
    cases h' with
    | limit hdigits _ _ => exact absurd hdigits (by decide)
    | level h => exact absurd h (by decide)
    | unlock hkey' _ => exact hkey'.disjoint hkey
    | lock _ h => exact absurd h (by decide)
    | lift hreturn _ => exact hreturn.not_keyed hkey
  | lift hreturn _ =>
    cases h' with
    | limit hdigits _ _ => exact absurd hdigits (by decide)
    | level h => exact absurd h (by decide)
    | unlock _ h => exact absurd h (by decide)
    | lock hkey' _ => exact hreturn.not_keyed hkey'
    | lift _ h => exact absurd h (by decide)

/-! ## Lists of runs -/

/-- Behind the given runs, some of the first runs have been recast, which gives the second. -/
inductive Recast : List (List Char) → List (List Char) → List (List Char) → Prop where
  | nil {b : List (List Char)} : Recast b [] []
  | keep {b xs ys : List (List Char)} {x : List Char} (h : Recast (x :: b) xs ys) :
    Recast b (x :: xs) (x :: ys)
  | swap {b xs ys : List (List Char)} {x y : List Char} (hxy : Recasts b x y)
    (h : Recast (x :: b) xs ys) : Recast b (x :: xs) (y :: ys)

/-- The same, with the places of the runs that have been recast.  The place of a run is the number of runs
in front of it. -/
inductive RecastAt :
    List (List Char) → List (List Char) → List Nat → List (List Char) → Prop where
  | nil {b : List (List Char)} : RecastAt b [] [] []
  | keep {b xs ys : List (List Char)} {is : List Nat} {x : List Char}
    (h : RecastAt (x :: b) xs is ys) : RecastAt b (x :: xs) is (x :: ys)
  | swap {b xs ys : List (List Char)} {is : List Nat} {x y : List Char} (hxy : Recasts b x y)
    (h : RecastAt (x :: b) xs is ys) : RecastAt b (x :: xs) (b.length :: is) (y :: ys)

namespace RecastAt

variable {b b' xs ys zs : List (List Char)} {is js : List Nat}

theorem recast (h : RecastAt b xs is ys) : Recast b xs ys := by
  induction h with
  | nil => exact .nil
  | keep _ ih => exact .keep ih
  | swap hxy _ ih => exact .swap hxy ih

theorem refl (b xs : List (List Char)) : RecastAt b xs [] xs := by
  induction xs generalizing b with
  | nil => exact .nil
  | cons x xs ih => exact .keep (ih _)

/-- Runs that are kept in front. -/
theorem append_left (as : List (List Char)) (h : RecastAt (as.reverse ++ b) xs is ys) :
    RecastAt b (as ++ xs) is (as ++ ys) := by
  induction as generalizing b with
  | nil => exact h
  | cons a as ih => exact .keep (ih (by simpa using h))

/-- Without a place, nothing changes. -/
theorem eq_of_nil (h : RecastAt b xs [] ys) : xs = ys := by
  generalize his : [] = is at h
  induction h with
  | nil => rfl
  | keep _ ih => rw [ih his]
  | swap _ _ _ => cases his

/-- Every replacement shows. -/
theorem ne (h : RecastAt b xs is ys) (his : is ≠ []) : xs ≠ ys := by
  induction h with
  | nil => exact absurd rfl his
  | keep _ ih => exact fun heq => ih his (List.cons.inj heq).2
  | swap hxy _ _ => exact fun heq => hxy.ne (List.cons.inj heq).1

theorem length_le_of_mem (h : RecastAt b xs is ys) : ∀ i ∈ is, b.length ≤ i := by
  induction h with
  | nil => exact fun i hi => nomatch hi
  | keep _ ih =>
    intro i hi
    have hle := ih i hi
    rw [List.length_cons] at hle
    omega
  | swap _ _ ih =>
    intro i hi
    rcases List.mem_cons.1 hi with rfl | hi
    · exact Nat.le_refl _
    · have hle := ih i hi
      rw [List.length_cons] at hle
      omega

/-- The places are all different. -/
theorem nodup (h : RecastAt b xs is ys) : is.Nodup := by
  induction h with
  | nil => exact .nil
  | keep _ ih => exact ih
  | swap _ h ih =>
    refine List.nodup_cons.2 ⟨fun hmem => ?_, ih⟩
    have hle := h.length_le_of_mem _ hmem
    rw [List.length_cons] at hle
    omega

/-- **Recasting twice is recasting, and each place is recast by one of the two only.** -/
theorem trans (h : RecastAt b xs is ys) (h' : RecastAt b' ys js zs) (hb : List.Forall₂ Steady b b') :
    ∃ ks, RecastAt b xs ks zs ∧ ks.Perm (is ++ js) := by
  induction h generalizing b' js zs with
  | nil =>
    cases h'
    exact ⟨[], .nil, .nil⟩
  | @keep b xs ys is x h ih =>
    cases h' with
    | keep h' =>
      obtain ⟨ks, hks, hperm⟩ := ih h' (.cons (.inl rfl) hb)
      exact ⟨ks, .keep hks, hperm⟩
    | swap hxy h' =>
      obtain ⟨ks, hks, hperm⟩ := ih h' (.cons (.inl rfl) hb)
      refine ⟨_, .swap (hxy.steady hb) hks, ?_⟩
      rw [hb.length_eq]
      exact (hperm.cons _).trans List.perm_middle.symm
  | swap hxy h ih =>
    cases h' with
    | keep h' =>
      obtain ⟨ks, hks, hperm⟩ := ih h' (.cons (.inr hxy.mem_newWords) hb)
      exact ⟨_, .swap hxy hks, hperm.cons _⟩
    | swap hyz _ => exact absurd (hyz.steady hb) hxy.not_again

end RecastAt

/-! ## From rules to runs -/

/-- A word that stands between two texts may become another one. -/
def RecastsWord (a v w c : List Char) : Prop :=
  WholeWord a v c ∧ Recasts (wordRuns a).reverse v w

theorem newWords_isWord : ∀ w ∈ newWords, w ≠ [] ∧ ∀ c ∈ w, isWord c = true := by decide +kernel

end Profile

open Profile

/-- The change puts a word in place of the `i`-th run of the text, which is a word. -/
structure Change.RewritesRun (text : List Char) (ch : Change) (i : Nat) : Prop where
  isWord_old : ∀ x ∈ ch.oldValue.toList, isWord x = true
  isWord_new : ∀ x ∈ ch.newValue.toList, isWord x = true
  stands : ∃ before after, wordRuns text = before ++ ch.oldValue.toList :: after ∧
    before.length = i ∧
      ch.span = ⟨width before.flatten, width (before.flatten ++ ch.oldValue.toList)⟩

/-- Of two beginnings of the runs with the same width none is longer. -/
theorem Text.length_le_of_width_eq {t : List Char} {as bs : List (List Char)}
    (ha : as <+: wordRuns t) (hb : bs <+: wordRuns t) (h : width as.flatten = width bs.flatten) :
    as.length ≤ bs.length := by
  by_contra hlt
  obtain ⟨rest, rfl⟩ := List.prefix_of_prefix_length_le hb ha (by omega)
  cases rest with
  | nil => simp at hlt
  | cons run rest =>
    have hrun : run ≠ [] := by
      rintro rfl
      exact nil_notMem_wordRuns t (ha.subset (by simp))
    have hpos := width_pos hrun
    simp only [List.flatten_append, List.flatten_cons, width_append] at h
    omega

/-- **A change rewrites one run only.** -/
theorem Change.RewritesRun.unique {text : List Char} {ch : Change} {i j : Nat}
    (hi : ch.RewritesRun text i) (hj : ch.RewritesRun text j) : i = j := by
  obtain ⟨as, _, has, rfl, hspan⟩ := hi.stands
  obtain ⟨bs, _, hbs, rfl, hspan'⟩ := hj.stands
  have hwidth : width as.flatten = width bs.flatten := by
    rw [hspan] at hspan'
    exact (Span.mk.inj hspan').1
  have ha : as <+: wordRuns text := ⟨_, has.symm⟩
  have hb : bs <+: wordRuns text := ⟨_, hbs.symm⟩
  exact Nat.le_antisymm (length_le_of_width_eq ha hb hwidth) (length_le_of_width_eq hb ha hwidth.symm)

namespace Rewrites

variable {l r r' : List Char} {chs : List Change}

/-- **A walk that recasts words recasts the runs of the text** at the places of its changes. -/
theorem recastAt (h : Rewrites RecastsWord l r chs r') (hl : Divided l r) :
    ∃ is, RecastAt (wordRuns l).reverse (wordRuns r) is (wordRuns r') ∧
      List.Forall₂ (Change.RewritesRun (l ++ r)) chs is := by
  induction h with
  | none => exact ⟨[], .refl _ _, .nil⟩
  | @next l a b c c' ch chs hword hb hspan hold hrest ih =>
    obtain ⟨hwhole, hrecasts⟩ := hword
    obtain ⟨hne, hnew⟩ := newWords_isWord _ hrecasts.mem_newWords
    have hbehind : Divided (l ++ a ++ b) c := by
      intro x hx
      rw [List.getLast?_append_of_ne_nil _ hb] at hx
      exact hwhole.divided_after x hx
    have hwhole' : WholeWord a ch.newValue.toList c' :=
      hrest.wholeWord (fun _ _ _ _ h => h.1) hwhole hne hnew
    have hla : Divided l a := by
      rw [List.append_assoc] at hl
      exact hl.left
    have hruns : (wordRuns (l ++ a ++ b)).reverse =
        b :: ((wordRuns a).reverse ++ (wordRuns l).reverse) := by
      rw [wordRuns_append hwhole.divided_before, wordRuns_append hla,
        wordRuns_of_forall hb hwhole.isWord]
      simp
    have hplace : (wordRuns (l ++ a)).length = ((wordRuns a).reverse ++ (wordRuns l).reverse).length := by
      rw [wordRuns_append hla, ← List.reverse_append, List.length_reverse]
    obtain ⟨is, hrecast, hchanges⟩ := ih hbehind
    rw [hruns] at hrecast
    have hrewrites : ch.RewritesRun (l ++ (a ++ b ++ c)) (wordRuns (l ++ a)).length := by
      refine ⟨by simpa [hold] using hwhole.isWord, hnew, wordRuns (l ++ a), wordRuns c, ?_, rfl, ?_⟩
      · rw [hold, String.toList_ofList, ← hwhole.wordRuns_eq]
        simp
      · rw [hspan, hold, String.toList_ofList, flatten_wordRuns]
    rw [wordRuns_append hla, List.reverse_append] at hrecasts
    rw [hwhole.of_append.wordRuns_eq, hwhole'.wordRuns_eq]
    refine ⟨_ :: is, RecastAt.append_left _ (.swap hrecasts hrecast), ?_⟩
    rw [← hplace]
    exact .cons hrewrites (by simpa using hchanges)

end Rewrites

end LiteralPatch
