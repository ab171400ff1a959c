import LiteralPatch.Proofs.Profile.WholeWords

/-!
# Two texts side by side

When a built-in rule has made its changes, the new text differs from the old one in some whole words.  A
list of tiles holds both texts: a tile is a character of both or a word of the old text with the one that
took its place.  So the places of the two texts that correspond to each other are the places between
tiles, and what is said of both texts goes by recursion over the tiles.

The swapped words are *bland*: digits, or a literal up to case (`Substituted.bland`).  They are whole words
(`Parted`), hence a word begins or ends at a place of one text exactly if one does at the corresponding place
of the other (`isWordAt_getLast?`, `isWordAt_head?`).

The changes of a rule give such a list of tiles, with a tile for each change (`Rewrites.exists_tiles`).
-/

namespace LiteralPatch

open Text Unicode Pattern

namespace Profile

/-! ## Bland words -/

/-- The literals that rules replace. -/
def literals : List (List Char) := ["false".toList, "true".toList, "null".toList]

/-- Digits, or one of the literals up to case. -/
def Bland (v : List Char) : Prop :=
  (v ≠ [] ∧ ∀ c ∈ v, isDigit c = true) ∨
    ∃ w ∈ literals, SameText v w

/-- The first character of a literal. -/
theorem exists_head_of_literal {v w : List Char} (hw : w ∈ literals) (h : SameText v w) :
    ∃ c u, v = c :: u ∧ ∃ d ∈ ['f', 't', 'n'], SameFold c d := by
  simp only [literals, List.mem_cons, List.not_mem_nil, or_false] at hw
  rcases hw with rfl | rfl | rfl
  · obtain ⟨c, u, rfl, hfold, -⟩ := sameText_cons.1 h
    exact ⟨c, u, rfl, 'f', by simp, hfold⟩
  · obtain ⟨c, u, rfl, hfold, -⟩ := sameText_cons.1 h
    exact ⟨c, u, rfl, 't', by simp, hfold⟩
  · obtain ⟨c, u, rfl, hfold, -⟩ := sameText_cons.1 h
    exact ⟨c, u, rfl, 'n', by simp, hfold⟩

theorem Bland.isWord {v : List Char} (h : Bland v) : ∀ c ∈ v, isWord c = true := by
  rcases h with ⟨-, h⟩ | ⟨w, hw, h⟩
  · exact fun c hc => isWord_of_isDigit (h c hc)
  · refine isWord_of_sameText ?_ h
    have hletters : ∀ w ∈ literals, w ⊆ letters := by decide
    exact hletters w hw

theorem Bland.ne_nil {v : List Char} (h : Bland v) : v ≠ [] := by
  rcases h with ⟨h, -⟩ | ⟨w, hw, h⟩
  · exact h
  · obtain ⟨c, u, rfl, -⟩ := exists_head_of_literal hw h
    exact List.cons_ne_nil c u

/-- What is substituted is bland, and so is what takes its place. -/
theorem Substituted.bland {v w : List Char} (h : Substituted v w) : Bland v ∧ Bland w := by
  cases h with
  | limit hdigits hlength =>
    refine ⟨.inl ⟨?_, hdigits⟩, .inl (by decide)⟩
    rintro rfl
    exact absurd hlength.1 (by decide)
  | level h =>
    refine ⟨.inl ?_, .inl (by decide)⟩
    rcases h with rfl | rfl <;> decide
  | unlock h => exact ⟨.inr ⟨_, by decide, h⟩, .inr ⟨_, by decide, rfl⟩⟩
  | lock h => exact ⟨.inr ⟨_, by decide, h⟩, .inr ⟨_, by decide, rfl⟩⟩
  | lift h => exact ⟨.inr ⟨_, by decide, h⟩, .inr ⟨_, by decide, rfl⟩⟩

theorem Recasts.substituted {before : List (List Char)} {v w : List Char} (h : Recasts before v w) :
    Substituted v w := by
  cases h with
  | limit hdigits hlength hvalue => exact .limit hdigits hlength hvalue
  | level h => exact .level h
  | unlock _ h => exact .unlock h
  | lock _ h => exact .lock h
  | lift _ h => exact h.elim .unlock .lift

/-! ## Tiles -/

/-- A character of both texts, or a word of the old text with the word that takes its place. -/
inductive Tile where
  | keep (c : Char)
  | swap (v w : List Char) (h : Substituted v w)

namespace Tile

def old : Tile → List Char
  | keep c => [c]
  | swap v _ _ => v

def new : Tile → List Char
  | keep c => [c]
  | swap _ w _ => w

theorem old_ne_nil (t : Tile) : t.old ≠ [] := by
  cases t with
  | keep c => exact List.cons_ne_nil c []
  | swap v w h => exact h.bland.1.ne_nil

theorem new_ne_nil (t : Tile) : t.new ≠ [] := by
  cases t with
  | keep c => exact List.cons_ne_nil c []
  | swap v w h => exact h.bland.2.ne_nil

/-- Both sides of a tile are of one kind. -/
theorem exists_kind (t : Tile) :
    ∃ kind, (∀ c ∈ t.old, isWord c = kind) ∧ ∀ c ∈ t.new, isWord c = kind := by
  cases t with
  | keep c => exact ⟨isWord c, by simp [old], by simp [new]⟩
  | swap v w h => exact ⟨true, h.bland.1.isWord, h.bland.2.isWord⟩

end Tile

/-- The old text. -/
def oldText (ts : List Tile) : List Char := ts.flatMap Tile.old

/-- The new text. -/
def newText (ts : List Tile) : List Char := ts.flatMap Tile.new

section Tiles

variable {as bs ts : List Tile} {l r : List Char}

@[simp] theorem oldText_nil : oldText [] = [] := rfl

@[simp] theorem newText_nil : newText [] = [] := rfl

@[simp] theorem oldText_cons (t : Tile) : oldText (t :: ts) = t.old ++ oldText ts := rfl

@[simp] theorem newText_cons (t : Tile) : newText (t :: ts) = t.new ++ newText ts := rfl

@[simp] theorem oldText_append : oldText (as ++ bs) = oldText as ++ oldText bs :=
  List.flatMap_append

@[simp] theorem newText_append : newText (as ++ bs) = newText as ++ newText bs :=
  List.flatMap_append

@[simp] theorem oldText_keeps (cs : List Char) : oldText (cs.map .keep) = cs := by
  induction cs with
  | nil => rfl
  | cons c cs ih => rw [List.map_cons, oldText_cons, ih, Tile.old, List.singleton_append]

@[simp] theorem newText_keeps (cs : List Char) : newText (cs.map .keep) = cs := by
  induction cs with
  | nil => rfl
  | cons c cs ih => rw [List.map_cons, newText_cons, ih, Tile.new, List.singleton_append]

theorem isWordAt_getLast?_of_kind {a v : List Char} {kind : Bool} (hne : v ≠ [])
    (h : ∀ c ∈ v, isWord c = kind) : Assertion.isWordAt true (a ++ v).getLast? = kind := by
  rw [List.getLast?_append_of_ne_nil a hne, List.getLast?_eq_some_getLast hne]
  exact h _ (List.getLast_mem hne)

theorem isWordAt_head?_of_kind {v c : List Char} {kind : Bool} (hne : v ≠ [])
    (h : ∀ c ∈ v, isWord c = kind) : Assertion.isWordAt true (v ++ c).head? = kind := by
  cases v with
  | nil => exact absurd rfl hne
  | cons x v => exact h x List.mem_cons_self

/-- **A word reaches to a place in one text as it does in the other.** -/
theorem isWordAt_getLast? (as : List Tile) :
    Assertion.isWordAt true (oldText as).getLast? = Assertion.isWordAt true (newText as).getLast? := by
  rcases List.eq_nil_or_concat as with rfl | ⟨as, t, rfl⟩
  · rfl
  · obtain ⟨kind, hold, hnew⟩ := t.exists_kind
    rw [List.concat_eq_append, oldText_append, newText_append, oldText_cons, newText_cons, oldText_nil, newText_nil,
      List.append_nil, List.append_nil, isWordAt_getLast?_of_kind t.old_ne_nil hold,
      isWordAt_getLast?_of_kind t.new_ne_nil hnew]

/-- **A word goes on behind a place in one text as it does in the other.** -/
theorem isWordAt_head? (bs : List Tile) :
    Assertion.isWordAt true (oldText bs).head? = Assertion.isWordAt true (newText bs).head? := by
  cases bs with
  | nil => rfl
  | cons t bs =>
    obtain ⟨kind, hold, hnew⟩ := t.exists_kind
    rw [oldText_cons, newText_cons, isWordAt_head?_of_kind t.old_ne_nil hold,
      isWordAt_head?_of_kind t.new_ne_nil hnew]

/-- Where one place is not before another on one side, there are tiles in between. -/
theorem exists_between_of {side : Tile → List Char} (hside : ∀ t, side t ≠ []) {as' bs' : List Tile}
    (h : as ++ bs = as' ++ bs') (hle : width (as.flatMap side) ≤ width (as'.flatMap side)) :
    ∃ ms, as' = as ++ ms := by
  rcases List.append_eq_append_iff.1 h with ⟨ms, rfl, -⟩ | ⟨ms, rfl, -⟩
  · exact ⟨ms, rfl⟩
  · cases ms with
    | nil => exact ⟨[], by simp⟩
    | cons t ms =>
      have hpos := width_pos (hside t)
      simp only [List.flatMap_append, List.flatMap_cons, width_append] at hle
      omega

/-- Where one place is not before another in the old text, there are tiles in between. -/
theorem exists_between {as' bs' : List Tile} (h : as ++ bs = as' ++ bs')
    (hle : width (oldText as) ≤ width (oldText as')) : ∃ ms, as' = as ++ ms :=
  exists_between_of Tile.old_ne_nil h hle

/-! ## Whole words -/

/-- Behind the text `l`, every swapped word is a word of the old text from its beginning to its end. -/
def Parted : List Char → List Tile → Prop
  | _, [] => True
  | l, .keep c :: ts => Parted (l ++ [c]) ts
  | l, .swap v _ _ :: ts => WholeWord l v (oldText ts) ∧ Parted (l ++ v) ts

theorem Parted.drop (h : Parted l (as ++ bs)) : Parted (l ++ oldText as) bs := by
  induction as generalizing l with
  | nil => simpa using h
  | cons t as ih =>
    cases t with
    | keep c => simpa [Tile.old] using ih h
    | swap v w hvw => simpa [Tile.old] using ih h.2

/-- Around a swapped word a word neither reaches to it nor goes on behind it, in either text. -/
theorem Parted.edges {v w : List Char} {h : Substituted v w}
    (hts : Parted [] (as ++ .swap v w h :: bs)) :
    (Assertion.isWordAt true (oldText as).getLast? = false ∧
      Assertion.isWordAt true (newText as).getLast? = false) ∧
    (∀ x ∈ (oldText bs).head?, isWord x = false) ∧ ∀ x ∈ (newText bs).head?, isWord x = false := by
  have hwhole : WholeWord (oldText as) v (oldText bs) := by simpa using hts.drop.1
  have hbefore := isWordAt_eq_false_iff.2 hwhole.before
  have hafter := isWordAt_eq_false_iff.2 hwhole.after
  exact ⟨⟨hbefore, by rw [← isWordAt_getLast?, hbefore]⟩, hwhole.after,
    isWordAt_eq_false_iff.1 (by rw [← isWordAt_head?, hafter])⟩

/-! ## The changes -/

/-- Behind the text `l`, `P` holds of what stands before each swapped word, of the word with the one in its
place and of what stands behind. -/
def Swapped (P : List Char → List Char → List Char → List Char → Prop) : List Char → List Tile → Prop
  | _, [] => True
  | l, .keep c :: ts => Swapped P (l ++ [c]) ts
  | l, .swap v w _ :: ts => P l v w (oldText ts) ∧ Swapped P (l ++ v) ts

/-- The changes from the old text to the new one, behind the text `l`. -/
def changesOf : List Char → List Tile → List Change
  | _, [] => []
  | l, .keep c :: ts => changesOf (l ++ [c]) ts
  | l, .swap v w _ :: ts =>
    ⟨String.ofList v, String.ofList w, ⟨width l, width (l ++ v)⟩, .primary⟩ :: changesOf (l ++ v) ts

variable {P : List Char → List Char → List Char → List Char → Prop}

theorem Swapped.parted (h : Swapped P l ts) (hP : ∀ a v w c, P a v w c → WholeWord a v c) :
    Parted l ts := by
  induction ts generalizing l with
  | nil => trivial
  | cons t ts ih =>
    cases t with
    | keep c => exact ih h
    | swap v w hvw => exact ⟨hP _ _ _ _ h.1, ih h.2⟩

theorem Swapped.of_split {v w : List Char} {h : Substituted v w}
    (hts : Swapped P l (as ++ .swap v w h :: bs)) : P (l ++ oldText as) v w (oldText bs) := by
  induction as generalizing l with
  | nil => simpa using hts.1
  | cons t as ih =>
    cases t with
    | keep c => simpa [Tile.old] using ih hts
    | swap v' w' h' => simpa [Tile.old] using ih hts.2

theorem swapped_keeps_append {cs : List Char} :
    Swapped P l (cs.map .keep ++ ts) ↔ Swapped P (l ++ cs) ts := by
  induction cs generalizing l with
  | nil => simp
  | cons c cs ih =>
    rw [List.map_cons, List.cons_append, Swapped, ih]
    simp

theorem changesOf_append : changesOf l (as ++ bs) = changesOf l as ++ changesOf (l ++ oldText as) bs := by
  induction as generalizing l with
  | nil => simp [changesOf]
  | cons t as ih => cases t <;> simp [changesOf, ih, Tile.old]

@[simp] theorem changesOf_keeps (cs : List Char) : changesOf l (cs.map .keep) = [] := by
  induction cs generalizing l with
  | nil => rfl
  | cons c cs ih => exact ih

/-- Each change is of a swapped word. -/
theorem exists_of_mem_changesOf {ch : Change} (h : ch ∈ changesOf l ts) :
    ∃ as v w h bs, ts = as ++ .swap v w h :: bs ∧
      ch.span = ⟨width (l ++ oldText as), width (l ++ oldText as ++ v)⟩ := by
  induction ts generalizing l with
  | nil => cases h
  | cons t ts ih =>
    cases t with
    | keep c =>
      obtain ⟨as, v, w, hvw, bs, rfl, hspan⟩ := ih h
      exact ⟨.keep c :: as, v, w, hvw, bs, rfl, by rw [hspan]; simp [Tile.old]⟩
    | swap v w hvw =>
      rcases List.mem_cons.1 h with rfl | h
      · exact ⟨[], v, w, hvw, ts, rfl, by simp⟩
      · obtain ⟨as, v', w', hvw', bs, rfl, hspan⟩ := ih h
        exact ⟨.swap v w hvw :: as, v', w', hvw', bs, rfl, by rw [hspan]; simp [Tile.old]⟩

end Tiles
end Profile

open Profile

/-- **The changes of a walk that substitutes words give tiles for both texts,** with a swapped word for each
change. -/
theorem Rewrites.exists_tiles_of {P : List Char → List Char → List Char → List Char → Prop}
    (hP : ∀ a v w c, P a v w c → Substituted v w) {l r r' : List Char} {chs : List Change}
    (h : Rewrites P l r chs r') :
    ∃ ts, oldText ts = r ∧ newText ts = r' ∧ Swapped P l ts ∧
      chs.map Rule.edit = (changesOf l ts).map Rule.edit := by
  induction h with
  | @none l r =>
    refine ⟨r.map .keep, oldText_keeps r, newText_keeps r, ?_, by rw [changesOf_keeps]⟩
    rw [← List.append_nil (r.map Tile.keep), swapped_keeps_append]
    trivial
  | @next l a b c c' ch chs hword hb hspan hold hrest ih =>
    obtain ⟨ts, rfl, rfl, hswapped, hchs⟩ := ih
    refine ⟨a.map .keep ++ .swap b ch.newValue.toList (hP _ _ _ _ hword) :: ts, by simp [Tile.old],
      by simp [Tile.new], ?_, ?_⟩
    · rw [swapped_keeps_append]
      exact ⟨hword, hswapped⟩
    · rw [changesOf_append, changesOf_keeps, oldText_keeps, List.nil_append, changesOf, List.map_cons,
        List.map_cons, hchs, Rule.edit, Rule.edit, hspan, hold, String.ofList_toList]

/-- The same for a walk that recasts words. -/
theorem Rewrites.exists_tiles {l r r' : List Char} {chs : List Change}
    (h : Rewrites RecastsWord l r chs r') :
    ∃ ts, oldText ts = r ∧ newText ts = r' ∧ Parted l ts ∧
      ∀ ch ∈ chs, ∃ as v w h bs, ts = as ++ .swap v w h :: bs ∧
        ch.span.start = width (l ++ oldText as) := by
  obtain ⟨ts, hold, hnew, hswapped, hchs⟩ := h.exists_tiles_of fun _ _ _ _ hword => hword.2.substituted
  refine ⟨ts, hold, hnew, hswapped.parted fun _ _ _ _ hword => hword.1, fun ch hch => ?_⟩
  obtain ⟨ch', hch', hedit⟩ := List.mem_map.1 (hchs ▸ List.mem_map_of_mem hch)
  obtain ⟨as, v, w, hvw, bs, hts, hspan⟩ := exists_of_mem_changesOf hch'
  have hspans : ch'.span = ch.span := congrArg Edit.span hedit
  exact ⟨as, v, w, hvw, bs, hts, by rw [← hspans, hspan]⟩

end LiteralPatch
