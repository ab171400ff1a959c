import LiteralPatch.Proofs.Pattern.Matches
import LiteralPatch.Proofs.Unicode.Folding
import LiteralPatch.Pattern.Reader
import LiteralPatch.Text.Offset

/-!
# What an expression spells between two texts

A position of a search is a place between two texts, `Cursor.between l r`, and a match is a word: the
expression spells `w` between `l` and `r`.  The neighbours matter because of assertions only.  In this
form nothing is left of positions, offsets and marks, and what an expression spells is read off its
constructors (`spells_set`, `spells_star_set`, `spells_chain_cons`, …).

A rule's pattern has one capture group, between expressions without any.  `Matches.exists_capture` cuts
such a match into what stands before the captured text, the captured text and what stands after it.
-/

namespace LiteralPatch
namespace Pattern

/-- The position between two texts. -/
def Cursor.between (l r : List Char) : Cursor := ⟨l.getLast?, Text.width l, r⟩

namespace Cursor

@[simp] theorem between_rest (l r : List Char) : (between l r).rest = r := rfl

@[simp] theorem between_offset (l r : List Char) : (between l r).offset = Text.width l := rfl

theorem start_eq_between (text : List Char) : start text = between [] text := rfl

theorem past_between (l r r' : List Char) (c : Char) :
    (between l r').past c r = between (l ++ [c]) r := by
  simp [between, past, Text.width_append, Text.width]

theorem satisfies_between {l r : List Char} {a : Assertion} :
    (between l r).satisfies a = a.holds l.getLast? r.head? := rfl

end Cursor

open Cursor

/-- `e` matches the text `w` that stands between `l` and `r`. -/
inductive Expr.Spells : Expr → List Char → List Char → List Char → Prop where
  | empty {l r : List Char} : Spells .empty l [] r
  | set {s : CharSet} {l r : List Char} {c : Char} (hc : s.has c = true) : Spells (.set s) l [c] r
  | look {a : Assertion} {l r : List Char} (h : a.holds l.getLast? r.head? = true) :
    Spells (.look a) l [] r
  | group {i : Nat} {e : Expr} {l w r : List Char} (h : Spells e l w r) :
    Spells (.group i e) l w r
  | seq {e f : Expr} {l v w r : List Char} (he : Spells e l v (w ++ r))
    (hf : Spells f (l ++ v) w r) : Spells (.seq e f) l (v ++ w) r
  | altLeft {e f : Expr} {l w r : List Char} (h : Spells e l w r) : Spells (.alt e f) l w r
  | altRight {e f : Expr} {l w r : List Char} (h : Spells f l w r) : Spells (.alt e f) l w r
  | optNone {g : Bool} {e : Expr} {l r : List Char} : Spells (.opt g e) l [] r
  | optSome {g : Bool} {e : Expr} {l w r : List Char} (h : Spells e l w r) :
    Spells (.opt g e) l w r
  | plusOne {g : Bool} {e : Expr} {l w r : List Char} (h : Spells e l w r) :
    Spells (.plus g e) l w r
  | plusMore {g : Bool} {e : Expr} {l v w r : List Char} (h : Spells e l v (w ++ r))
    (more : Spells (.plus g e) (l ++ v) w r) : Spells (.plus g e) l (v ++ w) r
  | starNone {g : Bool} {e : Expr} {l r : List Char} : Spells (.star g e) l [] r
  | starMore {g : Bool} {e : Expr} {l v w r : List Char} (h : Spells e l v (w ++ r))
    (more : Spells (.star g e) (l ++ v) w r) : Spells (.star g e) l (v ++ w) r

namespace Expr

variable {e f : Expr} {es fs : List Expr} {g : Bool} {s : CharSet} {l w r : List Char}

/-! ## From a match to what it spells -/

/-- **A match from a place in a text ends at a later place in it,** and spells what stands between. -/
theorem Matches.exists_spells {here there : Cursor} {ms ms' : List Mark}
    (h : e.Matches here ms there ms') {l x : List Char} (hhere : here = between l x) :
    ∃ w r, x = w ++ r ∧ there = between (l ++ w) r ∧ e.Spells l w r := by
  induction h generalizing l x with
  | empty => exact ⟨[], x, rfl, by simp [hhere], .empty⟩
  | set hrest hc =>
    subst hhere
    obtain rfl : x = _ := hrest
    exact ⟨[_], _, rfl, past_between _ _ _ _, .set hc⟩
  | look h =>
    subst hhere
    exact ⟨[], x, rfl, by simp, .look h⟩
  | group _ ih =>
    obtain ⟨w, r, hx, hthere, hw⟩ := ih hhere
    exact ⟨w, r, hx, hthere, .group hw⟩
  | seq _ _ ihe ihf =>
    obtain ⟨v, y, rfl, hmid, hv⟩ := ihe hhere
    obtain ⟨w, r, rfl, hthere, hw⟩ := ihf hmid
    exact ⟨v ++ w, r, by simp, by simpa using hthere, .seq hv hw⟩
  | altLeft _ ih =>
    obtain ⟨w, r, hx, hthere, hw⟩ := ih hhere
    exact ⟨w, r, hx, hthere, .altLeft hw⟩
  | altRight _ ih =>
    obtain ⟨w, r, hx, hthere, hw⟩ := ih hhere
    exact ⟨w, r, hx, hthere, .altRight hw⟩
  | optNone => exact ⟨[], x, rfl, by simp [hhere], .optNone⟩
  | optSome _ ih =>
    obtain ⟨w, r, hx, hthere, hw⟩ := ih hhere
    exact ⟨w, r, hx, hthere, .optSome hw⟩
  | plusOne _ ih =>
    obtain ⟨w, r, hx, hthere, hw⟩ := ih hhere
    exact ⟨w, r, hx, hthere, .plusOne hw⟩
  | plusMore _ _ ih ihmore =>
    obtain ⟨v, y, rfl, hmid, hv⟩ := ih hhere
    obtain ⟨w, r, rfl, hthere, hw⟩ := ihmore hmid
    exact ⟨v ++ w, r, by simp, by simpa using hthere, .plusMore hv hw⟩
  | starNone => exact ⟨[], x, rfl, by simp [hhere], .starNone⟩
  | starMore _ _ ih ihmore =>
    obtain ⟨v, y, rfl, hmid, hv⟩ := ih hhere
    obtain ⟨w, r, rfl, hthere, hw⟩ := ihmore hmid
    exact ⟨v ++ w, r, by simp, by simpa using hthere, .starMore hv hw⟩

/-- Without capture groups no mark is set. -/
theorem Matches.marks_eq {here there : Cursor} {ms ms' : List Mark}
    (h : e.Matches here ms there ms') (hfree : e.captures = []) : ms' = ms := by
  induction h with
  | group => cases hfree
  | seq _ _ ihe ihf =>
    obtain ⟨he, hf⟩ := List.append_eq_nil_iff.1 hfree
    rw [ihf hf, ihe he]
  | altLeft _ ih => exact ih (List.append_eq_nil_iff.1 hfree).1
  | altRight _ ih => exact ih (List.append_eq_nil_iff.1 hfree).2
  | optSome _ ih => exact ih hfree
  | plusOne _ ih => exact ih hfree
  | plusMore _ _ ih ihmore => rw [ihmore hfree, ih hfree]
  | starMore _ _ ih ihmore => rw [ihmore hfree, ih hfree]
  | _ => rfl

/-! ## What each constructor spells -/

theorem spells_empty : empty.Spells l w r ↔ w = [] := by
  constructor
  · rintro ⟨⟩
    rfl
  · rintro rfl
    exact .empty

theorem spells_set : (set s).Spells l w r ↔ ∃ c, w = [c] ∧ s.has c = true := by
  constructor
  · rintro ⟨⟩
    exact ⟨_, rfl, ‹_›⟩
  · rintro ⟨c, rfl, hc⟩
    exact .set hc

theorem spells_look {a : Assertion} :
    (look a).Spells l w r ↔ w = [] ∧ a.holds l.getLast? r.head? = true := by
  constructor
  · rintro ⟨⟩
    exact ⟨rfl, ‹_›⟩
  · rintro ⟨rfl, h⟩
    exact .look h

theorem spells_seq : (seq e f).Spells l w r ↔
    ∃ u v, w = u ++ v ∧ e.Spells l u (v ++ r) ∧ f.Spells (l ++ u) v r := by
  constructor
  · rintro ⟨⟩
    exact ⟨_, _, rfl, ‹_›, ‹_›⟩
  · rintro ⟨u, v, rfl, he, hf⟩
    exact .seq he hf

theorem spells_opt :
    (opt g e).Spells l w r ↔ w = [] ∨ e.Spells l w r := by
  constructor
  · intro h
    cases h with
    | optNone => exact .inl rfl
    | optSome h => exact .inr h
  · rintro (rfl | h)
    · exact .optNone
    · exact .optSome h

theorem spells_star_set : (star g (set s)).Spells l w r ↔ ∀ c ∈ w, s.has c = true := by
  constructor
  · intro h
    generalize he : star g (set s) = e at h
    induction h with
    | starNone => simp
    | starMore h _ _ ih =>
      cases he
      obtain ⟨c, rfl, hc⟩ := spells_set.1 h
      simpa [hc] using ih rfl
    | _ => cases he
  · intro h
    induction w generalizing l with
    | nil => exact .starNone
    | cons c w ih =>
      have hc := h c List.mem_cons_self
      exact .starMore (.set hc) (ih fun d hd => h d (List.mem_cons_of_mem c hd))

theorem spells_plus_set :
    (plus g (set s)).Spells l w r ↔ w ≠ [] ∧ ∀ c ∈ w, s.has c = true := by
  constructor
  · intro h
    generalize he : plus g (set s) = e at h
    induction h with
    | plusOne h =>
      cases he
      obtain ⟨c, rfl, hc⟩ := spells_set.1 h
      simpa using hc
    | plusMore h _ _ ih =>
      cases he
      obtain ⟨c, rfl, hc⟩ := spells_set.1 h
      simpa [hc] using (ih rfl).2
    | _ => cases he
  · rintro ⟨hne, h⟩
    induction w generalizing l with
    | nil => exact absurd rfl hne
    | cons c w ih =>
      have hc := h c List.mem_cons_self
      cases w with
      | nil => exact .plusOne (.set hc)
      | cons d w =>
        exact .plusMore (v := [c]) (.set hc)
          (ih (List.cons_ne_nil d w) fun d hd => h d (List.mem_cons_of_mem c hd))

/-! ## Chains -/

theorem spells_chain_nil : (chain []).Spells l w r ↔ w = [] := spells_empty

theorem spells_chain_cons : (chain (e :: es)).Spells l w r ↔
    ∃ u v, w = u ++ v ∧ e.Spells l u (v ++ r) ∧ (chain es).Spells (l ++ u) v r := by
  cases es with
  | nil =>
    constructor
    · intro h
      exact ⟨w, [], by simp, by rwa [List.nil_append], .empty⟩
    · rintro ⟨u, v, rfl, he, hnil⟩
      obtain rfl := spells_chain_nil.1 hnil
      rwa [List.append_nil]
  | cons f es => exact spells_seq

theorem spells_chain_append : (chain (es ++ fs)).Spells l w r ↔
    ∃ u v, w = u ++ v ∧ (chain es).Spells l u (v ++ r) ∧ (chain fs).Spells (l ++ u) v r := by
  induction es generalizing l w with
  | nil =>
    constructor
    · intro h
      exact ⟨[], w, rfl, .empty, by simpa using h⟩
    · rintro ⟨u, v, rfl, hnil, h⟩
      obtain rfl := spells_chain_nil.1 hnil
      simpa using h
  | cons e es ih =>
    rw [List.cons_append, spells_chain_cons]
    constructor
    · rintro ⟨u, v, rfl, he, hrest⟩
      obtain ⟨v, x, rfl, hes, hfs⟩ := ih.1 hrest
      refine ⟨u ++ v, x, by simp, spells_chain_cons.2 ⟨u, v, rfl, by simpa using he, hes⟩, ?_⟩
      simpa using hfs
    · rintro ⟨y, x, rfl, hes, hfs⟩
      obtain ⟨u, v, rfl, he, hes⟩ := spells_chain_cons.1 hes
      exact ⟨u, v ++ x, by simp, by simpa using he, ih.2 ⟨v, x, rfl, hes, by simpa using hfs⟩⟩

theorem spells_chain_singleton : (chain [e]).Spells l w r ↔ e.Spells l w r := Iff.rfl

/-- The characters of a text, one set for each. -/
theorem spells_chain_folded {cs : List Char} :
    (chain (cs.map fun c => set (CharSet.ofCharFolded c))).Spells l w r ↔
      Unicode.SameText w cs := by
  induction cs generalizing l w with
  | nil => rw [List.map_nil, spells_chain_nil, Unicode.sameText_nil]
  | cons c cs ih =>
    rw [List.map_cons, spells_chain_cons, Unicode.sameText_cons]
    constructor
    · rintro ⟨u, v, rfl, hu, hv⟩
      obtain ⟨d, rfl, hd⟩ := spells_set.1 hu
      exact ⟨d, v, rfl, CharSet.has_ofCharFolded.1 hd, ih.1 hv⟩
    · rintro ⟨d, ds, rfl, hd, hds⟩
      exact ⟨[d], ds, rfl, .set (CharSet.has_ofCharFolded.2 hd), ih.2 hds⟩

theorem spells_chain_exact {cs : List Char} :
    (chain (cs.map fun c => set (CharSet.ofChar c))).Spells l w r ↔ w = cs := by
  induction cs generalizing l w with
  | nil => rw [List.map_nil, spells_chain_nil]
  | cons c cs ih =>
    rw [List.map_cons, spells_chain_cons]
    constructor
    · rintro ⟨u, v, rfl, hu, hv⟩
      obtain ⟨d, rfl, hd⟩ := spells_set.1 hu
      rw [CharSet.has_ofChar] at hd
      rw [hd, ih.1 hv]
      rfl
    · rintro rfl
      exact ⟨[c], cs, rfl, .set (CharSet.has_ofChar c c |>.2 rfl), ih.2 rfl⟩

/-! ## One capture -/

theorem captures_chain {es : List Expr} (h : ∀ e ∈ es, e.captures = []) :
    (chain es).captures = [] := by
  induction es with
  | nil => rfl
  | cons e es ih =>
    have he := h e List.mem_cons_self
    cases es with
    | nil => exact he
    | cons f es =>
      have hes := ih fun x hx => h x (List.mem_cons_of_mem e hx)
      show e.captures ++ (chain (f :: es)).captures = []
      rw [he, hes]
      rfl

theorem Matches.of_chain_cons {here there : Cursor} {ms ms' : List Mark}
    (h : (chain (e :: es)).Matches here ms there ms') :
    ∃ mid ms₁, e.Matches here ms mid ms₁ ∧ (chain es).Matches mid ms₁ there ms' := by
  cases es with
  | nil => exact ⟨there, ms', h, .empty⟩
  | cons f es =>
    cases h with
    | seq he hf => exact ⟨_, _, he, hf⟩

theorem Matches.of_chain_append {here there : Cursor} {ms ms' : List Mark}
    (h : (chain (es ++ fs)).Matches here ms there ms') :
    ∃ mid ms₁, (chain es).Matches here ms mid ms₁ ∧ (chain fs).Matches mid ms₁ there ms' := by
  induction es generalizing here ms with
  | nil => exact ⟨here, ms, .empty, h⟩
  | cons e es ih =>
    obtain ⟨mid, ms₁, he, hrest⟩ := of_chain_cons h
    obtain ⟨mid', ms₂, hes, hfs⟩ := ih hrest
    refine ⟨mid', ms₂, ?_, hfs⟩
    cases es with
    | nil =>
      cases hes
      exact he
    | cons f es => exact .seq he hes

/-- **A match around one capture group** is what stands before the captured text, the captured text, and
what stands after it. -/
theorem Matches.exists_capture {pre post : List Expr} {v : Expr} {l x : List Char} {there : Cursor}
    {ms ms' : List Mark} (h : (chain (pre ++ .group 1 v :: post)).Matches (between l x) ms there ms')
    (hpre : ∀ e ∈ pre, e.captures = []) (hv : v.captures = []) (hpost : ∀ e ∈ post, e.captures = []) :
    ∃ a b c r, x = a ++ b ++ c ++ r ∧ (chain pre).Spells l a (b ++ c ++ r) ∧
      v.Spells (l ++ a) b (c ++ r) ∧ (chain post).Spells (l ++ a ++ b) c r ∧
      there = between (l ++ a ++ b ++ c) r ∧
      ms' = (3, Text.width (l ++ a ++ b)) :: (2, Text.width (l ++ a)) :: ms := by
  obtain ⟨mid, ms₁, hfirst, hrest⟩ := of_chain_append h
  obtain ⟨mid', ms₂, hgroup, hlast⟩ := of_chain_cons hrest
  obtain rfl := hfirst.marks_eq (captures_chain hpre)
  obtain ⟨a, y, rfl, rfl, ha⟩ := hfirst.exists_spells rfl
  cases hgroup with
  | group hgroup =>
    have hmarks := hgroup.marks_eq hv
    obtain ⟨b, z, rfl, rfl, hb⟩ := hgroup.exists_spells rfl
    have hmarks' := hlast.marks_eq (captures_chain hpost)
    obtain ⟨c, r, rfl, rfl, hc⟩ := hlast.exists_spells rfl
    refine ⟨a, b, c, r, by simp, by simpa using ha, hb, hc, rfl, ?_⟩
    rw [hmarks', hmarks]
    rfl

end Expr
end Pattern
end LiteralPatch
