import LiteralPatch.Edit
import Mathlib.Data.List.Pairwise

/-!
# What a batch of edits makes of a text

Edits are carried out from the end of the text, one splice after the other in a text that changes under
them.  What comes out is said more simply: go through the given text once, from left to right, copy what
stands between the spans and put the new text in place of each span (`rebuild?`).  The two agree for every
batch that is accepted, and no splice of such a batch can fail (`applyAll_rebuilds`).

Only neighbours are compared before the splices begin.  This is enough, since spans whose ends are in order
cannot overlap one that is further away without overlapping one in between (`pairwise_of_overlap?`).

Several edits may begin at one place if all but one of them are insertions.  The one that is listed later
is then carried out later and in front of the others; so the order in the text is that of `Precedes`.
-/

namespace LiteralPatch
namespace Edit

variable {text next : List Char} {e : Edit} {es fs : List Edit}

/-! ## Checks -/

theorem accepts_ofText (text : String) : (Expectation.ofText text).accepts text = true := by
  unfold Expectation.ofText
  split
  · exact beq_self_eq_true _
  · exact beq_self_eq_true _

/-- **An edit is valid exactly if its span is a part of the text, and one that it expects.** -/
theorem validate_eq_ok_iff :
    e.validate text = .ok () ↔
      e.span.fits text = true ∧
        ∃ found, e.span.slice? text = some found ∧ e.expected.accepts (String.ofList found) = true := by
  by_cases hfits : e.span.fits text = true
  · obtain ⟨a, b, c, htext, hspan⟩ := Span.fits_iff.1 hfits
    have hslice : e.span.slice? text = some b := by
      rw [htext, hspan]
      exact Span.slice?_parts a b c
    simp only [validate, hfits, if_true, hslice]
    by_cases haccepts : e.expected.accepts (String.ofList b) = true
    · simp [haccepts]
    · simp [haccepts]
  · simp [validate, hfits]

theorem start_le_stop_of_validate (h : e.validate text = .ok ()) : e.span.start ≤ e.span.stop := by
  obtain ⟨a, b, c, -, hspan⟩ := Span.fits_iff.1 (validate_eq_ok_iff.1 h).1
  rw [hspan, Text.width_append]
  exact Nat.le_add_right _ _

/-- An edit that expects what stands at its span is valid. -/
theorem validate_replacing (a b c : List Char) (new : String) :
    (replacing ⟨Text.width a, Text.width (a ++ b)⟩ (String.ofList b) new).validate (a ++ b ++ c) =
      .ok () :=
  validate_eq_ok_iff.2 ⟨Span.fits_iff.2 ⟨a, b, c, rfl, rfl⟩, b, Span.slice?_parts a b c,
    accepts_ofText _⟩

/-- All edits are checked, up to the first one that is not valid. -/
theorem forM_validate_eq_ok_iff :
    es.forM (·.validate text) = .ok () ↔ ∀ e ∈ es, e.validate text = .ok () := by
  induction es with
  | nil => exact iff_of_true rfl (List.forall_mem_nil _)
  | cons e es ih =>
    rw [List.forM_eq_forM, List.forM_cons, List.forall_mem_cons, ← ih]
    cases e.validate text with
    | error fault => exact iff_of_false (fun h => nomatch h) fun h => nomatch h.1
    | ok _ => exact ⟨fun h => ⟨rfl, h⟩, And.right⟩

/-! ## Neighbours -/

/-- Edits none of which begins before the one listed after it ends do not overlap. -/
theorem overlap?_eq_none
    (h : es.Pairwise fun later earlier => earlier.span.stop ≤ later.span.start) :
    overlap? es = none := by
  induction es with
  | nil => rfl
  | cons later es ih =>
    obtain ⟨hlater, hes⟩ := List.pairwise_cons.1 h
    cases es with
    | nil => rfl
    | cons earlier es =>
      have := hlater earlier List.mem_cons_self
      rw [overlap?, if_neg (by omega)]
      exact ih hes

/-- **Edits that do not overlap as neighbours do not overlap at all.** -/
theorem pairwise_of_overlap? (h : overlap? es = none)
    (hle : ∀ e ∈ es, e.span.start ≤ e.span.stop) :
    es.Pairwise fun later earlier => earlier.span.stop ≤ later.span.start := by
  induction es with
  | nil => exact .nil
  | cons later es ih =>
    cases es with
    | nil => exact List.pairwise_singleton _ _
    | cons earlier es =>
      rw [overlap?] at h
      by_cases hover : later.span.start < earlier.span.stop
      · rw [if_pos hover] at h
        cases h
      · rw [if_neg hover] at h
        have hes := ih h fun e he => hle e (List.mem_cons_of_mem later he)
        refine .cons (fun e he => ?_) hes
        rcases List.mem_cons.1 he with rfl | he
        · omega
        · have hnext := List.rel_of_pairwise_cons hes he
          have hearlier := hle earlier (by simp)
          omega

/-- **Edits that stand one behind the other are carried out in reverse,** if they do not overlap and edits
of one span are the same. -/
theorem descending_of_overlap? (h : overlap? (descending es) = none)
    (hle : ∀ e ∈ es, e.span.start ≤ e.span.stop)
    (hbehind : es.Pairwise fun a b => a.span.stop ≤ b.span.start)
    (hsame : ∀ a ∈ es, ∀ b ∈ es, a.span = b.span → a = b) : descending es = es.reverse := by
  have hmem : ∀ e, e ∈ descending es ↔ e ∈ es := fun e => List.mem_mergeSort
  have hsorted := pairwise_of_overlap? h fun e he => hle e ((hmem e).1 he)
  refine List.Perm.eq_of_pairwise ?_ hsorted (List.pairwise_reverse.2 hbehind)
    ((List.mergeSort_perm es _).trans (List.reverse_perm es).symm)
  -- edits each of which ends before the other begins are empty, and at one place
  intro a b ha hb hab hba
  rw [hmem] at ha
  rw [List.mem_reverse] at hb
  have hale := hle a ha
  have hble := hle b hb
  refine hsame a ha b hb ?_
  have hstart : a.span.start = b.span.start := by omega
  have hstop : a.span.stop = b.span.stop := by omega
  calc a.span = ⟨a.span.start, a.span.stop⟩ := rfl
    _ = ⟨b.span.start, b.span.stop⟩ := by rw [hstart, hstop]
    _ = b.span := rfl

/-! ## The order in the text -/

/-- Of two edits, each with its place in the list, the first one stands in front of the second: it begins
earlier, or both begin at one place and it is listed later. -/
def Precedes (a b : Edit × Nat) : Prop :=
  a.1.span.start < b.1.span.start ∨ a.1.span.start = b.1.span.start ∧ b.2 < a.2

/-- **Edits are carried out against their order in the text.** -/
theorem exists_order (es : List Edit) :
    ∃ order : List (Edit × Nat), order.Perm es.zipIdx ∧ order.Pairwise Precedes ∧
      order.map Prod.fst = (descending es).reverse := by
  let begins : Edit → Edit → Bool := fun a b => decide (b.span.start ≤ a.span.start)
  have hperm := List.mergeSort_perm es.zipIdx (List.zipIdxLE begins)
  have hsorted : (es.zipIdx.mergeSort (List.zipIdxLE begins)).Pairwise
      fun a b => List.zipIdxLE begins a b := by
    refine List.pairwise_mergeSort (List.zipIdxLE_trans fun a b c hab hbc => ?_)
      (List.zipIdxLE_total fun a b => ?_) es.zipIdx
    · simp only [begins, decide_eq_true_eq] at *
      omega
    · simp only [begins, Bool.or_eq_true, decide_eq_true_eq]
      omega
  -- no two edits have one place in the list
  have hplaces : ((es.zipIdx.mergeSort (List.zipIdxLE begins)).map Prod.snd).Nodup := by
    rw [(hperm.map Prod.snd).nodup_iff, List.zipIdx_map_snd]
    exact List.nodup_range'
  refine ⟨(es.zipIdx.mergeSort (List.zipIdxLE begins)).reverse, (List.reverse_perm _).trans hperm,
    ?_, ?_⟩
  · rw [List.pairwise_reverse]
    refine (hsorted.and (List.pairwise_map.1 hplaces)).imp fun {a b} hab => ?_
    obtain ⟨hle, hne⟩ := hab
    simp only [List.zipIdxLE, begins, decide_eq_true_eq, Bool.if_false_right, Bool.if_true_right,
      Bool.and_eq_true, Bool.or_eq_true, Bool.not_eq_true', decide_eq_false_iff_not] at hle
    unfold Precedes
    omega
  · rw [List.map_reverse]
    exact congrArg List.reverse List.mergeSort_zipIdx

/-! ## Splices -/

/-- A splice replaces what stands at the span. -/
theorem splice?_parts (a b c : List Char) (h : e.span = ⟨Text.width a, Text.width (a ++ b)⟩) :
    e.splice? (a ++ b ++ c) = some (a ++ e.newText.toList ++ c) := by
  have hstart : Text.cut? (a ++ b ++ c) (Text.width a) = some (a, b ++ c) :=
    Text.cut?_eq_some_iff.2 ⟨by simp, rfl⟩
  have hstop : Text.cut? (a ++ b ++ c) (Text.width (a ++ b)) = some (a ++ b, c) :=
    Text.cut?_eq_some_iff.2 ⟨rfl, rfl⟩
  simp only [splice?, h, hstart, hstop]

theorem splice?_replacing (a b c : List Char) (new : String) :
    (replacing ⟨Text.width a, Text.width (a ++ b)⟩ (String.ofList b) new).splice? (a ++ b ++ c) =
      some (a ++ new.toList ++ c) :=
  splice?_parts a b c rfl

theorem spliceAll_append (h : spliceAll text es = .ok next) :
    spliceAll text (es ++ fs) = spliceAll next fs := by
  induction es generalizing text with
  | nil =>
    obtain rfl := Except.ok.inj h
    rfl
  | cons e es ih =>
    rw [spliceAll] at h
    split at h
    · next hsplice => rw [List.cons_append, spliceAll, hsplice]; exact ih h
    · cases h

/-- If all splices succeed, each of them finds its span in the text that the splices before it have left. -/
theorem exists_fits_of_spliceAll (hle : e.span.start ≤ e.span.stop)
    (h : spliceAll text (es ++ e :: fs) = .ok next) :
    ∃ here, spliceAll text es = .ok here ∧ e.span.fits here = true := by
  induction es generalizing text with
  | nil =>
    refine ⟨text, rfl, ?_⟩
    rw [List.nil_append, spliceAll] at h
    split at h
    · next hsplice =>
      unfold splice? at hsplice
      split at hsplice
      · next hstart hstop => simp [Span.fits, Text.isBoundary, hle, hstart, hstop]
      · cases hsplice
    · cases h
  | cons e' es ih =>
    rw [List.cons_append, spliceAll] at h
    split at h
    · next hsplice => rw [spliceAll, hsplice]; exact ih h
    · cases h

/-! ## One walk from left to right -/

/-- The text from the place `start` on, rebuilt under edits in their order: what stands between the spans is
copied, and each span is replaced by the new text of its edit. -/
def rebuild? (text : List Char) (start : Nat) : List Edit → Option (List Char)
  | [] => Text.slice? text start (Text.width text)
  | e :: es =>
    match Text.slice? text start e.span.start, rebuild? text e.span.stop es with
    | some gap, some behind => some (gap ++ e.newText.toList ++ behind)
    | _, _ => none

/-- **Splices from the end make what one walk from the left makes.**  Edits that stand one behind the other
in `r` leave the text `l` in front of it alone, and so all offsets in it. -/
theorem exists_rebuild {l r : List Char} (hfits : ∀ e ∈ es, e.span.fits (l ++ r) = true)
    (hstart : ∀ e ∈ es, Text.width l ≤ e.span.start)
    (hbehind : es.Pairwise fun a b => a.span.stop ≤ b.span.start) :
    ∃ r', rebuild? (l ++ r) (Text.width l) es = some r' ∧
      spliceAll (l ++ r) es.reverse = .ok (l ++ r') := by
  induction es generalizing l r with
  | nil =>
    refine ⟨r, Text.slice?_eq_some_iff.2 ⟨l, [], by simp, rfl, ?_⟩, rfl⟩
    rw [Text.width_append]
  | cons e es ih =>
    obtain ⟨hfit, hfits⟩ := List.forall_mem_cons.1 hfits
    obtain ⟨hnext, hbehind⟩ := List.pairwise_cons.1 hbehind
    obtain ⟨front, b, c, htext, hspan⟩ := Span.fits_iff.1 hfit
    have hle := hstart e List.mem_cons_self
    rw [hspan] at hle
    rw [List.append_assoc] at htext
    obtain ⟨a, rfl, rfl⟩ := Text.exists_of_width_le htext hle
    have hparts : l ++ (a ++ (b ++ c)) = l ++ a ++ b ++ c := by simp
    have hstop : ∀ e' ∈ es, Text.width (l ++ a ++ b) ≤ e'.span.start := by
      intro e' he'
      have hnext := hnext e' he'
      rwa [hspan] at hnext
    obtain ⟨c', hrebuild, hsplice⟩ := ih (l := l ++ a ++ b) (r := c) (by rwa [← hparts]) hstop hbehind
    have hgap : Text.slice? (l ++ a ++ b ++ c) (Text.width l) (Text.width (l ++ a)) = some a :=
      Text.slice?_eq_some_iff.2 ⟨l, b ++ c, by simp, rfl, (Text.width_append l a).symm⟩
    refine ⟨a ++ e.newText.toList ++ c', ?_, ?_⟩
    · rw [hparts, rebuild?, hspan, hgap, hrebuild]
    · rw [hparts, List.reverse_cons, spliceAll_append hsplice, spliceAll, splice?_parts (l ++ a) b c' hspan]
      simp only [spliceAll, List.append_assoc]

/-! ## Batches -/

/-- What is checked before anything is replaced: every edit by itself, and neighbours in the order in which
they are carried out. -/
structure Checked (text : List Char) (es : List Edit) : Prop where
  valid : ∀ e ∈ es, e.validate text = .ok ()
  apart : overlap? (descending es) = none

namespace Checked

theorem fits (h : Checked text es) : ∀ e ∈ es, e.span.fits text = true :=
  fun e he => (validate_eq_ok_iff.1 (h.valid e he)).1

theorem start_le_stop (h : Checked text es) : ∀ e ∈ es, e.span.start ≤ e.span.stop :=
  fun e he => start_le_stop_of_validate (h.valid e he)

/-- In the order in which they are carried out, each edit ends before those in front of it begin. -/
theorem pairwise_descending (h : Checked text es) :
    (descending es).Pairwise fun later earlier => earlier.span.stop ≤ later.span.start :=
  pairwise_of_overlap? h.apart fun e he => h.start_le_stop e (List.mem_mergeSort.1 he)

/-- **The spans of a batch are disjoint.** -/
theorem disjoint (h : Checked text es) : es.Pairwise fun a b => ¬ a.span.Overlap b.span := by
  have hsymm : ∀ {a b : Edit}, ¬ a.span.Overlap b.span → ¬ b.span.Overlap a.span :=
    (not_congr Span.overlap_comm).1
  refine ((List.mergeSort_perm es _).pairwise_iff hsymm).1 (h.pairwise_descending.imp fun hab => ?_)
  unfold Span.Overlap
  omega

theorem exists_rebuild (h : Checked text es) :
    ∃ out, rebuild? text 0 (descending es).reverse = some out ∧ spliceAll text (descending es) = .ok out := by
  have hmem : ∀ e, e ∈ (descending es).reverse → e ∈ es :=
    fun e he => List.mem_mergeSort.1 (List.mem_reverse.1 he)
  have hrebuild := Edit.exists_rebuild (l := []) (r := text) (fun e he => h.fits e (hmem e he))
    (fun e _ => Nat.zero_le _) (List.pairwise_reverse.2 h.pairwise_descending)
  rwa [List.reverse_reverse] at hrebuild

end Checked

/-- **A batch is applied exactly if it passes the checks,** and its splices make what comes out. -/
theorem applyAll_eq_ok_iff {text out : String} {es : List Edit} :
    applyAll text es = .ok out ↔
      Checked text.toList es ∧ spliceAll text.toList (descending es) = .ok out.toList := by
  constructor
  · intro h
    cases hvalid : es.forM (·.validate text.toList) with
    | error fault =>
      simp only [applyAll, hvalid] at h
      cases h
    | ok _ =>
      cases hover : overlap? (descending es) with
      | some spans =>
        simp only [applyAll, hvalid, hover] at h
        cases h
      | none =>
        cases hsplice : spliceAll text.toList (descending es) with
        | error fault =>
          simp only [applyAll, hvalid, hover, hsplice] at h
          cases h
        | ok made =>
          simp only [applyAll, hvalid, hover, hsplice] at h
          obtain rfl := Except.ok.inj h
          exact ⟨⟨forM_validate_eq_ok_iff.1 hvalid, hover⟩, by rw [String.toList_ofList]⟩
  · rintro ⟨hchecked, hsplice⟩
    simp only [applyAll, forM_validate_eq_ok_iff.2 hchecked.valid, hchecked.apart, hsplice]
    exact congrArg Except.ok String.ofList_toList

/-- What is true of a batch that has made `out` of a text. -/
structure Rebuilt (text : List Char) (es : List Edit) (out : List Char) : Prop where
  /-- Every edit finds what it expects, at a span that is a part of the text. -/
  verified : ∀ e ∈ es, e.span.fits text = true ∧
    ∃ found, e.span.slice? text = some found ∧ e.expected.accepts (String.ofList found) = true
  disjoint : es.Pairwise fun a b => ¬ a.span.Overlap b.span
  /-- Every span is a part of the text that its splice is made in. -/
  spliced : ∀ before e after, descending es = before ++ e :: after →
    ∃ here, spliceAll text before = .ok here ∧ e.span.fits here = true
  /-- The result is that of one walk from left to right, in the order of the spans in the text. -/
  rebuilt : ∃ order : List (Edit × Nat), order.Perm es.zipIdx ∧ order.Pairwise Precedes ∧
    rebuild? text 0 (order.map Prod.fst) = some out

/-- **Edits replace their spans and nothing else.**  A batch that passes the checks is carried out, without
a splice that fails; and one that is carried out has copied what stands between its spans and replaced each
of them, as if this were done in one walk along the given text. -/
theorem applyAll_rebuilds (text : String) (es : List Edit) :
    (Checked text.toList es → ∃ out, applyAll text es = .ok out) ∧
      ∀ out, applyAll text es = .ok out → Rebuilt text.toList es out.toList := by
  constructor
  · intro hchecked
    obtain ⟨made, -, hsplice⟩ := hchecked.exists_rebuild
    exact ⟨String.ofList made, applyAll_eq_ok_iff.2 ⟨hchecked, by rwa [String.toList_ofList]⟩⟩
  · intro out h
    obtain ⟨hchecked, hsplice⟩ := applyAll_eq_ok_iff.1 h
    obtain ⟨made, hrebuild, hmade⟩ := hchecked.exists_rebuild
    obtain rfl := Except.ok.inj (hmade.symm.trans hsplice)
    obtain ⟨order, hperm, hprecedes, horder⟩ := exists_order es
    refine ⟨fun e he => validate_eq_ok_iff.1 (hchecked.valid e he), hchecked.disjoint, ?_,
      order, hperm, hprecedes, by rwa [horder]⟩
    intro before e after hsplit
    have hmem : e ∈ descending es := by rw [hsplit]; simp
    rw [hsplit] at hsplice
    exact exists_fits_of_spliceAll (hchecked.start_le_stop e (List.mem_mergeSort.1 hmem)) hsplice

/-- Two insertions in front of a character that is replaced: the one that is listed last comes first. -/
theorem applyAll_rebuilds_insertions :
    let es : List Edit := [⟨⟨1, 4⟩, "X", .exact "→"⟩, ⟨⟨1, 1⟩, "1", .exact ""⟩, ⟨⟨5, 6⟩, "", .exact "c"⟩,
      ⟨⟨1, 1⟩, "2", .exact ""⟩]
    Checked "a→bc".toList es ∧ applyAll "a→bc" es = .ok "a21Xb" ∧
      Rebuilt "a→bc".toList es "a21Xb".toList := by
  intro es
  have hdescending : descending es = [⟨⟨5, 6⟩, "", .exact "c"⟩, ⟨⟨1, 4⟩, "X", .exact "→"⟩,
      ⟨⟨1, 1⟩, "1", .exact ""⟩, ⟨⟨1, 1⟩, "2", .exact ""⟩] := by
    simp [es, descending, List.mergeSort]
  have hchecked : Checked "a→bc".toList es := by
    refine ⟨fun e he => ?_, by rw [hdescending]; rfl⟩
    simp only [es, List.mem_cons, List.not_mem_nil, or_false] at he
    rcases he with rfl | rfl | rfl | rfl
    · rfl
    · rfl
    · rfl
    · rfl
  have hout : applyAll "a→bc" es = .ok "a21Xb" :=
    applyAll_eq_ok_iff.2 ⟨hchecked, by rw [hdescending]; rfl⟩
  exact ⟨hchecked, hout, (applyAll_rebuilds _ _).2 _ hout⟩

end Edit
end LiteralPatch
