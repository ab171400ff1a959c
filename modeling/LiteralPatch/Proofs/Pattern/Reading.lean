import LiteralPatch.Proofs.Pattern.First
import LiteralPatch.Pattern

/-!
# Reading a pattern piece by piece

The patterns of rules are put together from a few kinds of pieces: literal text, blanks, a class that
excludes one character, one capture group.  `Reads ic piece parts` says that the reader, wherever it
stands, takes the piece for these parts and goes on behind it.  Pieces are then read one after the other
(`Reads.append`), whatever text they hold; so a pattern with a marker and a key in it is read once for all
markers and keys.

What follows a piece matters to a loop, which a question mark makes lazy, and to a word edge, which braces
name.  `fresh` excludes both.

Reading does not evaluate case folding: literals stay `Flags.literal`, and a class that excludes a
character other than a letter is closed under case anyway.
-/

namespace LiteralPatch
namespace Pattern
namespace Reader

/-- The text begins with nothing that would change the item before it. -/
def fresh : List Char → Bool
  | '?' :: _ => false
  | '\x7b' :: _ => false
  | _ => true

/-- The reader with further items read. -/
def pushAll (r : Reader) (ps : List Part) : Reader :=
  { r with parts := ps.reverse ++ r.parts }

@[simp] theorem pushAll_flags (r : Reader) (ps : List Part) : (r.pushAll ps).flags = r.flags := rfl

theorem pushAll_append (r : Reader) (ps qs : List Part) :
    r.pushAll (ps ++ qs) = (r.pushAll ps).pushAll qs := by
  simp [pushAll]

/-- The reader takes the piece for the parts, whatever stands before and behind. -/
def Reads (ic : Bool) (piece : List Char) (ps : List Part) : Prop :=
  ∃ k, k ≤ piece.length ∧ ∀ (n : Nat) (r : Reader) (rest : List Char),
    r.flags = initialFlags ic → fresh rest = true →
      run (n + k) r (piece ++ rest) = run n (r.pushAll ps) rest

variable {ic : Bool} {piece piece' : List Char} {ps qs : List Part} {s : CharSet} {depth : Nat}

theorem fresh_append {rest : List Char} (h : fresh piece = true) (hrest : fresh rest = true) :
    fresh (piece ++ rest) = true := by
  cases piece with
  | nil => exact hrest
  | cons c cs =>
    rw [List.cons_append]
    unfold fresh at h ⊢
    split at h <;> simp_all

theorem readLazy_of_fresh {rest : List Char} (h : fresh rest = true) :
    readLazy rest = (true, rest) := by
  unfold readLazy
  split
  · cases h
  · rfl

/-- One step of the reader where blanks count. -/
theorem run_succ {r r' : Reader} {c : Char} {cs rest : List Char}
    (hr : r.flags = initialFlags ic) (hstep : r.step c cs = .ok (r', rest)) (n : Nat) :
    run (n + 1) r (c :: cs) = run n r' rest := by
  have hskip : skip r.flags.verbose (c :: cs) = c :: cs := by rw [hr]; rfl
  conv => lhs; unfold run
  rw [hskip]
  simp only [hstep]
  rfl

theorem Reads.nil : Reads ic [] [] :=
  ⟨0, Nat.le_refl 0, fun _ _ _ _ _ => rfl⟩

/-- **Pieces are read one after the other.** -/
theorem Reads.append (h : Reads ic piece ps) (h' : Reads ic piece' qs)
    (hfresh : fresh piece' = true) : Reads ic (piece ++ piece') (ps ++ qs) := by
  obtain ⟨k, hk, hrun⟩ := h
  obtain ⟨l, hl, hrun'⟩ := h'
  refine ⟨l + k, by rw [List.length_append]; omega, fun n r rest hr hrest => ?_⟩
  rw [← Nat.add_assoc, List.append_assoc, hrun _ r _ hr (fresh_append hfresh hrest),
    hrun' n (r.pushAll ps) rest hr hrest, pushAll_append]

/-- A single item that is read in one step. -/
theorem reads_of_step {c : Char} {cs : List Char} {p : Part}
    (h : ∀ (r : Reader) (rest : List Char), r.flags = initialFlags ic → fresh rest = true →
      r.step c (cs ++ rest) = .ok (r.push p, rest)) : Reads ic (c :: cs) [p] :=
  ⟨1, Nat.le_add_left _ _, fun n r rest hr hrest => run_succ hr (h r rest hr hrest) n⟩

/-! ## Single steps -/

theorem step_escape {r : Reader} {cs rest : List Char} {atom : Atom} {e : Expr}
    (h : readEscape r.flags cs = .ok (atom, rest)) (hatom : ofAtom r.flags atom = .ok e) :
    r.step '\\' cs = .ok (r.push (.atom e), rest) := by
  show (readEscape r.flags cs).bind (fun q => (ofAtom r.flags q.1).bind fun e =>
    .ok (r.push (.atom e), q.2)) = _
  rw [h]
  show (ofAtom r.flags atom).bind (fun e => .ok (r.push (.atom e), rest)) = _
  rw [hatom]
  rfl

theorem step_class {r : Reader} {cs rest : List Char} {v : ClassValue}
    (h : readClass r.flags cs = .ok (v, rest)) :
    r.step '[' cs = .ok (r.push (.ofSet v.set v.depth), rest) := by
  show (readClass r.flags cs).bind (fun q => .ok (r.push (.ofSet q.1.set q.1.depth), q.2)) = _
  rw [h]
  rfl

theorem step_star {r : Reader} {cs rest : List Char} {greedy : Bool}
    (h : readLazy cs = (greedy, rest)) :
    r.step '*' cs = (r.repeatLast 0 none greedy).map fun r => (r, rest) := by
  show (r.repeatLast 0 none (readLazy cs).1).bind (fun r => .ok (r, (readLazy cs).2)) = _
  rw [h]
  rfl

theorem step_plus {r : Reader} {cs rest : List Char} {greedy : Bool}
    (h : readLazy cs = (greedy, rest)) :
    r.step '+' cs = (r.repeatLast 1 none greedy).map fun r => (r, rest) := by
  show (r.repeatLast 1 none (readLazy cs).1).bind (fun r => .ok (r, (readLazy cs).2)) = _
  rw [h]
  rfl

/-! ## Literal text -/

/-- The part of one literal character. -/
def literalPart (ic : Bool) (c : Char) : Part :=
  .ofSet ((initialFlags ic).literal c) 0

/-- The parts of a text, taken literally. -/
def textParts (ic : Bool) (cs : List Char) : List Part := cs.map (literalPart ic)

theorem reads_char {c : Char} (hc : c ∉ metaCharacters) : Reads ic [c] (textParts ic [c]) := by
  refine reads_of_step fun r rest hr _ => ?_
  simp only [metaCharacters, List.mem_cons, List.not_mem_nil, or_false, not_or] at hc
  unfold step
  split
  all_goals try simp_all
  cases ic <;> rfl

theorem reads_escaped (ic : Bool) {c : Char} (hc : c ∈ metaCharacters) :
    Reads ic ['\\', c] (textParts ic [c]) := by
  refine reads_of_step fun r rest hr _ => ?_
  have hidle : isIdle c = true := by simp [isIdle, hc]
  have hdecimal : isDecimal c = false :=
    (by decide : ∀ c ∈ metaCharacters, isDecimal c = false) c hc
  have hescape : readEscape r.flags (c :: rest) = .ok (.literal c false, rest) := by
    simp only [readEscape, hdecimal, hidle, Bool.false_eq_true, if_false, if_true]
    rfl
  refine (step_escape (e := .set ((initialFlags ic).literal c)) hescape ?_).trans rfl
  rw [hr]
  cases ic <;> rfl

/-- Escaped text begins with no question mark and no brace. -/
theorem fresh_escaped (text : List Char) : fresh (escaped text) = true := by
  cases text with
  | nil => rfl
  | cons c cs =>
    rw [escaped, List.flatMap_cons]
    split
    · rfl
    · next hc =>
      unfold fresh
      split <;> simp_all [metaCharacters]

/-- **Escaped text is read as the characters of the text.** -/
theorem reads_escaped_text (ic : Bool) (text : List Char) :
    Reads ic (escaped text) (textParts ic text) := by
  induction text with
  | nil => exact .nil
  | cons c cs ih =>
    have hhead : Reads ic (if c ∈ metaCharacters then ['\\', c] else [c]) (textParts ic [c]) := by
      split
      · exact reads_escaped ic ‹_›
      · exact reads_char ‹_›
    exact hhead.append ih (fresh_escaped cs)

/-- Text without special characters is read as it is. -/
theorem reads_plain (ic : Bool) (text : List Char) (h : ∀ c ∈ text, c ∉ metaCharacters) :
    Reads ic text (textParts ic text) := by
  have hescaped : escaped text = text := by
    induction text with
    | nil => rfl
    | cons c cs ih =>
      rw [escaped, List.flatMap_cons, if_neg (h c List.mem_cons_self)]
      exact congrArg (c :: ·) (ih fun d hd => h d (List.mem_cons_of_mem c hd))
  rw [← hescaped]
  simpa [hescaped] using reads_escaped_text ic text

/-! ## Classes and loops -/

theorem reads_white : Reads ic ['\\', 's'] [.ofSet Unicode.whiteSpace 0] := by
  refine reads_of_step fun r rest hr _ => ?_
  rw [step, hr]
  cases ic <;> rfl

/-- The part of a word edge. -/
def edgePart : Part := .item [.look (.word .boundary true)] 0 1

theorem reads_edge : Reads ic ['\\', 'b'] [edgePart] := by
  refine reads_of_step fun r rest hr hrest => ?_
  have hedge : readWordEdge r.flags rest = .ok (.boundary, rest) := by
    unfold readWordEdge
    split
    · cases hrest
    · rfl
  have hescape : readEscape r.flags ('b' :: rest) =
      .ok (.look (.word .boundary r.flags.unicode), rest) := by
    show (readWordEdge r.flags rest).bind
      (fun q => .ok (Atom.look (.word q.1 r.flags.unicode), q.2)) = _
    rw [hedge]
    rfl
  refine (step_escape hescape (e := .look (.word .boundary true)) ?_).trans rfl
  rw [hr]
  cases ic <;> rfl

/-- The characters that are excluded one at a time. -/
def excluded : List Char := [')', '\x7b', '\x7d', '"', ':']

theorem foldClosure_excluded {x : Char} (hx : x ∈ excluded) :
    (CharSet.ofChar x).foldClosure = CharSet.ofChar x := by
  refine CharSet.foldClosure_eq_self fun r hr => ?_
  have h : (excluded.all fun x => Unicode.foldRuns.all (CharSet.ofChar x).untouched) = true := by
    decide +kernel
  exact List.all_eq_true.1 (List.all_eq_true.1 h x hx) r hr

theorem readClass_excluded {x : Char} (hx : x ∈ excluded) (rest : List Char) :
    readClass (initialFlags ic) ('^' :: x :: ']' :: rest) =
      .ok (⟨(CharSet.ofChar x).complement, 1⟩, rest) := by
  have hfolded := foldClosure_excluded hx
  simp only [excluded, List.mem_cons, List.not_mem_nil, or_false] at hx
  cases ic with
  | false => rcases hx with rfl | rfl | rfl | rfl | rfl <;> rfl
  | true =>
    -- the class is folded before it is negated
    have hread : readClass { ignoreCase := true } ('^' :: x :: ']' :: rest) =
        .ok (⟨(CharSet.ofChar x).foldClosure.complementTo CharSet.top, 1⟩, rest) := by
      rcases hx with rfl | rfl | rfl | rfl | rfl <;> rfl
    rw [hfolded] at hread
    exact hread

theorem reads_excluded {x : Char} (hx : x ∈ excluded) :
    Reads ic ['[', '^', x, ']'] [.ofSet (CharSet.ofChar x).complement 1] := by
  refine reads_of_step fun r rest hr _ => ?_
  have hread : readClass r.flags ('^' :: x :: ']' :: rest) =
      .ok (⟨(CharSet.ofChar x).complement, 1⟩, rest) := by
    rw [hr]
    exact readClass_excluded hx rest
  exact step_class hread

/-- The part of a loop over a set. -/
def loopPart (min : Nat) (greedy : Bool) (s : CharSet) (depth : Nat) : Part :=
  .item [Expr.repeated min none greedy (.set s)] (depth + 1)
    (Part.repeatedWeight min none (Part.setWeight s))

theorem repeatLast_set {r : Reader} {min : Nat} (greedy : Bool) (hr : r.flags = initialFlags ic)
    (hsize : Part.repeatedWeight min none (Part.setWeight s) ≤ sizeLimit) (hmin : min ≤ 1) :
    (r.pushAll [.ofSet s depth]).repeatLast min none greedy =
      .ok (r.pushAll [loopPart min greedy s depth]) := by
  have hswap : (initialFlags ic).swapGreed = false := rfl
  have hchain : Expr.chain [.set s] = .set s := rfl
  rcases Nat.le_one_iff_eq_zero_or_eq_one.1 hmin with rfl | rfl
  · simp only [repeatLast, pushAll, List.reverse_singleton, List.singleton_append, Part.ofSet, hr,
      hswap, hchain, if_neg (Nat.not_lt.2 hsize)]
    rfl
  · simp only [repeatLast, pushAll, List.reverse_singleton, List.singleton_append, Part.ofSet, hr,
      hswap, hchain, if_neg (Nat.not_lt.2 hsize)]
    rfl

/-- A set is read, then the loop over it. -/
theorem Reads.loop (h : Reads ic piece [.ofSet s depth]) {c : Char} {cs : List Char} {min : Nat}
    {greedy : Bool} (hfresh : fresh (c :: cs) = true)
    (hstep : ∀ (r : Reader) (rest : List Char), fresh rest = true →
      r.step c (cs ++ rest) = (r.repeatLast min none greedy).map fun r => (r, rest))
    (hsize : Part.repeatedWeight min none (Part.setWeight s) ≤ sizeLimit) (hmin : min ≤ 1) :
    Reads ic (piece ++ c :: cs) [loopPart min greedy s depth] := by
  obtain ⟨k, hk, hrun⟩ := h
  refine ⟨1 + k, by rw [List.length_append, List.length_cons]; omega,
    fun n r rest hr hrest => ?_⟩
  rw [← Nat.add_assoc, List.append_assoc, hrun _ r _ hr (fresh_append hfresh hrest)]
  refine run_succ (r := r.pushAll [.ofSet s depth]) hr ?_ n
  show (r.pushAll [.ofSet s depth]).step c (cs ++ rest) = _
  rw [hstep _ rest hrest, repeatLast_set greedy hr hsize hmin]
  rfl

theorem Reads.star (h : Reads ic piece [.ofSet s depth])
    (hsize : Part.repeatedWeight 0 none (Part.setWeight s) ≤ sizeLimit) :
    Reads ic (piece ++ ['*']) [loopPart 0 true s depth] := by
  exact h.loop rfl (fun r rest hrest => step_star (readLazy_of_fresh hrest)) hsize (Nat.zero_le 1)

theorem Reads.lazyStar (h : Reads ic piece [.ofSet s depth])
    (hsize : Part.repeatedWeight 0 none (Part.setWeight s) ≤ sizeLimit) :
    Reads ic (piece ++ ['*', '?']) [loopPart 0 false s depth] :=
  h.loop rfl (fun _ _ _ => rfl) hsize (Nat.zero_le 1)

theorem Reads.plus (h : Reads ic piece [.ofSet s depth])
    (hsize : Part.repeatedWeight 1 none (Part.setWeight s) ≤ sizeLimit) :
    Reads ic (piece ++ ['+']) [loopPart 1 true s depth] := by
  exact h.loop rfl (fun r rest hrest => step_plus (readLazy_of_fresh hrest)) hsize (Nat.le_refl 1)

/-! ## Around one capture -/

/-- The notation that opens the capture. -/
def opening : List Char := "(?P<value>".toList

/-- The part of the capture group, as number 1. -/
def capturePart (vs : List Part) : Part :=
  let b := Branch.ofParts vs.reverse
  .item [.group 1 (.chain b.factors)] (b.depth + 1) (b.weight + 2)

/-- The parts of a pattern around the capture. -/
def around (ps vs qs : List Part) : List Part := ps ++ capturePart vs :: qs

/-- The reader within the capture. -/
def opened (ic : Bool) (ps : List Part) : Reader :=
  ⟨initialFlags ic, [], [], [⟨initialFlags ic, [], ps.reverse, some 1⟩], 1, [("value".toList, 1)]⟩

/-- The reader behind the capture. -/
def closed (ic : Bool) (ps vs : List Part) : Reader :=
  ⟨initialFlags ic, [], capturePart vs :: ps.reverse, [], 1, [("value".toList, 1)]⟩

theorem step_opening (ps : List Part) (rest : List Char) :
    ((start (initialFlags ic)).pushAll ps).step '(' (opening.tail ++ rest) =
      .ok (opened ic ps, rest) := by
  rw [pushAll, start, List.append_nil]
  cases ic <;> rfl

theorem step_closing (ps vs : List Part) (rest : List Char) :
    ((opened ic ps).pushAll vs).step ')' rest = .ok (closed ic ps vs, rest) := by
  rw [pushAll, opened, List.append_nil]
  rfl

/-! ## Within the limits -/

/-- A part without captures and without idle rounds, shallow and light. -/
structure Plain (p : Part) : Prop where
  captures : ∀ e ∈ p.factors, e.captures = []
  productive : ∀ e ∈ p.factors, e.productive = true
  depth_le : p.depth ≤ 2
  weight_le : p.weight ≤ 1000

/-- Only parts without captures and without idle rounds, shallow and light. -/
def AllPlain (ps : List Part) : Prop := ∀ p ∈ ps, Plain p

@[simp] theorem allPlain_append : AllPlain (ps ++ qs) ↔ AllPlain ps ∧ AllPlain qs :=
  List.forall_mem_append

@[simp] theorem allPlain_nil : AllPlain [] :=
  fun _ hp => nomatch hp

@[simp] theorem allPlain_cons {p : Part} : AllPlain (p :: ps) ↔ Plain p ∧ AllPlain ps :=
  List.forall_mem_cons

/-- A branch is at most one level deeper than its parts. -/
theorem depth_ofParts_le {ps : List Part} {d : Nat} (h : ∀ p ∈ ps, p.depth ≤ d) :
    (Branch.ofParts ps.reverse).depth ≤ d + 1 := by
  have hfold : ∀ n ≤ d, ps.foldl (fun d p => Nat.max d p.depth) n ≤ d := by
    induction ps with
    | nil => exact fun n hn => hn
    | cons p ps ih =>
      intro n hn
      exact ih (fun q hq => h q (List.mem_cons_of_mem p hq)) _
        (Nat.max_le.2 ⟨hn, h p List.mem_cons_self⟩)
  have hdepth := hfold 0 (Nat.zero_le d)
  simp only [Branch.ofParts, List.reverse_reverse]
  split <;> omega

/-- The weight of parts together. -/
def totalWeight : List Part → Nat
  | [] => 0
  | p :: ps => p.weight + totalWeight ps

theorem totalWeight_append (ps qs : List Part) :
    totalWeight (ps ++ qs) = totalWeight ps + totalWeight qs := by
  induction ps with
  | nil => exact (Nat.zero_add _).symm
  | cons p ps ih => rw [List.cons_append, totalWeight, totalWeight, ih, Nat.add_assoc]

theorem weight_ofParts (ps : List Part) :
    (Branch.ofParts ps.reverse).weight = totalWeight ps := by
  have hfold : ∀ n, ps.foldl (fun w p => w + p.weight) n = n + totalWeight ps := by
    induction ps with
    | nil => exact fun n => rfl
    | cons p ps ih =>
      intro n
      rw [List.foldl_cons, ih, totalWeight, Nat.add_assoc]
  rw [Branch.ofParts, List.reverse_reverse]
  exact (hfold 0).trans (Nat.zero_add _)

theorem totalWeight_le (h : AllPlain ps) : totalWeight ps ≤ 1000 * ps.length := by
  induction ps with
  | nil => exact Nat.zero_le _
  | cons p ps ih =>
    have hhead := (h p List.mem_cons_self).weight_le
    have htail := ih fun q hq => h q (List.mem_cons_of_mem p hq)
    rw [totalWeight, List.length_cons]
    omega

variable {vs : List Part}

theorem depth_around_le (h : AllPlain (ps ++ vs ++ qs)) :
    (Branch.ofParts (around ps vs qs).reverse).depth ≤ depthLimit := by
  have hvs : (Branch.ofParts vs.reverse).depth ≤ 2 + 1 := depth_ofParts_le fun p hp =>
    (h p (List.mem_append_left _ (List.mem_append_right _ hp))).depth_le
  have hall : (Branch.ofParts (around ps vs qs).reverse).depth ≤ 4 + 1 := by
    refine depth_ofParts_le fun p hp => ?_
    rcases List.mem_append.1 hp with hp | hp
    · exact Nat.le_trans (h p (List.mem_append_left _ (List.mem_append_left _ hp))).depth_le (by decide)
    · rcases List.mem_cons.1 hp with rfl | hp
      · exact Nat.succ_le_succ hvs
      · exact Nat.le_trans (h p (List.mem_append_right _ hp)).depth_le (by decide)
  exact Nat.le_trans hall (by decide)

/-- The weight around the capture: that of all parts, and two for the group. -/
theorem weight_around (ps vs qs : List Part) :
    (Branch.ofParts (around ps vs qs).reverse).weight = totalWeight (ps ++ vs ++ qs) + 2 := by
  have hcapture : (capturePart vs).weight = totalWeight vs + 2 :=
    congrArg (· + 2) (weight_ofParts vs)
  rw [weight_ofParts, around]
  simp only [totalWeight_append, totalWeight, hcapture]
  omega

theorem weight_around_le (h : AllPlain (ps ++ vs ++ qs))
    (hlength : (ps ++ vs ++ qs).length ≤ 2000) :
    (Branch.ofParts (around ps vs qs).reverse).weight ≤ sizeLimit := by
  have hsum := totalWeight_le h
  rw [weight_around, sizeLimit]
  omega

/-! ## A whole pattern -/

theorem flatMap_factors_around (ps vs qs : List Part) :
    (around ps vs qs).flatMap Part.factors =
      ps.flatMap Part.factors ++
        .group 1 (.chain (vs.flatMap Part.factors)) :: qs.flatMap Part.factors := by
  rw [around, List.flatMap_append, List.flatMap_cons, capturePart, Branch.ofParts,
    List.reverse_reverse]
  rfl

/-- The captures of a chain are those of its members. -/
theorem captures_chain_append (es fs : List Expr) :
    (Expr.chain (es ++ fs)).captures = (Expr.chain es).captures ++ (Expr.chain fs).captures := by
  induction es with
  | nil => rfl
  | cons e es ih =>
    cases es with
    | nil =>
      cases fs with
      | nil => exact (List.append_nil _).symm
      | cons f fs => rfl
    | cons e' es =>
      show e.captures ++ (Expr.chain (e' :: es ++ fs)).captures = _
      rw [ih, ← List.append_assoc]
      rfl

/-- **A pattern around one capture is read as its parts,** unless it is too large. -/
theorem read_around {pre value post : List Char} {ps vs qs : List Part} (hps : Reads ic pre ps)
    (hvs : Reads ic value vs) (hqs : Reads ic post qs) (hplain : AllPlain (ps ++ vs ++ qs)) :
    Pattern.read (initialFlags ic) (pre ++ opening ++ value ++ ')' :: post) =
      if sizeLimit < (Branch.ofParts (around ps vs qs).reverse).weight then .error .tooLarge
      else .ok ⟨.chain ((around ps vs qs).flatMap Part.factors), [("value".toList, 1)]⟩ := by
  obtain ⟨k, hk, hrun⟩ := hps
  obtain ⟨l, hl, hrun'⟩ := hvs
  obtain ⟨m, hm, hrun''⟩ := hqs
  have hdepth := depth_around_le hplain
  have hchars : (pre ++ opening ++ value ++ ')' :: post).length =
      pre.length + 10 + value.length + post.length + 1 := by
    simp only [List.length_append, List.length_cons]
    rfl
  obtain ⟨n, hn⟩ : ∃ n, (pre ++ opening ++ value ++ ')' :: post).length =
      n + m + 1 + l + 1 + k :=
    ⟨pre.length + 10 + value.length + post.length + 1 - (m + 1 + l + 1 + k), by omega⟩
  have hread : run (n + m + 1 + l + 1 + k) (start (initialFlags ic))
      (pre ++ opening ++ value ++ ')' :: post) = .ok ((closed ic ps vs).pushAll qs) := by
    rw [List.append_assoc, List.append_assoc, hrun _ _ _ rfl rfl]
    refine (run_succ (rfl : _ = initialFlags ic) (step_opening ps _) _).trans ?_
    rw [hrun' _ _ _ rfl rfl]
    refine (run_succ (rfl : _ = initialFlags ic) (step_closing ps vs post) _).trans ?_
    have hlast := hrun'' n (closed ic ps vs) [] rfl rfl
    rw [List.append_nil] at hlast
    rw [hlast]
    unfold run
    rfl
  have hparts : ((closed ic ps vs).pushAll qs).parts = (around ps vs qs).reverse := by
    simp [closed, pushAll, around]
  have hbody : ((closed ic ps vs).pushAll qs).body = Branch.ofParts (around ps vs qs).reverse := by
    rw [body, hparts]
    rfl
  have hfactors : (Branch.ofParts (around ps vs qs).reverse).factors =
      (around ps vs qs).flatMap Part.factors := by
    rw [Branch.ofParts, List.reverse_reverse]
  have hcaptured : 1 ∈ (Expr.chain ((around ps vs qs).flatMap Part.factors)).captures := by
    rw [flatMap_factors_around, captures_chain_append]
    refine List.mem_append_right _ ?_
    cases qs.flatMap Part.factors with
    | nil => exact List.mem_cons_self
    | cons f fs => exact List.mem_append_left _ List.mem_cons_self
  rw [Pattern.read, hn, hread]
  show (do
    if !((closed ic ps vs).pushAll qs).groups.isEmpty then throw .groupUnclosed
    if depthLimit < ((closed ic ps vs).pushAll qs).body.depth then throw .nestedTooDeep
    if sizeLimit < ((closed ic ps vs).pushAll qs).body.weight then throw .tooLarge
    pure ⟨.chain ((closed ic ps vs).pushAll qs).body.factors,
      ((closed ic ps vs).pushAll qs).names.filter fun name =>
        name.2 ∈ (Expr.chain ((closed ic ps vs).pushAll qs).body.factors).captures⟩ :
      Except Fault Source) = _
  rw [hbody]
  simp only [hfactors, if_neg (Nat.not_lt.2 hdepth)]
  by_cases hlarge : sizeLimit < (Branch.ofParts (around ps vs qs).reverse).weight
  · rw [if_pos hlarge, if_pos hlarge]
    rfl
  · rw [if_neg hlarge, if_neg hlarge]
    simp [closed, pushAll, hcaptured]
    rfl

end Reader
end Pattern
end LiteralPatch
