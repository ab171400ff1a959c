import LiteralPatch.Proofs.Profile.Tiles
import LiteralPatch.Proofs.Rule.Swept
import Mathlib.Data.List.Infix

/-!
# A pattern finds the same in both texts

Two texts that differ in swapped words are searched with the same pattern.  At corresponding places a goal
should give the same, that is, either nothing in both texts or successes at corresponding places with marks
at corresponding places (`Agrees`).  This is carried from the end of a pattern to its front, piece by piece.
Some pieces agree only where the text in front is of a kind, and then it is said which (`AgreesBehind`).

Two things could go wrong where a word has been swapped.  A piece might match one of the words and not the
other; literal text does not, since no word in it begins as a bland word does (`clears`), and a
loop runs either over all word characters or over none.  And a match might begin or go on within a swapped
word, where there are no corresponding places; but what follows a loop over word characters is *stuck*
there, it fails within any bland word (`Stuck`).
-/

namespace LiteralPatch

open Text Unicode Pattern Cursor

namespace Profile

/-! ## Corresponding results -/

/-- The marks are under one slot, at corresponding places. -/
def MarkTwin (ts : List Tile) (m m' : Mark) : Prop :=
  m.1 = m'.1 ∧ ∃ as bs, ts = as ++ bs ∧ m.2 = width (oldText as) ∧ m'.2 = width (newText as)

/-- The successes are at corresponding places, with corresponding marks. -/
def SuccessTwin (ts : List Tile) (s s' : Program.Success) : Prop :=
  List.Forall₂ (MarkTwin ts) s.1 s'.1 ∧ ∃ as bs, ts = as ++ bs ∧
    s.2 = between (oldText as) (oldText bs) ∧ s'.2 = between (newText as) (newText bs)

/-- At the place between `as` and `bs` the goal gives the same in both texts. -/
def AgreesAt (as bs : List Tile) (g : Goal) : Prop :=
  ∀ ms ms', List.Forall₂ (MarkTwin (as ++ bs)) ms ms' →
    Option.Rel (SuccessTwin (as ++ bs)) (g (between (oldText as) (oldText bs)) ms)
      (g (between (newText as) (newText bs)) ms')

/-- The goal gives the same at all corresponding places; with the flag, at those behind a word
character. -/
def Agrees (ts : List Tile) (inWord : Bool) (g : Goal) : Prop :=
  ∀ as bs, ts = as ++ bs →
    (inWord = true → Assertion.isWordAt true (oldText as).getLast? = true) → AgreesAt as bs g

/-- The goal gives the same at corresponding places behind an old text as `Q` wants it. -/
def AgreesBehind (ts : List Tile) (Q : List Char → Prop) (g : Goal) : Prop :=
  ∀ as bs, ts = as ++ bs → Q (oldText as) → AgreesAt as bs g

/-- Within a bland word the goal fails. -/
def Stuck (g : Goal) : Prop :=
  ∀ l p q r ms, Bland (p ++ q) → p ≠ [] → q ≠ [] → (∀ x ∈ r.head?, isWord x = false) →
    g (between (l ++ p) (q ++ r)) ms = none

section Goals

variable {ts as bs : List Tile} {g g' : Goal} {inWord inWord' greedy : Bool} {s : CharSet}
  {i : Nat} {Q Q' : List Char → Prop}

theorem Agrees.mono (h : Agrees ts false g) : Agrees ts inWord g :=
  fun as bs hts _ => h as bs hts fun hfalse => nomatch hfalse

theorem agrees_iff : Agrees ts inWord g ↔
    AgreesBehind ts (fun l => inWord = true → Assertion.isWordAt true l.getLast? = true) g :=
  Iff.rfl

theorem Agrees.behind (h : Agrees ts false g) : AgreesBehind ts Q g :=
  fun as bs hts _ => h as bs hts fun hfalse => nomatch hfalse

theorem AgreesBehind.agrees (h : AgreesBehind ts (fun _ => True) g) : Agrees ts inWord g :=
  fun as bs hts _ => h as bs hts trivial

theorem Agrees.at (h : Agrees (as ++ bs) false g) : AgreesAt as bs g :=
  h as bs rfl fun hfalse => nomatch hfalse

theorem agreesAt_of_none (h : ∀ ms, g (between (oldText as) (oldText bs)) ms = none)
    (h' : ∀ ms, g (between (newText as) (newText bs)) ms = none) : AgreesAt as bs g := by
  intro ms ms' _
  rw [h, h']
  exact .none

theorem agrees_success : Agrees ts false Goal.success := by
  rintro as bs rfl - ms ms' hms
  exact .some ⟨hms, as, bs, rfl, rfl, rfl⟩

/-! ## Preferences and captures -/

theorem rel_prefer {R : Program.Success → Program.Success → Prop} {r₁ r₂ r₁' r₂' : Option Program.Success}
    (h₁ : Option.Rel R r₁ r₁') (h₂ : Option.Rel R r₂ r₂') :
    Option.Rel R (prefer greedy r₁ r₂) (prefer greedy r₁' r₂') := by
  have hor : ∀ {r₁ r₂ r₁' r₂' : Option Program.Success}, Option.Rel R r₁ r₁' → Option.Rel R r₂ r₂' →
      Option.Rel R (r₁.or r₂) (r₁'.or r₂') := by
    intro r₁ r₂ r₁' r₂' h₁ h₂
    cases h₁ with
    | some h => exact .some h
    | none => exact h₂
  cases greedy with
  | true => exact hor h₁ h₂
  | false => exact hor h₂ h₁

theorem agrees_opt {e : Expr} (he : Agrees ts inWord (e.first g)) (hg : Agrees ts inWord g) :
    Agrees ts inWord ((Expr.opt greedy e).first g) :=
  fun as bs hts hword ms ms' hms => rel_prefer (he as bs hts hword ms ms' hms) (hg as bs hts hword ms ms' hms)

/-- The goal behind the expression of a group. -/
def closing (i : Nat) (g : Goal) : Goal :=
  fun there ms => g there ((2 * i + 1, there.offset) :: ms)

theorem AgreesBehind.closing (h : AgreesBehind ts Q g) : AgreesBehind ts Q (closing i g) := by
  rintro as bs rfl hQ ms ms' hms
  exact h as bs rfl hQ _ _ (.cons ⟨rfl, as, bs, rfl, rfl, rfl⟩ hms)

theorem Agrees.closing (h : Agrees ts inWord g) : Agrees ts inWord (closing i g) :=
  agrees_iff.2 (agrees_iff.1 h).closing

theorem Stuck.closing (h : Stuck g) : Stuck (closing i g) :=
  fun l p q r _ hbland hp hq hr => h l p q r _ hbland hp hq hr

theorem agreesBehind_group {e : Expr} (h : AgreesBehind ts Q (e.first (closing i g))) :
    AgreesBehind ts Q ((Expr.group i e).first g) := by
  rintro as bs rfl hQ ms ms' hms
  exact h as bs rfl hQ _ _ (.cons ⟨rfl, as, bs, rfl, rfl, rfl⟩ hms)

theorem agrees_group {e : Expr} (h : Agrees ts inWord (e.first (closing i g))) :
    Agrees ts inWord ((Expr.group i e).first g) :=
  agrees_iff.2 (agreesBehind_group (agrees_iff.1 h))

theorem stuck_group {e : Expr} (h : Stuck (e.first (closing i g))) :
    Stuck ((Expr.group i e).first g) :=
  fun l p q r _ hbland hp hq hr => h l p q r _ hbland hp hq hr

/-! ## Single characters -/

/-- A set steps over a character of both texts. -/
theorem agreesAt_set_keep {c : Char} (h : s.has c = true → AgreesAt (as ++ [.keep c]) bs g) :
    AgreesAt as (.keep c :: bs) ((Expr.set s).first g) := by
  intro ms ms' hms
  simp only [oldText_cons, newText_cons, Tile.old, Tile.new, List.singleton_append,
    Expr.first_set_cons]
  split
  · next hc =>
    have hsplit : as ++ .keep c :: bs = as ++ [.keep c] ++ bs := by simp
    rw [hsplit] at hms ⊢
    simpa [Tile.old, Tile.new] using h hc ms ms' hms
  · exact .none

theorem first_set_shut {v l r : List Char} {ms : List Mark} (hne : v ≠ [])
    (h : ∀ c ∈ v.head?, s.has c = false) : (Expr.set s).first g (between l (v ++ r)) ms = none := by
  cases v with
  | nil => exact absurd rfl hne
  | cons c v =>
    rw [List.cons_append, Expr.first_set_cons, if_neg (by simp [h c rfl])]

/-- A set from which no bland word begins, or before which no word is swapped. -/
theorem agreesBehind_set (hg : AgreesBehind ts Q' g)
    (hstep : ∀ l c, Q l → s.has c = true → Q' (l ++ [c]))
    (hstart : (∀ as v w h bs, ts = as ++ .swap v w h :: bs → ¬ Q (oldText as)) ∨
      ∀ c v, Bland (c :: v) → s.has c = false) :
    AgreesBehind ts Q ((Expr.set s).first g) := by
  rintro as bs rfl hQ
  cases bs with
  | nil => exact agreesAt_of_none (fun _ => rfl) fun _ => rfl
  | cons t bs =>
    cases t with
    | keep c =>
      refine agreesAt_set_keep fun hc => hg _ _ (by simp) ?_
      rw [oldText_append, oldText_cons, Tile.old, oldText_nil, List.append_nil]
      exact hstep _ c hQ hc
    | swap v w h =>
      rcases hstart with hclear | hstart
      · exact absurd hQ (hclear _ _ _ _ _ rfl)
      · have hshut : ∀ v, Bland v → ∀ c ∈ v.head?, s.has c = false := by
          intro v hv c hc
          obtain ⟨u, rfl⟩ := List.head?_eq_some_iff.1 hc
          exact hstart c u hv
        exact agreesAt_of_none
          (fun _ => first_set_shut h.bland.1.ne_nil (hshut v h.bland.1))
          (fun _ => first_set_shut h.bland.2.ne_nil (hshut w h.bland.2))

/-- A set from which no bland word begins, or behind a word character. -/
theorem agrees_set (hts : Parted [] ts) (hg : Agrees ts inWord' g)
    (hword : inWord' = true → ∀ c, s.has c = true → isWord c = true)
    (hstart : inWord = true ∨ ∀ c v, Bland (c :: v) → s.has c = false) :
    Agrees ts inWord ((Expr.set s).first g) := by
  refine agrees_iff.2 (agreesBehind_set (agrees_iff.1 hg) (fun l c _ hc hin => ?_) (hstart.imp_left ?_))
  · rw [List.getLast?_concat]
    exact hword hin c hc
  · rintro rfl as v w h bs rfl hlast
    rw [hts.edges.1.1] at hlast
    exact absurd (hlast rfl) Bool.false_ne_true

/-- A set without word characters fails within a word. -/
theorem stuck_set (h : ∀ c, isWord c = true → s.has c = false) : Stuck ((Expr.set s).first g) := by
  intro l p q r ms hbland _ hq _
  refine first_set_shut hq fun c hc => h c (hbland.isWord c ?_)
  exact List.mem_append_right p (List.mem_of_mem_head? hc)

/-! ## Word edges -/

theorem first_edge {l r : List Char} {ms : List Mark} : Expr.edge.first g (between l r) ms =
    if (Assertion.isWordAt true l.getLast? != Assertion.isWordAt true r.head?) = true
      then g (between l r) ms else none := rfl

theorem agrees_edge (hg : Agrees ts false g) : Agrees ts inWord (Expr.edge.first g) := by
  rintro as bs rfl - ms ms' hms
  rw [first_edge, first_edge, isWordAt_getLast?, isWordAt_head?]
  split
  · exact hg.at ms ms' hms
  · exact .none

/-- No word begins or ends within a word. -/
theorem stuck_edge : Stuck (Expr.edge.first g) := by
  intro l p q r ms hbland hp hq _
  have hlast := isWordAt_getLast?_of_kind (a := l) hp fun c hc =>
    hbland.isWord c (List.mem_append_left q hc)
  have hhead := isWordAt_head?_of_kind (c := r) hq fun c hc =>
    hbland.isWord c (List.mem_append_right p hc)
  rw [first_edge, hlast, hhead, if_neg (by decide)]

/-! ## Loops -/

section Rounds

variable {l r : List Char} {ms : List Mark} {c : Char} {n : Nat}

theorem rounds_set_nil : rounds greedy (Expr.set s).first g n (between l []) ms = g (between l []) ms := by
  cases n with
  | zero => rfl
  | succ n => exact prefer_none_left

theorem rounds_set_of_not (hc : s.has c = false) :
    rounds greedy (Expr.set s).first g n (between l (c :: r)) ms = g (between l (c :: r)) ms := by
  cases n with
  | zero => rfl
  | succ n =>
    rw [rounds_succ, Expr.first_set_cons, if_neg (by simp [hc]), prefer_none_left]

theorem rounds_set_of_has (hc : s.has c = true) :
    rounds greedy (Expr.set s).first g (n + 1) (between l (c :: r)) ms =
      prefer greedy (rounds greedy (Expr.set s).first g n (between (l ++ [c]) r) ms)
        (g (between l (c :: r)) ms) := by
  rw [rounds_succ, Expr.first_set_cons, if_pos hc]

/-- A loop over word characters that is stuck within words runs through the rest of a word. -/
theorem rounds_rest_of_word (hs : ∀ c, isWord c = true → s.has c = true) (hg : Stuck g) {p q : List Char}
    (hbland : Bland (p ++ q)) (hp : p ≠ []) (hr : ∀ x ∈ r.head?, isWord x = false) :
    rounds greedy (Expr.set s).first g (q.length + n) (between (l ++ p) (q ++ r)) ms =
      rounds greedy (Expr.set s).first g n (between (l ++ (p ++ q)) r) ms := by
  induction q generalizing p with
  | nil => simp
  | cons c q ih =>
    have hc := hs c (hbland.isWord c (by simp))
    have hnone := hg l p (c :: q) r ms hbland hp (List.cons_ne_nil c q) hr
    rw [List.cons_append] at hnone
    rw [List.length_cons, Nat.add_right_comm, List.cons_append, rounds_set_of_has hc, hnone,
      prefer_none_right]
    have hmove : p ++ c :: q = p ++ [c] ++ q := by simp
    rw [hmove] at hbland ⊢
    rw [← ih hbland (by simp), ← List.append_assoc]

/-- A loop over word characters that is stuck within words takes a word as a whole or stays before it. -/
theorem rounds_word (hs : ∀ c, isWord c = true → s.has c = true) (hg : Stuck g) {v : List Char}
    (hbland : Bland v) (hr : ∀ x ∈ r.head?, isWord x = false) :
    rounds greedy (Expr.set s).first g (v.length + n) (between l (v ++ r)) ms =
      prefer greedy (rounds greedy (Expr.set s).first g n (between (l ++ v) r) ms)
        (g (between l (v ++ r)) ms) := by
  cases v with
  | nil => exact absurd rfl hbland.ne_nil
  | cons c v =>
    have hc := hs c (hbland.isWord c List.mem_cons_self)
    have hrest : rounds greedy (Expr.set s).first g (v.length + n) (between (l ++ [c]) (v ++ r)) ms =
        rounds greedy (Expr.set s).first g n (between (l ++ ([c] ++ v)) r) ms :=
      rounds_rest_of_word hs hg hbland (List.cons_ne_nil c []) hr
    rw [List.length_cons, Nat.add_right_comm, List.cons_append, rounds_set_of_has hc, hrest,
      List.singleton_append]

end Rounds

/-- A set of which a loop may be made: it has all word characters and the goal behind the loop is stuck, or
it has none. -/
def Even (s : CharSet) (g : Goal) : Prop :=
  (∀ c, isWord c = true → s.has c = false) ∨ (∀ c, isWord c = true → s.has c = true) ∧ Stuck g

theorem behind_append (hstep : ∀ l c, Q l → s.has c = true → Q (l ++ [c])) {l v : List Char} (hQ : Q l)
    (hv : ∀ c ∈ v, s.has c = true) : Q (l ++ v) := by
  induction v generalizing l with
  | nil => rwa [List.append_nil]
  | cons c v ih =>
    obtain ⟨hc, hrest⟩ := List.forall_mem_cons.1 hv
    simpa using ih (hstep l c hQ hc) hrest

theorem agreesAt_rounds (hs : Even s g) (hts : Parted [] (as ++ bs)) (hg : AgreesBehind (as ++ bs) Q g)
    (hstep : ∀ l c, Q l → s.has c = true → Q (l ++ [c])) (hQ : Q (oldText as)) {n n' : Nat}
    (hn : (oldText bs).length ≤ n) (hn' : (newText bs).length ≤ n') {ms ms' : List Mark}
    (hms : List.Forall₂ (MarkTwin (as ++ bs)) ms ms') :
    Option.Rel (SuccessTwin (as ++ bs))
      (rounds greedy (Expr.set s).first g n (between (oldText as) (oldText bs)) ms)
      (rounds greedy (Expr.set s).first g n' (between (newText as) (newText bs)) ms') := by
  induction bs generalizing as n n' with
  | nil =>
    rw [oldText_nil, newText_nil, rounds_set_nil, rounds_set_nil]
    exact hg as [] rfl hQ ms ms' hms
  | cons t bs ih =>
    have hleave := hg as (t :: bs) rfl hQ ms ms' hms
    have hmove : as ++ t :: bs = as ++ [t] ++ bs := by simp
    cases t with
    | keep c =>
      by_cases hc : s.has c = true
      · simp only [oldText_cons, newText_cons, Tile.old, Tile.new, List.singleton_append,
          List.length_cons] at hn hn' hleave ⊢
        obtain ⟨n, rfl⟩ : ∃ m, n = m + 1 := ⟨n - 1, by omega⟩
        obtain ⟨n', rfl⟩ : ∃ m, n' = m + 1 := ⟨n' - 1, by omega⟩
        rw [rounds_set_of_has hc, rounds_set_of_has hc]
        refine rel_prefer ?_ hleave
        rw [hmove] at hts hg hms ⊢
        have hle : (oldText bs).length ≤ n := by omega
        have hle' : (newText bs).length ≤ n' := by omega
        have hround := ih hts hg (by simpa [Tile.old] using hstep _ c hQ hc) hle hle' hms
        simpa [Tile.old, Tile.new] using hround
      · simp only [oldText_cons, newText_cons, Tile.old, Tile.new, List.singleton_append] at hleave ⊢
        rw [rounds_set_of_not (Bool.not_eq_true _ ▸ hc), rounds_set_of_not (Bool.not_eq_true _ ▸ hc)]
        exact hleave
    | swap v w h =>
      obtain ⟨-, hold, hnew⟩ := hts.edges
      simp only [oldText_cons, newText_cons, Tile.old, Tile.new] at hn hn' hleave ⊢
      rcases hs with hnone | ⟨hall, hstuck⟩
      · have hshut : ∀ {v l r : List Char} {n : Nat} {ms : List Mark}, Bland v →
            rounds greedy (Expr.set s).first g n (between l (v ++ r)) ms = g (between l (v ++ r)) ms := by
          intro v l r n ms hv
          cases v with
          | nil => exact absurd rfl hv.ne_nil
          | cons c v => exact rounds_set_of_not (hnone c (hv.isWord c List.mem_cons_self))
        rw [hshut h.bland.1, hshut h.bland.2]
        exact hleave
      · rw [List.length_append] at hn hn'
        obtain ⟨n, rfl⟩ : ∃ m, n = v.length + m := ⟨n - v.length, by omega⟩
        obtain ⟨n', rfl⟩ : ∃ m, n' = w.length + m := ⟨n' - w.length, by omega⟩
        rw [rounds_word hall hstuck h.bland.1 hold, rounds_word hall hstuck h.bland.2 hnew]
        refine rel_prefer ?_ hleave
        rw [hmove] at hts hg hms ⊢
        have hle : (oldText bs).length ≤ n := by omega
        have hle' : (newText bs).length ≤ n' := by omega
        have hword : Q (oldText as ++ v) :=
          behind_append hstep hQ fun c hc => hall c (h.bland.1.isWord c hc)
        have hround := ih hts hg (by simpa [Tile.old] using hword) hle hle' hms
        simpa [Tile.old, Tile.new] using hround

theorem agreesBehind_star (hts : Parted [] ts) (hs : Even s g)
    (hstep : ∀ l c, Q l → s.has c = true → Q (l ++ [c])) (hg : AgreesBehind ts Q g) :
    AgreesBehind ts Q ((Expr.star greedy (.set s)).first g) := by
  rintro as bs rfl hQ ms ms' hms
  exact agreesAt_rounds hs hts hg hstep hQ (Nat.le_refl _) (Nat.le_refl _) hms

theorem agrees_star (hts : Parted [] ts) (hs : Even s g) (hg : Agrees ts false g) :
    Agrees ts inWord ((Expr.star greedy (.set s)).first g) :=
  (agreesBehind_star hts hs (fun _ _ _ _ => trivial) hg.behind).agrees

/-! ## Literal text -/

/-- Whether a bland word may begin with the character. -/
def startsBland (c : Char) : Bool :=
  isDigit c || ['f', 't', 'n'].any fun d => fold c.toNat == fold d.toNat

theorem Bland.startsBland {c : Char} {v : List Char} (h : Bland (c :: v)) : startsBland c = true := by
  rcases h with ⟨-, hdigits⟩ | ⟨w, hw, hsame⟩
  · rw [Profile.startsBland, hdigits c List.mem_cons_self, Bool.true_or]
  · obtain ⟨_, _, heq, d, hd, hfold⟩ := exists_head_of_literal hw hsame
    obtain ⟨rfl, -⟩ := List.cons.inj heq
    rw [Profile.startsBland, Bool.or_eq_true, List.any_eq_true]
    exact .inr ⟨d, hd, beq_iff_eq.2 hfold⟩

/-- No word of the text begins as a bland word does; the flag says that the text begins within a
word. -/
def clears : Bool → List Char → Bool
  | _, [] => true
  | inWord, c :: cs => (inWord || !startsBland c) && clears (isWord c) cs

theorem agrees_text {cs : List Char} (hts : Parted [] ts) (hcs : clears inWord cs = true)
    (hg : Agrees ts false g) : Agrees ts inWord ((Expr.chain (Expr.text false cs)).first g) := by
  induction cs generalizing inWord with
  | nil => exact hg.mono
  | cons c cs ih =>
    rw [clears, Bool.and_eq_true, Bool.or_eq_true, Bool.not_eq_true'] at hcs
    have hhas : ∀ d, ((initialFlags false).literal c).has d = true ↔ d = c := CharSet.has_ofChar c
    show Agrees ts inWord ((Expr.chain (.set ((initialFlags false).literal c) ::
      Expr.text false cs)).first g)
    rw [Expr.first_chain_cons]
    refine agrees_set hts (ih hcs.2) (fun hc d hd => (hhas d).1 hd ▸ hc) (hcs.1.imp id ?_)
    intro hclear d v hbland
    refine Bool.eq_false_iff.2 fun hd => ?_
    rw [← (hhas d).1 hd, hbland.startsBland] at hclear
    cases hclear

/-- Whether the texts are equal up to case as far as both reach. -/
def compatible : List Char → List Char → Bool
  | c :: cs, d :: ds => fold c.toNat == fold d.toNat && compatible cs ds
  | _, _ => true

/-- The text cannot stand at the end of a bland word and behind it. -/
def foreign (cs : List Char) : Bool :=
  cs.head?.any (!isDigit ·) && literals.all fun w =>
    w.tails.all fun u => u.isEmpty || !compatible cs u

theorem compatible_of_append {cs q r x u : List Char} (h : q ++ r = cs ++ x) (hq : SameText q u) :
    compatible cs u = true := by
  induction cs generalizing q u with
  | nil => cases u <;> rfl
  | cons c cs ih =>
    cases u with
    | nil => rfl
    | cons d u =>
      obtain ⟨c', q, rfl, hfold, hq⟩ := sameText_cons.1 hq
      obtain ⟨rfl, hrest⟩ := List.cons.inj h
      rw [compatible, ih hrest hq, Bool.and_true]
      exact beq_iff_eq.2 hfold

theorem sameText_append {p q w : List Char} (h : SameText (p ++ q) w) :
    ∃ u, u <:+ w ∧ SameText q u := by
  unfold SameText foldText at h
  rw [List.map_append] at h
  obtain ⟨a, u, rfl, -, hu⟩ := List.map_eq_append_iff.1 h.symm
  exact ⟨u, List.suffix_append a u, hu.symm⟩

theorem stuck_text {cs : List Char} (hcs : foreign cs = true) :
    Stuck ((Expr.chain (Expr.text false cs)).first g) := by
  intro l p q r ms hbland hp hq hr
  rw [foreign, Bool.and_eq_true] at hcs
  obtain ⟨hhead, hwords⟩ := hcs
  cases hfirst : (Expr.chain (Expr.text false cs)).first g (between (l ++ p) (q ++ r)) ms with
  | none => rfl
  | some out =>
    obtain ⟨w, x, -, heq, hw, -⟩ := Expr.exists_spells_of_first hfirst
    obtain rfl := Expr.spells_text.1 hw
    rcases hbland with ⟨-, hdigits⟩ | ⟨v, hv, hsame⟩
    · -- the text does not begin with a digit
      obtain ⟨c, hc, hdigit⟩ := (Option.any_eq_true _ _).1 hhead
      obtain ⟨w, rfl⟩ := List.head?_eq_some_iff.1 hc
      cases q with
      | nil => exact absurd rfl hq
      | cons d q =>
        obtain ⟨rfl, -⟩ := List.cons.inj heq
        rw [hdigits d (by simp)] at hdigit
        cases hdigit
    · obtain ⟨u, hu, hq'⟩ := sameText_append hsame
      have hclash := List.all_eq_true.1 (List.all_eq_true.1 hwords v hv) u ((List.mem_tails u v).2 hu)
      rw [compatible_of_append heq hq', Bool.not_true, Bool.or_false, List.isEmpty_iff] at hclash
      subst hclash
      exact absurd (sameText_nil.1 hq') hq

/-! ## The value -/

section Value

variable {e : Expr} {fits : List Char → Prop}

/-- An expression for words, tried before a bland word with a goal that is stuck within words: it takes the
word as a whole or fails. -/
theorem first_word (hspells : ∀ l w r, e.Spells l w r ↔ fits w)
    (hfits : ∀ w, fits w → ∀ c ∈ w, isWord c = true) (hprod : e.productive = true)
    (hfree : e.captures = []) (hnull : e.nullable = false) (hg : Stuck g) {l v r : List Char}
    (hv : Bland v) (hr : ∀ x ∈ r.head?, isWord x = false) (ms : List Mark) :
    (fits v → e.first g (between l (v ++ r)) ms = g (between (l ++ v) r) ms) ∧
      (¬ fits v → e.first g (between l (v ++ r)) ms = none) := by
  have honly : ∀ w x, v ++ r = w ++ x → e.Spells l w x →
      w = v ∨ ∀ ms, g (between (l ++ w) x) ms = none := by
    intro w x heq hw
    have hne := hw.ne_nil hnull
    rcases List.append_eq_append_iff.1 heq with ⟨u, rfl, rfl⟩ | ⟨q, rfl, rfl⟩
    · cases u with
      | nil => exact .inl (List.append_nil v)
      | cons c u =>
        have hword := hfits _ ((hspells _ _ _).1 hw) c (by simp)
        rw [hr c rfl] at hword
        cases hword
    · cases q with
      | nil => exact .inl (List.append_nil w).symm
      | cons c q => exact .inr fun ms => hg l w (c :: q) r ms hv hne (List.cons_ne_nil c q) hr
  constructor
  · exact fun hfit => Expr.first_eq_of_only hprod hfree ((hspells l v r).2 hfit)
      fun w x heq hw => (honly w x heq hw).imp id fun h => h ms
  · intro hnot
    cases hfirst : e.first g (between l (v ++ r)) ms with
    | none => rfl
    | some out =>
      obtain ⟨w, x, ms', heq, hw, hout, -⟩ := Expr.exists_spells_of_first hfirst
      rcases honly w x heq hw with rfl | hnone
      · exact absurd ((hspells _ _ _).1 hw) hnot
      · rw [hnone ms'] at hout
        cases hout

/-- An expression for words that does not tell swapped words from those in their place. -/
theorem agrees_word (hspells : ∀ l w r, e.Spells l w r ↔ fits w)
    (hfits : ∀ w, fits w → ∀ c ∈ w, isWord c = true) (hprod : e.productive = true)
    (hfree : e.captures = []) (hnull : e.nullable = false)
    (hswap : ∀ v w, Substituted v w → (fits v ↔ fits w)) (hts : Parted [] ts) (hstuck : Stuck g)
    (hg : Agrees ts false g)
    (hkeep : ∀ as c bs, ts = as ++ .keep c :: bs → AgreesAt as (.keep c :: bs) (e.first g)) :
    Agrees ts false (e.first g) := by
  rintro as bs rfl -
  cases bs with
  | nil =>
    have hnone : ∀ l ms, e.first g (between l []) ms = none := by
      intro l ms
      cases hfirst : e.first g (between l []) ms with
      | none => rfl
      | some out =>
        obtain ⟨w, x, -, heq, hw, -⟩ := Expr.exists_spells_of_first hfirst
        exact absurd (List.append_eq_nil_iff.1 heq.symm).1 (hw.ne_nil hnull)
    exact agreesAt_of_none (hnone _) (hnone _)
  | cons t bs =>
    cases t with
    | keep c => exact hkeep as c bs rfl
    | swap v w h =>
      obtain ⟨-, hold, hnew⟩ := hts.edges
      intro ms ms' hms
      simp only [oldText_cons, newText_cons, Tile.old, Tile.new]
      obtain ⟨hfit, hunfit⟩ := first_word (l := oldText as) hspells hfits hprod hfree hnull hstuck
        h.bland.1 hold ms
      obtain ⟨hfit', hunfit'⟩ := first_word (l := newText as) hspells hfits hprod hfree hnull hstuck
        h.bland.2 hnew ms'
      by_cases hv : fits v
      · rw [hfit hv, hfit' ((hswap v w h).1 hv)]
        have hsplit : as ++ .swap v w h :: bs = as ++ [.swap v w h] ++ bs := by simp
        rw [hsplit] at hg hms ⊢
        simpa [Tile.old, Tile.new] using hg.at ms ms' hms
      · rw [hunfit hv, hunfit' fun hw => hv ((hswap v w h).2 hw)]
        exact .none

end Value

end Goals

end Profile
end LiteralPatch
