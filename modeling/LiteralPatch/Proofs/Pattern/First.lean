import LiteralPatch.Proofs.Pattern.Matches
import LiteralPatch.Proofs.Pattern.Preference
import LiteralPatch.Proofs.Pattern.Spelling

/-!
# The preferred match of an expression

An expression is tried at a position with a goal in mind: what comes out once it has been matched.
`Expr.first e g` tries the ways of matching `e` in order of preference and gives what comes out of the first
that lets the goal succeed.  It follows the constructors: a sequence tries `e` with trying `f` as its goal, a
greedy loop tries another round before it is left, a lazy one after.

The rounds of a loop are bounded by the length of the rest of the text.  That is enough for a loop whose body
consumes something, and only such loops are considered (`Expr.productive`).

The program laid out for an expression does the same (`Expr.yields_first`), so a search finds the preferred
match (`matchAt_eq_first`).  There is one wherever the expression spells something
(`Spells.isSome_first`), and what it gives is what the goal gives behind something that the
expression spells (`exists_spells_of_first`).
-/

namespace LiteralPatch
namespace Pattern

open Program

/-- What comes out at a position with the marks set so far. -/
abbrev Goal := Cursor → List Mark → Option Success

/-- The goal behind a whole pattern. -/
def Goal.success : Goal := fun here ms => some (ms, here)

/-- Another round of a loop or leaving it, whatever the loop prefers first. -/
def prefer (greedy : Bool) (round leave : Option Success) : Option Success :=
  if greedy then round.or leave else leave.or round

/-- A loop of at most the given number of rounds. -/
def rounds (greedy : Bool) (body : Goal → Goal) (leave : Goal) : Nat → Goal
  | 0 => leave
  | n + 1 => fun here ms =>
    prefer greedy (body (rounds greedy body leave n) here ms) (leave here ms)

namespace Expr

/-- What comes out of the first way of matching the expression that lets the goal succeed. -/
def first : Expr → Goal → Goal
  | empty, g => g
  | set s, g => fun here ms =>
    match here.rest with
    | [] => none
    | c :: rest => if s.has c then g (here.past c rest) ms else none
  | look a, g => fun here ms => if here.satisfies a then g here ms else none
  | group i e, g => fun here ms =>
    e.first (fun there ms' => g there ((2 * i + 1, there.offset) :: ms')) here
      ((2 * i, here.offset) :: ms)
  | seq e f, g => e.first (f.first g)
  | alt e f, g => fun here ms => (e.first g here ms).or (f.first g here ms)
  | opt greedy e, g => fun here ms => prefer greedy (e.first g here ms) (g here ms)
  | plus greedy e, g =>
    e.first fun there ms => rounds greedy e.first g there.rest.length there ms
  | star greedy e, g => fun here ms => rounds greedy e.first g here.rest.length here ms

/-- Every round of every loop consumes something. -/
def productive : Expr → Bool
  | empty | set _ | look _ => true
  | group _ e | opt _ e => e.productive
  | seq e f | alt e f => e.productive && f.productive
  | plus _ e | star _ e => !e.nullable && e.productive

/-! ## Chains -/

section Chain

variable {e : Expr} {es fs : List Expr} {g : Goal}

theorem first_chain_cons : (chain (e :: es)).first g = e.first ((chain es).first g) := by
  cases es <;> rfl

theorem first_chain_append :
    (chain (es ++ fs)).first g = (chain es).first ((chain fs).first g) := by
  induction es with
  | nil => rfl
  | cons e es ih => rw [List.cons_append, first_chain_cons, first_chain_cons, ih]

theorem productive_chain (h : ∀ e ∈ es, e.productive = true) : (chain es).productive = true := by
  induction es with
  | nil => rfl
  | cons e es ih =>
    have he := h e List.mem_cons_self
    cases es with
    | nil => exact he
    | cons f es =>
      have hes := ih fun x hx => h x (List.mem_cons_of_mem e hx)
      show (e.productive && (chain (f :: es)).productive) = true
      rw [he, hes]
      rfl

end Chain

end Expr

variable {greedy : Bool} {r r' : Option Success}

@[simp] theorem prefer_none_left : prefer greedy none r = r := by
  cases greedy <;> simp [prefer]

@[simp] theorem prefer_none_right : prefer greedy r none = r := by
  cases greedy <;> simp [prefer]

theorem rounds_succ {body : Goal → Goal} {leave : Goal} {n : Nat} {here : Cursor} {ms : List Mark} :
    rounds greedy body leave (n + 1) here ms =
      prefer greedy (body (rounds greedy body leave n) here ms) (leave here ms) := rfl

theorem prefer_eq_some {out : Success} (h : prefer greedy r r' = some out) :
    r = some out ∨ r' = some out := by
  cases greedy
  · rw [prefer, if_neg (by decide), Option.or_eq_some_iff] at h
    exact h.symm.imp And.right id
  · rw [prefer, if_pos rfl, Option.or_eq_some_iff] at h
    exact h.imp id And.right

theorem isSome_prefer : (prefer greedy r r').isSome = (r.isSome || r'.isSome) := by
  cases greedy
  · rw [prefer, if_neg (by decide), Option.isSome_or, Bool.or_comm]
  · rw [prefer, if_pos rfl, Option.isSome_or]

/-! ## The program does the same -/

/-- Where the expression may end when it is matched from a position. -/
def Ahead (e : Expr) (here there : Cursor) : Prop :=
  there.rest.length ≤ here.rest.length ∧
    (e.nullable = false → there.rest.length < here.rest.length)

/-- An expression that may spell nothing may end anywhere ahead. -/
theorem Ahead.of_nullable {e : Expr} {here there : Cursor} (h : e.nullable = true)
    (hle : there.rest.length ≤ here.rest.length) : Ahead e here there := by
  refine ⟨hle, fun hnull => ?_⟩
  rw [h] at hnull
  cases hnull

section Yields

variable {p : Program} {here : Cursor} {ms : List Mark} {b k l : Nat} {e f : Expr} {g : Goal}

theorem yields_loop (hcode : p.code[b]? = some (.loop greedy k l))
    (hk : Yields p here ⟨k, ms⟩ r) (hl : Yields p here ⟨l, ms⟩ r') :
    Yields p here ⟨b, ms⟩ (prefer greedy r r') := by
  cases greedy with
  | true => exact .fork hcode hk hl
  | false => exact .fork hcode hl hk

theorem rounds_fail {body : Goal → Goal} (h : body (fun _ _ => none) = fun _ _ => none) (n : Nat) :
    rounds greedy body (fun _ _ => none) n = fun _ _ => none := by
  induction n with
  | zero => rfl
  | succ n ih =>
    funext here ms
    simp only [rounds, ih, h, prefer_none_left]

/-- Nothing comes out of an expression whose goal always fails. -/
theorem first_fail (e : Expr) : e.first (fun _ _ => none) = fun _ _ => none := by
  induction e with
  | empty => rfl
  | set s =>
    funext here ms
    simp only [Expr.first]
    split
    · rfl
    · split <;> rfl
  | look a =>
    funext here ms
    simp only [Expr.first]
    split <;> rfl
  | group i e ih => simp only [Expr.first, ih]
  | seq e f ihe ihf => rw [Expr.first, ihf, ihe]
  | alt e f ihe ihf => simp only [Expr.first, ihe, ihf, Option.or_none]
  | opt greedy e ih => simp only [Expr.first, ih, prefer_none_left]
  | plus greedy e ih => simp only [Expr.first, rounds_fail ih, ih]
  | star greedy e ih => simp only [Expr.first, rounds_fail ih]

/-- A loop whose body is laid out at `k` and leads back to it, and which is left for `l`. -/
theorem yields_rounds (hcode : p.code[b]? = some (.loop greedy k l)) (hnull : e.nullable = false)
    (hbody : ∀ {g : Goal} {here : Cursor}, (∀ there, Ahead e here there →
      ∀ ms, Yields p there ⟨b, ms⟩ (g there ms)) → ∀ ms, Yields p here ⟨k, ms⟩ (e.first g here ms))
    (n : Nat) (hn : here.rest.length ≤ n)
    (hleave : ∀ there, there.rest.length ≤ here.rest.length →
      ∀ ms, Yields p there ⟨l, ms⟩ (g there ms)) :
    Yields p here ⟨b, ms⟩ (rounds greedy e.first g n here ms) := by
  induction n generalizing here ms with
  | zero =>
    -- nothing is left that another round could consume
    have hround : Yields p here ⟨k, ms⟩ (e.first (fun _ _ => none) here ms) :=
      hbody (fun there hthere => absurd (hthere.2 hnull) (by omega)) ms
    rw [first_fail] at hround
    have hloop := yields_loop hcode hround (hleave here (Nat.le_refl _) ms)
    rwa [prefer_none_left] at hloop
  | succ n ih =>
    refine yields_loop hcode (hbody (fun there hthere ms => ?_) ms) (hleave here (Nat.le_refl _) ms)
    have hlt := hthere.2 hnull
    exact ih (by omega) fun there' h ms => hleave there' (by omega) ms

/-- **The layout of an expression yields the preferred match,** if what it leads to yields the goal. -/
theorem Expr.yields_first (e : Expr) (hprod : e.productive = true)
    (hcode : p.Holds b (e.code b k))
    (hg : ∀ there, Ahead e here there → ∀ ms, Yields p there ⟨k, ms⟩ (g there ms)) (ms : List Mark) :
    Yields p here ⟨b, ms⟩ (e.first g here ms) := by
  induction e generalizing b k g here ms with
  | empty => exact .jump hcode.head (hg here (.of_nullable rfl (Nat.le_refl _)) ms)
  | set s =>
    simp only [first]
    split
    · next hrest => exact .charFails hcode.head fun c rest h => by rw [hrest] at h; cases h
    · next c rest hrest =>
      split
      · next hc =>
        refine .char hcode.head hrest hc (hg _ ?_ ms)
        have hlt : rest.length < here.rest.length := by rw [hrest]; exact Nat.lt_succ_self _
        exact ⟨Nat.le_of_lt hlt, fun _ => hlt⟩
      · next hc =>
        refine .charFails hcode.head fun d rest' h => ?_
        rw [hrest] at h
        obtain ⟨rfl, -⟩ := List.cons.inj h
        exact Bool.not_eq_true _ ▸ hc
  | look a =>
    simp only [first]
    split
    · next holds => exact .look hcode.head holds (hg here (.of_nullable rfl (Nat.le_refl _)) ms)
    · next fails => exact .lookFails hcode.head (Bool.not_eq_true _ ▸ fails)
  | group i e ih =>
    simp only [code] at hcode
    have hlast := hcode.tail.right.head
    rw [length_code] at hlast
    exact .mark hcode.head (ih hprod hcode.tail.left (fun there hthere ms' =>
      .mark hlast (hg there hthere _)) _)
  | seq e f ihe ihf =>
    simp only [productive, Bool.and_eq_true] at hprod
    simp only [code] at hcode
    have hright := hcode.right
    rw [length_code] at hright
    refine ihe hprod.1 hcode.left (fun mid hmid ms' => ?_) ms
    refine ihf hprod.2 hright (fun there hthere ms'' => hg there ?_ ms'') ms'
    refine ⟨Nat.le_trans hthere.1 hmid.1, fun hnull => ?_⟩
    rw [nullable, Bool.and_eq_false_iff] at hnull
    rcases hnull with hnull | hnull
    · exact Nat.lt_of_le_of_lt hthere.1 (hmid.2 hnull)
    · exact Nat.lt_of_lt_of_le (hthere.2 hnull) hmid.1
  | alt e f ihe ihf =>
    simp only [productive, Bool.and_eq_true] at hprod
    simp only [code] at hcode
    have hright := hcode.tail.right
    rw [length_code] at hright
    refine .fork hcode.head
      (ihe hprod.1 hcode.tail.left (fun there hthere ms' => hg there ?_ ms') ms)
      (ihf hprod.2 hright (fun there hthere ms' => hg there ?_ ms') ms)
    · exact ⟨hthere.1, fun hnull => hthere.2 (Bool.or_eq_false_iff.1 hnull).1⟩
    · exact ⟨hthere.1, fun hnull => hthere.2 (Bool.or_eq_false_iff.1 hnull).2⟩
  | opt greedy e ih =>
    simp only [code] at hcode
    refine yields_loop hcode.head
      (ih hprod hcode.tail (fun there hthere ms' => hg there (.of_nullable rfl hthere.1) ms') ms)
      (hg here (.of_nullable rfl (Nat.le_refl _)) ms)
  | plus greedy e ih =>
    simp only [productive, Bool.and_eq_true, Bool.not_eq_true'] at hprod
    simp only [code] at hcode
    have hloop := hcode.right.head
    rw [length_code] at hloop
    refine ih hprod.2 hcode.left (fun mid hmid ms' => ?_) ms
    have hlt := hmid.2 hprod.1
    exact yields_rounds hloop hprod.1 (ih hprod.2 hcode.left · ·) _ (Nat.le_refl _)
      fun there hthere ms'' => hg there ⟨by omega, fun _ => by omega⟩ ms''
  | star greedy e ih =>
    simp only [productive, Bool.and_eq_true, Bool.not_eq_true'] at hprod
    simp only [code, if_neg (Bool.eq_false_iff.1 hprod.1)] at hcode
    exact yields_rounds hcode.head hprod.1 (ih hprod.2 hcode.tail · ·) _ (Nat.le_refl _)
      fun there hthere ms' => hg there (.of_nullable rfl hthere) ms'

end Yields

/-- **A search from a position finds the preferred match of the expression.** -/
theorem matchAt_eq_first {e : Expr} (hprod : e.productive = true) (here : Cursor) :
    (ofExpr e).matchAt here = (Expr.group 0 e).first Goal.success here [] := by
  have hholds : (ofExpr e).Holds 0
      ((Expr.group 0 e).code 0 (Expr.group 0 e).size ++ [Instr.accept]) := holds_mk _
  have haccept := hholds.right.head
  rw [Expr.length_code, Nat.zero_add] at haccept
  exact matchAt_eq_of_yields
    ((Expr.group 0 e).yields_first hprod hholds.left (fun there _ ms => .accept haccept) [])

/-! ## Where there is a match -/

section Success

variable {e : Expr} {body : Goal → Goal} {g g' : Goal} {here : Cursor} {ms : List Mark}

/-- A goal that succeeds wherever another one does. -/
def Easier (g g' : Goal) : Prop :=
  ∀ here ms, (g here ms).isSome = true → (g' here ms).isSome = true

theorem Easier.rounds (hbody : ∀ {g g'}, Easier g g' → Easier (body g) (body g'))
    (hg : Easier g g') (n : Nat) : Easier (rounds greedy body g n) (rounds greedy body g' n) := by
  induction n with
  | zero => exact hg
  | succ n ih =>
    intro here ms h
    simp only [Pattern.rounds, isSome_prefer, Bool.or_eq_true] at h ⊢
    exact h.imp (hbody ih here ms) (hg here ms)

theorem Easier.first (h : Easier g g') (e : Expr) : Easier (e.first g) (e.first g') := by
  induction e generalizing g g' with
  | empty => exact h
  | set s =>
    intro here ms
    simp only [Expr.first]
    split
    · exact id
    · split
      · exact h _ ms
      · exact id
  | look a =>
    intro here ms
    simp only [Expr.first]
    split
    · exact h here ms
    · exact id
  | group i e ih => exact fun here ms => ih (fun there ms' => h there _) here _
  | seq e f ihe ihf => exact ihe (ihf h)
  | alt e f ihe ihf =>
    intro here ms hsome
    simp only [Expr.first, Option.isSome_or, Bool.or_eq_true] at hsome ⊢
    exact hsome.imp (ihe h here ms) (ihf h here ms)
  | opt greedy e ih =>
    intro here ms hsome
    simp only [Expr.first, isSome_prefer, Bool.or_eq_true] at hsome ⊢
    exact hsome.imp (ih h here ms) (h here ms)
  | plus greedy e ih => exact ih fun there ms => Easier.rounds ih h _ there ms
  | star greedy e ih => exact fun here ms => Easier.rounds ih h _ here ms

/-- More rounds do no harm. -/
theorem isSome_rounds_mono (hbody : ∀ {g g'}, Easier g g' → Easier (body g) (body g')) {n m : Nat}
    (hnm : n ≤ m) : Easier (rounds greedy body g n) (rounds greedy body g m) := by
  have hone : ∀ n, Easier (rounds greedy body g n) (rounds greedy body g (n + 1)) := by
    intro n
    induction n with
    | zero =>
      intro here ms h
      simp only [rounds, isSome_prefer, Bool.or_eq_true] at h ⊢
      exact .inr h
    | succ n ih =>
      intro here ms h
      rw [rounds, isSome_prefer, Bool.or_eq_true] at h ⊢
      exact h.imp_left (hbody ih here ms)
  induction hnm with
  | refl => exact fun here ms h => h
  | step _ ih => exact fun here ms h => hone _ here ms (ih here ms h)

open Cursor

namespace Expr

theorem Spells.ne_nil {l w r : List Char} (h : e.Spells l w r) (hnull : e.nullable = false) :
    w ≠ [] := by
  induction h with
  | set => exact List.cons_ne_nil _ _
  | group _ ih => exact ih hnull
  | seq _ _ ihe ihf =>
    intro hnil
    rw [List.append_eq_nil_iff] at hnil
    rcases Bool.and_eq_false_iff.1 hnull with hnull | hnull
    · exact ihe hnull hnil.1
    · exact ihf hnull hnil.2
  | altLeft _ ih => exact ih (Bool.or_eq_false_iff.1 hnull).1
  | altRight _ ih => exact ih (Bool.or_eq_false_iff.1 hnull).2
  | plusOne _ ih => exact ih hnull
  | plusMore _ _ ih _ => exact fun hnil => ih hnull (List.append_eq_nil_iff.1 hnil).1
  | _ => cases hnull

/-- One round and then a `star` is a `plus`. -/
theorem Spells.plus_of_star {l v w r : List Char} (hv : e.Spells l v (w ++ r))
    (hw : (star greedy e).Spells (l ++ v) w r) : (plus greedy e).Spells l (v ++ w) r := by
  generalize hf : star greedy e = f at hw
  generalize hm : l ++ v = m at hw
  induction hw generalizing l v with
  | starNone =>
    rw [List.append_nil]
    exact .plusOne (by simpa using hv)
  | starMore h _ _ ih =>
    cases hf
    subst hm
    exact .plusMore (by simpa using hv) (ih h rfl rfl)
  | _ => cases hf

/-- A `plus` is one round and then a `star`. -/
theorem Spells.of_plus {l w r : List Char} (h : (plus greedy e).Spells l w r) :
    ∃ u v, w = u ++ v ∧ e.Spells l u (v ++ r) ∧ (star greedy e).Spells (l ++ u) v r := by
  generalize he : plus greedy e = f at h
  induction h with
  | @plusOne _ _ l w r h =>
    cases he
    exact ⟨w, [], by simp, by simpa using h, .starNone⟩
  | @plusMore _ _ l v w r h _ _ ih =>
    cases he
    obtain ⟨u, x, rfl, hu, hx⟩ := ih rfl
    exact ⟨v, u ++ x, rfl, h, .starMore (by simpa using hu) hx⟩
  | _ => cases he

/-- The marks that may be set behind an expression: without captures, those set before. -/
def MaySet (e : Expr) (ms ms' : List Mark) : Prop := e.captures = [] → ms' = ms

/-- The loop over an expression that is matched wherever it spells something. -/
theorem Spells.isSome_rounds {l w r : List Char} (hnull : e.nullable = false)
    (he : ∀ {l w r : List Char} {g : Goal} {ms : List Mark}, e.Spells l w r →
      (∀ ms', e.MaySet ms ms' → (g (between (l ++ w) r) ms').isSome = true) →
      (e.first g (between l (w ++ r)) ms).isSome = true)
    (h : (star greedy e).Spells l w r)
    (hg : ∀ ms', e.MaySet ms ms' → (g (between (l ++ w) r) ms').isSome = true) (n : Nat)
    (hn : (w ++ r).length ≤ n) : (rounds greedy e.first g n (between l (w ++ r)) ms).isSome = true := by
  generalize hf : star greedy e = f at h
  induction h generalizing n ms with
  | starNone =>
    refine isSome_rounds_mono (Easier.first · _) (Nat.zero_le n) _ ms ?_
    simpa [rounds] using hg ms fun _ => rfl
  | @starMore _ _ l v w r h _ _ ih =>
    cases hf
    have hpos := List.length_pos_iff.2 (h.ne_nil hnull)
    simp only [List.length_append] at hn ih
    obtain ⟨n, rfl⟩ : ∃ m, n = m + 1 := ⟨n - 1, by omega⟩
    rw [rounds, isSome_prefer, Bool.or_eq_true, List.append_assoc]
    refine .inl (he h fun ms' hms => ih (fun ms'' hms' => ?_) n (by omega) trivial)
    rw [List.append_assoc]
    exact hg ms'' fun hfree => (hms' hfree).trans (hms hfree)
  | _ => cases hf

/-- **An expression that spells something is matched,** if what follows lets its goal succeed. -/
theorem Spells.isSome_first {l w r : List Char} (h : e.Spells l w r) (hprod : e.productive = true)
    (hg : ∀ ms', e.MaySet ms ms' → (g (between (l ++ w) r) ms').isSome = true) :
    (e.first g (between l (w ++ r)) ms).isSome = true := by
  induction e generalizing l w r g ms with
  | empty =>
    obtain rfl := spells_empty.1 h
    simpa [first] using hg ms fun _ => rfl
  | set s =>
    obtain ⟨c, rfl, hc⟩ := spells_set.1 h
    simpa [first, hc, past_between] using hg ms fun _ => rfl
  | look a =>
    obtain ⟨rfl, ha⟩ := spells_look.1 h
    simp only [first, List.nil_append, satisfies_between, ha, if_true]
    simpa using hg ms fun _ => rfl
  | group i e ih =>
    cases h with
    | group h =>
      exact ih (g := fun there ms' => g there ((2 * i + 1, there.offset) :: ms')) h hprod
        fun ms' _ => hg _ fun hfree => nomatch hfree
  | seq e f ihe ihf =>
    simp only [productive, Bool.and_eq_true] at hprod
    obtain ⟨u, v, rfl, he, hf⟩ := spells_seq.1 h
    rw [List.append_assoc]
    refine ihe he hprod.1 fun ms' hms => ihf hf hprod.2 fun ms'' hms' => ?_
    rw [List.append_assoc]
    refine hg ms'' fun hfree => ?_
    obtain ⟨hfree, hfree'⟩ := List.append_eq_nil_iff.1 hfree
    exact (hms' hfree').trans (hms hfree)
  | alt e f ihe ihf =>
    simp only [productive, Bool.and_eq_true] at hprod
    simp only [first, Option.isSome_or, Bool.or_eq_true]
    cases h with
    | altLeft h =>
      exact .inl (ihe h hprod.1 fun ms' hms => hg ms' fun hfree =>
        hms (List.append_eq_nil_iff.1 hfree).1)
    | altRight h =>
      exact .inr (ihf h hprod.2 fun ms' hms => hg ms' fun hfree =>
        hms (List.append_eq_nil_iff.1 hfree).2)
  | opt greedy e ih =>
    simp only [first, isSome_prefer, Bool.or_eq_true]
    rcases spells_opt.1 h with rfl | h
    · exact .inr (by simpa using hg ms fun _ => rfl)
    · exact .inl (ih h hprod hg)
  | plus greedy e ih =>
    simp only [productive, Bool.and_eq_true, Bool.not_eq_true'] at hprod
    obtain ⟨u, v, rfl, hu, hv⟩ := h.of_plus
    rw [List.append_assoc]
    refine ih hu hprod.2 fun ms' hms => ?_
    refine hv.isSome_rounds hprod.1 (fun h hg => ih h hprod.2 hg) (fun ms'' hms' => ?_) _
      (Nat.le_refl _)
    rw [List.append_assoc]
    exact hg ms'' fun hfree => (hms' hfree).trans (hms hfree)
  | star greedy e ih =>
    simp only [productive, Bool.and_eq_true, Bool.not_eq_true'] at hprod
    exact h.isSome_rounds hprod.1 (fun h hg => ih h hprod.2 hg) hg _ (Nat.le_refl _)

/-! ## What it gives -/

theorem first_set_cons {s : CharSet} {l r : List Char} {c : Char} :
    (set s).first g (between l (c :: r)) ms =
      if s.has c = true then g (between (l ++ [c]) r) ms else none := by
  simp only [first, between_rest, past_between]

theorem first_look {a : Assertion} {l r : List Char} :
    (look a).first g (between l r) ms =
      if a.holds l.getLast? r.head? = true then g (between l r) ms else none := rfl

/-- What comes out of a loop is what comes out behind something that it spells. -/
theorem exists_spells_of_rounds {l x : List Char} {out : Success}
    (he : ∀ {l x : List Char} {g : Goal} {ms : List Mark},
      e.first g (between l x) ms = some out → ∃ w r ms', x = w ++ r ∧ e.Spells l w r ∧
        g (between (l ++ w) r) ms' = some out ∧ e.MaySet ms ms') (n : Nat)
    (h : rounds greedy e.first g n (between l x) ms = some out) :
    ∃ w r ms', x = w ++ r ∧ (star greedy e).Spells l w r ∧
      g (between (l ++ w) r) ms' = some out ∧ e.MaySet ms ms' := by
  induction n generalizing l x ms with
  | zero => exact ⟨[], x, ms, rfl, .starNone, by simpa [rounds] using h, fun _ => rfl⟩
  | succ n ih =>
    rcases prefer_eq_some h with h | h
    · obtain ⟨v, y, ms', rfl, hv, h, hms⟩ := he h
      obtain ⟨w, r, ms'', rfl, hw, h, hms'⟩ := ih h
      refine ⟨v ++ w, r, ms'', by simp, .starMore hv hw, by simpa using h, fun hfree => ?_⟩
      exact (hms' hfree).trans (hms hfree)
    · exact ⟨[], x, ms, rfl, .starNone, by simpa using h, fun _ => rfl⟩

/-- **What comes out is what the goal gives behind something that the expression spells.** -/
theorem exists_spells_of_first {l x : List Char} {out : Success}
    (h : e.first g (between l x) ms = some out) : ∃ w r ms', x = w ++ r ∧ e.Spells l w r ∧
      g (between (l ++ w) r) ms' = some out ∧ e.MaySet ms ms' := by
  induction e generalizing l x g ms with
  | empty => exact ⟨[], x, ms, rfl, .empty, by simpa [first] using h, fun _ => rfl⟩
  | set s =>
    cases x with
    | nil => cases h
    | cons c x =>
      rw [first_set_cons] at h
      by_cases hc : s.has c = true
      · rw [if_pos hc] at h
        exact ⟨[c], x, ms, rfl, .set hc, h, fun _ => rfl⟩
      · rw [if_neg hc] at h
        cases h
  | look a =>
    rw [first_look] at h
    by_cases holds : a.holds l.getLast? x.head? = true
    · rw [if_pos holds] at h
      exact ⟨[], x, ms, rfl, .look holds, by simpa using h, fun _ => rfl⟩
    · rw [if_neg holds] at h
      cases h
  | group i e ih =>
    obtain ⟨w, r, ms', rfl, hw, h, -⟩ := ih h
    exact ⟨w, r, _, rfl, .group hw, h, fun hfree => nomatch hfree⟩
  | seq e f ihe ihf =>
    obtain ⟨v, y, ms', rfl, hv, h, hms⟩ := ihe h
    obtain ⟨w, r, ms'', rfl, hw, h, hms'⟩ := ihf h
    refine ⟨v ++ w, r, ms'', by simp, .seq hv hw, by simpa using h, fun hfree => ?_⟩
    obtain ⟨hfree, hfree'⟩ := List.append_eq_nil_iff.1 hfree
    exact (hms' hfree').trans (hms hfree)
  | alt e f ihe ihf =>
    rcases Option.or_eq_some_iff.1 h with h | ⟨-, h⟩
    · obtain ⟨w, r, ms', rfl, hw, h, hms⟩ := ihe h
      exact ⟨w, r, ms', rfl, .altLeft hw, h, fun hfree => hms (List.append_eq_nil_iff.1 hfree).1⟩
    · obtain ⟨w, r, ms', rfl, hw, h, hms⟩ := ihf h
      exact ⟨w, r, ms', rfl, .altRight hw, h, fun hfree => hms (List.append_eq_nil_iff.1 hfree).2⟩
  | opt greedy e ih =>
    rcases prefer_eq_some h with h | h
    · obtain ⟨w, r, ms', rfl, hw, h, hms⟩ := ih h
      exact ⟨w, r, ms', rfl, .optSome hw, h, hms⟩
    · exact ⟨[], x, ms, rfl, .optNone, by simpa using h, fun _ => rfl⟩
  | plus greedy e ih =>
    obtain ⟨v, y, ms', rfl, hv, h, hms⟩ := ih h
    obtain ⟨w, r, ms'', rfl, hw, h, hms'⟩ := exists_spells_of_rounds (ih ·) _ h
    refine ⟨v ++ w, r, ms'', by simp, hv.plus_of_star hw, by simpa using h, fun hfree => ?_⟩
    exact (hms' hfree).trans (hms hfree)
  | star greedy e ih => exact exists_spells_of_rounds (ih ·) _ h

/-- **If the goal can succeed at one place only, it is decided there.** -/
theorem first_eq_of_only {l v r : List Char} (hprod : e.productive = true) (hfree : e.captures = [])
    (h : e.Spells l v r) (honly : ∀ w x, v ++ r = w ++ x → e.Spells l w x →
      w = v ∨ g (between (l ++ w) x) ms = none) :
    e.first g (between l (v ++ r)) ms = g (between (l ++ v) r) ms := by
  cases hfirst : e.first g (between l (v ++ r)) ms with
  | some out =>
    obtain ⟨w, x, ms', hx, hw, hout, hms⟩ := exists_spells_of_first hfirst
    obtain rfl := hms hfree
    rcases honly w x hx hw with rfl | hnone
    · rw [← hout, List.append_cancel_left hx]
    · rw [hnone] at hout
      cases hout
  | none =>
    cases hg : g (between (l ++ v) r) ms with
    | none => rfl
    | some out =>
      have hsome : (e.first g (between l (v ++ r)) ms).isSome = true :=
        h.isSome_first hprod fun ms' hms => by rw [hms hfree, hg, Option.isSome_some]
      rw [hfirst] at hsome
      cases hsome

end Expr
end Success

end Pattern
end LiteralPatch
