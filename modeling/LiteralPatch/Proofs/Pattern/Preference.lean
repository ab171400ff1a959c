import LiteralPatch.Proofs.Pattern.Steps
import Mathlib.Logic.Relation

/-!
# The search finds what a thread alone would find

A thread that is followed alone tries the preferred address of a fork first and the other one only then.
`Program.Yields` describes this: from which thread, at which position, which match comes out, if any.
It has a derivation only if the thread never comes back to an address without having consumed a character.

The search moves all threads at once and drops a thread that reaches an address where a better one has been.
Nothing is lost by that.  Whether a thread succeeds depends on its address and not on its marks
(`Yields.isSome_eq`), so a dropped thread succeeds only if the better one did, and then the better match is
wanted.  What has been visited is *settled* in this sense (`Settled`): if anything succeeds from there, then
a thread that waits does.  The addresses that are still open, because what they lead to is being
visited, are excepted, and by the absence of cycles none of them is met again.

`spread_yields` carries this through one call of `spread`, `advance_yields` over a character and `race_yields`
to the end, so `matchAt` gives what the thread from address 0 yields (`matchAt_eq_of_yields`).
-/

namespace LiteralPatch
namespace Pattern
namespace Frontier

/-- The number of addresses that have not been visited. -/
def unseen (f : Frontier) : Nat := f.seen.count false

/-- The frontier when one more address has been visited. -/
def visit (f : Frontier) (pc : Nat) : Frontier :=
  { f with seen := f.seen.setIfInBounds pc true }

theorem unseen_visit {f : Frontier} {pc : Nat} (h : f.seen.getD pc true = false) :
    (f.visit pc).unseen + 1 = f.unseen := by
  have hpc : pc < f.seen.size := by
    refine Nat.lt_of_not_le fun hle => ?_
    rw [Array.getD_eq_getD_getElem?, Array.getElem?_eq_none hle] at h
    cases h
  have hfalse : f.seen[pc] = false := by
    rwa [Array.getD_eq_getD_getElem?, Array.getElem?_eq_getElem hpc] at h
  have hpos : 0 < f.seen.count false := by
    rw [Array.count_pos_iff, ← hfalse]
    exact Array.getElem_mem hpc
  rw [unseen, visit, Array.setIfInBounds, dif_pos hpc, Array.count_set, hfalse, unseen]
  exact Nat.sub_add_cancel hpos

end Frontier

namespace Program

/-- What comes out of a thread that is followed alone, in order of preference. -/
inductive Yields (p : Program) : Cursor → Thread → Option Success → Prop where
  | lost {here : Cursor} {t : Thread} (h : p.code[t.pc]? = none) : Yields p here t none
  | jump {here : Cursor} {t : Thread} {k : Nat} {r : Option Success}
    (h : p.code[t.pc]? = some (.jump k)) (hk : Yields p here ⟨k, t.marks⟩ r) : Yields p here t r
  | fork {here : Cursor} {t : Thread} {k l : Nat} {r r' : Option Success}
    (h : p.code[t.pc]? = some (.fork k l)) (hk : Yields p here ⟨k, t.marks⟩ r)
    (hl : Yields p here ⟨l, t.marks⟩ r') : Yields p here t (r.or r')
  | mark {here : Cursor} {t : Thread} {slot k : Nat} {r : Option Success}
    (h : p.code[t.pc]? = some (.mark slot k))
    (hk : Yields p here ⟨k, (slot, here.offset) :: t.marks⟩ r) : Yields p here t r
  | look {here : Cursor} {t : Thread} {a : Assertion} {k : Nat} {r : Option Success}
    (h : p.code[t.pc]? = some (.look a k)) (holds : here.satisfies a = true)
    (hk : Yields p here ⟨k, t.marks⟩ r) : Yields p here t r
  | lookFails {here : Cursor} {t : Thread} {a : Assertion} {k : Nat}
    (h : p.code[t.pc]? = some (.look a k)) (fails : here.satisfies a = false) : Yields p here t none
  | char {here : Cursor} {t : Thread} {s : CharSet} {k : Nat} {c : Char} {rest : List Char}
    {r : Option Success} (h : p.code[t.pc]? = some (.char s k)) (hrest : here.rest = c :: rest)
    (hc : s.has c = true) (hk : Yields p (here.past c rest) ⟨k, t.marks⟩ r) : Yields p here t r
  | charFails {here : Cursor} {t : Thread} {s : CharSet} {k : Nat}
    (h : p.code[t.pc]? = some (.char s k))
    (fails : ∀ c rest, here.rest = c :: rest → s.has c = false) : Yields p here t none
  | accept {here : Cursor} {t : Thread} (h : p.code[t.pc]? = some .accept) :
    Yields p here t (some (t.marks, here))

variable {p : Program} {here there : Cursor} {t u : Thread} {r r' found : Option Success}

/-- Whether a thread succeeds does not depend on its marks. -/
theorem Yields.isSome_eq (h : Yields p here t r) (h' : Yields p here u r') (hpc : u.pc = t.pc) :
    r.isSome = r'.isSome := by
  induction h generalizing u r' with
  | jump h _ ih =>
    cases h' with
    | jump h' hk =>
      rw [hpc, h] at h'
      obtain rfl := Instr.jump.inj (Option.some.inj h')
      exact ih hk rfl
    | _ => simp_all
  | fork h _ _ ihk ihl =>
    cases h' with
    | fork h' hk hl =>
      rw [hpc, h] at h'
      obtain ⟨rfl, rfl⟩ := Instr.fork.inj (Option.some.inj h')
      rw [Option.isSome_or, Option.isSome_or, ihk hk rfl, ihl hl rfl]
    | _ => simp_all
  | mark h _ ih =>
    cases h' with
    | mark h' hk =>
      rw [hpc, h] at h'
      obtain ⟨rfl, rfl⟩ := Instr.mark.inj (Option.some.inj h')
      exact ih hk rfl
    | _ => simp_all
  | look h holds _ ih =>
    cases h' with
    | look h' _ hk =>
      rw [hpc, h] at h'
      obtain ⟨rfl, rfl⟩ := Instr.look.inj (Option.some.inj h')
      exact ih hk rfl
    | _ => simp_all
  | char h hrest hc _ ih =>
    cases h' with
    | char h' hrest' _ hk =>
      rw [hpc, h] at h'
      obtain ⟨rfl, rfl⟩ := Instr.char.inj (Option.some.inj h')
      obtain ⟨rfl, rfl⟩ := List.cons.inj (hrest.symm.trans hrest')
      exact ih hk rfl
    | _ => simp_all
  | _ => cases h' <;> simp_all

theorem Yields.eq_none (h : Yields p here t r) (hcode : p.code[t.pc]? = none) : r = none := by
  cases h <;> simp_all

/-! ## No cycles -/

/-- From one address to the next without consuming a character. -/
inductive Follows (p : Program) (here : Cursor) : Nat → Nat → Prop where
  | jump {x y : Nat} (h : p.code[x]? = some (.jump y)) : Follows p here x y
  | preferred {x y l : Nat} (h : p.code[x]? = some (.fork y l)) : Follows p here x y
  | other {x y k : Nat} (h : p.code[x]? = some (.fork k y)) : Follows p here x y
  | mark {x y slot : Nat} (h : p.code[x]? = some (.mark slot y)) : Follows p here x y
  | look {x y : Nat} {a : Assertion} (h : p.code[x]? = some (.look a y))
    (holds : here.satisfies a = true) : Follows p here x y

theorem Yields.acc (h : Yields p here t r) : Acc (fun y x => Follows p here x y) t.pc := by
  induction h with
  | fork h _ _ ihk ihl =>
    refine ⟨_, fun y hy => ?_⟩
    cases hy with
    | preferred h' =>
      obtain ⟨rfl, rfl⟩ := Instr.fork.inj (Option.some.inj (h.symm.trans h'))
      exact ihk
    | other h' =>
      obtain ⟨rfl, rfl⟩ := Instr.fork.inj (Option.some.inj (h.symm.trans h'))
      exact ihl
    | _ => simp_all
  | _ =>
    refine ⟨_, fun y hy => ?_⟩
    cases hy <;> simp_all

/-- What a thread leads to without consuming a character is not where it stands. -/
theorem Yields.not_follows (h : Yields p here t r) :
    ¬ Relation.TransGen (Follows p here) t.pc t.pc := by
  have hirrefl : ∀ x, Acc (fun y x => Relation.TransGen (Follows p here) x y) x →
      ¬ Relation.TransGen (Follows p here) x x := by
    intro x hx
    induction hx with
    | intro x _ ih => exact fun hcycle => ih x hcycle hcycle
  refine hirrefl t.pc ?_
  have hacc := h.acc.transGen
  refine Subrelation.accessible (fun {y x} hyx => ?_) hacc
  exact Relation.transGen_swap.1 hyx

/-! ## Lists of threads -/

/-- What comes out of threads in order of preference: the match of the first that succeeds. -/
inductive FirstYield (p : Program) (here : Cursor) : List Thread → Option Success → Prop where
  | nil : FirstYield p here [] none
  | cons {t : Thread} {ts : List Thread} {r r' : Option Success} (h : Yields p here t r)
    (hs : FirstYield p here ts r') : FirstYield p here (t :: ts) (r.or r')

theorem FirstYield.snoc {ts : List Thread} (hs : FirstYield p here ts r) (h : Yields p here t r') :
    FirstYield p here (ts ++ [t]) (r.or r') := by
  induction hs with
  | nil => simpa using FirstYield.cons h .nil
  | cons h' _ ih =>
    rw [Option.or_assoc]
    exact .cons h' ih

/-- The thread waits for a character, or accepts. -/
def Waits (p : Program) (t : Thread) : Prop :=
  (∃ s k, p.code[t.pc]? = some (.char s k)) ∨ p.code[t.pc]? = some .accept

/-! ## What has been visited -/

/-- The waiting threads make up for everything that has been visited and is not open. -/
structure Settled (p : Program) (here : Cursor) (opened : Nat → Prop) (f : Frontier)
    (found : Option Success) : Prop where
  size_eq : f.seen.size = p.size
  waits : ∀ t ∈ f.waiting, Waits p t
  yields : FirstYield p here f.waiting.reverse found
  done : ∀ {t : Thread} {r : Option Success}, f.seen[t.pc]? = some true → ¬ opened t.pc →
    Yields p here t r → r.isSome = true → found.isSome = true

variable {opened : Nat → Prop} {f : Frontier}

/-- A thread at a visited address adds nothing. -/
theorem Settled.skip (hf : Settled p here opened f found) (h : Yields p here t r)
    (hseen : f.seen.getD t.pc true = true) (hopen : ¬ opened t.pc) :
    Settled p here opened f (found.or r) := by
  have hor : found.or r = found := by
    rw [Array.getD_eq_getD_getElem?] at hseen
    cases hget : f.seen[t.pc]? with
    | none =>
      -- there is no instruction at this address
      rw [Array.getElem?_eq_none_iff, hf.size_eq] at hget
      rw [h.eq_none (Array.getElem?_eq_none hget), Option.or_none]
    | some b =>
      rw [hget] at hseen
      obtain rfl : b = true := hseen
      by_cases hr : r.isSome = true
      · obtain ⟨m, rfl⟩ := Option.isSome_iff_exists.1 (hf.done hget hopen h hr)
        rfl
      · rw [Option.not_isSome_iff_eq_none.1 hr, Option.or_none]
  rw [hor]
  exact hf

/-- An address that is visited is open until everything it leads to has been visited. -/
theorem Settled.open (hf : Settled p here opened f found) (pc : Nat) :
    Settled p here (fun x => opened x ∨ x = pc) (f.visit pc) found := by
  refine ⟨by rw [← hf.size_eq]; exact Array.size_setIfInBounds, hf.waits, hf.yields, ?_⟩
  intro t r hseen hopen h hr
  rw [not_or] at hopen
  refine hf.done ?_ hopen.1 h hr
  rwa [Frontier.visit, Array.getElem?_setIfInBounds_ne (Ne.symm hopen.2)] at hseen

theorem Settled.close (hf : Settled p here (fun x => opened x ∨ x = t.pc) f (found.or r))
    (h : Yields p here t r) : Settled p here opened f (found.or r) := by
  refine ⟨hf.size_eq, hf.waits, hf.yields, fun {u r'} hseen hopen hu hr => ?_⟩
  by_cases hpc : u.pc = t.pc
  · rw [Option.isSome_or, h.isSome_eq hu hpc, hr, Bool.or_true]
  · exact hf.done hseen (not_or.2 ⟨hopen, hpc⟩) hu hr

/-- A thread that waits is kept. -/
theorem Settled.wait (hf : Settled p here opened f found) (h : Yields p here t r)
    (hwait : Waits p t) :
    Settled p here opened { f with waiting := t :: f.waiting } (found.or r) := by
  refine ⟨hf.size_eq, ?_, ?_, ?_⟩
  · intro u hu
    rcases List.mem_cons.1 hu with rfl | hu
    · exact hwait
    · exact hf.waits u hu
  · rw [List.reverse_cons]
    exact hf.yields.snoc h
  · intro u r' hseen hopen hu hr
    rw [Option.isSome_or, hf.done hseen hopen hu hr, Bool.true_or]

/-! ## One call of `spread` -/

/-- An address is clear of the open ones: it is none of them and leads to none of them. -/
def Clear (p : Program) (here : Cursor) (opened : Nat → Prop) (pc : Nat) : Prop :=
  ∀ x, opened x → x ≠ pc ∧ ¬ Relation.TransGen (Follows p here) pc x

theorem Clear.follows {pc : Nat} (hclear : Clear p here opened t.pc) (h : Yields p here t r)
    (hy : Follows p here t.pc pc) : Clear p here (fun x => opened x ∨ x = t.pc) pc := by
  rintro x (hx | rfl)
  · obtain ⟨-, hnot⟩ := hclear x hx
    refine ⟨?_, fun hlater => hnot (.head hy hlater)⟩
    rintro rfl
    exact hnot (.single hy)
  · refine ⟨?_, fun hlater => h.not_follows (.head hy hlater)⟩
    intro hx
    rw [← hx] at hy
    exact h.not_follows (.single hy)

/-- A thread on top of the others is dealt with first, and what comes out of it is added. -/
def Handled (p : Program) (here : Cursor) (t : Thread) (r : Option Success) : Prop :=
  ∀ (todo : List Thread) (n : Nat) {opened : Nat → Prop} {f : Frontier} {found : Option Success},
    Settled p here opened f found → Clear p here opened t.pc → 2 * f.unseen + todo.length < n →
    ∃ f' n', p.spread here n (t :: todo) f = p.spread here n' todo f' ∧
      Settled p here opened f' (found.or r) ∧ 2 * f'.unseen + todo.length ≤ n'

/-- It is enough to look at an address that has not been visited. -/
theorem handled_of_visit (h : Yields p here t r)
    (hvisit : ∀ (todo : List Thread) (n : Nat) {opened : Nat → Prop} {f : Frontier}
      {found : Option Success}, f.seen.getD t.pc true = false →
      Settled p here opened (f.visit t.pc) found →
      (∀ pc, Follows p here t.pc pc → Clear p here opened pc) →
      2 * (f.visit t.pc).unseen + todo.length + 2 ≤ n →
      ∃ f' n', p.spread here (n + 1) (t :: todo) f = p.spread here n' todo f' ∧
        Settled p here opened f' (found.or r) ∧ 2 * f'.unseen + todo.length ≤ n') :
    Handled p here t r := by
  intro todo n opened f found hf hclear hn
  obtain ⟨n, rfl⟩ : ∃ m, n = m + 1 := ⟨n - 1, by omega⟩
  by_cases hseen : f.seen.getD t.pc true = true
  · refine ⟨f, n, by rw [spread, if_pos hseen], ?_, by omega⟩
    exact hf.skip h hseen fun hopen => (hclear t.pc hopen).1 rfl
  · rw [Bool.not_eq_true] at hseen
    have hunseen := Frontier.unseen_visit hseen
    obtain ⟨f', n', heq, hf', hn'⟩ :=
      hvisit todo n hseen (hf.open t.pc) (fun pc hpc => hclear.follows h hpc) (by omega)
    exact ⟨f', n', heq, hf'.close h, hn'⟩

/-- A thread that leads to one other is dealt with by dealing with the other. -/
theorem Handled.of_next (h : Yields p here t r) (hfollows : Follows p here t.pc u.pc)
    (hspread : ∀ (todo : List Thread) (n : Nat) {f : Frontier}, f.seen.getD t.pc true = false →
      p.spread here (n + 1) (t :: todo) f = p.spread here n (u :: todo) (f.visit t.pc))
    (hu : Handled p here u r) : Handled p here t r := by
  refine handled_of_visit h fun todo n {opened f found} hseen hf hclear hn => ?_
  rw [hspread todo n hseen]
  exact hu todo n hf (hclear u.pc hfollows) (by omega)

/-- A thread that leads nowhere yields nothing. -/
theorem Handled.of_end (h : Yields p here t none)
    (hspread : ∀ (todo : List Thread) (n : Nat) {f : Frontier}, f.seen.getD t.pc true = false →
      p.spread here (n + 1) (t :: todo) f = p.spread here n todo (f.visit t.pc)) :
    Handled p here t none := by
  refine handled_of_visit h fun todo n {opened f found} hseen hf _ hn => ?_
  refine ⟨f.visit t.pc, n, hspread todo n hseen, ?_, by omega⟩
  rwa [Option.or_none]

/-- A thread that waits is kept. -/
theorem Handled.of_wait (h : Yields p here t r) (hwait : Waits p t) : Handled p here t r := by
  refine handled_of_visit h fun todo n {opened f found} hseen hf _ hn => ?_
  refine ⟨{ f.visit t.pc with waiting := t :: f.waiting }, n, ?_, hf.wait h hwait, ?_⟩
  · rw [spread, if_neg (by rw [hseen]; decide)]
    rcases hwait with ⟨s, k, hcode⟩ | hcode <;> simp only [hcode] <;> rfl
  · show 2 * (f.visit t.pc).unseen + todo.length ≤ n
    omega

theorem Yields.handled (h : Yields p here t r) : Handled p here t r := by
  induction h with
  | lost hcode =>
    refine .of_end (.lost hcode) fun todo n {f} hseen => ?_
    rw [spread, if_neg (by rw [hseen]; decide)]
    simp only [hcode]
    rfl
  | jump hcode hk ih =>
    refine .of_next (.jump hcode hk) (.jump hcode) (fun todo n {f} hseen => ?_) ih
    rw [spread, if_neg (by rw [hseen]; decide)]
    simp only [hcode]
    rfl
  | @fork here t k l r r' hcode hk hl ihk ihl =>
    refine handled_of_visit (.fork hcode hk hl) fun todo n {opened f found} hseen hf hclear hn => ?_
    obtain ⟨f', n', heq, hf', hn'⟩ :=
      ihk (⟨l, t.marks⟩ :: todo) n hf (hclear _ (.preferred hcode)) (by rw [List.length_cons]; omega)
    rw [List.length_cons] at hn'
    obtain ⟨f'', n'', heq', hf'', hn''⟩ := ihl todo n' hf' (hclear _ (.other hcode)) (by omega)
    rw [Option.or_assoc] at hf''
    refine ⟨f'', n'', ?_, hf'', hn''⟩
    rw [spread, if_neg (by rw [hseen]; decide)]
    simp only [hcode]
    exact heq.trans heq'
  | mark hcode hk ih =>
    refine .of_next (.mark hcode hk) (.mark hcode) (fun todo n {f} hseen => ?_) ih
    rw [spread, if_neg (by rw [hseen]; decide)]
    simp only [hcode]
    rfl
  | look hcode holds hk ih =>
    refine .of_next (.look hcode holds hk) (.look hcode holds) (fun todo n {f} hseen => ?_) ih
    rw [spread, if_neg (by rw [hseen]; decide)]
    simp only [hcode, holds, if_true]
    rfl
  | lookFails hcode fails =>
    refine .of_end (.lookFails hcode fails) fun todo n {f} hseen => ?_
    rw [spread, if_neg (by rw [hseen]; decide)]
    simp only [hcode, fails, Bool.false_eq_true, if_false]
    rfl
  | char hcode hrest hc hk ih => exact .of_wait (.char hcode hrest hc hk) (.inl ⟨_, _, hcode⟩)
  | charFails hcode fails => exact .of_wait (.charFails hcode fails) (.inl ⟨_, _, hcode⟩)
  | accept hcode => exact .of_wait (.accept hcode) (.inr hcode)

/-- What `settle` adds is what comes out of the thread. -/
theorem Settled.settle (hf : Settled p here (fun _ => False) f found) (h : Yields p here t r) :
    Settled p here (fun _ => False) (p.settle here t f) (found.or r) := by
  have hunseen : f.unseen ≤ p.size := by
    rw [← hf.size_eq]
    exact Array.count_le_size
  obtain ⟨f', n', heq, hf', -⟩ :=
    h.handled [] (2 * p.size + 2) hf (fun x hx => hx.elim) (by rw [List.length_nil]; omega)
  have hend : p.spread here n' [] f' = f' := by cases n' <;> rw [spread]
  rw [Program.settle, heq, hend]
  exact hf'

theorem settled_fresh : Settled p here (fun _ => False) p.fresh none := by
  refine ⟨Array.size_replicate, fun t ht => (nomatch ht), .nil, fun {t r} hseen _ _ _ => ?_⟩
  rw [fresh, Array.getElem?_replicate] at hseen
  split at hseen <;> cases hseen

/-! ## The whole search -/

/-- The threads that wait for a character, moved over it, yield what they yielded before. -/
theorem advance_yields {c : Char} {rest : List Char} (hrest : here.rest = c :: rest)
    {ts : List Thread} (hs : FirstYield p here ts r)
    (hchars : ∀ t ∈ ts, ∃ s k, p.code[t.pc]? = some (.char s k))
    (hf : Settled p (here.past c rest) (fun _ => False) f found) :
    Settled p (here.past c rest) (fun _ => False) (p.advance c (here.past c rest) ts f)
      (found.or r) := by
  induction hs generalizing f found with
  | nil =>
    rw [Option.or_none]
    exact hf
  | cons h _ ih =>
    have hchars' := fun t ht => hchars t (List.mem_cons_of_mem _ ht)
    obtain ⟨s, k, hcode⟩ := hchars _ List.mem_cons_self
    rw [advance, ← Option.or_assoc]
    simp only [hcode]
    cases h with
    | char h' hrest' hc hk =>
      obtain ⟨rfl, rfl⟩ := Instr.char.inj (Option.some.inj (hcode.symm.trans h'))
      obtain ⟨rfl, rfl⟩ := List.cons.inj (hrest.symm.trans hrest')
      rw [if_pos hc]
      exact ih hchars' (hf.settle hk)
    | charFails h' fails =>
      obtain ⟨rfl, rfl⟩ := Instr.char.inj (Option.some.inj (hcode.symm.trans h'))
      rw [if_neg (by rw [fails c rest hrest]; decide), Option.or_none]
      exact ih hchars' hf
    | _ => simp_all

/-- The threads before the first that accepts decide, unless they all fail. -/
theorem FirstYield.alive {ts : List Thread} (hs : FirstYield p here ts r)
    (hw : ∀ t ∈ ts, Waits p t) (best : Option Success) :
    ∃ r', FirstYield p here (ts.takeWhile fun t => !p.accepts t) r' ∧
      (∀ t ∈ ts.takeWhile fun t => !p.accepts t, ∃ s k, p.code[t.pc]? = some (.char s k)) ∧
      r.or best = r'.or (match ts.find? p.accepts with
        | some t => some (t.marks, here)
        | none => best) := by
  induction hs with
  | nil => exact ⟨none, .nil, fun t ht => (nomatch ht), rfl⟩
  | @cons t ts r r' h _ ih =>
    by_cases haccepts : p.accepts t = true
    · have hcode := accepts_iff.1 haccepts
      rw [List.takeWhile_cons_of_neg (by rw [haccepts]; decide), List.find?_cons_of_pos haccepts]
      refine ⟨none, .nil, fun t ht => (nomatch ht), ?_⟩
      cases h <;> simp_all
    · obtain ⟨r'', hs'', hchars, heq⟩ := ih fun u hu => hw u (List.mem_cons_of_mem t hu)
      rw [List.takeWhile_cons_of_pos (by simpa using haccepts), List.find?_cons_of_neg haccepts]
      refine ⟨r.or r'', .cons h hs'', ?_, ?_⟩
      · intro u hu
        rcases List.mem_cons.1 hu with rfl | hu
        · exact (hw u List.mem_cons_self).resolve_right fun hcode => haccepts (accepts_iff.2 hcode)
        · exact hchars u hu
      · rw [Option.or_assoc, heq, Option.or_assoc]

theorem race_yields {rest : List Char} {ts : List Thread} (hrest : here.rest = rest)
    (hs : FirstYield p here ts r) (hw : ∀ t ∈ ts, Waits p t) (best : Option Success) :
    p.race rest here ts best = r.or best := by
  induction rest generalizing here ts r best with
  | nil =>
    obtain ⟨r', hs', hchars, heq⟩ := hs.alive hw best
    have hnone : r' = none := by
      clear heq
      generalize (ts.takeWhile fun t => !p.accepts t) = alive at hs' hchars
      induction hs' with
      | nil => rfl
      | cons h _ ih =>
        obtain ⟨s, k, hcode⟩ := hchars _ List.mem_cons_self
        rw [ih fun t ht => hchars t (List.mem_cons_of_mem _ ht), Option.or_none]
        cases h <;> simp_all
    rw [heq, hnone, Option.none_or]
    rfl
  | cons c rest ih =>
    obtain ⟨r', hs', hchars, heq⟩ := hs.alive hw best
    rw [heq, race]
    dsimp only
    split
    · next hempty =>
      rw [List.isEmpty_iff.1 hempty] at hs'
      cases hs'
      rfl
    · have hadvance := advance_yields hrest hs' hchars settled_fresh
      rw [Option.none_or] at hadvance
      exact ih rfl hadvance.yields (fun t ht => hadvance.waits t (List.mem_reverse.1 ht)) _

/-- **A search from a position finds what the thread from address 0 yields there.** -/
theorem matchAt_eq_of_yields (h : Yields p here ⟨0, []⟩ r) : p.matchAt here = r := by
  have hsettle := settled_fresh.settle h
  rw [Option.none_or] at hsettle
  rw [matchAt, race_yields rfl hsettle.yields (fun t ht => hsettle.waits t (List.mem_reverse.1 ht)),
    Option.or_none]

end Program
end Pattern
end LiteralPatch
