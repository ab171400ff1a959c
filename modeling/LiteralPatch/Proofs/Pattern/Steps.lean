import LiteralPatch.Pattern.Search

/-!
# What a search finds is the end of a run

A thread of a search does what one would do with the program by hand: it follows one instruction after
the other, and consumes a character where the instruction says so.  `Program.Step` is one such step and
`Program.Leads` a run of a given number of steps, with nothing said about preference or about threads
that are dropped.

The search keeps many threads at once, but each of them got where it stands by a run from address 0
(`spread_waiting`, `advance_waiting`), whatever the order in which they are moved.  So a match is the end of
a run at an accepting address (`matchAt_sound`).  The number of steps is kept because a run through a
loop is taken apart by induction on it.
-/

namespace LiteralPatch
namespace Pattern
namespace Program

/-- One step of a thread, from `t` at one position to another thread at the same position or the next. -/
inductive Step (p : Program) : Thread → Cursor → Thread → Cursor → Prop where
  | jump {t : Thread} {here : Cursor} {k : Nat} (h : p.code[t.pc]? = some (.jump k)) :
    Step p t here ⟨k, t.marks⟩ here
  | preferred {t : Thread} {here : Cursor} {k l : Nat} (h : p.code[t.pc]? = some (.fork k l)) :
    Step p t here ⟨k, t.marks⟩ here
  | other {t : Thread} {here : Cursor} {k l : Nat} (h : p.code[t.pc]? = some (.fork k l)) :
    Step p t here ⟨l, t.marks⟩ here
  | mark {t : Thread} {here : Cursor} {slot k : Nat} (h : p.code[t.pc]? = some (.mark slot k)) :
    Step p t here ⟨k, (slot, here.offset) :: t.marks⟩ here
  | look {t : Thread} {here : Cursor} {a : Assertion} {k : Nat}
    (h : p.code[t.pc]? = some (.look a k)) (holds : here.satisfies a = true) :
    Step p t here ⟨k, t.marks⟩ here
  | char {t : Thread} {here : Cursor} {s : CharSet} {k : Nat} {c : Char} {rest : List Char}
    (h : p.code[t.pc]? = some (.char s k)) (hrest : here.rest = c :: rest) (hc : s.has c = true) :
    Step p t here ⟨k, t.marks⟩ (here.past c rest)

/-- A run of the given number of steps. -/
inductive Leads (p : Program) : Nat → Thread → Cursor → Thread → Cursor → Prop where
  | rest {t : Thread} {here : Cursor} : Leads p 0 t here t here
  | step {n : Nat} {t u v : Thread} {here mid there : Cursor} (first : Step p t here u mid)
    (later : Leads p n u mid v there) : Leads p (n + 1) t here v there

variable {p : Program} {n : Nat} {t u v : Thread} {here mid there : Cursor}

theorem Leads.snoc (h : Leads p n t here u mid) (last : Step p u mid v there) :
    Leads p (n + 1) t here v there := by
  induction h with
  | rest => exact .step last .rest
  | step first _ ih => exact .step first (ih last)

/-- A run that ends elsewhere has a first step. -/
theorem Leads.exists_step {b : Nat} {ms : List Mark} (h : Leads p n ⟨b, ms⟩ here v there)
    (hne : v.pc ≠ b) :
    ∃ m u mid, n = m + 1 ∧ Step p ⟨b, ms⟩ here u mid ∧ Leads p m u mid v there := by
  cases h with
  | rest => exact absurd rfl hne
  | step first later => exact ⟨_, _, _, rfl, first, later⟩

/-! ## What a step can do, by instruction -/

theorem Step.of_jump {k : Nat} (h : Step p t here u there) (hk : p.code[t.pc]? = some (.jump k)) :
    u = ⟨k, t.marks⟩ ∧ there = here := by
  cases h <;> simp_all

theorem Step.of_fork {k l : Nat} (h : Step p t here u there)
    (hk : p.code[t.pc]? = some (.fork k l)) :
    (u = ⟨k, t.marks⟩ ∨ u = ⟨l, t.marks⟩) ∧ there = here := by
  cases h <;> simp_all

theorem Step.of_loop {greedy : Bool} {k l : Nat} (h : Step p t here u there)
    (hk : p.code[t.pc]? = some (.loop greedy k l)) :
    (u = ⟨k, t.marks⟩ ∨ u = ⟨l, t.marks⟩) ∧ there = here := by
  cases greedy with
  | true => exact h.of_fork hk
  | false =>
    obtain ⟨hu, hthere⟩ := h.of_fork hk
    exact ⟨hu.symm, hthere⟩

theorem Step.of_mark {slot k : Nat} (h : Step p t here u there)
    (hk : p.code[t.pc]? = some (.mark slot k)) :
    u = ⟨k, (slot, here.offset) :: t.marks⟩ ∧ there = here := by
  cases h <;> simp_all

theorem Step.of_look {a : Assertion} {k : Nat} (h : Step p t here u there)
    (hk : p.code[t.pc]? = some (.look a k)) :
    u = ⟨k, t.marks⟩ ∧ there = here ∧ here.satisfies a = true := by
  cases h <;> simp_all

theorem Step.of_char {s : CharSet} {k : Nat} (h : Step p t here u there)
    (hk : p.code[t.pc]? = some (.char s k)) :
    ∃ c rest, here.rest = c :: rest ∧ s.has c = true ∧ u = ⟨k, t.marks⟩ ∧
      there = here.past c rest := by
  cases h with
  | char h' hrest hc =>
    rw [hk] at h'
    obtain ⟨rfl, rfl⟩ := Instr.char.inj (Option.some.inj h')
    exact ⟨_, _, hrest, hc, rfl, rfl⟩
  | _ => simp_all

/-! ## The threads of a search -/

/-- Whatever every step at `here` preserves and the given threads have, the waiting ones have. -/
theorem spread_waiting (P : Thread → Prop) (hP : ∀ t u, P t → Step p t here u here → P u)
    (fuel : Nat) (todo : List Thread) (f : Frontier) (htodo : ∀ t ∈ todo, P t)
    (hf : ∀ t ∈ f.waiting, P t) : ∀ t ∈ (p.spread here fuel todo f).waiting, P t := by
  induction fuel generalizing todo f with
  | zero => exact hf
  | succ fuel ih =>
    cases todo with
    | nil => exact hf
    | cons t todo =>
      have ht : P t := htodo t List.mem_cons_self
      have htodo' : ∀ u ∈ todo, P u := fun u hu => htodo u (List.mem_cons_of_mem t hu)
      have hone : ∀ u, P u → ∀ v ∈ u :: todo, P v := fun u hu v hv => by
        rcases List.mem_cons.1 hv with rfl | hv
        · exact hu
        · exact htodo' v hv
      have hwait : ∀ u ∈ t :: f.waiting, P u := fun u hu => by
        rcases List.mem_cons.1 hu with rfl | hu
        · exact ht
        · exact hf u hu
      rw [spread]
      split
      · exact ih todo f htodo' hf
      · dsimp only
        split
        · exact ih todo _ htodo' hf
        · next h => exact ih _ _ (hone _ (hP _ _ ht (.jump h))) hf
        · next h =>
          refine ih _ _ (fun v hv => ?_) hf
          rcases List.mem_cons.1 hv with rfl | hv
          · exact hP _ _ ht (.preferred h)
          · exact hone _ (hP _ _ ht (.other h)) v hv
        · next h => exact ih _ _ (hone _ (hP _ _ ht (.mark h))) hf
        · next h =>
          split
          · next ha => exact ih _ _ (hone _ (hP _ _ ht (.look h ha))) hf
          · exact ih todo _ htodo' hf
        · exact ih todo _ htodo' hwait
        · exact ih todo _ htodo' hwait

/-- The same for the threads that have moved over a character. -/
theorem advance_waiting (P Q : Thread → Prop) {c : Char} {rest : List Char}
    (hrest : here.rest = c :: rest)
    (hPQ : ∀ t u, P t → Step p t here u (here.past c rest) → Q u)
    (hQ : ∀ t u, Q t → Step p t (here.past c rest) u (here.past c rest) → Q u)
    (threads : List Thread) (f : Frontier) (hthreads : ∀ t ∈ threads, P t)
    (hf : ∀ t ∈ f.waiting, Q t) :
    ∀ t ∈ (p.advance c (here.past c rest) threads f).waiting, Q t := by
  induction threads generalizing f with
  | nil => exact hf
  | cons t threads ih =>
    have hthreads' : ∀ u ∈ threads, P u := fun u hu => hthreads u (List.mem_cons_of_mem t hu)
    rw [advance]
    split
    · next h =>
      split
      · next hc =>
        refine ih _ hthreads' (spread_waiting Q hQ _ _ _ ?_ hf)
        intro u hu
        obtain rfl := List.mem_singleton.1 hu
        exact hPQ t _ (hthreads t List.mem_cons_self) (.char h hrest hc)
      · exact ih f hthreads' hf
    · exact ih f hthreads' hf

/-- A thread that a run from address 0 leads to. -/
def Reached (p : Program) (start : Cursor) (t : Thread) (here : Cursor) : Prop :=
  ∃ n, Leads p n ⟨0, []⟩ start t here

theorem Reached.step {start : Cursor} (h : Reached p start t here) (hs : Step p t here u there) :
    Reached p start u there := by
  obtain ⟨n, hn⟩ := h
  exact ⟨n + 1, hn.snoc hs⟩

/-- A match that a run from address 0 has found. -/
def Accepted (p : Program) (start : Cursor) (found : Success) : Prop :=
  ∃ t, Reached p start t found.2 ∧ p.code[t.pc]? = some .accept ∧ t.marks = found.1

theorem accepts_iff : p.accepts t = true ↔ p.code[t.pc]? = some .accept := by
  unfold accepts
  split
  · next h => simp [h]
  · next h => simpa using h

/-- The best match so far is the one that is accepted here, if there is one. -/
theorem accepted_of_best {start : Cursor} {threads : List Thread} {best : Option Success}
    (hthreads : ∀ t ∈ threads, Reached p start t here)
    (hbest : ∀ found, best = some found → Accepted p start found) {found : Success}
    (h : (match threads.find? p.accepts with
      | some t => some (t.marks, here)
      | none => best) = some found) : Accepted p start found := by
  split at h
  · next t ht =>
    obtain rfl := Option.some.inj h
    have hmem := List.mem_of_find?_eq_some ht
    exact ⟨t, hthreads t hmem, accepts_iff.1 (List.find?_some ht), rfl⟩
  · exact hbest found h

theorem race_sound {start : Cursor} {rest : List Char} {threads : List Thread}
    {best : Option Success} (hrest : here.rest = rest)
    (hthreads : ∀ t ∈ threads, Reached p start t here)
    (hbest : ∀ found, best = some found → Accepted p start found) {found : Success}
    (hrace : p.race rest here threads best = some found) : Accepted p start found := by
  induction rest generalizing here threads best with
  | nil =>
    rw [race] at hrace
    exact accepted_of_best hthreads hbest hrace
  | cons c rest ih =>
    rw [race] at hrace
    dsimp only at hrace
    split at hrace
    · exact accepted_of_best hthreads hbest hrace
    · refine ih rfl ?_ (fun _ => accepted_of_best hthreads hbest) hrace
      intro t ht
      refine advance_waiting (Reached p start · here) (Reached p start · (here.past c rest)) hrest
        (fun t u => Reached.step) (fun t u => Reached.step) _ _ ?_ ?_ t (List.mem_reverse.1 ht)
      · exact fun t ht => hthreads t ((List.takeWhile_sublist _).subset ht)
      · exact fun t ht => nomatch ht

/-- **A match ends a run of the program from the position where the search began.** -/
theorem matchAt_sound {found : Success} (h : p.matchAt here = some found) :
    Accepted p here found := by
  refine race_sound rfl ?_ (fun _ hf => by cases hf) h
  intro t ht
  refine spread_waiting (Reached p here · here) (fun t u => Reached.step) _ _ _ ?_ ?_ t
    (List.mem_reverse.1 ht)
  · intro u hu
    obtain rfl := List.mem_singleton.1 hu
    exact ⟨0, .rest⟩
  · exact fun t ht => nomatch ht

end Program
end Pattern
end LiteralPatch
