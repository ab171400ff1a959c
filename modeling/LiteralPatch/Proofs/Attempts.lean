import Mathlib.Data.List.Forall2

/-!
# Attempts one after the other

Readers, loading and compilation are attempts that give a result or a cause.  A sequence of them succeeds if
each succeeds, with what the one before has given (`bind_eq_ok_iff`, `mapM_eq_ok_iff`), and it fails as the
first of them fails (`causeOf?_mapM`).  What goes through a list is compared with what comes out of it member
by member (`forall_of_forall₂`).
-/

namespace LiteralPatch

variable {ε ε' α β : Type}

/-! ## Lists member by member -/

/-- Choosing a partner for each member of a list. -/
theorem exists_forall₂_of_forall {R : α → β → Prop} {as : List α}
    (h : ∀ a ∈ as, ∃ b, R a b) : ∃ bs, List.Forall₂ R as bs := by
  induction as with
  | nil => exact ⟨[], .nil⟩
  | cons a as ih =>
    obtain ⟨b, hb⟩ := h a List.mem_cons_self
    obtain ⟨bs, hbs⟩ := ih fun x hx => h x (List.mem_cons_of_mem a hx)
    exact ⟨b :: bs, .cons hb hbs⟩

/-- What follows for every member of the second list. -/
theorem forall_of_forall₂ {R : α → β → Prop} {Q : β → Prop} {as : List α} {bs : List β}
    (h : List.Forall₂ R as bs) (himp : ∀ a ∈ as, ∀ b, R a b → Q b) : ∀ b ∈ bs, Q b := by
  induction h with
  | nil => exact fun b hb => nomatch hb
  | cons hab _ ih =>
    refine List.forall_mem_cons.2 ⟨himp _ List.mem_cons_self _ hab, ih fun a ha => ?_⟩
    exact himp a (List.mem_cons_of_mem _ ha)

/-- What holds of two lists member by member, where more is known of the members. -/
theorem forall₂_imp_of_mem {R Q : α → β → Prop} {as : List α} {bs : List β}
    (h : List.Forall₂ R as bs) (himp : ∀ a ∈ as, ∀ b ∈ bs, R a b → Q a b) : List.Forall₂ Q as bs := by
  induction h with
  | nil => exact .nil
  | cons hab _ ih =>
    refine .cons (himp _ List.mem_cons_self _ List.mem_cons_self hab) (ih fun a ha b hb => ?_)
    exact himp a (List.mem_cons_of_mem _ ha) b (List.mem_cons_of_mem _ hb)

/-! ## Attempts -/

/-- Why there is no result. -/
def causeOf? : Except ε α → Option ε
  | .ok _ => none
  | .error cause => some cause

theorem causeOf?_eq_some_iff {r : Except ε α} {cause : ε} :
    causeOf? r = some cause ↔ r = .error cause := by
  cases r with
  | ok a => simp [causeOf?]
  | error e => simp [causeOf?]

theorem toOption_eq_some_iff {r : Except ε α} {a : α} : r.toOption = some a ↔ r = .ok a := by
  cases r <;> simp [Except.toOption]

/-- Two attempts succeed one after the other exactly if each does. -/
theorem bind_eq_ok_iff {r : Except ε α} {f : α → Except ε β} {b : β} :
    r >>= f = .ok b ↔ ∃ a, r = .ok a ∧ f a = .ok b := by
  constructor
  · intro h
    cases r with
    | ok a => exact ⟨a, rfl, h⟩
    | error e => cases h
  · rintro ⟨a, rfl, h⟩
    exact h

/-- They fail if the first does, or if the second does after it. -/
theorem bind_eq_error_iff {r : Except ε α} {f : α → Except ε β} {cause : ε} :
    r >>= f = .error cause ↔ r = .error cause ∨ ∃ a, r = .ok a ∧ f a = .error cause := by
  cases r with
  | ok a =>
    constructor
    · exact fun h => .inr ⟨a, rfl, h⟩
    · rintro (h | ⟨_, ha, h⟩)
      · cases h
      · obtain rfl := Except.ok.inj ha
        exact h
  | error e =>
    constructor
    · intro h
      exact .inl (congrArg Except.error (Except.error.inj h))
    · rintro (h | ⟨_, h, -⟩)
      · exact congrArg Except.error (Except.error.inj h)
      · cases h

theorem mapError_eq_ok_iff {r : Except ε α} {report : ε → ε'} {a : α} :
    r.mapError report = .ok a ↔ r = .ok a := by
  cases r <;> simp [Except.mapError]

theorem mapError_eq_error_iff {r : Except ε α} {report : ε → ε'} {cause : ε'} :
    r.mapError report = .error cause ↔ ∃ e, r = .error e ∧ report e = cause := by
  cases r <;> simp [Except.mapError]

theorem mapM_congr_of_mem {f g : α → Except ε β} {as : List α} (h : ∀ a ∈ as, f a = g a) :
    as.mapM f = as.mapM g := by
  induction as with
  | nil => rfl
  | cons a as ih =>
    obtain ⟨ha, has⟩ := List.forall_mem_cons.1 h
    rw [List.mapM_cons, List.mapM_cons, ha, ih has]

/-- **Going through a list succeeds exactly if each member does,** with the results in order. -/
theorem mapM_eq_ok_iff {f : α → Except ε β} {as : List α} {bs : List β} :
    as.mapM f = .ok bs ↔ List.Forall₂ (fun a b => f a = .ok b) as bs := by
  induction as generalizing bs with
  | nil =>
    rw [List.mapM_nil, List.forall₂_nil_left_iff]
    exact ⟨fun h => (Except.ok.inj h).symm, fun h => h ▸ rfl⟩
  | cons a as ih =>
    rw [List.mapM_cons, bind_eq_ok_iff, List.forall₂_cons_left_iff]
    refine exists_congr fun b => ?_
    rw [bind_eq_ok_iff]
    constructor
    · rintro ⟨ha, bs, has, hbs⟩
      exact ⟨bs, ha, ih.1 has, (Except.ok.inj hbs).symm⟩
    · rintro ⟨bs, ha, has, rfl⟩
      exact ⟨ha, bs, ih.2 has, rfl⟩

/-- **Going through a list fails as the first member that fails does.** -/
theorem causeOf?_mapM (f : α → Except ε β) (as : List α) :
    causeOf? (as.mapM f) = as.findSome? fun a => causeOf? (f a) := by
  induction as with
  | nil => rfl
  | cons a as ih =>
    rw [List.mapM_cons, List.findSome?_cons, ← ih]
    cases f a with
    | error cause => rfl
    | ok b =>
      cases as.mapM f with
      | error cause => rfl
      | ok bs => rfl

end LiteralPatch
