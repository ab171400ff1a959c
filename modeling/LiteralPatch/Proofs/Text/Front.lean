import Mathlib.Data.List.TakeWhile

/-!
# The front of a list

A reader takes what has a property from the front of a text and goes on behind it.  `Front p as front rest`
says where it stops, and it stops in one place only (`Front.iff`).
-/

namespace LiteralPatch

variable {α : Type} {p : α → Bool} {as front rest : List α}

/-- `front` is the longest front of the list in which all members have the property, and `rest` is what
follows it. -/
structure Front (p : α → Bool) (as front rest : List α) : Prop where
  append_eq : as = front ++ rest
  holds : ∀ a ∈ front, p a = true
  stops : ∀ a ∈ rest.head?, p a = false

namespace Front

theorem takeWhile_eq (h : Front p as front rest) : as.takeWhile p = front := by
  rw [h.append_eq, List.takeWhile_append_of_pos h.holds]
  cases rest with
  | nil => simp
  | cons a rest => rw [List.takeWhile_cons_of_neg (by simp [h.stops a rfl]), List.append_nil]

theorem dropWhile_eq (h : Front p as front rest) : as.dropWhile p = rest := by
  have hboth := List.takeWhile_append_dropWhile (p := p) (l := as)
  rw [h.takeWhile_eq] at hboth
  exact List.append_cancel_left (hboth.trans h.append_eq)

/-- **A list has one longest front.** -/
protected theorem iff : Front p as front rest ↔ as.takeWhile p = front ∧ as.dropWhile p = rest := by
  constructor
  · exact fun h => ⟨h.takeWhile_eq, h.dropWhile_eq⟩
  · rintro ⟨rfl, rfl⟩
    refine ⟨List.takeWhile_append_dropWhile.symm, fun a ha => List.mem_takeWhile_imp ha, fun a ha => ?_⟩
    have hstop := List.head?_dropWhile_not p as
    rw [Option.mem_def.1 ha] at hstop
    simpa using hstop

end Front
end LiteralPatch
