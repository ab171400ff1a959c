import LiteralPatch.Json.Pretty
import LiteralPatch.Proofs.Json.Reader

/-!
# What is laid out is JSON

The layout of a value is a JSON text, and of that value (`isText_pretty`); so no two values are laid out alike
(`pretty_injective`), and a reader finds the value again (`parse_pretty`).

The induction is on how deep the value is nested: the lines of an array or object are separated by commas, and the
white space that sets them apart stands where the grammar allows it.
-/

namespace LiteralPatch
namespace Json

variable {α : Type} {R : List Char → α → Prop}

/-! ## Strings -/

theorem hexNumber?_control : ∀ n < 0x20, hexNumber? ['0', '0', hexDigit (n / 16), hexDigit (n % 16)] = some n := by
  decide

/-- An escaped character stands for the character. -/
theorem isCharacter_escaped (c : Char) : IsCharacter (escaped c) c := by
  unfold escaped
  split
  · exact .short (by decide)
  · exact .short (by decide)
  · exact .short (by decide)
  · exact .short (by decide)
  · exact .short (by decide)
  · exact .short (by decide)
  · exact .short (by decide)
  · next hquote hbackslash _ _ _ _ _ =>
    split
    · next hcontrol => exact .code rfl (hexNumber?_control _ hcontrol)
    · next hcontrol => exact .plain hquote hbackslash (Nat.not_lt.1 hcontrol)

theorem isBody_escaped (s : List Char) : IsBody (s.flatMap escaped) s := by
  induction s with
  | nil => exact .nil
  | cons c s ih => exact .cons (isCharacter_escaped c) ih

theorem isString_quoted (s : String) : IsString (quoted s) s := .mk (isBody_escaped s.toList)

/-! ## Lines -/

theorem blanks_newline (depth : Nat) : Blanks (newline depth) := by
  intro c hc
  obtain rfl | hc := List.mem_cons.1 hc
  · rfl
  · rw [List.eq_of_mem_replicate hc]
    rfl

theorem blanks_nil : Blanks [] := nofun

/-- Parts on lines of their own, with commas between them. -/
theorem separated_lines (depth : Nat) {text : α → List Char} {as : List α} :
    ∀ {a : α}, (∀ b ∈ a :: as, R (text b) b) →
      Separated R (newline (depth + 1) ++ text a ++
        as.flatMap (fun b => ',' :: newline (depth + 1) ++ text b) ++ newline depth) (a :: as) := by
  induction as with
  | nil =>
    intro a h
    have hpart : Padded R (newline (depth + 1) ++ (text a ++ newline depth)) a :=
      .mk (blanks_newline _) (h a List.mem_cons_self) (blanks_newline _)
    simpa using Separated.last hpart
  | cons b as ih =>
    intro a h
    have hpart : Padded R (newline (depth + 1) ++ (text a ++ [])) a :=
      .mk (blanks_newline _) (h a List.mem_cons_self) blanks_nil
    simpa using Separated.more hpart (ih fun c hc => h c (List.mem_cons_of_mem a hc))

theorem layoutItems_eq (depth : Nat) (vs : List Json) :
    layoutItems depth vs = vs.flatMap fun v => ',' :: newline (depth + 1) ++ layout (depth + 1) v := by
  induction vs with
  | nil => simp [layoutItems]
  | cons v vs ih => simp [layoutItems, ih]

/-- A field on its line. -/
def layoutField (depth : Nat) (f : String × Json) : List Char :=
  quoted f.1 ++ [':', ' '] ++ layout depth f.2

theorem layoutFields_eq (depth : Nat) (fs : List (String × Json)) :
    layoutFields depth fs = fs.flatMap fun f => ',' :: newline (depth + 1) ++ layoutField (depth + 1) f := by
  induction fs with
  | nil => simp [layoutFields]
  | cons f fs ih => simp [layoutFields, layoutField, ih]

/-- A field is its name, a colon with a space behind it, and its value. -/
theorem isField_layoutField {R : List Char → Json → Prop} {depth : Nat} {f : String × Json}
    (h : R (layout depth f.2) f.2) : IsField R (layoutField depth f) f := by
  have hspace : Blanks [' '] := by
    intro c hc
    obtain rfl := List.mem_singleton.1 hc
    rfl
  simpa [layoutField] using IsField.mk (isString_quoted f.1) blanks_nil hspace h

/-! ## Values -/

/-- Nested less than `d` deep. -/
def Within : Nat → Json → Prop
  | 0, _ => False
  | d + 1, array vs => ∀ v ∈ vs, Within d v
  | d + 1, object fs => ∀ f ∈ fs, Within d f.2
  | _ + 1, _ => True

/-- **The layout of a value is a text of that value.** -/
theorem IsValue.layout {d : Nat} {v : Json} (h : v.Within d) (depth : Nat) : IsValue d (layout depth v) v := by
  induction d generalizing v depth with
  | zero => exact h.elim
  | succ d ih =>
    show Layer (IsValue d) (Json.layout depth v) v
    match v with
    | null =>
      rw [Json.layout]
      exact .null
    | boolean true =>
      rw [Json.layout]
      exact .yes
    | boolean false =>
      rw [Json.layout]
      exact .no
    | number n =>
      rw [Json.layout, ← Version.numeral_eq]
      exact .number n
    | string s =>
      rw [Json.layout]
      exact .string (isString_quoted s)
    | array [] =>
      rw [Json.layout]
      exact .array (.empty blanks_nil)
    | array (v :: vs) =>
      have hitems := separated_lines depth fun w hw => ih (h w hw) (depth + 1)
      rw [Json.layout, layoutItems_eq]
      exact .array (.parts hitems)
    | object [] =>
      rw [Json.layout]
      exact .object (.empty blanks_nil)
    | object ((k, v) :: fs) =>
      have hfields := separated_lines depth fun f hf =>
        show IsField (IsValue d) (layoutField (depth + 1) f) f from
          isField_layoutField (ih (h f hf) (depth + 1))
      have hgroup : Group '\x7b' '\x7d' (IsField (IsValue d)) _ ((k, v) :: fs) := .parts hfields
      rw [Json.layout, layoutFields_eq]
      refine .object ?_
      simpa [layoutField] using hgroup

/-- No value is nested more deeply than it is large. -/
theorem within_of_sizeOf_le {d : Nat} {v : Json} (h : sizeOf v ≤ d) : v.Within d := by
  induction d generalizing v with
  | zero => cases v <;> simp at h
  | succ d ih =>
    match v with
    | null => trivial
    | boolean _ => trivial
    | number _ => trivial
    | string _ => trivial
    | array vs =>
      intro w hw
      have hitem := List.sizeOf_lt_of_mem hw
      rw [array.sizeOf_spec] at h
      exact ih (by omega)
    | object fs =>
      rintro ⟨k, w⟩ hf
      have hfield := List.sizeOf_lt_of_mem hf
      rw [Prod.mk.sizeOf_spec] at hfield
      rw [object.sizeOf_spec] at h
      exact ih (by dsimp only; omega)

theorem padded_pretty {d : Nat} {v : Json} (h : v.Within d) : Padded (IsValue d) v.pretty.toList v := by
  rw [pretty, String.toList_ofList]
  simpa using Padded.mk blanks_nil (IsValue.layout h 0) blanks_nil

/-- **A value is laid out as a JSON text of it.** -/
theorem isText_pretty (v : Json) : IsText v.pretty v :=
  ⟨sizeOf v, padded_pretty (within_of_sizeOf_le (Nat.le_refl _))⟩

/-- **No two values are laid out alike.** -/
theorem pretty_injective : Function.Injective pretty := fun v w h =>
  (isText_pretty v).unique (h ▸ isText_pretty w)

/-- What is laid out is read again, unless it is nested too deeply. -/
theorem parse_pretty {d : Nat} {v : Json} (h : v.Within d) (hd : d ≤ maxDepth) : parse v.pretty = some v :=
  parse_eq_some (padded_pretty h) hd

end Json
end LiteralPatch
