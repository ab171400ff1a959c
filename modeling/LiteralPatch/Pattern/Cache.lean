import LiteralPatch.Pattern

/-!
# Compiled patterns, kept

Tables of rules are built again for every validation and every run, from the same patterns.  The cache
keeps the compiled form under a label, a text in which the case mode stands before the pattern.  A pattern
may itself begin like a label, so the labels are only of use because they can be read back
(`PatternKey.label_injective`).

The cache cannot change an answer: an entry is what compiling a key with its label gives (`sound`), and
this is a field of the type, so no sequence of operations can lose it.  Nor can it grow without bound: a
cache that is full when a key is missing is emptied first, whether or not the new pattern compiles.
-/

namespace LiteralPatch

/-- What a compiled pattern depends on. -/
structure PatternKey where
  source : String
  ignoreCase : Bool
deriving DecidableEq, Repr

namespace PatternKey

/-- The pattern of the key, compiled afresh. -/
def compile (k : PatternKey) : Except Pattern.Fault Pattern :=
  Pattern.compile k.source k.ignoreCase

/-- The mark of a case mode. -/
def mark (ignoreCase : Bool) : Char := if ignoreCase then 'i' else 's'

/-- The text that a compiled pattern is kept under: the mark of the case mode, a colon, the pattern. -/
def label (k : PatternKey) : String :=
  String.ofList (mark k.ignoreCase :: ':' :: k.source.toList)

theorem mark_injective : ∀ a b : Bool, mark a = mark b → a = b := by decide

/-- **A label says which key it is for,** also if the pattern itself begins with a mark and a colon. -/
theorem label_injective {k k' : PatternKey} (h : k.label = k'.label) : k = k' := by
  obtain ⟨hmark, htail⟩ := List.cons.inj (String.ofList_injective h)
  obtain ⟨-, hsource⟩ := List.cons.inj htail
  obtain ⟨source, ignoreCase⟩ := k
  obtain ⟨source', ignoreCase'⟩ := k'
  obtain rfl : source = source' := String.toList_inj.1 hsource
  obtain rfl : ignoreCase = ignoreCase' := mark_injective _ _ hmark
  rfl

end PatternKey

/-- The number of patterns that are kept. -/
def cacheCapacity : Nat := 256

/-- Compiled patterns under their labels, newest first. -/
structure PatternCache where
  entries : List (String × Pattern)
  sound : ∀ e ∈ entries, ∃ k : PatternKey, k.label = e.1 ∧ k.compile = .ok e.2
  bounded : entries.length ≤ cacheCapacity

namespace PatternCache

def empty : PatternCache :=
  ⟨[], by simp, by simp⟩

instance : Inhabited PatternCache := ⟨empty⟩

/-- The number of patterns in the cache. -/
def size (c : PatternCache) : Nat := c.entries.length

/-- The pattern under the label of a key. -/
def find? (c : PatternCache) (k : PatternKey) : Option Pattern :=
  c.entries.lookup k.label

/-- A cache with room for one more pattern: this one, or the empty one. -/
def roomy (c : PatternCache) : { d : PatternCache // d.size < cacheCapacity } :=
  if h : c.size < cacheCapacity then ⟨c, h⟩ else ⟨empty, by decide⟩

/-- The pattern of a key, from the cache if it is there, and the cache with it. -/
def fetch (c : PatternCache) (k : PatternKey) : Except Pattern.Fault Pattern × PatternCache :=
  match c.find? k with
  | some p => (.ok p, c)
  | none =>
    let room := c.roomy
    match h : k.compile with
    | .ok p =>
      (.ok p,
        ⟨(k.label, p) :: room.val.entries,
          by
            intro e he
            rcases List.mem_cons.1 he with rfl | he
            · exact ⟨k, rfl, h⟩
            · exact room.val.sound e he,
          by
            have := room.property
            simp only [size] at this
            simp only [List.length_cons]
            omega⟩)
    | .error fault => (.error fault, room.val)

end PatternCache
end LiteralPatch
