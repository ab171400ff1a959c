import LiteralPatch.Pattern.Cache

/-!
# A cache that cannot be noticed

A cache is asked for patterns, now and then it is cleared, and nobody can tell it from compiling every
pattern afresh (`PatternCache.serve_afresh`).  What one call does is said once (`fetched`); the rest is what
a call preserves and, by induction, what any number of calls does.

That answers are right needs the labels: an entry is known by a text only, and a text that belonged to two
keys would give the pattern of one to those who ask for the other (`PatternKey.label_injective`).
-/

namespace LiteralPatch
namespace PatternCache

variable {c : PatternCache} {k : PatternKey} {p : Pattern}

/-! ## One pattern -/

/-- What fetching a pattern does: it is there, it does not compile, or it is added. -/
inductive Fetched (c : PatternCache) (k : PatternKey) :
    Except Pattern.Fault Pattern × PatternCache → Prop where
  | found (p : Pattern) (h : c.find? k = some p) : Fetched c k (.ok p, c)
  /-- The cache may have been emptied in vain. -/
  | refused (fault : Pattern.Fault) (hnone : c.find? k = none) (h : k.compile = .error fault) :
    Fetched c k (.error fault, c.roomy.val)
  | added (p : Pattern) (d : PatternCache) (hnone : c.find? k = none) (h : k.compile = .ok p)
    (hd : d.entries = (k.label, p) :: c.roomy.val.entries) : Fetched c k (.ok p, d)

theorem fetched (c : PatternCache) (k : PatternKey) : Fetched c k (c.fetch k) := by
  unfold fetch
  split
  · next p hp => exact .found p hp
  · next hnone =>
    split
    · next p h => exact .added p _ hnone h rfl
    · next fault h => exact .refused fault hnone h

/-- A cache that has been made roomy holds what it held before, or nothing. -/
theorem roomy_cases (c : PatternCache) : c.roomy.val = c ∨ c.roomy.val = empty := by
  unfold roomy
  split
  · exact .inl rfl
  · exact .inr rfl

theorem mem_entries_of_find? (h : c.find? k = some p) : (k.label, p) ∈ c.entries := by
  obtain ⟨before, after, hentries, -⟩ := List.lookup_eq_some_iff.1 h
  rw [hentries]
  exact List.mem_append_right before List.mem_cons_self

/-- An entry under the label of a key is the compiled form of that key. -/
theorem compile_of_mem_entries (h : (k.label, p) ∈ c.entries) : k.compile = .ok p := by
  obtain ⟨k', hlabel, hcompile⟩ := c.sound _ h
  obtain rfl := PatternKey.label_injective hlabel
  exact hcompile

/-- A key whose label is in use is found. -/
theorem label_notMem_of_find? (h : c.find? k = none) : k.label ∉ c.entries.map Prod.fst := by
  intro hmem
  obtain ⟨e, he, hlabel⟩ := List.mem_map.1 hmem
  have hne := List.lookup_eq_none_iff.1 h e he
  rw [hlabel, bne_self_eq_false] at hne
  cases hne

/-- **The cache does not change an answer.** -/
theorem fetch_fst (c : PatternCache) (k : PatternKey) : (c.fetch k).1 = k.compile := by
  cases hfetched : c.fetch k with
  | mk result d =>
    have h := fetched c k
    rw [hfetched] at h
    cases h with
    | found p hp => exact (compile_of_mem_entries (mem_entries_of_find? hp)).symm
    | refused fault _ h => exact h.symm
    | added p d _ h _ => exact h.symm

/-! ## Many calls -/

/-- What a cache may be asked to do. -/
inductive Call where
  | get (k : PatternKey)
  | clear

/-- The answer to a call without any cache; clearing has none. -/
def Call.afresh : Call → Option (Except Pattern.Fault Pattern)
  | get k => some k.compile
  | clear => none

/-- The answer to a call, and the cache after it. -/
def answer (c : PatternCache) : Call → Option (Except Pattern.Fault Pattern) × PatternCache
  | .get k => ((c.fetch k).1, (c.fetch k).2)
  | .clear => (none, empty)

/-- The answers to calls in order, and the cache after them. -/
def serve (c : PatternCache) : List Call → List (Option (Except Pattern.Fault Pattern)) × PatternCache
  | [] => ([], c)
  | call :: rest =>
    let (given, c) := c.answer call
    let (later, c) := c.serve rest
    (given :: later, c)

/-- The cache holds one entry for each label, and only what calls have asked for. -/
structure Tidy (calls : List Call) (c : PatternCache) : Prop where
  distinct : (c.entries.map Prod.fst).Nodup
  asked : ∀ e ∈ c.entries, ∃ k, .get k ∈ calls ∧ e.1 = k.label ∧ k.compile = .ok e.2

theorem tidy_empty (calls : List Call) : Tidy calls empty := by
  refine ⟨List.nodup_nil, fun e he => ?_⟩
  cases he

theorem Tidy.roomy {calls : List Call} (h : Tidy calls c) : Tidy calls c.roomy.val := by
  rcases roomy_cases c with heq | heq
  · rwa [heq]
  · rw [heq]
    exact tidy_empty calls

/-- A call keeps the cache tidy. -/
theorem Tidy.answer {calls : List Call} {call : Call} (h : Tidy calls c) (hcall : call ∈ calls) :
    Tidy calls (c.answer call).2 := by
  cases call with
  | clear => exact tidy_empty calls
  | get k =>
    show Tidy calls (c.fetch k).2
    cases hfetched : c.fetch k with
    | mk result d =>
      have hstep := fetched c k
      rw [hfetched] at hstep
      cases hstep with
      | found p hp => exact h
      | refused fault _ _ => exact h.roomy
      | added p d hnone hcompile hd =>
        have hroomy := h.roomy
        have hnew : k.label ∉ c.roomy.val.entries.map Prod.fst := by
          rcases roomy_cases c with heq | heq
          · rw [heq]
            exact label_notMem_of_find? hnone
          · rw [heq]
            exact List.not_mem_nil
        refine ⟨?_, ?_⟩
        · rw [hd]
          exact List.nodup_cons.2 ⟨hnew, hroomy.distinct⟩
        · rw [hd]
          exact List.forall_mem_cons.2 ⟨⟨k, hcall, rfl, hcompile⟩, hroomy.asked⟩

/-- So do any number of calls. -/
theorem Tidy.serve {all calls : List Call} (h : Tidy all c) (hcalls : ∀ call ∈ calls, call ∈ all) :
    Tidy all (c.serve calls).2 := by
  induction calls generalizing c with
  | nil => exact h
  | cons call rest ih =>
    obtain ⟨hcall, hrest⟩ := List.forall_mem_cons.1 hcalls
    exact ih (h.answer hcall) hrest

theorem answer_fst (c : PatternCache) (call : Call) : (c.answer call).1 = call.afresh := by
  cases call with
  | get k => exact congrArg some (c.fetch_fst k)
  | clear => rfl

/-- **Every call is answered as if there were no cache,** whatever is in it. -/
theorem serve_fst (c : PatternCache) (calls : List Call) :
    (c.serve calls).1 = calls.map Call.afresh := by
  induction calls generalizing c with
  | nil => rfl
  | cons call rest ih =>
    show (c.answer call).1 :: ((c.answer call).2.serve rest).1 = _
    rw [answer_fst, ih, List.map_cons]

/-- What a pattern was compiled from is kept in it. -/
theorem eq_of_compile (h : k.compile = .ok p) : k = ⟨p.source, p.ignoreCase⟩ := by
  rw [PatternKey.compile, Pattern.compile] at h
  cases hread : Pattern.read (Pattern.initialFlags k.ignoreCase) k.source.toList with
  | error fault =>
    rw [hread] at h
    cases h
  | ok read =>
    rw [hread] at h
    obtain rfl := Except.ok.inj h
    rfl

/-- **A cache cannot be noticed, and does not grow without bound.**  After any calls, all answers are those
without a cache; each entry is the compiled form of its own pattern and case mode, was asked for, and stands
under a label that no other entry and no other key has; what does not compile is not kept. -/
theorem serve_afresh (calls : List Call) :
    (empty.serve calls).1 = calls.map Call.afresh ∧
      (∀ e ∈ (empty.serve calls).2.entries,
        e.1 = PatternKey.label ⟨e.2.source, e.2.ignoreCase⟩ ∧
          Pattern.compile e.2.source e.2.ignoreCase = .ok e.2 ∧
          .get ⟨e.2.source, e.2.ignoreCase⟩ ∈ calls) ∧
      ((empty.serve calls).2.entries.map Prod.fst).Nodup ∧
      (∀ k k' : PatternKey, k.source ≠ k'.source ∨ k.ignoreCase ≠ k'.ignoreCase →
        ∀ e ∈ (empty.serve calls).2.entries, ¬ (e.1 = k.label ∧ e.1 = k'.label)) ∧
      (∀ (k : PatternKey) (fault : Pattern.Fault), k.compile = .error fault →
        k.label ∉ (empty.serve calls).2.entries.map Prod.fst) ∧
      (empty.serve calls).2.size ≤ 256 := by
  have htidy : Tidy calls (empty.serve calls).2 := (tidy_empty calls).serve fun _ h => h
  refine ⟨serve_fst empty calls, ?_, htidy.distinct, ?_, ?_, (empty.serve calls).2.bounded⟩
  · intro e he
    obtain ⟨k, hasked, hlabel, hcompile⟩ := htidy.asked e he
    obtain rfl := eq_of_compile hcompile
    exact ⟨hlabel, hcompile, hasked⟩
  · rintro k k' hdiffer e - ⟨hk, hk'⟩
    obtain rfl := PatternKey.label_injective (hk.symm.trans hk')
    rcases hdiffer with hsource | hmode
    · exact hsource rfl
    · exact hmode rfl
  · intro k fault hfault hmem
    obtain ⟨⟨label, p⟩, he, rfl⟩ := List.mem_map.1 hmem
    have hcompile := compile_of_mem_entries he
    rw [hfault] at hcompile
    cases hcompile

end PatternCache
end LiteralPatch
