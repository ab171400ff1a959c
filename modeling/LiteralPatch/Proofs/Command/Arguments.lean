import LiteralPatch.Command.Arguments
import Mathlib.Tactic.SplitIfs

/-!
# Options that are given are noted

Reading options only adds to what has been noted (`readOptions_keeps`).  A dry run can be asked for anywhere
behind the command, and is then what is read: `--dry-run` is never taken for the value of another option, as
it looks like an option itself, and no command but `apply` knows it (`dryRun_of_readArguments`).
-/

namespace LiteralPatch
namespace Command

variable {topic : Topic} {verb : Verb} {known : List Switch} {given g : Given} {s : Switch}
  {waiting w : Option Switch} {name value : String} {arguments : List String}

/-! ## What has been noted stays -/

theorem note_eq_ok (h : note topic given s value = .ok g) : g = (s.long, value) :: given := by
  unfold note at h
  split_ifs at h
  exact (Except.ok.inj h).symm

theorem note_keeps (h : note topic given s value = .ok g) (hname : given.has name = true) :
    g.has name = true := by
  rw [note_eq_ok h, Given.has, List.lookup_cons]
  cases name == s.long with
  | true => rfl
  | false => exact hname

theorem note_notes (h : note topic given s value = .ok g) : g.has s.long = true := by
  rw [note_eq_ok h, Given.has, List.lookup_cons_self]
  rfl

/-- An option that is noted with its value waits for nothing. -/
theorem note_map_eq_ok (h : (note topic given s value).map (fun g => (g, none)) = .ok (g, w)) :
    note topic given s value = .ok g ∧ w = none := by
  cases hnote : note topic given s value with
  | error halt =>
    rw [hnote] at h
    cases h
  | ok noted =>
    rw [hnote] at h
    obtain ⟨rfl, rfl⟩ := Prod.mk.inj (Except.ok.inj h)
    exact ⟨rfl, rfl⟩

theorem readShort_keeps {cs : List Char} (h : readShort topic known given cs = .ok (g, w))
    (hname : given.has name = true) : g.has name = true := by
  induction cs generalizing given with
  | nil =>
    obtain ⟨rfl, -⟩ := Prod.mk.inj (Except.ok.inj h)
    exact hname
  | cons c cs ih =>
    rw [readShort] at h
    split at h
    · cases h
    · next s _ =>
      split_ifs at h with htakes
      · cases hnote : note topic given s "" with
        | error halt =>
          rw [hnote] at h
          cases h
        | ok noted =>
          rw [hnote] at h
          exact ih h (note_keeps hnote hname)
      · split at h
        · obtain ⟨rfl, -⟩ := Prod.mk.inj (Except.ok.inj h)
          exact hname
        · exact note_keeps (note_map_eq_ok h).1 hname
        · exact note_keeps (note_map_eq_ok h).1 hname

theorem readLong_keeps {text : List Char} (h : readLong topic known given text = .ok (g, w))
    (hname : given.has name = true) : g.has name = true := by
  rw [readLong] at h
  split at h
  split at h
  · cases h
  · split at h
    · exact note_keeps (note_map_eq_ok h).1 hname
    · cases h
    · exact note_keeps (note_map_eq_ok h).1 hname
    · obtain ⟨rfl, -⟩ := Prod.mk.inj (Except.ok.inj h)
      exact hname

/-! ## One argument after the other -/

/-- What one argument of a command does. -/
inductive Took (verb : Verb) : Given → Option Switch → String → Given → Option Switch → Prop where
  | value {given g : Given} {s : Switch} {argument : String} (hvalue : looksLikeOption argument = false)
    (h : note (.verb verb) given s argument = .ok g) : Took verb given (some s) argument g none
  | long {given g : Given} {w : Option Switch} {argument : String} {text : List Char}
    (hlong : classify argument = .long text)
    (h : readLong (.verb verb) verb.switches given text = .ok (g, w)) : Took verb given none argument g w
  | short {given g : Given} {w : Option Switch} {argument : String} {text : List Char}
    (hshort : classify argument = .short text)
    (h : readShort (.verb verb) verb.switches given text = .ok (g, w)) : Took verb given none argument g w

theorem Took.keeps {argument : String} (h : Took verb given waiting argument g w)
    (hname : given.has name = true) : g.has name = true := by
  cases h with
  | value _ h => exact note_keeps h hname
  | long _ h => exact readLong_keeps h hname
  | short _ h => exact readShort_keeps h hname

/-- Options are read argument by argument, up to the end or to a mark that ends them. -/
theorem readOptions_cons {argument : String} {rest : List String}
    (h : readOptions verb given waiting (argument :: rest) = .ok g) :
    (classify argument = .stop ∧ rest = [] ∧ g = given) ∨
      ∃ g' w, Took verb given waiting argument g' w ∧ readOptions verb g' w rest = .ok g := by
  cases waiting with
  | some s =>
    rw [readOptions] at h
    split_ifs at h with hlooks
    cases hnote : note (.verb verb) given s argument with
    | error halt =>
      rw [hnote] at h
      cases h
    | ok g' =>
      rw [hnote] at h
      exact .inr ⟨g', none, .value (Bool.eq_false_iff.2 hlooks) hnote, h⟩
  | none =>
    unfold readOptions at h
    split at h
    · next hstop =>
      split at h
      · exact .inl ⟨hstop, rfl, (Except.ok.inj h).symm⟩
      · cases h
    · cases h
    · next text hlong =>
      cases hread : readLong (.verb verb) verb.switches given text with
      | error halt =>
        rw [hread] at h
        cases h
      | ok result =>
        rw [hread] at h
        exact .inr ⟨result.1, result.2, .long hlong hread, h⟩
    · next text hshort =>
      cases hread : readShort (.verb verb) verb.switches given text with
      | error halt =>
        rw [hread] at h
        cases h
      | ok result =>
        rw [hread] at h
        exact .inr ⟨result.1, result.2, .short hshort hread, h⟩

/-- **What has been noted stays,** whatever else is read. -/
theorem readOptions_keeps (h : readOptions verb given waiting arguments = .ok g)
    (hname : given.has name = true) : g.has name = true := by
  induction arguments generalizing given waiting with
  | nil =>
    cases waiting with
    | some s => cases h
    | none =>
      obtain rfl := Except.ok.inj h
      exact hname
  | cons argument rest ih =>
    rcases readOptions_cons h with ⟨-, -, rfl⟩ | ⟨g', w, htook, hrest⟩
    · exact hname
    · exact ih hrest (htook.keeps hname)

/-! ## Dry runs -/

/-- Only `apply` can be run dry, and it is so noted. -/
theorem Took.dryRun (h : Took verb given waiting "--dry-run" g w) :
    verb = .apply ∧ g.has "dry-run" = true := by
  have hclass : classify "--dry-run" = .long "dry-run".toList := by decide
  cases h with
  | value hvalue _ => exact absurd hvalue (by decide)
  | short hshort _ =>
    rw [hclass] at hshort
    cases hshort
  | long hlong h =>
    rw [hclass] at hlong
    obtain rfl := Argument.long.inj hlong
    cases verb with
    | apply => exact ⟨rfl, note_notes (s := ⟨"dry-run", some 'n', .nothing, false⟩) (note_map_eq_ok h).1⟩
    | check => cases h
    | restore => cases h
    | list => cases h

/-- **A dry run can be asked for anywhere** among the options. -/
theorem readOptions_dryRun (h : readOptions verb given waiting arguments = .ok g)
    (hmem : "--dry-run" ∈ arguments) : verb = .apply ∧ g.has "dry-run" = true := by
  induction arguments generalizing given waiting with
  | nil => cases hmem
  | cons argument rest ih =>
    rcases readOptions_cons h with ⟨hstop, rfl, rfl⟩ | ⟨g', w, htook, hrest⟩
    · obtain rfl := List.mem_singleton.1 hmem
      exact absurd hstop (by decide)
    · rcases List.mem_cons.1 hmem with rfl | hmem
      · obtain ⟨hverb, hnoted⟩ := htook.dryRun
        exact ⟨hverb, readOptions_keeps hrest hnoted⟩
      · exact ih hrest hmem

/-- Options that ask for a dry run make a request for one. -/
theorem Given.request_dryRun {request : Request} (h : g.request .apply = .ok request)
    (hnoted : g.has "dry-run" = true) : ∃ o, request = .apply o ∧ o.dryRun = true := by
  rw [Given.request] at h
  cases hsource : g.source with
  | error halt =>
    rw [hsource] at h
    cases h
  | ok source =>
    rw [hsource] at h
    by_cases hconflict : g.has "skip-backup" ∧ g.has "force-backup"
    · simp only [if_pos hconflict] at h
      cases h
    · simp only [if_neg hconflict] at h
      exact ⟨_, (Except.ok.inj h).symm, hnoted⟩

/-- **Arguments with `--dry-run` among them ask for a dry run,** if they ask for anything. -/
theorem dryRun_of_readArguments {request : Request} (h : readArguments given arguments = .ok request)
    (hmem : "--dry-run" ∈ arguments) : ∃ o, request = .apply o ∧ o.dryRun = true := by
  induction arguments generalizing given with
  | nil => cases hmem
  | cons argument rest ih =>
    rcases List.mem_cons.1 hmem with rfl | hmem
    · -- no option that may stand before a command has this name
      have hclass : classify "--dry-run" = .long "dry-run".toList := by decide
      unfold readArguments at h
      rw [hclass] at h
      cases h
    · unfold readArguments at h
      split at h
      · split at h
        · cases h
        · cases h
      · next text _ =>
        cases hread : readLong .program generalSwitches given text with
        | error halt =>
          rw [hread] at h
          cases h
        | ok result =>
          rw [hread] at h
          exact ih h hmem
      · next text _ =>
        cases hread : readShort .program generalSwitches given text with
        | error halt =>
          rw [hread] at h
          cases h
        | ok result =>
          rw [hread] at h
          exact ih h hmem
      · split_ifs at h
        · cases h
        · split at h
          · cases h
          · next verb _ =>
            cases hread : readOptions verb [] none rest with
            | error halt =>
              rw [hread] at h
              cases h
            | ok g =>
              rw [hread] at h
              obtain ⟨rfl, hnoted⟩ := readOptions_dryRun hread hmem
              exact Given.request_dryRun h hnoted

end Command
end LiteralPatch
