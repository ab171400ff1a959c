import LiteralPatch.Profile.Document
import LiteralPatch.Proofs.Attempts
import LiteralPatch.Table.Load

/-!
# Profiles as their documents declare them

The tables of the profiles are data of the library, and their documents declare the same tables
(`Profile.parse_documents`).  So it makes no difference whether a profile is loaded from its table or its
document is read like any other text (`RuleTable.ofProfile_eq_ofText`).

A document is read from its characters.  `Spelled` takes them off the lines without going through the bytes
of a text: a line is the text of a list of characters, and this list is what is read.
-/

namespace LiteralPatch

/-- Reading a document, from its characters. -/
def Toml.readChars (cs : List Char) : Except Toml.Fault (List (String × Toml.Value)) := do
  let cs := match cs with
    | '\ufeff' :: cs => cs
    | cs => cs
  pure (finishEntries (← Reader.lines (cs.length + 1) [] [] cs))

theorem Toml.read_eq_readChars (text : String) : Toml.read text = Toml.readChars text.toList := rfl

/-- The table that characters declare, whether valid or not. -/
def RuleTable.parseChars (cs : List Char) : Except TextFault RuleTable :=
  match Toml.readChars cs with
  | .error fault => .error (.syntactic fault)
  | .ok entries => (ofEntries entries).mapError .structural

theorem RuleTable.parse_eq_parseChars (text : String) : parse text = parseChars text.toList := rfl

namespace Profile

/-- The characters of lines, each with its end. -/
inductive Spelled : List String → List Char → Prop where
  | nil : Spelled [] []
  | cons {line : List Char} {lines : List String} {cs : List Char} : Spelled lines cs →
      Spelled (String.ofList line :: lines) (line ++ '\n' :: cs)

theorem Spelled.toList_unlines {lines : List String} {cs : List Char} (h : Spelled lines cs) :
    (unlines lines).toList = cs := by
  induction h with
  | nil => rfl
  | @cons line lines cs _ ih =>
    have hfirst : unlines (String.ofList line :: lines) = String.ofList line ++ "\n" ++ unlines lines := by
      simp [unlines, String.join_cons]
    have hend : "\n".toList = ['\n'] := rfl
    rw [hfirst, String.toList_append, String.toList_append, String.toList_ofList, ih, hend,
      List.append_assoc, List.singleton_append]

/-- The lines declare the table, read from their characters. -/
inductive Declare (lines : List String) (t : RuleTable) : Prop where
  | of_chars {cs : List Char} : Spelled lines cs → (RuleTable.parseChars cs).toOption = some t →
      Declare lines t

theorem Declare.parse_eq {lines : List String} {t : RuleTable} (h : Declare lines t) :
    RuleTable.parse (unlines lines) = .ok t := by
  obtain ⟨hspelled, ht⟩ := h
  rw [RuleTable.parse_eq_parseChars, hspelled.toList_unlines]
  exact toOption_eq_some_iff.1 ht

theorem declare_model : Declare modelLines model.table := by
  apply Declare.of_chars
  · simp only [modelLines, headLines, numberLines, modelFlagLines, productFlagLines, productGateLines,
      gateLines, List.cons_append, List.nil_append]
    repeat constructor
  · decide +kernel

theorem declare_family : Declare familyLines family.table := by
  apply Declare.of_chars
  · simp only [familyLines, headLines, numberLines, modelFlagLines, productFlagLines, productGateLines,
      quotaGateLines, gateLines, List.cons_append, List.nil_append]
    repeat constructor
  · decide +kernel

/-- **Each document declares the table of its profile.** -/
theorem parse_documents : ∀ d ∈ documents, RuleTable.parse d.2 = .ok d.1.table :=
  List.forall_mem_cons.2 ⟨declare_model.parse_eq, List.forall_mem_singleton.2 declare_family.parse_eq⟩

/-- The documents are those of the profiles, in their order. -/
theorem find?_eq_documents (name : String) :
    find? name =
      (documents.find? fun d => Text.lowerAscii d.1.name == Text.lowerAscii name).map Prod.fst := by
  have hall : all = documents.map Prod.fst := rfl
  rw [find?, hall, List.find?_map]
  rfl

end Profile

/-- **Loading a profile is reading its document,** whatever name is given, with the same issues and the same
cache. -/
theorem RuleTable.ofProfile_eq_ofText (name : String) :
    RuleTable.ofProfile name =
      match Profile.document? name with
      | some text => RuleTable.ofText none text
      | none => throw (.unknownProfile name (Profile.closest name)) := by
  rw [ofProfile, Profile.find?_eq_documents, Profile.document?]
  cases hfind : Profile.documents.find? fun d => Text.lowerAscii d.1.name == Text.lowerAscii name with
  | none => rfl
  | some d =>
    have hparse := Profile.parse_documents d (List.mem_of_find?_eq_some hfind)
    simp only [Option.map_some]
    rw [ofText, hparse]

end LiteralPatch
