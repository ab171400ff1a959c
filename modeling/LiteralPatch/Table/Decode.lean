import LiteralPatch.Table.Definition
import LiteralPatch.Text.Number
import LiteralPatch.Toml.Value

/-!
# A table from a document

Declarations are read field by field.  An unknown field is ignored, a missing field has its default or
is an error, and a field of the wrong type is an error: nothing is converted.  Which kind of rule or
guard a record is, is said by a field of the record itself, its *tag*.

A record is normally a table.  It may also be an array, which gives the fields by position; a tagged
record then starts with its tag and may not have items left over.
-/

namespace LiteralPatch

/-- Why a document is no table of rules. -/
inductive DecodeFault where
  | missingField (field : String)
  | wrongType (field : String)
  | unknownVariant (name : String)
  | leftOver
deriving DecidableEq, Repr

namespace DecodeFault

def message : DecodeFault → String
  | missingField field => "missing field '" ++ field ++ "'"
  | wrongType field => "invalid type of '" ++ field ++ "'"
  | unknownVariant name => "unknown variant '" ++ name ++ "'"
  | leftOver => "too many fields"

end DecodeFault

namespace Decode

open Toml (Value)

/-- The fields of a record. -/
inductive Record where
  | named (entries : List (String × Value))
  | positional (items : List Value)

namespace Record

/-- A value as a record.  A date-time is one without any field that a declaration asks for. -/
def ofValue (what : String) : Value → Except DecodeFault Record
  | .table entries => .ok (.named entries)
  | .array items => .ok (.positional items)
  | .dateTime _ => .ok (.named [])
  | _ => .error (.wrongType what)

/-- The field with this place and name. -/
def field? (r : Record) (place : Nat) (name : String) : Option Value :=
  match r with
  | named entries => entries.lookup name
  | positional items => items[place]?

/-- A field that must be there. -/
def required {α : Type} (r : Record) (place : Nat) (name : String)
    (decode : Value → Except DecodeFault α) : Except DecodeFault α :=
  match r.field? place name with
  | some v => decode v
  | none => .error (.missingField name)

/-- A field with a default. -/
def optional {α : Type} (r : Record) (place : Nat) (name : String) (default : α)
    (decode : Value → Except DecodeFault α) : Except DecodeFault α :=
  match r.field? place name with
  | some v => decode v
  | none => .ok default

/-- Refuses items behind the last field of a tagged record. -/
def ends (r : Record) (count : Nat) : Except DecodeFault Unit :=
  match r with
  | named _ => .ok ()
  | positional items => if items.length ≤ count then .ok () else .error .leftOver

end Record

/-! ## Single values -/

def string (what : String) : Value → Except DecodeFault String
  | .string s => .ok s
  | _ => .error (.wrongType what)

def boolean (what : String) : Value → Except DecodeFault Bool
  | .boolean b => .ok b
  | _ => .error (.wrongType what)

/-- An unsigned number of 64 bits. -/
def word (what : String) : Value → Except DecodeFault Nat
  | .integer n => if 0 ≤ n ∧ n < (Text.wordLimit : Int) then .ok n.toNat else .error (.wrongType what)
  | _ => .error (.wrongType what)

def list {α : Type} (what : String) (decode : Value → Except DecodeFault α) :
    Value → Except DecodeFault (List α)
  | .array items => items.mapM decode
  | _ => .error (.wrongType what)

/-- The tag of a record, and its other fields. -/
def tagged (tag : String) (v : Value) : Except DecodeFault (String × Record) :=
  match v with
  | .table entries =>
    match entries.lookup tag with
    | some v => do .ok (← string tag v, .named (entries.filter fun e => e.1 ≠ tag))
    | none => .error (.missingField tag)
  | .array (v :: items) => do .ok (← string tag v, .positional items)
  | .array [] => .error (.missingField tag)
  | .dateTime _ => .error (.missingField tag)
  | _ => .error (.wrongType tag)

/-! ## Declarations -/

def guard (v : Value) : Except DecodeFault Guard := do
  let (tag, r) ← tagged "type" v
  match tag with
  | "less-than" => do
    r.ends 1
    pure (.lessThan (← r.required 0 "value" (word "value")))
  | "one-of" => do
    r.ends 1
    pure (.oneOf (← r.required 0 "values" (list "values" (string "values"))))
  | other => throw (.unknownVariant other)

/-- The name of a scope, as text or as the only key of an empty table. -/
def scopeName : Value → Except DecodeFault String
  | .string s => .ok s
  | .table [(s, .table [])] => .ok s
  | _ => .error (.wrongType "scope")

def scope (v : Value) : Except DecodeFault FlagScope := do
  match ← scopeName v with
  | "entry" => pure .entry
  | "keyed-object" => pure .keyedObject
  | "object" => pure .object
  | other => throw (.unknownVariant other)

def rule (v : Value) : Except DecodeFault RuleDefinition := do
  let (tag, r) ← tagged "kind" v
  match tag with
  | "value" => do
    r.ends 6
    pure (.value
      (← r.required 0 "name" (string "name"))
      (← r.required 1 "primary" (string "primary"))
      (← r.optional 2 "fallbacks" [] (list "fallbacks" (string "fallbacks")))
      (← r.required 3 "replacement" (string "replacement"))
      (← r.optional 4 "guard" none fun v => some <$> guard v)
      (← r.optional 5 "case_insensitive" false (boolean "case_insensitive")))
  | "flag" => do
    r.ends 6
    pure (.flag
      (← r.required 0 "name" (string "name"))
      (← r.required 1 "marker" (string "marker"))
      (← r.required 2 "key" (string "key"))
      (← r.required 3 "from" (boolean "from"))
      (← r.required 4 "to" (boolean "to"))
      (← r.optional 5 "scope" .entry scope))
  | other => throw (.unknownVariant other)

def ruleSet (v : Value) : Except DecodeFault RuleSetDefinition := do
  let r ← Record.ofValue "rule_sets" v
  pure ⟨← r.required 0 "name" (string "name"), ← r.optional 1 "rules" [] (list "rules" rule)⟩

def metadata (v : Value) : Except DecodeFault Metadata := do
  let r ← Record.ofValue "meta" v
  let text (what : String) (v : Value) : Except DecodeFault (Option String) := some <$> string what v
  pure ⟨← r.optional 0 "name" "" (string "name"),
    ← r.optional 1 "description" none (text "description"),
    ← r.optional 2 "version_range" none (text "version_range")⟩

end Decode

namespace RuleTable

/-- The table that the entries of a document declare. -/
def ofEntries (entries : List (String × Toml.Value)) : Except DecodeFault RuleTable := do
  let r := Decode.Record.named entries
  pure ⟨← r.optional 0 "meta" default Decode.metadata,
    ← r.optional 1 "rule_sets" [] (Decode.list "rule_sets" Decode.ruleSet)⟩

end RuleTable
end LiteralPatch
