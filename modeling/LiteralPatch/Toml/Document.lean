import LiteralPatch.Toml.Value

/-!
# The tree that a document builds

A document is a sequence of headers and assignments.  Each of them may name tables on the way, and what
it may do with a table that is already there depends on how that table came about.  So the tree under
construction remembers the origin of every table (`Origin`):

* `header`: it was opened by a header of its own, and no header opens it again;
* `implicit`: it is on the way of some header, and may still be opened, once;
* `dotted`: it is on the way of a dotted key, and only dotted keys may add to it.

An array of tables is entered through its last element.  Values, inline tables and inline arrays among
them, are finished: nothing is ever added to one.
-/

namespace LiteralPatch
namespace Toml

/-- How a table came about. -/
inductive Origin where
  | header
  | implicit
  | dotted
deriving DecidableEq, Repr

/-- A part of the tree under construction. -/
inductive Node where
  | value (v : Value)
  | table (origin : Origin) (entries : List (String × Node))
  /-- An array of tables, the last one first. -/
  | tables (last : List (String × Node)) (earlier : List (List (String × Node)))
deriving Inhabited

/-- The entries of a table under construction. -/
abbrev Entries := List (String × Node)

namespace Entries

/-- Replaces the entry of a key, or adds one at the end. -/
def put (es : Entries) (key : String) (n : Node) : Entries :=
  match es with
  | [] => [(key, n)]
  | (k, old) :: rest => if k = key then (k, n) :: rest else (k, old) :: put rest key n

/-- Opens the table of a header. -/
def openTable : List String → Entries → Except Fault Entries
  | [], _ => .error .keyMissing
  | [key], es =>
    match es.lookup key with
    | none => .ok (put es key (.table .header []))
    | some (.table .implicit inner) => .ok (put es key (.table .header inner))
    | some _ => .error (.keyDuplicate key)
  | key :: path, es =>
    match es.lookup key with
    | none => do .ok (put es key (.table .implicit (← openTable path [])))
    | some (.table origin inner) => do .ok (put es key (.table origin (← openTable path inner)))
    | some (.tables last earlier) => do .ok (put es key (.tables (← openTable path last) earlier))
    | some (.value _) => .error (.keyNoTable key)

/-- Opens a further table of an array of tables. -/
def openElement : List String → Entries → Except Fault Entries
  | [], _ => .error .keyMissing
  | [key], es =>
    match es.lookup key with
    | none => .ok (put es key (.tables [] []))
    | some (.tables last earlier) => .ok (put es key (.tables [] (last :: earlier)))
    | some _ => .error (.keyDuplicate key)
  | key :: path, es =>
    match es.lookup key with
    | none => do .ok (put es key (.table .implicit (← openElement path [])))
    | some (.table origin inner) => do .ok (put es key (.table origin (← openElement path inner)))
    | some (.tables last earlier) => do .ok (put es key (.tables (← openElement path last) earlier))
    | some (.value _) => .error (.keyNoTable key)

/-- Assigns a value to a dotted key.  `mayAdd` says whether a plain key may be added to this very
table: it may to the table of the last header, and to one that dotted keys have made. -/
def assign (mayAdd : Bool) (v : Value) : List String → Entries → Except Fault Entries
  | [], _ => .error .keyMissing
  | [key], es =>
    if mayAdd && (es.lookup key).isNone then .ok (put es key (.value v))
    else .error (.keyDuplicate key)
  | key :: path, es =>
    match es.lookup key with
    | none => do .ok (put es key (.table .dotted (← assign true v path [])))
    | some (.table .header _) => .error (.keyDuplicate key)
    | some (.table .implicit inner) => do
      .ok (put es key (.table .implicit (← assign false v path inner)))
    | some (.table .dotted inner) => do
      .ok (put es key (.table .dotted (← assign true v path inner)))
    | some (.tables last earlier) => do
      .ok (put es key (.tables (← assign false v path last) earlier))
    | some (.value _) => .error (.keyNoTable key)

/-- Assigns a value to a dotted key in the table of a header. -/
def assignIn (v : Value) (path : List String) : List String → Entries → Except Fault Entries
  | [], es => assign true v path es
  | key :: header, es =>
    match es.lookup key with
    | some (.table origin inner) => do .ok (put es key (.table origin (← assignIn v path header inner)))
    | some (.tables last earlier) => do
      .ok (put es key (.tables (← assignIn v path header last) earlier))
    | _ => .error (.keyNoTable key)

end Entries

mutual

/-- The value of a finished part of the tree. -/
def Node.finish : Node → Value
  | .value v => v
  | .table _ es => .table (finishEntries es)
  | .tables last earlier => .array (finishTables earlier [.table (finishEntries last)])

/-- The entries of a finished table. -/
def finishEntries : List (String × Node) → List (String × Value)
  | [] => []
  | (key, n) :: rest => (key, n.finish) :: finishEntries rest

/-- Tables, the last one first, before those that follow them. -/
def finishTables : List (List (String × Node)) → List Value → List Value
  | [], acc => acc
  | es :: earlier, acc => finishTables earlier (.table (finishEntries es) :: acc)

end

end Toml
end LiteralPatch
