/-
RealmAdmin.Toml.Tree — the tables of a TOML document while it is read.

A table comes about in one of three ways: its own header names it, the path
of a header below it implies it, or the dotted key of an assignment makes
it. A table has at most one header, and only dotted keys of the same table
add to the tables that dotted keys made. A header in double brackets adds
one more table to a list, and paths lead into the last table of a list.
-/
import RealmAdmin.Value

namespace RealmAdmin.Toml

/-- How a table came about. -/
inductive Origin where
  | implied
  | dotted
  | header
  deriving DecidableEq

/-- What stands under a key: a value, a table, or a list of tables, the last
one first. -/
inductive Node where
  | value (v : Value)
  | table (origin : Origin) (entries : List (String × Node))
  | tables (newestFirst : List (List (String × Node)))

/-- What a table holds, key by key, in the order of writing. -/
abbrev Entries := List (String × Node)

namespace Entries

/-- The entries with another node under a key that is there. -/
def replace (entries : Entries) (key : String) (node : Node) : Entries :=
  entries.map fun e => if e.1 = key then (key, node) else e

/-- The entries with a node under a new key. -/
def add (entries : Entries) (key : String) (node : Node) : Entries := entries ++ [(key, node)]

/-- Change the table at the end of a path; tables on the way that are not
there come about. A dotted path does not lead through a table that has a
header. -/
def change (isDotted : Bool) (f : Origin → Entries → Option Entries) :
    List String → Origin → Entries → Option Entries
  | [], origin, entries => f origin entries
  | key :: path, _, entries =>
    match entries.lookup key with
    | none => do
      let origin := if isDotted then .dotted else .implied
      return entries.add key (.table origin (← change isDotted f path origin []))
    | some (.table origin inner) =>
      if isDotted ∧ origin = .header then none
      else do return entries.replace key (.table origin (← change isDotted f path origin inner))
    | some (.tables (newest :: older)) => do
      return entries.replace key (.tables ((← change isDotted f path .header newest) :: older))
    | some (.tables []) | some (.value _) => none

/-- Put a value under a new key at the end of a dotted path. The table there
was made by the dotted path, or is the one that the path starts from. -/
def assign (path : List String) (key : String) (v : Value) : Origin → Entries → Option Entries :=
  change true (fun origin entries =>
    if origin = .dotted ↔ path = [] then none
    else if (entries.lookup key).isSome then none
    else some (entries.add key (.value v))) path

/-- Give the table under a key its header. -/
def openTable (path : List String) (key : String) : Entries → Option Entries :=
  change false (fun _ entries =>
    match entries.lookup key with
    | none => some (entries.add key (.table .header []))
    | some (.table .implied inner) => some (entries.replace key (.table .header inner))
    | some _ => none) path .header

/-- Add a table to the list under a key. -/
def openElement (path : List String) (key : String) : Entries → Option Entries :=
  change false (fun _ entries =>
    match entries.lookup key with
    | none => some (entries.add key (.tables [[]]))
    | some (.tables items) => some (entries.replace key (.tables ([] :: items)))
    | some _ => none) path .header

end Entries

/-! ## The finished tree -/

mutual

/-- The value that a node has become. -/
def Node.toValue : Node → Value
  | .value v => v
  | .table _ entries => .table (entryValues entries)
  | .tables newestFirst => .list (tableValues newestFirst).reverse

/-- The members of a table. -/
def entryValues : List (String × Node) → List (String × Value)
  | [] => []
  | (key, node) :: rest => (key, node.toValue) :: entryValues rest

/-- The tables of a list, in the list's order. -/
def tableValues : List (List (String × Node)) → List Value
  | [] => []
  | entries :: rest => .table (entryValues entries) :: tableValues rest

end

end RealmAdmin.Toml
