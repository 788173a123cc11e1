/-
RealmAdmin.Text.Inspect — how values are described for a reader.

A structure is written with its name and its members in braces, and ends in
two dots when it keeps members to itself; a set stands in braces, a list in
brackets, an optional value is `Some(…)` or `None`.
-/
import RealmAdmin.Text.Quoted

namespace RealmAdmin.Text

/-- The items, separated by commas, between two marks. -/
def enclose (opening closing : String) (items : List String) : String :=
  opening ++ ", ".intercalate items ++ closing

def inspectSet (items : List String) : String := enclose "\x7b" "\x7d" items

def inspectList (items : List String) : String := enclose "[" "]" items

def inspectOption : Option String → String
  | some item => "Some(" ++ item ++ ")"
  | none => "None"

def inspectBool (b : Bool) : String := if b then "true" else "false"

/-- A structure with the described members; `isOpen` says that it has others
that are not shown. -/
def inspectStruct (name : String) (members : List (String × String)) (isOpen : Bool) : String :=
  let shown := members.map fun m => m.1 ++ ": " ++ m.2
  enclose (name ++ " \x7b ") " \x7d" (if isOpen then shown ++ [".."] else shown)

end RealmAdmin.Text
