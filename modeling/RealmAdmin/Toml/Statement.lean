/-
RealmAdmin.Toml.Statement — the lines of a TOML document.

A line holds a header or an assignment, and the value of an assignment may
go on over further lines. A path of keys has fewer than eighty of them, and
values nest less than eighty deep.
-/
import RealmAdmin.Toml.Scalar
import RealmAdmin.Toml.Tree

namespace RealmAdmin.Toml

/-- A path of keys: the keys before the last one, and the last one. -/
structure Path where
  parents : List String
  last : String

/-- A statement of a document. -/
inductive Statement where
  | table (path : Path)
  | element (path : Path)
  | assignment (path : Path) (v : Value)

/-- How deep paths and values may go. -/
def depthLimit : Nat := 79

/-! ## Keys -/

/-- Whether a character may stand in a key without quotes. -/
def isBareKey (c : Char) : Bool := c.isAlphanum || c == '_' || c == '-'

/-- One key, quoted or bare. -/
def key : Reader String
  | '"' :: rest => (basicText rest).map fun r => (String.ofList r.1, r.2)
  | '\x27' :: rest => (literalText rest).map fun r => (String.ofList r.1, r.2)
  | cs =>
    let bare := cs.takeWhile isBareKey
    if bare.isEmpty then none else some (String.ofList bare, cs.dropWhile isBareKey)

/-- A path of at most so many keys with points between them. -/
def path : Nat → Reader Path
  | 0, _ => none
  | n + 1, cs => do
    let (first, rest) ← key (skipBlanks cs)
    match skipBlanks rest with
    | '.' :: rest =>
      let (others, rest) ← path n rest
      return (⟨first :: others.parents, others.last⟩, rest)
    | rest => return (⟨[], first⟩, rest)

/-! ## Values -/

/-- A path, a value after the equals sign, and the blanks around it. -/
def assignment (item : Reader Value) : Reader (Path × Value) := fun cs => do
  let (path, rest) ← path depthLimit cs
  let (v, rest) ← item (skipBlanks (← skip? ['='] rest))
  return ((path, v), skipBlanks rest)

/-- The items of an array up to its closing bracket, at most so many. -/
def items (item : Reader Value) : Nat → Reader (List Value)
  | 0, _ => none
  | n + 1, cs =>
    match skipGaps false cs with
    | ']' :: rest => some ([], rest)
    | cs => do
      let (v, rest) ← item cs
      match skipGaps false rest with
      | ',' :: rest => (items item n rest).map fun r => (v :: r.1, r.2)
      | ']' :: rest => return ([v], rest)
      | _ => none

/-- The assignments of an inline table up to its closing brace, of which
there is at least one, and at most so many. -/
def members (item : Reader Value) : Nat → Reader (List (Path × Value))
  | 0, _ => none
  | n + 1, cs => do
    let (first, rest) ← assignment item cs
    match rest with
    | ',' :: rest => (members item n rest).map fun r => (first :: r.1, r.2)
    | '\x7d' :: rest => return ([first], rest)
    | _ => none

/-- The inline table that some assignments make. -/
def inlineTable (assignments : List (Path × Value)) : Option Value := do
  let entries ← assignments.foldlM (fun (entries : Entries) a =>
    Entries.assign a.1.parents a.1.last a.2 .header entries) []
  return .table (entryValues entries)

/-- A value that holds others down to a depth. -/
def value : Nat → Reader Value
  | depth + 1, '[' :: rest =>
    (items (value depth) (rest.length + 1) rest).map fun r => (.list r.1, r.2)
  | depth + 1, '\x7b' :: rest =>
    match skipBlanks rest with
    | '\x7d' :: rest => some (.table [], rest)
    | rest => do
      let (assignments, rest) ← members (value depth) (rest.length + 1) rest
      return (← inlineTable assignments, rest)
  | _, cs => scalar cs

/-! ## Statements -/

/-- A statement, and the text after its line. -/
def statement : Reader Statement
  | '[' :: '[' :: rest => do
    let (path, rest) ← path depthLimit rest
    return (.element path, ← lineEnd? (← skip? [']', ']'] rest))
  | '[' :: rest => do
    let (path, rest) ← path depthLimit rest
    return (.table path, ← lineEnd? (← skip? [']'] rest))
  | cs => do
    let ((path, v), rest) ← assignment (value depthLimit) cs
    return (.assignment path v, ← lineEnd? rest)

end RealmAdmin.Toml
