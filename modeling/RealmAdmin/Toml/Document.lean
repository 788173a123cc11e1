/-
RealmAdmin.Toml.Document — a whole TOML document.

A document is a table. Its assignments stand in the table of the last header
before them, or in the document's own table before the first header; so the
statements are carried out one after another on a growing tree.
-/
import RealmAdmin.Toml.Statement

namespace RealmAdmin.Toml

/-- The statements of a text, at most so many. Lines without one are passed
over. -/
def statements : Nat → List Char → Option (List Statement)
  | 0, _ => none
  | n + 1, cs =>
    match skipBlanks cs with
    | [] => some []
    | c :: rest =>
      match if c = '#' then lineEnd? (c :: rest) else newline? (c :: rest) with
      | some rest => statements n rest
      | none => do
        let (first, rest) ← statement (c :: rest)
        return first :: (← statements n rest)

/-- A document under construction: its entries, and the path of the table
that assignments go to. -/
structure Draft where
  entries : Entries := []
  current : List String := []

/-- Carry out one statement. -/
def Draft.apply (d : Draft) : Statement → Option Draft
  | .table p => do return ⟨← d.entries.openTable p.parents p.last, p.parents ++ [p.last]⟩
  | .element p => do return ⟨← d.entries.openElement p.parents p.last, p.parents ++ [p.last]⟩
  | .assignment p v => do
    let entries ← Entries.change false (Entries.assign p.parents p.last v) d.current .header d.entries
    return { d with entries }

/-- The text without a byte order mark at its start. -/
def skipMark : List Char → List Char
  | '\ufeff' :: rest => rest
  | cs => cs

/-- The table that a document describes. -/
def parse (text : String) : Option Value := do
  let cs := skipMark text.toList
  let draft ← (← statements (cs.length + 1) cs).foldlM Draft.apply {}
  return .table (entryValues draft.entries)

end RealmAdmin.Toml
