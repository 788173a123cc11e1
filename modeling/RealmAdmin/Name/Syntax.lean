/-
RealmAdmin.Name.Syntax — names as text, read and written.

In a name's text, `/` separates components and `@` starts the realm. A
backslash takes away the meaning of the character after it; with `n`, `t`,
`b` and `0` it stands for a line feed, a tab, a backspace and a NUL. After
the `@`, neither separator may occur unescaped.

`Name.text` writes a name with its realm. It escapes the backslash, the four
controls and the separators, but leaves a `/` in the realm as it is.
-/
import RealmAdmin.Name

namespace RealmAdmin.Name

/-! ## Reading -/

/-- The character that an escaped one stands for. -/
def unescape : Char → Char
  | 'n' => '\n'
  | 't' => '\t'
  | 'b' => '\x08'
  | '0' => '\x00'
  | c => c

/-- A name's text taken apart: its components, of which there is at least
one, and the realm where the text gives one. -/
structure Pieces where
  first : List Char
  others : List (List Char)
  realm : Option (List Char)
  deriving DecidableEq

/-- The pieces with a character put before the first component. -/
def Pieces.push (c : Char) (p : Pieces) : Pieces := { p with first := c :: p.first }

/-- The pieces with an empty component put before the first one. -/
def Pieces.cut (p : Pieces) : Pieces := { p with first := [], others := p.first :: p.others }

/-- The realm in the text after the `@`. -/
def readRealm : List Char → Option (List Char)
  | [] => some []
  | '\\' :: c :: rest => (readRealm rest).map (unescape c :: ·)
  | c :: rest =>
    if c = '\\' ∨ c = '/' ∨ c = '@' then none else (readRealm rest).map (c :: ·)

/-- The pieces of a name's text. -/
def readPieces : List Char → Option Pieces
  | [] => some ⟨[], [], none⟩
  | '\\' :: c :: rest => (readPieces rest).map (.push (unescape c))
  | c :: rest =>
    if c = '\\' then none
    else if c = '/' then (readPieces rest).map .cut
    else if c = '@' then (readRealm rest).map fun realm => ⟨[], [], some realm⟩
    else (readPieces rest).map (.push c)

/-- The name that the pieces make, in the default realm if they have none. -/
def ofPieces (p : Pieces) (defaultRealm : String) : Except Failure Name :=
  make ((p.first :: p.others).map String.ofList) ((p.realm.map String.ofList).getD defaultRealm)

/-- Read a name; without a realm in the text, the default realm is its realm. -/
def parse (text : String) (defaultRealm : String) : Except Failure Name :=
  match readPieces text.toList with
  | some pieces => ofPieces pieces defaultRealm
  | none => .error .malformedName

/-! ## Writing -/

/-- A character as a component shows it. -/
def escapeComponentChar (c : Char) : List Char :=
  if c = '/' then ['\\', '/']
  else if c = '@' then ['\\', '@']
  else if c = '\\' then ['\\', '\\']
  else if c = '\n' then ['\\', 'n']
  else if c = '\t' then ['\\', 't']
  else if c = '\x08' then ['\\', 'b']
  else if c = '\x00' then ['\\', '0']
  else [c]

/-- A character as the realm shows it: as in a component, but a `/` stands
for itself. -/
def escapeRealmChar (c : Char) : List Char :=
  if c = '/' then ['/'] else escapeComponentChar c

/-- The components as text, with `/` between them. -/
def writeComponents : List (List Char) → List Char
  | [] => []
  | [c] => c.flatMap escapeComponentChar
  | c :: rest => c.flatMap escapeComponentChar ++ '/' :: writeComponents rest

/-- The components of a name as text, without its realm. -/
def componentText (n : Name) : List Char := writeComponents (n.components.map String.toList)

/-- A name as text, with its realm. -/
def text (n : Name) : String :=
  String.ofList (n.componentText ++ '@' :: n.realm.toList.flatMap escapeRealmChar)

end RealmAdmin.Name
