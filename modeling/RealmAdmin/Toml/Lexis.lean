/-
RealmAdmin.Toml.Lexis — the characters between the values of a TOML text.

Blanks are spaces and tabs, a line ends in a line feed, perhaps after a
carriage return, and a comment runs from `#` to the end of its line. Control
characters other than the tab are nowhere allowed.
-/

namespace RealmAdmin.Toml

/-- What a reader takes off the front of a text, and the rest; none where
the text does not go on as it has to. -/
abbrev Reader (α : Type) := List Char → Option (α × List Char)

/-- Put a character before the text that was read. -/
def prepend (c : Char) : Option (List Char × List Char) → Option (List Char × List Char) :=
  Option.map fun r => (c :: r.1, r.2)

def isBlank (c : Char) : Bool := c == ' ' || c == '\t'

/-- Whether a character may stand in a comment or in quotes: the tab, and
every character that is no control. -/
def isPlain (c : Char) : Bool := c == '\t' || (' ' ≤ c && c != '\x7f')

def skipBlanks (cs : List Char) : List Char := cs.dropWhile isBlank

/-- The text after one line break. -/
def newline? : List Char → Option (List Char)
  | '\n' :: rest => some rest
  | '\x0d' :: '\n' :: rest => some rest
  | _ => none

def skipComment : List Char → List Char
  | '#' :: rest => rest.dropWhile isPlain
  | cs => cs

/-- The text after the end of a line: blanks, a comment, and a line break or
the end of the text. -/
def lineEnd? (cs : List Char) : Option (List Char) :=
  match skipComment (skipBlanks cs) with
  | [] => some []
  | rest => newline? rest

/-- Skip blanks, line breaks and comments, as between the items of an array;
`inComment` says that the text starts inside a comment. -/
def skipGaps (inComment : Bool) : List Char → List Char
  | [] => []
  | '\x0d' :: '\n' :: rest => skipGaps false rest
  | '\n' :: rest => skipGaps false rest
  | c :: rest =>
    if inComment then if isPlain c then skipGaps true rest else c :: rest
    else if isBlank c then skipGaps false rest
    else if c = '#' then skipGaps true rest
    else c :: rest

end RealmAdmin.Toml
