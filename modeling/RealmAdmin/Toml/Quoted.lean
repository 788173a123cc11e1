/-
RealmAdmin.Toml.Quoted — quoted text in a TOML document.

There are four forms: double quotes with escapes and single quotes without,
each on one line or, with the quote written three times, on several. In the
forms of several lines a line break right after the opening quotes does not
count, and every line break is a line feed.
-/
import RealmAdmin.Toml.Lexis

namespace RealmAdmin.Toml

/-! ## Escapes -/

/-- The value of a digit in base sixteen. -/
def hexValue? (c : Char) : Option Nat :=
  if '0' ≤ c && c ≤ '9' then some (c.toNat - '0'.toNat)
  else if 'a' ≤ c && c ≤ 'f' then some (c.toNat - 'a'.toNat + 10)
  else if 'A' ≤ c && c ≤ 'F' then some (c.toNat - 'A'.toNat + 10)
  else none

/-- The character whose code point the digits write. -/
def codePoint? (digits : List Char) : Option Char := do
  let code := (← digits.mapM hexValue?).foldl (fun n d => n * 16 + d) 0
  if Nat.isValidChar code then some (Char.ofNat code) else none

/-- The character that a letter or sign after a backslash stands for. -/
def escaped? : Char → Option Char
  | 'b' => some '\x08'
  | 't' => some '\t'
  | 'n' => some '\n'
  | 'f' => some '\x0c'
  | 'r' => some '\x0d'
  | '"' => some '"'
  | '\\' => some '\\'
  | _ => none

/-! ## On one line -/

/-- The text up to the closing double quote, and what follows it. -/
def basicText : Reader (List Char)
  | [] => none
  | '"' :: rest => some ([], rest)
  | '\\' :: 'u' :: a :: b :: c :: d :: rest =>
    (codePoint? [a, b, c, d]).bind fun x => prepend x (basicText rest)
  | '\\' :: 'U' :: a :: b :: c :: d :: e :: f :: g :: h :: rest =>
    (codePoint? [a, b, c, d, e, f, g, h]).bind fun x => prepend x (basicText rest)
  | '\\' :: c :: rest => (escaped? c).bind fun x => prepend x (basicText rest)
  | c :: rest => if isPlain c && c != '\\' then prepend c (basicText rest) else none

/-- The text up to the closing single quote, and what follows it. -/
def literalText : Reader (List Char)
  | [] => none
  | '\x27' :: rest => some ([], rest)
  | c :: rest => if isPlain c then prepend c (literalText rest) else none

/-! ## On several lines -/

/-- What three quotes close: up to two more of them belong to the text. -/
def closing (quote : Char) : List Char → List Char × List Char
  | a :: b :: rest =>
    if a = quote then if b = quote then ([a, b], rest) else ([a], b :: rest)
    else ([], a :: b :: rest)
  | [a] => if a = quote then ([a], []) else ([], [a])
  | [] => ([], [])

/-- Whether only blanks stand before the next line break. -/
def lineIsOver (cs : List Char) : Bool := (newline? (skipBlanks cs)).isSome

/-- The text up to three double quotes, and what follows them. A backslash
at the end of a line is dropped with the blanks and line breaks after it;
`skipping` says that they are being dropped. -/
def multiBasicText (skipping : Bool) : Reader (List Char)
  | [] => none
  | '"' :: '"' :: '"' :: rest => some (closing '"' rest)
  | '\\' :: 'u' :: a :: b :: c :: d :: rest =>
    (codePoint? [a, b, c, d]).bind fun x => prepend x (multiBasicText false rest)
  | '\\' :: 'U' :: a :: b :: c :: d :: e :: f :: g :: h :: rest =>
    (codePoint? [a, b, c, d, e, f, g, h]).bind fun x => prepend x (multiBasicText false rest)
  | '\\' :: c :: rest =>
    if lineIsOver (c :: rest) then multiBasicText true (c :: rest)
    else (escaped? c).bind fun x => prepend x (multiBasicText false rest)
  | '\x0d' :: '\n' :: rest =>
    if skipping then multiBasicText true rest else prepend '\n' (multiBasicText false rest)
  | c :: rest =>
    if skipping && (isBlank c || c == '\n') then multiBasicText true rest
    else if c = '\n' || isPlain c && c != '\\' then prepend c (multiBasicText false rest)
    else none

/-- The text up to three single quotes, and what follows them. -/
def multiLiteralText : Reader (List Char)
  | [] => none
  | '\x27' :: '\x27' :: '\x27' :: rest => some (closing '\x27' rest)
  | '\x0d' :: '\n' :: rest => prepend '\n' (multiLiteralText rest)
  | c :: rest =>
    if c = '\n' || isPlain c then prepend c (multiLiteralText rest) else none

/-- The text without a line break at its start. -/
def skipNewline (cs : List Char) : List Char := (newline? cs).getD cs

/-- A quoted text in any of the four forms. -/
def quotedText : Reader (List Char)
  | '"' :: '"' :: '"' :: rest => multiBasicText false (skipNewline rest)
  | '"' :: rest => basicText rest
  | '\x27' :: '\x27' :: '\x27' :: rest => multiLiteralText (skipNewline rest)
  | '\x27' :: rest => literalText rest
  | _ => none

end RealmAdmin.Toml
