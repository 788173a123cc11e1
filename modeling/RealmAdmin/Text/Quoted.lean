/-
RealmAdmin.Text.Quoted — the quoted form of a text, for descriptions.

The text stands between double quotes. A quote and a backslash are preceded
by a backslash, four controls have a letter or digit after the backslash,
and every other character without a glyph of its own is written by number
in braces.
-/
import RealmAdmin.Text.Unshown

namespace RealmAdmin.Text

/-- The digits of a number in base sixteen, small letters, no leading zero. -/
def hexDigits (n : Nat) : List Char := Nat.toDigits 16 n

/-- How one character is written between the quotes. -/
def quoteChar (c : Char) : List Char :=
  if c = '\x00' then ['\\', '0']
  else if c = '\t' then ['\\', 't']
  else if c = '\n' then ['\\', 'n']
  else if c = '\r' then ['\\', 'r']
  else if c = '\\' then ['\\', '\\']
  else if c = '"' then ['\\', '"']
  else if isUnshown c then ['\\', 'u', '\x7b'] ++ hexDigits c.toNat ++ ['\x7d']
  else [c]

/-- The quoted form of a text. -/
def quoted (s : String) : String :=
  String.ofList ('"' :: s.toList.flatMap quoteChar ++ ['"'])

end RealmAdmin.Text
