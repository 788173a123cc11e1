/-
RealmAdmin.LogFormat — how log lines are written.
-/
import RealmAdmin.Text.Blank

namespace RealmAdmin

inductive LogFormat where
  | json
  | text
  deriving DecidableEq

/-- A character without its capital, among the letters of ASCII. -/
def Text.lowerAscii (c : Char) : Char :=
  if 'A' ≤ c && c ≤ 'Z' then Char.ofNat (c.toNat + 32) else c

/-- The format of that name: `json` in capitals or small letters, with blanks
around it or none. Everything else means plain text. -/
def LogFormat.parse (value : String) : LogFormat :=
  if (Text.trimBlanks value.toList).map Text.lowerAscii = ['j', 's', 'o', 'n'] then .json else .text

end RealmAdmin
