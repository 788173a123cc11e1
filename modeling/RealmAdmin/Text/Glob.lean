/-
RealmAdmin.Text.Glob — patterns that whole texts match.

In a pattern, `*` stands for any run of characters and `?` for any single
one; neither stands for a line feed. Every other character stands for
itself.

The pattern is worked through from its end. For each part of it there is a
row that says, for each end of the text, longest first, whether that end
matches the part; a character of the pattern makes the row before it out of
the row after it.
-/

namespace RealmAdmin.Text

/-! ## Matching -/

/-- Whether a wildcard may stand for the character. -/
def isWild (c : Char) : Bool := c != '\n'

/-- The row of a part that starts with one character, which is accepted or
not; the text's empty end has none. -/
def singleRow (accepts : Char → Bool) : List Char → List Bool → List Bool
  | c :: cs, _ :: row => (accepts c && row.headD false) :: singleRow accepts cs row
  | _, _ => [false]

/-- The row of a part that starts with a run: either the run is empty, or it
takes the next character and goes on. -/
def runRow : List Char → List Bool → List Bool
  | c :: cs, here :: row =>
    let later := runRow cs row
    (here || isWild c && later.headD false) :: later
  | _, row => row

/-- The row of a pattern: which ends of the text match it. -/
def globRow (text : List Char) : List Char → List Bool
  | [] => text.map (fun _ => false) ++ [true]
  | c :: pattern =>
    let row := globRow text pattern
    if c = '*' then runRow text row
    else if c = '?' then singleRow isWild text row
    else singleRow (· == c) text row

/-- Whether the text as a whole matches the pattern. -/
def globMatches (pattern text : String) : Bool :=
  (globRow text.toList pattern.toList).headD false

end RealmAdmin.Text
