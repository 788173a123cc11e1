/-
RealmAdmin.Text.LowerCase — the lower-case form of a text.

Every character goes to its own lower-case form, except the capital sigma:
at the end of a word it becomes the final sigma. A sigma ends a word when a
cased letter stands before it and none after it, where marks, modifiers and
word-internal points on either side are passed over.
-/
import RealmAdmin.Text.Casing

namespace RealmAdmin.Text

/-- Whether the nearest character that is not passed over has a case. -/
def nextIsCased (cs : List Char) : Bool :=
  match cs.dropWhile isCaseIgnorable with
  | c :: _ => isCased c
  | [] => false

/-- The lower-case form of a text, given the characters that stand before
it, nearest first. -/
def lowerAfter (before : List Char) : List Char → List Char
  | [] => []
  | c :: rest =>
    let form :=
      if c = 'Σ' then
        if nextIsCased before && !nextIsCased rest then ['ς'] else ['σ']
      else lowerChar c
    form ++ lowerAfter (c :: before) rest

/-- The lower-case form of a text. -/
def lowerCase (s : String) : String := String.ofList (lowerAfter [] s.toList)

end RealmAdmin.Text
