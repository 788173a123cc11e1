/-
RealmAdmin.Text.CodeRange — classes of characters given as ranges of code
points.

A class is a list of ranges in ascending order, both ends included.
-/

namespace RealmAdmin.Text

/-- Whether some range of the list, ends included, holds the character. -/
def inRanges (ranges : List (Nat × Nat)) (c : Char) : Bool :=
  ranges.any fun r => r.1 ≤ c.toNat && c.toNat ≤ r.2

end RealmAdmin.Text
