/-
RealmAdmin.Password.Generator — random passwords from weighted classes.

Randomness is an explicit sequence of numbers, from which each choice takes
the next one. A password is made by drawing each class's bytes in turn and
then putting every byte at a chosen place among the ones after it, which
reaches every order of the bytes.
-/
import RealmAdmin.Password.Class

namespace RealmAdmin

/-! ## Randomness -/

/-- A sequence of random numbers, and how many of them are used up. -/
structure Entropy where
  number : Nat → Nat
  used : Nat := 0

namespace Entropy

/-- Choose a number below the bound, which is not zero. -/
def below (e : Entropy) (bound : Nat) : Nat := e.number e.used % bound

/-- The sequence after one choice. -/
def next (e : Entropy) : Entropy := { e with used := e.used + 1 }

end Entropy

/-! ## Drawing and mixing -/

/-- Draw so many bytes from a charset, and say what is left of the sequence. -/
def drawBytes (charset : List UInt8) (h : charset ≠ []) : Nat → Entropy → List UInt8 × Entropy
  | 0, e => ([], e)
  | n + 1, e =>
    let i := e.below charset.length
    have hi : i < charset.length := Nat.mod_lt _ (List.length_pos_iff.mpr h)
    let (rest, e) := drawBytes charset h n e.next
    (charset[i] :: rest, e)

/-- The bytes of one class. -/
def CharacterClass.draw (c : CharacterClass) (e : Entropy) : List UInt8 × Entropy :=
  if h : 0 < c.frequency then drawBytes c.charset (c.drawable h) c.frequency.toNat e else ([], e)

/-- The bytes of several classes, one class after another. -/
def drawClasses : List CharacterClass → Entropy → List UInt8 × Entropy
  | [], e => ([], e)
  | c :: rest, e =>
    let (bytes, e) := c.draw e
    let (more, e) := drawClasses rest e
    (bytes ++ more, e)

/-- The bytes in an order that the sequence chooses: each is put at a chosen
place among the ones after it. -/
def shuffle : List UInt8 → Entropy → List UInt8 × Entropy
  | [], e => ([], e)
  | b :: rest, e =>
    let (mixed, e) := shuffle rest e
    (mixed.insertIdx (e.below (mixed.length + 1)) b, e.next)

/-! ## Generators -/

/-- A source of passwords. -/
structure PasswordGenerator where
  classes : List CharacterClass

namespace PasswordGenerator

/-- The generator of some classes, of which there has to be one. -/
def make (classes : List CharacterClass) : Except Failure PasswordGenerator :=
  if classes.isEmpty then .error .badClass else .ok ⟨classes⟩

/-- The generator that the settings describe. -/
def ofSettings (settings : List ClassSettings) : Except Failure PasswordGenerator := do
  make (← settings.mapM CharacterClass.make)

/-- How long every password is. -/
def length (g : PasswordGenerator) : Nat := g.classes.foldr (·.frequency.toNat + ·) 0

/-- A password. -/
def generate (g : PasswordGenerator) (e : Entropy) : Secret :=
  let (bytes, e) := drawClasses g.classes e
  ⟨(shuffle bytes e).1⟩

end PasswordGenerator

end RealmAdmin
