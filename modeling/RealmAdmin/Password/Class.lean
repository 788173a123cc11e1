/-
RealmAdmin.Password.Class — the character classes of generated passwords.

A class says how many bytes of a password come from a set of characters. A
class that contributes bytes has something to draw them from, and all its
characters are ASCII, so that a character is a byte.
-/
import RealmAdmin.Failure
import RealmAdmin.Secret

namespace RealmAdmin

/-- A class as settings give it, unchecked. -/
structure ClassSettings where
  charset : String
  frequency : UInt32
  deriving DecidableEq

namespace ClassSettings

def isAscii (c : ClassSettings) : Bool := c.charset.toList.all (·.toNat < 128)

/-- The classes of a password when the settings say nothing: seven small
letters, two capitals, and one digit or other sign. -/
def defaults : List ClassSettings := [
  ⟨"abcdefghijklmnopqrstuvwxyz", 7⟩,
  ⟨"ABCDEFGHIJKLMNOPQRSTUVWXYZ", 2⟩,
  ⟨"@$%&*()-+=:,/<>1234567890", 1⟩]

end ClassSettings

/-- A class whose bytes can be drawn. -/
structure CharacterClass where
  charset : List UInt8
  frequency : UInt32
  drawable : 0 < frequency → charset ≠ []

namespace CharacterClass

/-- The class that the settings describe, if it can be drawn from. -/
def make (settings : ClassSettings) : Except Failure CharacterClass :=
  if !settings.isAscii then .error .badClass
  else
    let charset := Text.bytes settings.charset
    if h : 0 < settings.frequency → charset ≠ [] then .ok ⟨charset, settings.frequency, h⟩
    else .error .badClass

end CharacterClass

end RealmAdmin
