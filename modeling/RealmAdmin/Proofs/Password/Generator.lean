/-
RealmAdmin.Proofs.Password.Generator — how long a generated password is.

Whatever the randomness, a password has as many bytes as the classes of its
generator contribute together (`length_generate`): drawing gives each class
its number of bytes, and mixing loses none.
-/
import RealmAdmin.Password.Generator

namespace RealmAdmin

theorem length_drawBytes {charset : List UInt8} (h : charset ≠ []) : ∀ (n : Nat) (e : Entropy),
    (drawBytes charset h n e).1.length = n
  | 0, _ => rfl
  | n + 1, e => by
    have ih := length_drawBytes h n e.next
    simp only [drawBytes, List.length_cons, ih]

theorem CharacterClass.length_draw (c : CharacterClass) (e : Entropy) :
    (c.draw e).1.length = c.frequency.toNat := by
  unfold draw
  split
  · exact length_drawBytes _ _ e
  · next h =>
    have hzero : c.frequency = 0 := UInt32.not_lt.mp h |> UInt32.le_zero_iff.mp
    simp [hzero]

theorem length_drawClasses : ∀ (classes : List CharacterClass) (e : Entropy),
    (drawClasses classes e).1.length = classes.foldr (·.frequency.toNat + ·) 0
  | [], _ => rfl
  | c :: rest, e => by
    have ih := length_drawClasses rest (c.draw e).2
    simp only [drawClasses, List.length_append, c.length_draw, ih, List.foldr_cons]

/-- Mixing gives the same bytes in another order. -/
theorem perm_shuffle : ∀ (bytes : List UInt8) (e : Entropy), (shuffle bytes e).1.Perm bytes
  | [], _ => .nil
  | b :: rest, e =>
    have hplace : (shuffle rest e).2.below ((shuffle rest e).1.length + 1) ≤
        (shuffle rest e).1.length := Nat.le_of_lt_succ (Nat.mod_lt _ (Nat.succ_pos _))
    (List.perm_insertIdx b _ hplace).trans ((perm_shuffle rest e).cons b)

theorem length_shuffle (bytes : List UInt8) (e : Entropy) :
    (shuffle bytes e).1.length = bytes.length :=
  (perm_shuffle bytes e).length_eq

/-- Every password of a generator has the same length. -/
theorem PasswordGenerator.length_generate (g : PasswordGenerator) (e : Entropy) :
    (g.generate e).bytes.length = g.length := by
  simp only [generate, length_shuffle, length_drawClasses, length]

end RealmAdmin
