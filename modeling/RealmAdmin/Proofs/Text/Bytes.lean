/-
RealmAdmin.Proofs.Text.Bytes — texts are in the order of their bytes.

Maps list their keys by the code points of their characters. Readers of a listing see
bytes, and `bytes_lt` says that they see the same order: the form of a character
(`Encoded`) puts the digits of its code in order, the highest first, and a longer form
starts with a larger byte than a shorter one.
-/
import RealmAdmin.Secret

namespace RealmAdmin.Text

open String (utf8EncodeChar)

/-! ## One character -/

/-- The bytes of a code. The first one marks how many there are and holds the highest
digit of the code; each further one holds a digit to the base 64. -/
inductive Encoded (v : Nat) : List UInt8 → Prop
  | one (hv : v < 0x80) : Encoded v [.ofNat v]
  | two {a b : Nat} (hv : v = a * 64 + b) (hlow : 0x80 ≤ v) (ha : a < 0x20) (hb : b < 64) :
    Encoded v [.ofNat (a + 0xc0), .ofNat (b + 0x80)]
  | three {a b c : Nat} (hv : v = (a * 64 + b) * 64 + c) (hlow : 0x800 ≤ v) (ha : a < 0x10)
    (hb : b < 64) (hc : c < 64) :
    Encoded v [.ofNat (a + 0xe0), .ofNat (b + 0x80), .ofNat (c + 0x80)]
  | four {a b c d : Nat} (hv : v = ((a * 64 + b) * 64 + c) * 64 + d) (hlow : 0x10000 ≤ v)
    (ha : a < 0x8) (hb : b < 64) (hc : c < 64) (hd : d < 64) :
    Encoded v [.ofNat (a + 0xf0), .ofNat (b + 0x80), .ofNat (c + 0x80), .ofNat (d + 0x80)]

theorem encoded_utf8EncodeChar (c : Char) : Encoded c.val.toNat (utf8EncodeChar c) := by
  have hvalid : c.val.toNat < 0xd800 ∨ 0xdfff < c.val.toNat ∧ c.val.toNat < 0x110000 := c.valid
  unfold utf8EncodeChar
  generalize c.val.toNat = v at hvalid ⊢
  dsimp only
  split
  · exact .one (by omega)
  split
  · exact .two (by omega) (by omega) (by omega) (by omega)
  split
  · exact .three (by omega) (by omega) (by omega) (by omega) (by omega)
  · exact .four (by omega) (by omega) (by omega) (by omega) (by omega) (by omega)

/-- Of two codes, the bytes of the smaller one come first, whatever follows them. -/
theorem Encoded.append_lt {v w : Nat} {xs ys : List UInt8} (hx : Encoded v xs) (hy : Encoded w ys)
    (h : v < w) (x y : List UInt8) : xs ++ x < ys ++ y := by
  -- the forms of a larger code are no shorter, so half of the cases are void
  cases hx <;> cases hy <;>
  first
  | omega
  | simp only [List.cons_append, List.nil_append, List.cons_lt_cons_iff, UInt8.lt_iff_toNat_lt,
      ← UInt8.toNat_inj, UInt8.toNat_ofNat']
    omega

/-! ## Texts -/

theorem bytes_eq_flatMap (s : String) : bytes s = s.toList.flatMap utf8EncodeChar := by
  rw [bytes, String.toUTF8_eq_toByteArray, ← String.utf8Encode_toList, List.utf8Encode,
    List.toList_data_toByteArray]

theorem flatMap_utf8EncodeChar_lt {x y : List Char} (h : x < y) :
    x.flatMap utf8EncodeChar < y.flatMap utf8EncodeChar := by
  induction h with
  | @nil d y =>
    obtain ⟨b, rest, hd⟩ := List.exists_cons_of_ne_nil (String.utf8EncodeChar_ne_nil (c := d))
    rw [List.flatMap_cons, hd]
    exact .nil
  | cons _ ih => exact List.append_left_lt ih
  | rel hlt => exact (encoded_utf8EncodeChar _).append_lt (encoded_utf8EncodeChar _) hlt _ _

/-- **The order of texts** is that of their bytes. -/
theorem bytes_lt {s t : String} (h : s < t) : bytes s < bytes t := by
  rw [bytes_eq_flatMap, bytes_eq_flatMap]
  exact flatMap_utf8EncodeChar_lt h

end RealmAdmin.Text
