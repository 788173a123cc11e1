/-
RealmAdmin.Proofs.Text.Numeral — which texts are numbers, and whose.

`Writes` says by its digits which number a row of characters is in decimal. What is
read of a row is that number, or nothing if it is no number (`readNatural_eq_some`); and
every number is read back from the text that shows it. `WritesPort` and
`readPort?_eq_some` say the same of ports.
-/
import Mathlib.Data.Nat.Digits.Defs
import RealmAdmin.Text.Numeral

namespace RealmAdmin.Text

/-! ## Digits -/

theorem isDigit_iff {c : Char} : isDigit c = true ↔ 48 ≤ c.toNat ∧ c.toNat ≤ 57 := by
  rw [isDigit, Bool.and_eq_true, decide_eq_true_iff, decide_eq_true_iff]
  rfl

theorem isDigit_digitChar {d : Nat} (h : d < 10) : isDigit d.digitChar = true := by
  rw [isDigit_iff, Nat.toNat_digitChar_of_lt_ten h]
  omega

theorem digitValue_digitChar {d : Nat} (h : d < 10) : digitValue d.digitChar = d :=
  Nat.toNat_digitChar_sub_48_of_lt_ten h

theorem digitValue_lt {c : Char} (h : isDigit c = true) : digitValue c < 10 := by
  obtain ⟨hlow, hhigh⟩ := isDigit_iff.mp h
  have hzero : '0'.toNat = 48 := rfl
  rw [digitValue, hzero]
  omega

/-- A digit is the character of its value. -/
theorem digitChar_digitValue {c : Char} (h : isDigit c = true) : (digitValue c).digitChar = c := by
  obtain ⟨hlow, hhigh⟩ := isDigit_iff.mp h
  have hvalue := digitValue_lt h
  have hsame : (digitValue c).digitChar.toNat = c.toNat := by
    have hzero : '0'.toNat = 48 := rfl
    rw [Nat.toNat_digitChar_of_lt_ten hvalue, digitValue, hzero]
    omega
  exact Char.toNat_inj.mp hsame

theorem ofDigits_eq (base : Nat) (digits : List Nat) :
    ofDigits base digits = Nat.ofDigits base digits.reverse := by
  rw [Nat.ofDigits_eq_foldr, List.foldr_reverse, ofDigits]
  congr 1
  funext n d
  rw [Nat.mul_comm, Nat.add_comm]
  rfl

/-! ## Numbers -/

/-- Whether a row of characters is a number in decimal: it is made of the digits of that
number, the most significant one first, perhaps with zeros before it. -/
def Writes (cs : List Char) (n : Nat) : Prop :=
  ∃ digits : List Nat, digits ≠ [] ∧ (∀ d ∈ digits, d < 10) ∧ cs = digits.map Nat.digitChar ∧
    Nat.ofDigits 10 digits.reverse = n

/-- What is read is the number that is written. -/
theorem readNatural_eq_some {cs : List Char} {n : Nat} :
    readNatural cs = some n ↔ Writes cs n := by
  constructor
  · intro h
    unfold readNatural at h
    split at h
    · cases h
    · next hdigits =>
      obtain ⟨hne, hall⟩ : cs ≠ [] ∧ ∀ c ∈ cs, isDigit c = true := by simpa using hdigits
      refine ⟨cs.map digitValue, by simpa using hne, ?_, ?_, ?_⟩
      · simpa using fun c hc => digitValue_lt (hall c hc)
      · rw [List.map_map]
        exact ((List.map_congr_left fun c hc => digitChar_digitValue (hall c hc)).trans
          (List.map_id' cs)).symm
      · rw [← ofDigits_eq]
        exact Option.some.inj h
  · rintro ⟨digits, hne, hlt, rfl, rfl⟩
    have hall : (digits.map Nat.digitChar).all isDigit = true := by
      simpa using fun d hd => isDigit_digitChar (hlt d hd)
    have hvalues : (digits.map Nat.digitChar).map digitValue = digits := by
      rw [List.map_map]
      exact (List.map_congr_left fun d hd => digitValue_digitChar (hlt d hd)).trans
        (List.map_id' digits)
    rw [readNatural, if_neg (by simp [hne, hall]), hvalues, ofDigits_eq]

theorem Writes.not_mem {cs : List Char} {n : Nat} (h : Writes cs n) {c : Char}
    (hc : isDigit c = false) : c ∉ cs := by
  obtain ⟨digits, -, hlt, rfl, -⟩ := h
  intro hmem
  obtain ⟨d, hd, rfl⟩ := List.mem_map.mp hmem
  rw [isDigit_digitChar (hlt d hd)] at hc
  cases hc

/-- A number is written by the text that shows it. -/
theorem writes_toString (n : Nat) : Writes (toString n).toList n := by
  have hshown : (toString n).toList = Nat.toDigits 10 n := Nat.toList_repr
  have hall : (Nat.toDigits 10 n).all isDigit = true :=
    List.all_eq_true.mpr fun c hc => Nat.isDigit_of_mem_toDigits (by decide) (by decide) hc
  have hvalue : ofDigits 10 ((Nat.toDigits 10 n).map digitValue) = n := by
    rw [ofDigits, List.foldl_map]
    simp only [Nat.mul_comm _ 10]
    exact Nat.ofDigitChars_ten_toDigits
  rw [hshown, ← readNatural_eq_some, readNatural, if_neg (by simp [Nat.toDigits_ne_nil, hall]),
    hvalue]

/-! ## Ports -/

/-- Whether a row of characters is a port in decimal, perhaps after a plus sign. -/
def WritesPort (cs : List Char) (port : UInt16) : Prop :=
  Writes cs port.toNat ∨ ∃ digits, cs = '+' :: digits ∧ Writes digits port.toNat

/-- A number that is not too large is a port. -/
theorem eq_port_iff {n : Nat} {port : UInt16} :
    n < 65536 ∧ UInt16.ofNat n = port ↔ n = port.toNat := by
  constructor
  · rintro ⟨hn, rfl⟩
    exact (UInt16.toNat_ofNat_of_lt' hn).symm
  · rintro rfl
    exact ⟨port.toNat_lt, UInt16.ofNat_toNat⟩

/-- What is read is the port that is written. -/
theorem readPort?_eq_some {s : String} {port : UInt16} :
    readPort? s = some port ↔ WritesPort s.toList port := by
  have hplus (digits : List Char) (n : Nat) : ¬ Writes ('+' :: digits) n := fun h =>
    h.not_mem (by decide) List.mem_cons_self
  unfold readPort? WritesPort
  split <;> simp only [← readNatural_eq_some]
  · next digits htext =>
    have hnone : readNatural ('+' :: digits) ≠ some port.toNat :=
      mt readNatural_eq_some.mp (hplus digits _)
    cases hread : readNatural digits <;> simp [htext, hnone, hread, eq_port_iff]
  · next hunsigned =>
    have hnone : ¬ ∃ digits, s.toList = '+' :: digits ∧ readNatural digits = some port.toNat :=
      fun ⟨digits, hsigned, _⟩ => hunsigned digits hsigned
    cases readNatural s.toList <;> simp [hnone, eq_port_iff]

theorem writesPort_toString (port : UInt16) : WritesPort (toString port.toNat).toList port :=
  .inl (writes_toString _)

end RealmAdmin.Text
