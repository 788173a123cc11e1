/-
RealmAdmin.Proofs.Password.Outcome — which passwords a generator gives.

Apart from the randomness, a password is a row of draws, one for each class, in any
order: it is an `Outcome` of its classes. A generator gives these and no others
(`exists_generate_iff`), so whatever is to be said of its passwords can be counted in
the draws (`Outcome.honours`).

A charset is looked at when a class is made, and never again. `generate?` takes classes
that nobody has looked at, and comes to nothing where it would draw from an empty
charset; for classes that were made it does not (`generate?_eq`).
-/
import Mathlib.Data.List.Perm.Basic
import RealmAdmin.Proofs.Checks
import RealmAdmin.Proofs.Password.Generator

namespace RealmAdmin

/-! ## Making classes -/

/-- The charset as the bytes that can be drawn. -/
def ClassSettings.bytes (s : ClassSettings) : List UInt8 := Text.bytes s.charset

theorem CharacterClass.make_eq_ok {s : ClassSettings} {c : CharacterClass} :
    make s = .ok c ↔ s.isAscii = true ∧ c.charset = s.bytes ∧ c.frequency = s.frequency := by
  constructor
  · intro h
    unfold make at h
    split at h
    · cases h
    · next hascii =>
      dsimp only at h
      split at h
      · obtain rfl := Except.ok.inj h
        exact ⟨by simpa using hascii, rfl, rfl⟩
      · cases h
  · obtain ⟨charset, frequency, hdrawable⟩ := c
    rintro ⟨hascii, rfl, rfl⟩
    rw [make, if_neg (by simp [hascii])]
    exact dif_pos hdrawable

theorem PasswordGenerator.make_eq_ok {classes : List CharacterClass} {g : PasswordGenerator} :
    make classes = .ok g ↔ classes ≠ [] ∧ g = ⟨classes⟩ := by
  unfold make
  cases classes <;> simp [eq_comm]

/-- The classes that settings describe are made one by one. -/
def ClassesOf (settings : List ClassSettings) (classes : List CharacterClass) : Prop :=
  List.Forall₂ (fun s c => CharacterClass.make s = .ok c) settings classes

theorem ClassesOf.eq_nil_iff {settings : List ClassSettings} {classes : List CharacterClass}
    (h : ClassesOf settings classes) : classes = [] ↔ settings = [] := by
  cases h <;> simp

theorem PasswordGenerator.ofSettings_eq_ok {settings : List ClassSettings}
    {g : PasswordGenerator} :
    ofSettings settings = .ok g ↔ ∃ classes, ClassesOf settings classes ∧ make classes = .ok g := by
  simp only [ClassesOf, ← mapM_ok_iff]
  unfold ofSettings
  cases settings.mapM CharacterClass.make <;> simp

/-! ## Drawing from charsets that nobody has looked at -/

/-- Draw so many bytes from a charset. Nothing can be drawn from an empty one. -/
def drawBytes? (charset : List UInt8) : Nat → Entropy → Option (List UInt8 × Entropy)
  | 0, e => some ([], e)
  | n + 1, e => do
    let b ← charset[e.below charset.length]?
    let (rest, e) ← drawBytes? charset n e.next
    return (b :: rest, e)

/-- The bytes of the classes that settings describe, one class after another. -/
def drawClasses? : List ClassSettings → Entropy → Option (List UInt8 × Entropy)
  | [], e => some ([], e)
  | s :: rest, e => do
    let (bytes, e) ← drawBytes? s.bytes s.frequency.toNat e
    let (more, e) ← drawClasses? rest e
    return (bytes ++ more, e)

/-- A password of the classes that settings describe, or nothing if one of its bytes
would have to be drawn from an empty charset. -/
def generate? (settings : List ClassSettings) (e : Entropy) : Option Secret := do
  let (bytes, e) ← drawClasses? settings e
  return ⟨(shuffle bytes e).1⟩

theorem drawBytes?_eq {charset : List UInt8} (h : charset ≠ []) : ∀ (n : Nat) (e : Entropy),
    drawBytes? charset n e = some (drawBytes charset h n e)
  | 0, _ => rfl
  | n + 1, e => by
    have hi : e.below charset.length < charset.length := Nat.mod_lt _ (List.length_pos_iff.mpr h)
    rw [drawBytes?, List.getElem?_eq_getElem hi, drawBytes?_eq h n e.next]
    rfl

variable {s : ClassSettings} {c : CharacterClass} {settings : List ClassSettings}
  {classes : List CharacterClass}

/-- A class that was made draws from no empty charset. -/
theorem drawBytes?_of_make (h : CharacterClass.make s = .ok c) (e : Entropy) :
    drawBytes? s.bytes s.frequency.toNat e = some (c.draw e) := by
  obtain ⟨-, hcharset, hfrequency⟩ := CharacterClass.make_eq_ok.mp h
  rw [← hcharset, ← hfrequency]
  unfold CharacterClass.draw
  split
  · next hpos => exact drawBytes?_eq (c.drawable hpos) _ e
  · next hzero =>
    rw [UInt32.le_zero_iff.mp (UInt32.not_lt.mp hzero)]
    rfl

theorem drawClasses?_eq (h : ClassesOf settings classes) (e : Entropy) :
    drawClasses? settings e = some (drawClasses classes e) := by
  induction h generalizing e with
  | nil => rfl
  | cons hc _ ih =>
    rw [drawClasses?, drawBytes?_of_make hc]
    simp [ih, drawClasses]

/-- A generator never comes to an empty charset. -/
theorem generate?_eq (h : ClassesOf settings classes) (e : Entropy) :
    generate? settings e = some (PasswordGenerator.generate ⟨classes⟩ e) := by
  rw [generate?, drawClasses?_eq h]
  rfl

/-- A class that could not be made would come to one. -/
example (e : Entropy) : generate? [⟨"", 1⟩] e = none := rfl

/-! ## Outcomes -/

/-- Whether these bytes can be drawn from a class: as many as it contributes, each of
them from its charset. -/
structure ClassSettings.Draws (s : ClassSettings) (drawn : List UInt8) : Prop where
  length : drawn.length = s.frequency.toNat
  mem : ∀ b ∈ drawn, b ∈ s.bytes

/-- Whether bytes are a row of draws, one for each class, in any order. -/
def Outcome (settings : List ClassSettings) (bytes : List UInt8) : Prop :=
  ∃ draws, List.Forall₂ ClassSettings.Draws settings draws ∧ bytes.Perm draws.flatten

theorem mem_drawBytes {charset : List UInt8} (h : charset ≠ []) : ∀ (n : Nat) (e : Entropy),
    ∀ b ∈ (drawBytes charset h n e).1, b ∈ charset
  | 0, _ => List.forall_mem_nil _
  | n + 1, e => List.forall_mem_cons.mpr ⟨List.getElem_mem _, mem_drawBytes h n e.next⟩

theorem draws_draw (h : CharacterClass.make s = .ok c) (e : Entropy) : s.Draws (c.draw e).1 := by
  obtain ⟨-, hcharset, hfrequency⟩ := CharacterClass.make_eq_ok.mp h
  refine ⟨by rw [c.length_draw, hfrequency], ?_⟩
  rw [← hcharset]
  unfold CharacterClass.draw
  split
  · exact mem_drawBytes _ _ e
  · exact List.forall_mem_nil _

theorem exists_draws (h : ClassesOf settings classes) (e : Entropy) :
    ∃ draws, List.Forall₂ ClassSettings.Draws settings draws ∧
      (drawClasses classes e).1 = draws.flatten := by
  induction h generalizing e with
  | nil => exact ⟨[], .nil, rfl⟩
  | @cons s c settings classes hc _ ih =>
    obtain ⟨draws, hdraws, hflat⟩ := ih (c.draw e).2
    refine ⟨(c.draw e).1 :: draws, .cons (draws_draw hc e) hdraws, ?_⟩
    rw [List.flatten_cons, ← hflat]
    rfl

/-- Every password is an outcome. -/
theorem outcome_generate (h : ClassesOf settings classes) (e : Entropy) :
    Outcome settings (PasswordGenerator.generate ⟨classes⟩ e).bytes := by
  obtain ⟨draws, hdraws, hflat⟩ := exists_draws h e
  exact ⟨draws, hdraws, hflat ▸ perm_shuffle _ _⟩

/-! ## Every outcome -/

namespace Entropy

/-- The sequence after so many choices. -/
def skip (e : Entropy) (n : Nat) : Entropy := { e with used := e.used + n }

/-- Whether these are the next numbers of the sequence. -/
def Offers (e : Entropy) : List Nat → Prop
  | [] => True
  | i :: rest => e.number e.used = i ∧ e.next.Offers rest

theorem skip_next (e : Entropy) (n : Nat) : e.next.skip n = e.skip (n + 1) := by
  simp [skip, next, Nat.add_right_comm, Nat.add_assoc]

theorem offers_append {before after : List Nat} {e : Entropy} :
    e.Offers (before ++ after) ↔ e.Offers before ∧ (e.skip before.length).Offers after := by
  induction before generalizing e with
  | nil => simp [Offers, skip]
  | cons i before ih => simp [Offers, ih, and_assoc, skip_next]

theorem offers_of_numbers {choices : List Nat} {e : Entropy}
    (h : ∀ i (hi : i < choices.length), e.number (e.used + i) = choices[i]) :
    e.Offers choices := by
  induction choices generalizing e with
  | nil => trivial
  | cons c rest ih =>
    refine ⟨h 0 (Nat.succ_pos _), ih fun i hi => ?_⟩
    have hlater := h (i + 1) (Nat.succ_lt_succ hi)
    rwa [← Nat.add_assoc, Nat.add_right_comm] at hlater

end Entropy

section

variable {α β : Type} {f : Entropy → α × Entropy} {g : α → Entropy → β × Entropy} {a : α} {b : β}

/-- Whether a value is what comes of some choices. -/
def CanGive (f : Entropy → α × Entropy) (a : α) : Prop :=
  ∃ choices, ∀ e : Entropy, e.Offers choices → f e = (a, e.skip choices.length)

theorem CanGive.exists_eq (h : CanGive f a) : ∃ e, (f e).1 = a := by
  obtain ⟨choices, hchoices⟩ := h
  have hoffers : Entropy.Offers ⟨fun i => choices.getD i 0, 0⟩ choices :=
    Entropy.offers_of_numbers fun i hi => by simp [hi]
  exact ⟨_, congrArg Prod.fst (hchoices _ hoffers)⟩

theorem canGive_pure (a : α) : CanGive (fun e => (a, e)) a := ⟨[], fun _ _ => rfl⟩

/-- Every number below the bound can be chosen. -/
theorem canGive_below {bound : Nat} (hbound : 0 < bound) (i : Fin bound) :
    CanGive (fun e => (⟨e.below bound, Nat.mod_lt _ hbound⟩, e.next)) i := by
  refine ⟨[i.val], fun e hoffers => ?_⟩
  have hchosen : e.below bound = i.val := by rw [Entropy.below, hoffers.1, Nat.mod_eq_of_lt i.isLt]
  simp only [hchosen]
  rfl

theorem CanGive.bind (hf : CanGive f a) (hg : CanGive (g a) b) :
    CanGive (fun e => g (f e).1 (f e).2) b := by
  obtain ⟨first, hfirst⟩ := hf
  obtain ⟨second, hsecond⟩ := hg
  refine ⟨first ++ second, fun e hoffers => ?_⟩
  obtain ⟨hbefore, hafter⟩ := Entropy.offers_append.mp hoffers
  dsimp only
  rw [hfirst e hbefore, hsecond _ hafter, List.length_append]
  simp [Entropy.skip, Nat.add_assoc]

end

theorem canGive_drawBytes {charset wanted : List UInt8} (h : charset ≠ [])
    (hwanted : ∀ b ∈ wanted, b ∈ charset) : CanGive (drawBytes charset h wanted.length) wanted := by
  induction wanted with
  | nil => exact canGive_pure []
  | cons b rest ih =>
    obtain ⟨hb, hrest⟩ := List.forall_mem_cons.mp hwanted
    obtain ⟨i, hi, rfl⟩ := List.getElem_of_mem hb
    have hothers := (ih hrest).bind (g := fun rest e => (charset[i] :: rest, e)) (canGive_pure _)
    exact (canGive_below (List.length_pos_iff.mpr h) ⟨i, hi⟩).bind
      (g := fun i e => (charset[i] :: (drawBytes charset h rest.length e).1,
        (drawBytes charset h rest.length e).2)) hothers

/-- Whatever can be drawn from a class is drawn from it. -/
theorem canGive_draw {drawn : List UInt8} (hc : CharacterClass.make s = .ok c)
    (hdrawn : s.Draws drawn) : CanGive c.draw drawn := by
  obtain ⟨-, hcharset, hfrequency⟩ := CharacterClass.make_eq_ok.mp hc
  have hlength : drawn.length = c.frequency.toNat := hfrequency ▸ hdrawn.length
  by_cases hpos : 0 < c.frequency
  · have hdraw : c.draw = drawBytes c.charset (c.drawable hpos) drawn.length :=
      funext fun e => by rw [CharacterClass.draw, dif_pos hpos, hlength]
    rw [hdraw]
    exact canGive_drawBytes _ (hcharset ▸ hdrawn.mem)
  · have hdraw : c.draw = fun e => ([], e) :=
      funext fun e => by rw [CharacterClass.draw, dif_neg hpos]
    have hzero : c.frequency = 0 := UInt32.le_zero_iff.mp (UInt32.not_lt.mp hpos)
    obtain rfl : drawn = [] := List.length_eq_zero_iff.mp (by rw [hlength, hzero]; rfl)
    rw [hdraw]
    exact canGive_pure []

theorem canGive_drawClasses {draws : List (List UInt8)} (h : ClassesOf settings classes)
    (hdraws : List.Forall₂ ClassSettings.Draws settings draws) :
    CanGive (drawClasses classes) draws.flatten := by
  induction h generalizing draws with
  | nil =>
    cases hdraws
    exact canGive_pure []
  | @cons s c settings classes hc _ ih =>
    cases hdraws with
    | @cons _ drawn _ draws hdrawn hdraws =>
      have hothers := (ih hdraws).bind (g := fun more e => (drawn ++ more, e)) (canGive_pure _)
      exact (canGive_draw hc hdrawn).bind
        (g := fun bytes e => (bytes ++ (drawClasses classes e).1, (drawClasses classes e).2)) hothers

/-- Every order of the bytes is one that mixing gives. -/
theorem canGive_shuffle {bytes wanted : List UInt8} (h : wanted.Perm bytes) :
    CanGive (shuffle bytes) wanted := by
  induction bytes generalizing wanted with
  | nil =>
    obtain rfl := h.eq_nil
    exact canGive_pure []
  | cons b rest ih =>
    obtain ⟨i, hi, rfl⟩ := List.getElem_of_mem (h.mem_iff.mpr List.mem_cons_self)
    have hrest : (wanted.eraseIdx i).Perm rest :=
      ((List.getElem_cons_eraseIdx_perm hi).trans h).cons_inv
    have hplace : i < (wanted.eraseIdx i).length + 1 := by
      rw [List.length_eraseIdx_of_lt hi]
      omega
    have hput : CanGive (fun e => ((wanted.eraseIdx i).insertIdx
        (e.below ((wanted.eraseIdx i).length + 1)) wanted[i], e.next)) wanted := by
      have h := (canGive_below (Nat.succ_pos _) ⟨i, hplace⟩).bind
        (g := fun place e => ((wanted.eraseIdx i).insertIdx place.val wanted[i], e))
        (canGive_pure _)
      rwa [List.insertIdx_eraseIdx_getElem hi] at h
    exact (ih hrest).bind
      (g := fun mixed e => (mixed.insertIdx (e.below (mixed.length + 1)) wanted[i], e.next)) hput

/-- A generator gives the outcomes of its classes, and nothing else. -/
theorem exists_generate_iff (h : ClassesOf settings classes) {bytes : List UInt8} :
    (∃ e, (PasswordGenerator.generate ⟨classes⟩ e).bytes = bytes) ↔ Outcome settings bytes := by
  constructor
  · rintro ⟨e, rfl⟩
    exact outcome_generate h e
  · rintro ⟨draws, hdraws, hperm⟩
    exact ((canGive_drawClasses h hdraws).bind (g := shuffle) (canGive_shuffle hperm)).exists_eq

end RealmAdmin
