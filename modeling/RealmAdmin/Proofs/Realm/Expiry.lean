/-
RealmAdmin.Proofs.Realm.Expiry — expiries are read back to the second.

The wire's form of an expiry is a number of seconds, with zero for one that never
arrives. So `Moment.ofExpiry_toEpoch` is all that can be read back: the second that a
time is in, if it is after the epoch. A moment made of a date and time is meant to be
one that can be stored, and it is, but for a leap second: that one has the same number
as the second that it extends, and this is what is read back (`expiry_read_back`,
`leap_second_not_read_back`).
-/
import RealmAdmin.Proofs.Realm.Settled

namespace RealmAdmin

/-! ## The wire's form -/

/-- The start of the second that a time is in. A leap second counts as part of the
second that it extends. -/
def DateTime.floor (t : DateTime) : DateTime := ⟨t.seconds, 0, t.inRange, by decide⟩

/-- What is cut off a time is its fraction, and the leap second if it is in one. -/
theorem DateTime.floor_eq_wholeSeconds (t : DateTime) :
    t.floor = t.wholeSeconds ↔ t.nanos < 1000000000 := by
  have hvalid := t.nanosValid
  simp only [floor, wholeSeconds, mk.injEq, true_and]
  omega

/-- Both ends of the range of dates are far inside the range of the wire. -/
theorem DateTime.toInt_seconds (t : DateTime) : (Int64.ofInt t.seconds).toInt = t.seconds := by
  have hrange := t.inRange
  exact Int64.toInt_ofInt_of_le (by omega) (by omega)

/-- An expiry is read back to the second, if it is after the epoch. -/
theorem Moment.ofExpiry_toEpoch (time : Moment) : ofExpiry time.toEpoch = match time with
    | .at t => if 0 < t.seconds then .at t.floor else .posInfinity
    | _ => .posInfinity := by
  cases time with
  | negInfinity => rfl
  | posInfinity => rfl
  | «at» t =>
    by_cases hpos : 0 < t.seconds
    · have hwire : (0 : Int64) < Int64.ofInt t.seconds := by
        rw [Int64.lt_iff_toInt_lt, t.toInt_seconds]
        exact hpos
      have hdate : DateTime.make? t.seconds 0 = some t.floor := by
        rw [DateTime.make?, dif_pos t.inRange, dif_pos (.inl (by decide))]
        rfl
      simp [toEpoch, hpos, ofExpiry, hwire, ofSeconds?, t.toInt_seconds, hdate]
    · simp [toEpoch, hpos, ofExpiry]

namespace Principal

open Realm

/-! ## Expiries -/

/-- The attributes that are expiries. -/
inductive Expiry where
  | ofPrincipal
  | ofPassword
  deriving DecidableEq

namespace Expiry

/-- Set the expiry. -/
def set (p : Principal) (time : Moment) : Expiry → Principal
  | .ofPrincipal => p.setExpireTime time
  | .ofPassword => p.setPasswordExpiration time

/-- Ask for the expiry. -/
def get {σ : Type} (s : Session σ) : Expiry → Work σ Moment
  | .ofPrincipal => expireTime s
  | .ofPassword => passwordExpiration s

/-- The wire's form of the expiry in a record. -/
def stored (r : Record) : Expiry → Int64
  | .ofPrincipal => r.expireTime
  | .ofPassword => r.passwordExpiration

/-- The edit that sets the expiry. -/
def edit (time : Moment) : Expiry → Edit
  | .ofPrincipal => .expireTime time
  | .ofPassword => .passwordExpiration time

variable {a : Expiry} {time : Moment}

theorem set_eq (p : Principal) (time : Moment) (a : Expiry) :
    a.set p time = (a.edit time).stage p := by
  cases a <;> rfl

theorem holds_edit {r : Record} : (a.edit time).Holds r ↔ a.stored r = time.toEpoch := by
  cases a <;> exact Iff.rfl

end Expiry

variable {s : Session Realm} {client : Name} {g : PasswordGenerator} {e : Entropy}
  {edits : List Edit} {p p' : Principal} {r r' : Realm} {entry : Entry} {a : Expiry} {time : Moment}

/-- The answer about an expiry that is settled. -/
theorem Settled.get_expiry (h : Settled (a.edit time) p r.principals entry)
    (hloaded : p.loaded = true) (s : Session Realm) :
    (a.get s).run (p, r) = .ok (.ofExpiry time.toEpoch) (p, r) := by
  cases a <;> exact h.get hloaded s

/-- **Expiries are read back to the second.** After a commit and a load that succeeded,
the answer about an expiry that was set is the second that the time is in, if it is
after the epoch, and an expiry that never arrives if not. This is the moment made of
the time exactly if the time is not in a leap second. -/
theorem expiry_read_back (h : SoleWriter edits p r) (hs : s.service = service client)
    (hstored : r.principals.contains p.id.text = true)
    (hname : p.presence = .absent → p.pendingName = none) (a : Expiry) (time : Moment)
    (hok : (commit s g e).run (a.set p time, r) = .ok () (p', r'))
    (hget : .unknownPrincipal ∉ r'.faults .get) :
    ∃ entry answer,
      r'.principals.get? p'.id.text = some entry ∧ a.stored entry.record = time.toEpoch ∧
      (r'.faults .get = [] → ∃ p₁ r₁, (load s).run (p', r') = .ok () (p₁, r₁)) ∧
      (∀ p₁ r₁, (load s).run (p', r') = .ok () (p₁, r₁) →
        (a.get s).run (p₁, r₁) = .ok answer (p₁, r₁)) ∧
      (∀ t, time = .at t ∨ time = .ofDateTime t →
        if 0 < t.seconds then
          answer = .at t.floor ∧ (answer = .ofDateTime t ↔ t.nanos < 1000000000)
        else answer = .posInfinity) ∧
      (time.isInfinite = true → answer = .posInfinity ∧ a.stored entry.record = 0) := by
  rw [a.set_eq] at hok
  obtain ⟨entry, hsettled⟩ := h.tracks.commit_edit hs hstored hname hok
  have hvalue : a.stored entry.record = time.toEpoch := Expiry.holds_edit.mp hsettled.holds
  refine ⟨entry, .ofExpiry time.toEpoch, hsettled.stored.2, hvalue, ?_, ?_, ?_, ?_⟩
  · exact load_of_stored hs hsettled.stored
  · intro p₁ r₁ hload
    obtain ⟨hloaded, hsettled₁⟩ := hsettled.load hs hget hload
    exact hsettled₁.get_expiry hloaded s
  · intro t ht
    have hanswer : Moment.ofExpiry time.toEpoch =
        if 0 < t.seconds then .at t.floor else .posInfinity := by
      rcases ht with rfl | rfl <;> exact Moment.ofExpiry_toEpoch _
    have hexact : Moment.at t.floor = .ofDateTime t ↔ t.nanos < 1000000000 := by
      rw [← t.floor_eq_wholeSeconds, Moment.ofDateTime, Moment.at.injEq]
    rw [hanswer]
    split
    · exact ⟨rfl, hexact⟩
    · rfl
  · intro hinfinite
    rw [hvalue]
    cases time with
    | «at» t => cases hinfinite
    | negInfinity => exact ⟨rfl, rfl⟩
    | posInfinity => exact ⟨rfl, rfl⟩

/-- An expiry that is set to half a second past a second, of a principal that is there. -/
theorem expiry_read_back_of_fraction :
    let jdoe : Name := ⟨["jdoe"], "R"⟩
    let s := Realm.session ⟨["admin"], "R"⟩
    let t : DateTime := ⟨1800000000, 500000000, by decide, by decide⟩
    let r : Realm :=
      { name := "R", principals := TextMap.empty.insert jdoe.text ⟨.named jdoe, [1]⟩ }
    let p := Expiry.ofPassword.set (existing jdoe) (.ofDateTime t)
    let y := stateOf ((commit s ⟨[]⟩ ⟨fun _ => 0, 0⟩).run (p, r))
    let z := stateOf ((load s).run y)
    SoleWriter [] (existing jdoe) r ∧ r.principals.contains jdoe.text = true ∧
      (Expiry.ofPassword.get s).run z = .ok (.ofDateTime t) z := by
  intro jdoe s t r p y z
  have hrun : SoleWriter [] (existing jdoe) r := .existing jdoe r
  have hends : succeeded ((commit s ⟨[]⟩ ⟨fun _ => 0, 0⟩).run (p, r)) = true := by decide
  have hok : (commit s ⟨[]⟩ ⟨fun _ => 0, 0⟩).run (p, r) = .ok () (y.1, y.2) :=
    eq_ok_of_succeeded hends
  have hstored : r.principals.contains jdoe.text = true := by decide
  obtain ⟨entry, answer, -, -, hload, hget, hanswer, -⟩ :=
    expiry_read_back hrun rfl hstored nofun .ofPassword (.ofDateTime t) hok (by decide)
  obtain ⟨p₁, r₁, hload⟩ := hload (by decide)
  have hz : z = (p₁, r₁) := congrArg stateOf hload
  have hanswer := hanswer t (.inr rfl)
  rw [if_pos (by decide)] at hanswer
  have hexact : answer = .ofDateTime t := hanswer.2.mpr (by decide)
  exact ⟨hrun, hstored, hz ▸ hexact ▸ hget p₁ r₁ hload⟩

/-- The leap second at the end of 2016, half-way through. An expiry that is set to it is
read back as the second before it. -/
theorem leap_second_not_read_back :
    let jdoe : Name := ⟨["jdoe"], "R"⟩
    let s := Realm.session ⟨["admin"], "R"⟩
    let t : DateTime := ⟨1483228799, 1500000000, by decide, by decide⟩
    let r : Realm :=
      { name := "R", principals := TextMap.empty.insert jdoe.text ⟨.named jdoe, [1]⟩ }
    let p := Expiry.ofPrincipal.set (existing jdoe) (.ofDateTime t)
    let y := (commit s ⟨[]⟩ ⟨fun _ => 0, 0⟩).run (p, r)
    let z := (load s).run (stateOf y)
    SoleWriter [] (existing jdoe) r ∧ r.principals.contains jdoe.text = true ∧ 0 < t.seconds ∧
      succeeded y = true ∧ succeeded z = true ∧
      (Expiry.ofPrincipal.get s).run (stateOf z) = .ok (.at t.floor) (stateOf z) ∧
      Moment.at t.floor ≠ .ofDateTime t :=
  ⟨.existing _ _, by decide, by decide, by decide, by decide, rfl, by decide⟩

end Principal

end RealmAdmin
