/-
RealmAdmin.Proofs.Realm.Lifetime — lifetimes are read back as whole seconds.

The wire's form of a lifetime is a number of seconds with zero for one without a
bound, and no more of them than a signed number holds. So a lifetime of less than a
second is read back without a bound, and a very long one as the longest there is
(`Lifetime.ofSeconds_toSeconds`); in between the order of lifetimes is kept
(`Lifetime.toSeconds_mono`).

`lifetime_read_back` says this of what is set, committed and loaded again, and of the
commit that it makes no call to write what is stored already, as far as it can know.
-/
import RealmAdmin.Proofs.Realm.Settled

namespace RealmAdmin

/-! ## The wire's form -/

/-- The length in nanoseconds. -/
def Duration.inNanos (d : Duration) : Nat := d.seconds * 1000000000 + d.nanos

namespace Lifetime

theorem toInt_toSeconds (d : Duration) :
    (bounded d).toSeconds.toInt = (min d.seconds maxSeconds : Nat) := by
  have hle : min d.seconds maxSeconds ≤ 9223372036854775807 := Nat.min_le_right _ _
  exact Int64.toInt_ofNat_of_lt (by omega)

/-- No lifetime is stored as a negative number. -/
theorem toSeconds_nonneg (l : Lifetime) : 0 ≤ l.toSeconds := by
  cases l with
  | unbounded => decide
  | bounded d =>
    rw [Int64.le_iff_toInt_le, toInt_toSeconds]
    exact Int.natCast_nonneg _

/-- A longer lifetime with a bound is not stored as a smaller number. -/
theorem toSeconds_mono {d d' : Duration} (h : d.inNanos ≤ d'.inNanos) :
    (bounded d).toSeconds ≤ (bounded d').toSeconds := by
  have hseconds : d.seconds ≤ d'.seconds := by
    have hlt := d'.nanos_lt
    unfold Duration.inNanos at h
    omega
  rw [Int64.le_iff_toInt_le, toInt_toSeconds, toInt_toSeconds]
  omega

/-- A lifetime is read back as its whole seconds, as many as can be stored, if there is
one. -/
theorem ofSeconds_toSeconds (l : Lifetime) : ofSeconds l.toSeconds = match l with
    | .bounded d =>
      if 1 ≤ d.seconds then wholeSeconds (min d.seconds maxSeconds) else .unbounded
    | .unbounded => .unbounded := by
  cases l with
  | unbounded => rfl
  | bounded d =>
    have hmax : maxSeconds = 9223372036854775807 := rfl
    have hpos : 0 < (bounded d).toSeconds ↔ 1 ≤ d.seconds := by
      rw [Int64.lt_iff_toInt_lt, toInt_toSeconds, Int64.toInt_zero]
      omega
    simp only [ofSeconds, hpos, toInt_toSeconds, Int.toNat_natCast]

end Lifetime

namespace Principal

open Realm

/-! ## Limits of lifetimes -/

/-- The attributes that are lifetimes. -/
inductive LifeLimit where
  | ofTickets
  | ofRenewals
  deriving DecidableEq

namespace LifeLimit

/-- Set the limit. -/
def set (p : Principal) (l : Lifetime) : LifeLimit → Principal
  | .ofTickets => p.setMaxLifetime l
  | .ofRenewals => p.setMaxRenewableLifetime l

/-- Ask for the limit. -/
def get {σ : Type} (s : Session σ) : LifeLimit → Work σ Lifetime
  | .ofTickets => maxLifetime s
  | .ofRenewals => maxRenewableLifetime s

/-- The wire's form of the limit in a record. -/
def stored (r : Record) : LifeLimit → Int64
  | .ofTickets => r.maxLife
  | .ofRenewals => r.maxRenewableLife

/-- The field of the limit. -/
def field : LifeLimit → Field
  | .ofTickets => .maxLife
  | .ofRenewals => .maxRenewableLife

/-- The edit that sets the limit. -/
def edit (l : Lifetime) : LifeLimit → Edit
  | .ofTickets => .maxLifetime l
  | .ofRenewals => .maxRenewableLifetime l

variable {a : LifeLimit} {l : Lifetime}

theorem set_eq (p : Principal) (l : Lifetime) (a : LifeLimit) : a.set p l = (a.edit l).stage p := by
  cases a <;> rfl

theorem field_edit : (a.edit l).field = a.field := by cases a <;> rfl

theorem holds_edit {r : Record} : (a.edit l).Holds r ↔ a.stored r = l.toSeconds := by
  cases a <;> exact Iff.rfl

end LifeLimit

variable {s : Session Realm} {client : Name} {g : PasswordGenerator} {e : Entropy}
  {edits : List Edit} {p p' : Principal} {r r' : Realm} {entry : Entry} {a : LifeLimit}
  {l : Lifetime}

/-- The answer about a limit that is settled. -/
theorem Settled.get_lifetime (h : Settled (a.edit l) p r.principals entry)
    (hloaded : p.loaded = true) (s : Session Realm) :
    (a.get s).run (p, r) = .ok (.ofSeconds l.toSeconds) (p, r) := by
  cases a <;> exact h.get hloaded s

/-- **Lifetimes are read back as whole seconds.** With nothing else staged, a commit that
succeeds stores the wire's form of a lifetime that was set, which is never negative and
keeps the order of lifetimes, and a load after it brings the lifetime's whole seconds.
The commit reads the principal if it was not loaded, and writes the limit unless the
principal was loaded and the same number was stored. -/
theorem lifetime_read_back (h : SoleWriter edits p r) (hs : s.service = service client)
    (hentry : r.principals.get? p.id.text = some entry) (hclean : p.dirty = .empty)
    (hsecret : p.secret.isPending = false) (a : LifeLimit) (l : Lifetime)
    (hok : (commit s g e).run (a.set p l, r) = .ok () (p', r'))
    (hget : .unknownPrincipal ∉ r'.faults .get) :
    p'.id = p.id ∧
    (∃ entry', r'.principals.get? p.id.text = some entry' ∧
      a.stored entry'.record = l.toSeconds ∧ 0 ≤ a.stored entry'.record) ∧
    (∀ d d' : Duration, d.inNanos ≤ d'.inNanos →
      (Lifetime.bounded d).toSeconds ≤ (Lifetime.bounded d').toSeconds) ∧
    (r'.faults .get = [] → ∃ p₁ r₁, (load s).run (p', r') = .ok () (p₁, r₁)) ∧
    (∀ p₁ r₁, (load s).run (p', r') = .ok () (p₁, r₁) → (a.get s).run (p₁, r₁) = .ok
      (match l with
        | .bounded d => if 1 ≤ d.seconds then .wholeSeconds (min d.seconds Lifetime.maxSeconds)
          else .unbounded
        | .unbounded => .unbounded) (p₁, r₁)) ∧
    r'.calls = r.calls ++
      (if p.loaded = true then [] else [.get p.id.text (a.set p l).fieldsToRead]) ++
      (if p.loaded = false ∨ a.stored entry.record ≠ l.toSeconds then
        [.modify p.id.text (FieldSet.empty.insert a.field)] else []) := by
  rw [a.set_eq] at hok ⊢
  have htracks := h.tracks
  have hname := htracks.consistent.pendingName_eq_none hclean
  obtain ⟨entry', hsettled⟩ :=
    htracks.commit_edit hs (TextMap.contains_of_get? hentry) (fun _ => hname) hok
  have hvalue : a.stored entry'.record = l.toSeconds := LifeLimit.holds_edit.mp hsettled.holds
  have hid : p'.id = p.id := by
    obtain ⟨-, -, hid⟩ := clean_of_commit (htracks.consistent.stage _) hok
    rw [hid, name, pendingName_stage, hname, (stage_same p _).1]
    rfl
  refine ⟨hid, ⟨entry', hid ▸ hsettled.stored.2, hvalue, hvalue ▸ l.toSeconds_nonneg⟩,
    fun _ _ => Lifetime.toSeconds_mono, load_of_stored hs hsettled.stored, ?_, ?_⟩
  · intro p₁ r₁ hload
    obtain ⟨hloaded, hsettled₁⟩ := hsettled.load hs hget hload
    rw [hsettled₁.get_lifetime hloaded s, l.ofSeconds_toSeconds]
  · rw [calls_commit_edit htracks hs hentry hclean hsecret hok, LifeLimit.field_edit]
    have hsends : (p.loaded = false ∨ a.stored entry.record ≠ l.toSeconds) ↔
        ¬ (p.loaded = true ∧ (a.edit l).Holds entry.record) := by
      rw [Decidable.not_and_iff_not_or_not, LifeLimit.holds_edit, Bool.not_eq_true]
    simp only [hsends, ite_not]

/-- A minute and a half, and a bit, of a principal whose tickets live for a minute. -/
theorem lifetime_read_back_of_fraction :
    let jdoe : Name := ⟨["jdoe"], "R"⟩
    let s := Realm.session ⟨["admin"], "R"⟩
    let l : Lifetime := .bounded ⟨90, 500000000, by decide⟩
    let entry : Entry := ⟨{ Record.named jdoe with maxLife := 60 }, [1]⟩
    let r : Realm := { name := "R", principals := TextMap.empty.insert jdoe.text entry }
    let p := LifeLimit.ofTickets.set (existing jdoe) l
    let y := stateOf ((commit s ⟨[]⟩ ⟨fun _ => 0, 0⟩).run (p, r))
    let z := stateOf ((load s).run y)
    SoleWriter [] (existing jdoe) r ∧ r.principals.get? jdoe.text = some entry ∧
      (LifeLimit.ofTickets.get s).run z = .ok (.wholeSeconds 90) z ∧
      y.2.calls.map Call.kind = [.get, .modify] := by
  intro jdoe s l entry r p y z
  have hrun : SoleWriter [] (existing jdoe) r := .existing jdoe r
  have hentry : r.principals.get? jdoe.text = some entry := TextMap.get?_insert_self ..
  have hends : succeeded ((commit s ⟨[]⟩ ⟨fun _ => 0, 0⟩).run (p, r)) = true := by decide
  have hok : (commit s ⟨[]⟩ ⟨fun _ => 0, 0⟩).run (p, r) = .ok () (y.1, y.2) :=
    eq_ok_of_succeeded hends
  obtain ⟨-, -, -, hload, hget, hcalls⟩ :=
    lifetime_read_back hrun rfl hentry rfl rfl .ofTickets l hok (by decide)
  obtain ⟨p₁, r₁, hload⟩ := hload (by decide)
  have hz : z = (p₁, r₁) := congrArg stateOf hload
  have hkinds : y.2.calls.map Call.kind = [.get, .modify] := by
    rw [hcalls]
    rfl
  exact ⟨hrun, hentry, hz ▸ hget p₁ r₁ hload, hkinds⟩

end Principal

end RealmAdmin
