/-
RealmAdmin.Proofs.Principal.Edit — the setters, as one family.

An `Edit` is a change of one attribute with its new value. All setters are the
same step with other values: `Edit.stage_eq` says that staging an edit drops
the field of the opposite edit, if there is one, and then assigns. A record
`Holds` an edit's value when it has the value's wire form; that is when
writing the edit leaves the record as it is (`Edit.write_eq_self`).
-/
import RealmAdmin.Proofs.Principal.Stage

namespace RealmAdmin.Principal

/-- A change of one attribute, as a setter stages it. -/
inductive Edit where
  | expireTime (time : Moment)
  | passwordExpiration (time : Moment)
  | maxLifetime (lifetime : Lifetime)
  | maxRenewableLifetime (lifetime : Lifetime)
  | attributes (flags : Flags)
  | policy (name : Option String)
  deriving DecidableEq

namespace Edit

/-- Stage the change, with the setter that is for it. -/
def stage (p : Principal) : Edit → Principal
  | .expireTime time => p.setExpireTime time
  | .passwordExpiration time => p.setPasswordExpiration time
  | .maxLifetime lifetime => p.setMaxLifetime lifetime
  | .maxRenewableLifetime lifetime => p.setMaxRenewableLifetime lifetime
  | .attributes flags => p.setAttributes flags
  | .policy name => p.setPolicy name

/-- The field under which the change is staged. -/
def field : Edit → Field
  | .expireTime _ => .expireTime
  | .passwordExpiration _ => .passwordExpiration
  | .maxLifetime _ => .maxLife
  | .maxRenewableLifetime _ => .maxRenewableLife
  | .attributes _ => .attributes
  | .policy (some _) => .policy
  | .policy none => .policyClear

/-- The field of the attribute that is changed; clearing the policy changes
the policy. -/
def target : Edit → Field
  | .policy _ => .policy
  | d => d.field

/-- The fields that are left dirty by staging the change, apart from its own:
setting and clearing the policy displace each other. -/
def displace (dirty : FieldSet) : Edit → FieldSet
  | .policy (some _) => dirty.erase .policyClear
  | .policy none => dirty.erase .policy
  | _ => dirty

/-- Whether the change takes the field off the stage. -/
def Displaces (f : Field) : Edit → Prop
  | .policy (some _) => f = .policyClear
  | .policy none => f = .policy
  | _ => False

/-- The record with the value written into it. -/
def write (r : Record) : Edit → Record
  | .expireTime time => { r with expireTime := time.toEpoch }
  | .passwordExpiration time => { r with passwordExpiration := time.toEpoch }
  | .maxLifetime lifetime => { r with maxLife := lifetime.toSeconds }
  | .maxRenewableLifetime lifetime => { r with maxRenewableLife := lifetime.toSeconds }
  | .attributes flags => { r with attributes := flags }
  | .policy name => { r with policy := name }

/-- Whether a record has the value, in the wire's form. -/
def Holds (r : Record) : Edit → Prop
  | .expireTime time => r.expireTime = time.toEpoch
  | .passwordExpiration time => r.passwordExpiration = time.toEpoch
  | .maxLifetime lifetime => r.maxLife = lifetime.toSeconds
  | .maxRenewableLifetime lifetime => r.maxRenewableLife = lifetime.toSeconds
  | .attributes flags => r.attributes = flags
  | .policy name => r.policy = name

variable {d : Edit} {a b r : Record}

/-- Every setter is the same step, with its own field and value. -/
theorem stage_eq (p : Principal) (d : Edit) :
    d.stage p = { p with dirty := d.displace p.dirty }.assign d.field (d.write ·) := by
  cases d with
  | policy name => cases name <;> rfl
  | _ => rfl

theorem mem_displace {dirty : FieldSet} {f : Field} :
    f ∈ d.displace dirty ↔ f ∈ dirty ∧ ¬ d.Displaces f := by
  cases d with
  | policy name => cases name <;> simp [displace, Displaces]
  | _ => simp [displace, Displaces]

/-- No change displaces its own field. -/
theorem not_displaces_field (d : Edit) : ¬ d.Displaces d.field := by
  cases d with
  | policy name => cases name <;> nofun
  | _ => exact not_false

theorem not_displaces_principal (d : Edit) : ¬ d.Displaces .principal := by
  cases d with
  | policy name => cases name <;> nofun
  | _ => exact not_false

/-- Only the two policy fields are ever displaced. -/
theorem displaces_only (d : Edit) {f : Field} (h : d.Displaces f) :
    f = .policyClear ∨ f = d.target := by
  cases d with
  | policy name =>
    cases name with
    | none => exact .inr h
    | some name => exact .inl h
  | _ => exact h.elim

/-- Changes of different attributes have nothing to do with each other's
fields. -/
theorem field_unrelated (d d' : Edit) (h : d'.target ≠ d.target) :
    d'.field ≠ d.field ∧ d'.field ≠ d.target ∧ ¬ d'.Displaces d.field ∧ ¬ d.Displaces d'.field := by
  cases d with
  | policy name =>
    cases d' with
    | policy name' => exact absurd rfl h
    | _ => cases name <;> simp [field, target, Displaces]
  | _ =>
    cases d' with
    | policy name' => cases name' <;> simp [field, target, Displaces]
    | _ => exact ⟨h, h, not_false, not_false⟩

/-- Setting and clearing a policy are the only edits whose fields differ from
the attribute they change. -/
theorem target_eq_field (h : d.field ≠ .policyClear) : d.target = d.field := by
  cases d with
  | policy name =>
    cases name with
    | none => exact absurd rfl h
    | some name => rfl
  | _ => rfl

/-- Writing a value changes nothing exactly when the record has it. -/
theorem write_eq_self : d.write r = r ↔ d.Holds r := by
  cases d <;> cases r <;> simp [write, Holds, eq_comm]

instance (d : Edit) (r : Record) : Decidable (d.Holds r) :=
  decidable_of_iff (d.write r = r) write_eq_self

theorem holds_write (d : Edit) (r : Record) : d.Holds (d.write r) := by cases d <;> rfl

/-- Writing a value changes no other attribute. -/
theorem agreeAt_write {f : Field} (h : f ≠ d.target) : (d.write r).AgreeAt r f := by
  cases d <;> cases f <;> first | rfl | trivial

/-- Only the attribute matters for whether a record has the value. -/
theorem holds_congr (h : a.AgreeAt b d.target) : d.Holds a ↔ d.Holds b := by
  cases d <;> simp_all [Holds, target, field, Record.AgreeAt]

theorem field_ne_principal (d : Edit) : d.field ≠ .principal := by
  cases d with
  | policy name => cases name <;> nofun
  | _ => nofun

theorem target_ne_principal (d : Edit) : d.target ≠ .principal := by cases d <;> nofun

theorem allowedOnCreate_target (d : Edit) : d.target.allowedOnCreate = true := by
  cases d <;> rfl

/-- One change alone is staged under the field for clearing. -/
theorem eq_of_clear (h : d.field = .policyClear) : d = .policy none := by
  cases d with
  | policy name =>
    cases name with
    | none => rfl
    | some name => cases h
  | _ => cases h

/-- To clear the policy is to have the policy of a blank record. -/
theorem holds_blank_of_clear (d : Edit) (h : d.field = .policyClear) : d.Holds .blank := by
  obtain rfl := eq_of_clear h
  rfl

theorem displaces_target (d : Edit) (h : d.field = .policyClear) : d.Displaces d.target := by
  obtain rfl := eq_of_clear h
  rfl

end Edit

variable {p : Principal}

/-- Staging a change keeps a principal consistent. -/
theorem Consistent.stage (hp : p.Consistent) (d : Edit) : (d.stage p).Consistent := by
  rw [Edit.stage_eq]
  cases d with
  | policy name =>
    cases name with
    | none =>
      have hp' : { p with dirty := p.dirty.erase .policy }.Consistent := hp.erase nofun
      exact hp'.assign _ _ nofun rfl nofun fun _ => by simp
    | some name =>
      have hp' : { p with dirty := p.dirty.erase .policyClear }.Consistent := hp.erase nofun
      exact hp'.assign _ _ nofun rfl (fun _ => by simp) nofun
  | _ => exact hp.assign _ _ nofun rfl nofun nofun

/-! ## What staging does -/

/-- The record that staging an edit leaves has its value. -/
theorem holds_stage (p : Principal) (d : Edit) : d.Holds (d.stage p).record := by
  rw [Edit.stage_eq, assign]
  split
  · next h => exact Edit.write_eq_self.mp h.2
  · exact d.holds_write p.record

/-- Staging an edit leaves its field dirty, unless it was clean and the
snapshot, which was read, had the value. -/
theorem not_mem_stage {d : Edit} (h : d.field ∉ (d.stage p).dirty) :
    p.loaded = true ∧ d.Holds p.record ∧ (d.stage p).record = p.record ∧ d.field ∉ p.dirty := by
  rw [Edit.stage_eq, assign] at h ⊢
  split at h
  · next hsame =>
    rw [if_pos hsame]
    refine ⟨hsame.1, Edit.write_eq_self.mp hsame.2, rfl, fun hmem => h ?_⟩
    exact Edit.mem_displace.mpr ⟨hmem, d.not_displaces_field⟩
  · exact absurd (FieldSet.mem_insert.mpr (.inr rfl)) h

/-- The other fields that are dirty after staging an edit are those that were
and that it does not displace. -/
theorem mem_stage_of_ne {d : Edit} {f : Field} (h : f ≠ d.field) :
    f ∈ (d.stage p).dirty ↔ f ∈ p.dirty ∧ ¬ d.Displaces f := by
  rw [Edit.stage_eq, assign]
  split
  · exact Edit.mem_displace
  · rw [FieldSet.mem_insert, or_iff_left h]
    exact Edit.mem_displace

/-- Staging an edit changes no other attribute. -/
theorem agreeAt_stage {d : Edit} {f : Field} (h : f ≠ d.target) :
    (d.stage p).record.AgreeAt p.record f := by
  rw [Edit.stage_eq, assign]
  split
  · exact .refl _ f
  · exact Edit.agreeAt_write h

theorem stage_same (p : Principal) (d : Edit) :
    (d.stage p).id = p.id ∧ (d.stage p).presence = p.presence ∧
      (d.stage p).loaded = p.loaded := by
  rw [Edit.stage_eq, assign]
  split <;> exact ⟨rfl, rfl, rfl⟩

theorem pendingName_stage (p : Principal) (d : Edit) :
    (d.stage p).pendingName = p.pendingName := by
  rw [Edit.stage_eq, assign]
  split <;> rfl

theorem secret_stage (p : Principal) (d : Edit) : (d.stage p).secret = p.secret := by
  rw [Edit.stage_eq, assign]
  split <;> rfl

end RealmAdmin.Principal
