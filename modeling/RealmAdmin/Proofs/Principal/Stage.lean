/-
RealmAdmin.Proofs.Principal.Stage — what always holds of a principal's stage.

`Consistent` collects it: the name is among the dirty fields exactly when a
new name is staged, a policy is not both set and cleared, every other dirty
field can be written by a modify request, and a principal whose record was
read is known to be there or not. Each local step keeps this; what services
answer plays no part yet.
-/
import RealmAdmin.Proofs.Principal.Load

namespace RealmAdmin

/-! ## Known presence -/

theorem Presence.eq_present {presence : Presence} (hknown : presence ≠ .unknown)
    (hthere : presence ≠ .absent) : presence = .present := by
  cases presence <;> first | rfl | contradiction

theorem Presence.eq_absent {presence : Presence} (hknown : presence ≠ .unknown)
    (hmissing : presence ≠ .present) : presence = .absent := by
  cases presence <;> first | rfl | contradiction

namespace Principal

variable {p q : Principal}

/-! ## Attributes without staged changes -/

/-- Whether nothing is staged for the attribute of a field; a policy that is
to be cleared is staged under a field of its own. -/
def Unstaged (p : Principal) (f : Field) : Prop :=
  f ∉ p.dirty ∧ ¬ (f = .policy ∧ .policyClear ∈ p.dirty)

theorem Unstaged.of_not_mem {f : Field} (hclean : f ∉ p.dirty) (hf : f ≠ .policy) : p.Unstaged f :=
  ⟨hclean, fun h => hf h.1⟩

theorem StagedAlike.unstaged {f : Field} (h : StagedAlike p q) (hf : p.Unstaged f) :
    q.Unstaged f := by
  rwa [Unstaged, h.dirty]

/-! ## Consistency -/

/-- What holds of every principal that operations lead to. -/
structure Consistent (p : Principal) : Prop where
  name_dirty : .principal ∈ p.dirty ↔ p.pendingName.isSome = true
  target : p.pendingName ≠ some p.id
  policies : ¬ (.policy ∈ p.dirty ∧ .policyClear ∈ p.dirty)
  writable : ∀ f ∈ p.dirty, f ≠ .principal → f.allowedOnModify = true
  known : p.loaded = true → p.presence ≠ .unknown

/-- Where nothing is dirty, no name is staged. -/
theorem Consistent.pendingName_eq_none (hp : p.Consistent) (hclean : p.dirty = .empty) :
    p.pendingName = none := by
  simpa [hclean] using hp.name_dirty

/-- The stage alone decides all but the last part. -/
theorem Consistent.of_stagedAlike (hp : p.Consistent) (h : StagedAlike p q)
    (hknown : q.loaded = true → q.presence ≠ .unknown) : q.Consistent where
  name_dirty := by rw [h.dirty, h.pendingName]; exact hp.name_dirty
  target := by rw [h.pendingName, h.id]; exact hp.target
  policies := by rw [h.dirty]; exact hp.policies
  writable := by rw [h.dirty]; exact hp.writable
  known := hknown

/-- A principal with nothing staged. -/
theorem Consistent.of_nothing_staged (hname : p.pendingName = none) (hdirty : p.dirty = .empty)
    (hknown : p.loaded = true → p.presence ≠ .unknown) : p.Consistent where
  name_dirty := by simp [hname, hdirty]
  target := by simp [hname]
  policies := by simp [hdirty]
  writable := by simp [hdirty]
  known := hknown

theorem existing_consistent (id : Name) : (existing id).Consistent :=
  .of_nothing_staged rfl rfl (by simp [existing])

theorem fresh_consistent (id : Name) : (fresh id).Consistent :=
  .of_nothing_staged rfl rfl (by simp [fresh])

/-! ## Staging changes -/

theorem Consistent.rename (hp : p.Consistent) (name : Name) : (p.rename name).Consistent := by
  unfold Principal.rename
  split
  · exact
      { name_dirty := by simp
        target := by simp
        policies := by simpa using hp.policies
        writable := fun f hf hne => hp.writable f (FieldSet.mem_erase.mp hf).1 hne
        known := hp.known }
  · next hne =>
    exact
      { name_dirty := by simp
        target := by simpa using hne
        policies := by simpa using hp.policies
        writable := fun f hf hname =>
          hp.writable f ((FieldSet.mem_insert.mp hf).resolve_right hname) hname
        known := hp.known }

/-- A new name is staged beside everything else. -/
theorem rename_same (p : Principal) (name : Name) :
    (p.rename name).id = p.id ∧ (p.rename name).presence = p.presence ∧
      (p.rename name).loaded = p.loaded ∧ (p.rename name).record = p.record ∧
      ∀ f, f ≠ .principal → (f ∈ (p.rename name).dirty ↔ f ∈ p.dirty) := by
  unfold Principal.rename
  split <;> exact ⟨rfl, rfl, rfl, rfl, fun f hf => by simp [hf]⟩

theorem Consistent.setPassword (hp : p.Consistent) (secret : Secret) :
    (p.setPassword secret).Consistent := ⟨hp.1, hp.2, hp.3, hp.4, hp.5⟩

theorem Consistent.withPassword (hp : p.Consistent) (g : PasswordGenerator) (e : Entropy) :
    (p.withPassword g e).Consistent := by
  unfold Principal.withPassword
  split
  · exact hp
  · exact hp.setPassword _

/-- A dirty field may go. -/
theorem Consistent.erase (hp : p.Consistent) {field : Field} (hname : field ≠ .principal) :
    { p with dirty := p.dirty.erase field }.Consistent where
  name_dirty := by simpa [Ne.symm hname] using hp.name_dirty
  target := hp.target
  policies h := hp.policies ⟨(FieldSet.mem_erase.mp h.1).1, (FieldSet.mem_erase.mp h.2).1⟩
  writable f hf := hp.writable f (FieldSet.mem_erase.mp hf).1
  known := hp.known

theorem Consistent.assign (hp : p.Consistent) (field : Field) (edit : Record → Record)
    (hname : field ≠ .principal) (hwrite : field.allowedOnModify = true)
    (hset : field = .policy → .policyClear ∉ p.dirty)
    (hclear : field = .policyClear → .policy ∉ p.dirty) : (p.assign field edit).Consistent := by
  unfold Principal.assign
  split
  · exact hp
  · exact
      { name_dirty := by simpa [Ne.symm hname] using hp.name_dirty
        target := hp.target
        policies := by
          have := hp.policies
          simp only [FieldSet.mem_insert]
          grind
        writable := fun f hf hne =>
          (FieldSet.mem_insert.mp hf).elim (fun h => hp.writable f h hne) (fun h => h ▸ hwrite)
        known := hp.known }

/-! ## Steps of a commit -/

theorem created_consistent (p : Principal) : p.created.Consistent :=
  .of_nothing_staged rfl rfl (by simp [created])

theorem Consistent.passwordChanged (hp : p.Consistent) : p.passwordChanged.Consistent :=
  ⟨hp.1, hp.2, hp.3, hp.4, by simp [Principal.passwordChanged]⟩

theorem Consistent.renamed (hp : p.Consistent) : p.renamed.Consistent where
  name_dirty := by simp [Principal.renamed]
  target := by simp [Principal.renamed]
  policies h := hp.policies ⟨(FieldSet.mem_erase.mp h.1).1, (FieldSet.mem_erase.mp h.2).1⟩
  writable f hf := hp.writable f (FieldSet.mem_erase.mp hf).1
  known := by simp [Principal.renamed]

/-- After the dirty fields were written nothing is staged, unless a new name
still is. -/
theorem modified_consistent (hname : p.pendingName = none) : p.modified.Consistent :=
  .of_nothing_staged hname rfl (by simp [modified])

theorem deleted_consistent (p : Principal) : p.deleted.Consistent :=
  .of_nothing_staged rfl rfl (by simp [deleted])

end Principal

end RealmAdmin
