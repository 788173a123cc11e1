/-
RealmAdmin.Proofs.Principal.Load — the ways a load can end.

`LoadRun` lists them: the principal was loaded already, its record was read,
the read was refused, or it is missing and the realm's template is consulted,
which can end in the ways of `TemplateRun`. `load_run` says that every load
ends in one of them, whatever the service answers.

Of what is staged a load changes nothing: `Principal.StagedAlike` relates two
principals with the same stage, and `load_stagedAlike` says that a load stays
within it, also when it fails.
-/
import RealmAdmin.Proofs.Name.RoundTrip
import RealmAdmin.Proofs.Record
import RealmAdmin.Proofs.Service

namespace RealmAdmin

namespace Principal

variable {σ : Type}

/-! ## The ends of a load -/

/-- How consulting the template can end, for a principal that the service
does not have. -/
inductive TemplateRun (s : Session σ) (p : Principal) (w : σ) :
    EStateM.Result Failure (Principal × σ) Unit → Prop
  | unnamed {f : Failure} (hname : Name.template p.id.realm = .error f) :
      TemplateRun s p w (.error f (p, w))
  | refused {template : Name} {f : Failure} {w' : σ}
      (hname : Name.template p.id.realm = .ok template)
      (hread : (s.fetch? template p.fieldsToRead).run w = .error f w') :
      TemplateRun s p w (.error f (p, w'))
  | prefilled {template : Name} {r : Record} {w' : σ}
      (hname : Name.template p.id.realm = .ok template)
      (hread : (s.fetch? template p.fieldsToRead).run w = .ok (some r) w') :
      TemplateRun s p w (.ok () ({ p.refresh r with loaded := true }, w'))
  | bare {template : Name} {w' : σ}
      (hname : Name.template p.id.realm = .ok template)
      (hread : (s.fetch? template p.fieldsToRead).run w = .ok none w') :
      TemplateRun s p w (.ok () ({ p with loaded := true }, w'))

/-- How a load can end. -/
inductive LoadRun (s : Session σ) (p : Principal) (w : σ) :
    EStateM.Result Failure (Principal × σ) Unit → Prop
  | kept (hloaded : p.loaded = true) : LoadRun s p w (.ok () (p, w))
  | found {r : Record} {w' : σ} (hloaded : p.loaded = false) (hpresence : p.presence ≠ .absent)
      (hread : (s.fetch? p.id p.fieldsToRead).run w = .ok (some r) w') :
      LoadRun s p w (.ok () (p.found r, w'))
  | refused {f : Failure} {w' : σ} (hloaded : p.loaded = false) (hpresence : p.presence ≠ .absent)
      (hread : (s.fetch? p.id p.fieldsToRead).run w = .error f w') :
      LoadRun s p w (.error f (p, w'))
  | missing {w' : σ} {result : EStateM.Result Failure (Principal × σ) Unit}
      (hloaded : p.loaded = false)
      (habsent : p.presence = .absent ∧ w' = w ∨
        p.presence ≠ .absent ∧ (s.fetch? p.id p.fieldsToRead).run w = .ok none w')
      (htemplate : TemplateRun s { p with presence := .absent } w' result) :
      LoadRun s p w result

theorem run_loadTemplate (s : Session σ) (p : Principal) (w : σ) :
    (loadTemplate s).run (p, w) =
      match Name.template p.id.realm with
      | .error f => .error f (p, w)
      | .ok template =>
        match (s.fetch? template p.fieldsToRead).run w with
        | .error f w' => .error f (p, w')
        | .ok (some r) w' => .ok () ({ p.refresh r with loaded := true }, w')
        | .ok none w' => .ok () ({ p with loaded := true }, w') := by
  rw [loadTemplate, EStateM.run_bind, Work.run_look]
  dsimp only
  rw [EStateM.run_bind, Work.run_ask]
  cases Name.template p.id.realm with
  | error f => rfl
  | ok template =>
    rw [Remote.run_ofExcept_ok]
    dsimp only
    rw [EStateM.run_bind, Work.run_ask]
    cases (s.fetch? template p.fieldsToRead).run w with
    | error f w' => rfl
    | ok record w' => cases record <;> rfl

theorem run_load (s : Session σ) (p : Principal) (w : σ) :
    (load s).run (p, w) =
      if p.loaded = true then .ok () (p, w)
      else if p.presence = .absent then (loadTemplate s).run ({ p with presence := .absent }, w)
      else
        match (s.fetch? p.id p.fieldsToRead).run w with
        | .error f w' => .error f (p, w')
        | .ok (some r) w' => .ok () (p.found r, w')
        | .ok none w' => (loadTemplate s).run ({ p with presence := .absent }, w') := by
  rw [load, EStateM.run_bind, Work.run_look]
  dsimp only
  split
  · rfl
  · split
    · rfl
    · rw [EStateM.run_bind, Work.run_ask]
      cases (s.fetch? p.id p.fieldsToRead).run w with
      | error f w' => rfl
      | ok record w' => cases record <;> rfl

theorem loadTemplate_run (s : Session σ) (p : Principal) (w : σ) :
    TemplateRun s p w ((loadTemplate s).run (p, w)) := by
  rw [run_loadTemplate]
  cases hname : Name.template p.id.realm with
  | error f => exact .unnamed hname
  | ok template =>
    dsimp only
    cases hread : (s.fetch? template p.fieldsToRead).run w with
    | error f w' => exact .refused hname hread
    | ok record w' =>
      cases record with
      | none => exact .bare hname hread
      | some r => exact .prefilled hname hread

/-- Every load ends in one of the ways of `LoadRun`. -/
theorem load_run (s : Session σ) (p : Principal) (w : σ) :
    LoadRun s p w ((load s).run (p, w)) := by
  have htemplate := loadTemplate_run s { p with presence := .absent }
  rw [run_load]
  by_cases hloaded : p.loaded = true
  · rw [if_pos hloaded]
    exact .kept hloaded
  · rw [if_neg hloaded]
    rw [Bool.not_eq_true] at hloaded
    by_cases hpresence : p.presence = .absent
    · rw [if_pos hpresence]
      exact .missing hloaded (.inl ⟨hpresence, rfl⟩) (htemplate w)
    · rw [if_neg hpresence]
      cases hread : (s.fetch? p.id p.fieldsToRead).run w with
      | error f w' => exact .refused hloaded hpresence hread
      | ok record w' =>
        cases record with
        | none => exact .missing hloaded (.inr ⟨hpresence, hread⟩) (htemplate w')
        | some r => exact .found hloaded hpresence hread

/-! ## What a load leaves alone -/

/-- The second principal has the stage of the first: the same name, staged
name, secret and dirty fields, and the same values in the dirty fields. -/
structure StagedAlike (p q : Principal) : Prop where
  id : q.id = p.id
  pendingName : q.pendingName = p.pendingName
  secret : q.secret = p.secret
  dirty : q.dirty = p.dirty
  record : ∀ f ∈ p.dirty.insert .principal, q.record.AgreeAt p.record f

theorem StagedAlike.refl (p : Principal) : StagedAlike p p :=
  ⟨rfl, rfl, rfl, rfl, fun f _ => .refl _ f⟩

theorem StagedAlike.trans {p q r : Principal} (h : StagedAlike p q) (h' : StagedAlike q r) :
    StagedAlike p r where
  id := h'.id.trans h.id
  pendingName := h'.pendingName.trans h.pendingName
  secret := h'.secret.trans h.secret
  dirty := h'.dirty.trans h.dirty
  record f hf := (h'.record f (h.dirty ▸ hf)).trans (h.record f hf)

theorem StagedAlike.name {p q : Principal} (h : StagedAlike p q) : q.name = p.name := by
  rw [Principal.name, h.pendingName, h.id]
  rfl

/-- The fields whose attributes a read takes over. -/
theorem mem_mergedFields {p : Principal} {f : Field} :
    f ∈ p.fieldsToRead.erase .principal ↔ f ≠ .keyData ∧ f ∉ p.dirty ∧ f ≠ .principal := by
  simp only [fieldsToRead, FieldSet.mem_erase, FieldSet.mem_insert, FieldSet.mem_difference,
    FieldSet.mem_readable]
  grind

theorem refresh_agreeAt_read {p : Principal} (r : Record) {f : Field} (hkey : f ≠ .keyData)
    (hdirty : f ∉ p.dirty) (hname : f ≠ .principal) : (p.refresh r).record.AgreeAt r f :=
  Record.agreeAt_merge_of_mem (mem_mergedFields.mpr ⟨hkey, hdirty, hname⟩)

theorem refresh_agreeAt_staged (p : Principal) (r : Record) {f : Field}
    (h : f ∈ p.dirty.insert .principal) : (p.refresh r).record.AgreeAt p.record f := by
  refine Record.agreeAt_merge_of_not_mem fun hf => ?_
  obtain ⟨-, hdirty, hname⟩ := mem_mergedFields.mp hf
  exact (FieldSet.mem_insert.mp h).elim hdirty hname

/-- After a read of some record, what was read is in the snapshot. -/
theorem refresh_agreeAt_source {p : Principal} (source : Record) {f : Field} (hdirty : f ∉ p.dirty)
    (hname : f ≠ .principal) :
    (p.refresh (Record.blank.merge source p.fieldsToRead)).record.AgreeAt source f := by
  by_cases hkey : f = .keyData
  · rw [hkey]
    trivial
  · have hread := mem_mergedFields.mpr ⟨hkey, hdirty, hname⟩
    exact (refresh_agreeAt_read _ hkey hdirty hname).trans
      (Record.agreeAt_merge_of_mem (FieldSet.mem_erase.mp hread).1)

theorem refresh_stagedAlike (p : Principal) (r : Record) : StagedAlike p (p.refresh r) :=
  ⟨rfl, rfl, rfl, rfl, fun _ => refresh_agreeAt_staged p r⟩

theorem TemplateRun.stagedAlike {s : Session σ} {p : Principal} {w : σ}
    {result : EStateM.Result Failure (Principal × σ) Unit} (h : TemplateRun s p w result) :
    StagedAlike p (stateOf result).1 := by
  cases h with
  | unnamed hname => exact .refl p
  | refused hname hread => exact .refl p
  | prefilled hname hread => exact ⟨rfl, rfl, rfl, rfl, fun _ => refresh_agreeAt_staged p _⟩
  | bare hname hread => exact ⟨rfl, rfl, rfl, rfl, fun f _ => .refl _ f⟩

theorem LoadRun.stagedAlike {s : Session σ} {p : Principal} {w : σ}
    {result : EStateM.Result Failure (Principal × σ) Unit} (h : LoadRun s p w result) :
    StagedAlike p (stateOf result).1 := by
  cases h with
  | kept hloaded => exact .refl p
  | found hloaded hpresence hread => exact ⟨rfl, rfl, rfl, rfl, fun _ => refresh_agreeAt_staged p _⟩
  | refused hloaded hpresence hread => exact .refl p
  | missing hloaded habsent htemplate =>
    have hmark : StagedAlike p { p with presence := .absent } :=
      ⟨rfl, rfl, rfl, rfl, fun f _ => .refl _ f⟩
    exact hmark.trans htemplate.stagedAlike

/-- A load leaves what is staged as it was, also when it fails. -/
theorem load_stagedAlike (s : Session σ) (p : Principal) (w : σ) :
    StagedAlike p (stateOf ((load s).run (p, w))).1 :=
  (load_run s p w).stagedAlike

/-! ## What is known after a load -/

theorem TemplateRun.loaded {s : Session σ} {p p' : Principal} {w w' : σ}
    (h : TemplateRun s p w (.ok () (p', w'))) : p'.loaded = true := by
  cases h <;> rfl

/-- After a load that succeeds the record is there. -/
theorem LoadRun.loaded {s : Session σ} {p p' : Principal} {w w' : σ}
    (h : LoadRun s p w (.ok () (p', w'))) : p'.loaded = true := by
  cases h with
  | kept hloaded => exact hloaded
  | found hloaded hpresence hread => rfl
  | missing hloaded habsent htemplate => exact htemplate.loaded

theorem TemplateRun.presence {s : Session σ} {p : Principal} {w : σ}
    {result : EStateM.Result Failure (Principal × σ) Unit} (h : TemplateRun s p w result) :
    (stateOf result).1.presence = p.presence := by
  cases h <;> rfl

/-- A load makes no principal with a record one of unknown presence. -/
theorem LoadRun.known {s : Session σ} {p : Principal} {w : σ}
    {result : EStateM.Result Failure (Principal × σ) Unit} (h : LoadRun s p w result)
    (hknown : p.loaded = true → p.presence ≠ .unknown) :
    (stateOf result).1.loaded = true → (stateOf result).1.presence ≠ .unknown := by
  cases h with
  | kept hloaded => exact hknown
  | found hloaded hpresence hread => intro _; simp [Principal.found]
  | refused hloaded hpresence hread => exact hknown
  | missing hloaded habsent htemplate => intro _; simp [htemplate.presence]

end Principal

end RealmAdmin
