/-
RealmAdmin.Proofs.Realm.Settled — what a commit made lasting is read again.

An edit of a principal that is stored is lasting once a commit has succeeded: either
the setter left it to be sent, or it found the value in a snapshot that shows what is
stored (`Tracks.commit_edit`). A load after that commit finds the entry, and the
question about the attribute is answered with the edit's value, as its wire form is
read (`Settled.get`).

A commit with one edit alone staged makes no more calls than it must: it reads the
principal unless it is loaded, and writes the field unless it was left clean
(`calls_commit_edit`).
-/
import RealmAdmin.Proofs.Principal.Lazy
import RealmAdmin.Proofs.Realm.Coherence

namespace RealmAdmin.Principal

open Realm

variable {s : Session Realm} {client : Name} {g : PasswordGenerator} {e : Entropy}
  {edits : List Edit} {d : Edit} {p p₁ p' : Principal} {r r₁ r' : Realm} {entry : Entry}

/-! ## Commits that succeed -/

/-- A commit that succeeds has loaded the principal and carried out the plan for it. -/
theorem planned_of_commit {σ : Type} {s : Session σ} {w w' : σ} (hp : p.Consistent)
    (hok : (commit s g e).run (p, w) = .ok () (p', w')) :
    ∃ p₁ w₁, (load s).run (p, w) = .ok () (p₁, w₁) ∧ StagedAlike p p₁ ∧ p₁.Consistent ∧
      (s.service.deliver (p₁.plan g e) w₁).outcome (p₁.readied g e) (p₁.plan g e) =
        .ok () (p', w') := by
  have hload := load_run s p w
  rw [run_commit s g e hp] at hok
  cases hrun : (load s).run (p, w) with
  | error f x => simp [hrun] at hok
  | ok a x =>
    obtain ⟨p₁, w₁⟩ := x
    rw [hrun] at hload hok
    exact ⟨p₁, w₁, rfl, hload.stagedAlike,
      hp.of_stagedAlike hload.stagedAlike (hload.known hp.known), hok⟩

/-- A commit that succeeds leaves a principal that is there, with nothing staged. -/
theorem clean_of_commit {σ : Type} {s : Session σ} {w w' : σ} (hp : p.Consistent)
    (hok : (commit s g e).run (p, w) = .ok () (p', w')) :
    p'.presence = .present ∧ p'.dirty = .empty ∧ p'.id = p.name := by
  obtain ⟨p₁, w₁, -, hstage, hp₁, hdone⟩ := planned_of_commit hp hok
  obtain ⟨p₂, hsettled, hpresence, -, hdirty, -, hid⟩ := hp₁.plan_done g e
  rw [Delivery.outcome] at hdone
  cases hrefusal : (s.service.deliver (p₁.plan g e) w₁).refusal with
  | some status => simp [hrefusal] at hdone
  | none =>
    obtain ⟨rfl, -⟩ : p₂ = p' ∧ _ := by simpa [hrefusal, hsettled] using hdone
    exact ⟨hpresence, hdirty, hid.trans hstage.name⟩

/-- A creation that is carried out has found its name free. -/
theorem free_of_creation (h : ((service client).serve (p.creation g e)).run r = .ok () r') :
    r.principals.contains p.name.text = false := by
  obtain ⟨-, -, -, -, name, hname, hfree, -⟩ := ((serveCreate_changes ..).1 _).mp h
  obtain rfl : p.name = name := Option.some.inj hname
  exact hfree

/-- A commit under the name of a principal that is stored succeeds only if its load
finds the principal. -/
theorem found_of_commit (hs : s.service = service client) (hp : p.Consistent)
    (hstored : r.principals.contains p.id.text = true) (hname : p.pendingName = none)
    (hok : (commit s g e).run (p, r) = .ok () (p', r')) :
    ∃ p₁ r₁, (load s).run (p, r) = .ok () (p₁, r₁) ∧ StagedAlike p p₁ ∧ p₁.presence = .present ∧
      ((service client).deliver p₁.changes r₁).outcome p₁ p₁.changes = .ok () (p', r') := by
  obtain ⟨p₁, r₁, hload, hstage, -, hdone⟩ := planned_of_commit hp hok
  rw [hs] at hdone
  by_cases hpresent : p₁.presence = .present
  · rw [plan, readied, if_pos hpresent, if_pos hpresent] at hdone
    exact ⟨p₁, r₁, hload, hstage, hpresent, hdone⟩
  · -- The name of the principal that it would create is taken.
    rw [plan, readied, if_neg hpresent, if_neg hpresent] at hdone
    have hstore := load_sameStore hs p r
    rw [hload] at hstore
    have hsame : r₁.principals = r.principals := hstore.principals
    have hid : p₁.name = p.id := by rw [name, hstage.pendingName, hname, hstage.id]; rfl
    cases hserve : ((service client).serve (p₁.creation g e)).run r₁ with
    | error status r₂ => simp [outcome_cons_error hserve] at hdone
    | ok b r₂ =>
      have hfree := free_of_creation hserve
      rw [hid, hsame, hstored] at hfree
      cases hfree

/-! ## Edits that are settled -/

/-- An edit whose value is stored for a principal that is there, with nothing staged. -/
structure Settled (d : Edit) (p : Principal) (store : TextMap Entry) (entry : Entry) : Prop where
  tracks : Tracks [] p store
  stored : p.StoredAs store entry
  clean : p.dirty = .empty
  holds : d.Holds entry.record

/-- **A commit settles the edit** that was staged before it, for a principal that is
stored, unless it takes the principal for absent and goes on to create another. -/
theorem Tracks.commit_edit (h : Tracks edits p r.principals) (hs : s.service = service client)
    (hstored : r.principals.contains p.id.text = true)
    (hname : p.presence = .absent → p.pendingName = none)
    (hok : (Principal.commit s g e).run (d.stage p, r) = .ok () (p', r')) :
    ∃ entry, Settled d p' r'.principals entry := by
  obtain ⟨hid, hpresence, hloaded⟩ := stage_same p d
  have hstage := h.stage d
  have hcommit := hstage.commit hs g e
  obtain ⟨-, hclean, -⟩ := clean_of_commit hstage.consistent hok
  obtain ⟨p₁, r₁, hload, -⟩ := planned_of_commit hstage.consistent hok
  simp only [hload, hok] at hcommit
  obtain ⟨htracks, entry, hentry, hholds⟩ := hcommit
  refine ⟨entry, htracks, hentry, hclean, (hholds d List.mem_cons_self).mpr fun habsent => ?_⟩
  by_cases hmem : d.field ∈ (d.stage p).dirty
  · exact .inl hmem
  · -- A clean field is that of a principal that was read, and the commit found it.
    have hread : (d.stage p).loaded = true := hloaded.trans (not_mem_stage hmem).1
    rw [load_of_loaded hread] at hload
    obtain ⟨rfl, rfl⟩ : d.stage p = p₁ ∧ r = r₁ := by simpa using hload
    have hstored : r.principals.contains (d.stage p).id.text = true := by rwa [hid]
    have hname : (d.stage p).pendingName = none :=
      (pendingName_stage p d).trans (hname (hpresence.symm.trans habsent))
    obtain ⟨p₂, r₂, hload, -, hpresent, -⟩ :=
      found_of_commit hs hstage.consistent hstored hname hok
    rw [load_of_loaded hread] at hload
    obtain ⟨rfl, -⟩ : d.stage p = p₂ ∧ r = r₂ := by simpa using hload
    rw [habsent] at hpresent
    cases hpresent

/-! ## Reading what is settled -/

/-- Without a fault, a principal that is there is loaded. -/
theorem load_of_stored (hs : s.service = service client) (hstored : p.StoredAs r.principals entry)
    (hfaults : r.faults .get = []) : ∃ p₁ r₁, (load s).run (p, r) = .ok () (p₁, r₁) := by
  have hread := run_fetch? hs p.id p.fieldsToRead r
  have hload := load_run s p r
  generalize (load s).run (p, r) = result at hload ⊢
  cases hload with
  | kept hloaded => exact ⟨_, _, rfl⟩
  | found hloaded hpresence hfetch => exact ⟨_, _, rfl⟩
  | refused hloaded hpresence hfetch =>
    rw [hfetch] at hread
    cases hread with
    | failed hlaid => simp [hfaults] at hlaid
  | missing hloaded habsent htemplate =>
    rcases habsent with ⟨habsent, -⟩ | ⟨-, hfetch⟩
    · simp [hstored.1] at habsent
    · rw [hfetch] at hread
      cases hread with
      | missing _ hentry => simp [hstored.2] at hentry
      | pretended hlaid => simp [hfaults] at hlaid

/-- A load keeps an edit settled, where no fault pretends that the principal is missing. -/
theorem Settled.load (h : Settled d p r.principals entry) (hs : s.service = service client)
    (hget : .unknownPrincipal ∉ r.faults .get)
    (hload : (Principal.load s).run (p, r) = .ok () (p₁, r₁)) :
    p₁.loaded = true ∧ Settled d p₁ r₁.principals entry := by
  have hrun := load_run s p r
  have hstore := load_sameStore hs p r
  have htracks := h.tracks.load hs
  obtain ⟨-, hpresent, -⟩ := load_ok hs hget hload
  rw [hload] at hrun hstore htracks
  have hsame : r₁.principals = r.principals := hstore.principals
  have hstage : StagedAlike p p₁ := hrun.stagedAlike
  have hthere : p.isThere r = true := by
    unfold isThere
    split
    · simp [h.stored.1]
    · exact TextMap.contains_of_get? h.stored.2
  exact ⟨hrun.loaded, htracks,
    ⟨hpresent.mpr hthere, by rw [hstage.id, hsame]; exact h.stored.2⟩,
    hstage.dirty.trans h.clean, h.holds⟩

/-- Of a principal that is loaded, the question about the attribute brings the value of
the edit as its wire form is read. -/
theorem Settled.get (h : Settled d p r.principals entry) (hloaded : p.loaded = true)
    (s : Session Realm) : (d.question.get s).run (p, r) = .ok d.readBack (p, r) := by
  have hunstaged : p.Unstaged d.target := by simp [Unstaged, h.clean]
  have hshown := h.tracks.agreeAt hloaded h.stored d.target_ne_principal hunstaged
  have hholds : d.Holds p.record := (Edit.holds_congr hshown).mpr h.holds
  rw [Question.run_get, load_of_loaded hloaded, ← Edit.answerFor_of_holds hholds]

/-! ## Calls -/

/-- A load that finds the principal makes one call, unless the principal is loaded. -/
theorem calls_load (hs : s.service = service client)
    (hload : (load s).run (p, r) = .ok () (p₁, r₁)) (hpresent : p₁.presence = .present) :
    r₁.calls = r.calls ++ if p.loaded then [] else [.get p.id.text p.fieldsToRead] := by
  have hread := run_fetch? hs p.id p.fieldsToRead r
  have hrun := load_run s p r
  rw [hload] at hrun
  cases hrun with
  | kept hloaded => simp [hloaded]
  | found hloaded hpresence hfetch =>
    rw [hfetch] at hread
    cases hread with
    | found hfaults hentry => simp [hloaded, logged]
  | missing hloaded habsent htemplate =>
    have habsent : p₁.presence = .absent := htemplate.presence
    rw [hpresent] at habsent
    cases habsent

/-- A load of a principal that is known to be absent reads the template alone. -/
theorem calls_load_absent (hs : s.service = service client) (habsent : p.presence = .absent)
    (hload : (Principal.load s).run (p, r) = .ok () (p₁, r₁)) : r₁.calls = r.calls ++
      if p.loaded then [] else [.get (Name.text ⟨["default"], p.id.realm⟩) p.fieldsToRead] := by
  have hrun := load_run s p r
  rw [hload] at hrun
  cases hrun with
  | kept hloaded => simp [hloaded]
  | found hloaded hpresence hread => exact absurd habsent hpresence
  | missing hloaded hknown htemplate =>
    obtain ⟨-, rfl⟩ := hknown.resolve_right fun h => h.1 habsent
    have hcalls := htemplate.calls hs
    rw [hloaded]
    exact hcalls

/-- What is dirty when one edit alone was staged. -/
theorem dirty_stage_of_clean (hclean : p.dirty = .empty) (d : Edit) : (d.stage p).dirty =
    if p.loaded = true ∧ d.Holds p.record then .empty else FieldSet.empty.insert d.field := by
  have hdisplace : d.displace .empty = .empty := by
    rw [FieldSet.eq_empty_iff]
    simp [Edit.mem_displace]
  rw [Edit.stage_eq, hclean, hdisplace, assign]
  simp only [Edit.write_eq_self]
  split <;> rfl

/-- What is sent when one edit alone was staged, after a load. -/
theorem changes_stage_of_clean (hp : p.Consistent) (hclean : p.dirty = .empty)
    (hsecret : p.secret.isPending = false) (hstage : StagedAlike (d.stage p) p₁) : p₁.changes =
      if p.loaded = true ∧ d.Holds p.record then []
      else [.modify { p₁.record with principal := some p.id } (FieldSet.empty.insert d.field)] := by
  obtain ⟨hid, -, -⟩ := stage_same p d
  have hpending : p₁.pendingName = none := by
    rw [hstage.pendingName, pendingName_stage, hp.pendingName_eq_none hclean]
  have hslot : p₁.secret.pending? = none := by
    rw [hstage.secret, secret_stage]
    simpa [SecretSlot.isPending] using hsecret
  have hchanges : p₁.changes = p₁.fieldChange?.toList := by
    simp [changes, passwordChange?, nameChange?, hslot, hpending]
  have hname : p₁.name = p.id := by rw [name, hpending, hstage.id, hid]; rfl
  rw [hchanges, fieldChange?, hstage.dirty, dirty_stage_of_clean hclean d, hname]
  by_cases hsame : p.loaded = true ∧ d.Holds p.record
  · rw [if_pos hsame, if_pos hsame]
    rfl
  · have herase : (FieldSet.empty.insert d.field).erase .principal = FieldSet.empty.insert d.field :=
      FieldSet.ext_mem fun f => by simpa using fun hf => hf ▸ d.field_ne_principal
    have hsome : (FieldSet.empty.insert d.field).isEmpty ≠ true := by
      rw [Ne, FieldSet.isEmpty_iff, FieldSet.eq_empty_iff]
      exact fun hnone => hnone d.field (by simp)
    rw [if_neg hsame, if_neg hsame, herase, if_neg hsome]
    rfl

/-- A delivery of one request that writes fields, and succeeds, makes one call. -/
theorem calls_deliver_modify {record : Record} {fields : FieldSet} {name : Name}
    (hname : record.principal = some name)
    (hok : ((service client).deliver [.modify record fields] r).outcome p [.modify record fields] =
      .ok () (p', r')) : r'.calls = r.calls ++ [.modify name.text fields] := by
  cases hserve : ((service client).serve (.modify record fields)).run r with
  | error status r₁ => simp [outcome_cons_error hserve] at hok
  | ok a r₁ =>
    obtain ⟨-, -, -, name', entry, hname', -, rfl⟩ := ((serveModify_changes ..).1 _).mp hserve
    obtain rfl : name = name' := Option.some.inj (hname.symm.trans hname')
    rw [outcome_cons_ok hserve] at hok
    obtain ⟨-, rfl⟩ : _ ∧ _ = r' := by simpa [Delivery.outcome] using hok
    rfl

/-- **The calls of a commit with one edit staged**: the principal is read unless it is
loaded, and the field is written unless the principal was loaded and the value is stored. -/
theorem calls_commit_edit (h : Tracks edits p r.principals) (hs : s.service = service client)
    (hentry : r.principals.get? p.id.text = some entry) (hclean : p.dirty = .empty)
    (hsecret : p.secret.isPending = false)
    (hok : (commit s g e).run (d.stage p, r) = .ok () (p', r')) :
    r'.calls = r.calls ++
      (if p.loaded = true then [] else [.get p.id.text (d.stage p).fieldsToRead]) ++
      (if p.loaded = true ∧ d.Holds entry.record then []
        else [.modify p.id.text (FieldSet.empty.insert d.field)]) := by
  obtain ⟨hid, hpresence, hloaded⟩ := stage_same p d
  have hname : (d.stage p).pendingName = none :=
    (pendingName_stage p d).trans (h.consistent.pendingName_eq_none hclean)
  have hstored : r.principals.contains (d.stage p).id.text = true :=
    hid ▸ TextMap.contains_of_get? hentry
  obtain ⟨p₁, r₁, hload, hstage, hpresent, hdeliver⟩ :=
    found_of_commit hs (h.consistent.stage d) hstored hname hok
  have hcalls := calls_load hs hload hpresent
  -- A snapshot that was read shows what is stored.
  have hshown : (p.loaded = true ∧ d.Holds p.record) ↔ (p.loaded = true ∧ d.Holds entry.record) := by
    refine and_congr_right fun hread => Edit.holds_congr ?_
    rw [load_of_loaded (hloaded.trans hread)] at hload
    obtain ⟨rfl, -⟩ : d.stage p = p₁ ∧ r = r₁ := by simpa using hload
    exact h.agreeAt hread ⟨hpresence.symm.trans hpresent, hentry⟩ d.target_ne_principal
      (by simp [Unstaged, hclean])
  rw [hid, hloaded] at hcalls
  rw [changes_stage_of_clean h.consistent hclean hsecret hstage] at hdeliver
  simp only [hshown] at hdeliver
  rw [← hcalls]
  split at hdeliver
  · next hsame =>
    obtain ⟨-, rfl⟩ : p₁ = p' ∧ r₁ = r' := by simpa [Delivery.outcome] using hdeliver
    rw [if_pos hsame, List.append_nil]
  · next hdiffers =>
    rw [if_neg hdiffers]
    exact calls_deliver_modify rfl hdeliver

end RealmAdmin.Principal
