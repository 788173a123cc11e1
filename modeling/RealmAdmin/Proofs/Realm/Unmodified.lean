/-
RealmAdmin.Proofs.Realm.Unmodified — committing a principal with no changes.

A principal that is not modified has no plan if its load finds it. But nothing
staged does not mean nothing to do: a commit loads first, and a principal that
turns out to be missing is created, with a random password and no other field
than its name. `commit_unmodified` says that this is the only request a commit
of an unmodified principal can send beside its reads, and that no entry that
is stored is touched either way.
-/
import RealmAdmin.Proofs.Principal.Commit
import RealmAdmin.Proofs.Realm.Load

namespace RealmAdmin.Principal

open Realm

variable {s : Session Realm} {client : Name} {p p₁ : Principal} {r : Realm}

/-- Nothing is staged for a principal that is not modified, and it is not
known to be absent. -/
theorem Consistent.of_not_modified (hp : p.Consistent) (h : p.isModified = false) :
    p.presence ≠ .absent ∧ p.pendingName = none ∧ p.dirty = .empty ∧
      p.secret.isPending = false := by
  simp only [isModified, Bool.or_eq_false_iff, Bool.not_eq_false', beq_eq_false_iff_ne,
    FieldSet.isEmpty_iff] at h
  obtain ⟨⟨hpresence, hdirty⟩, hsecret⟩ := h
  exact ⟨hpresence, hp.pendingName_eq_none hdirty, hdirty, hsecret⟩

/-- Where nothing is staged there are no changes. -/
theorem changes_eq_nil (hname : p.pendingName = none) (hdirty : p.dirty = .empty)
    (hsecret : p.secret.isPending = false) : p.changes = [] := by
  have hpassword : p.passwordChange? = none := by
    simpa [passwordChange?, SecretSlot.isPending] using hsecret
  have hfields : (p.dirty.erase .principal).isEmpty = true := by
    simp [FieldSet.isEmpty_iff, FieldSet.eq_empty_iff, hdirty]
  simp [changes, hpassword, nameChange?, hname, fieldChange?, hfields]

/-- Where nothing is staged only the name is sent with a creation. -/
theorem creation_of_nothing_staged (hname : p.pendingName = none) (hdirty : p.dirty = .empty)
    (hsecret : p.secret.isPending = false) (g : PasswordGenerator) (e : Entropy) :
    p.creation g e = .create { p.record with principal := some p.id } (.single .principal)
      (g.generate e).bytes := by
  have hpending : p.secret.pending? = none := by simpa [SecretSlot.isPending] using hsecret
  have hfields : p.creationFields = .single .principal := by
    rw [creationFields, hdirty]
    decide
  simp [creation, name, hname, hfields, hpending]

/-- How a commit of an unmodified principal can end: the realm it leaves, and
the exchanges on record. -/
inductive UnmodifiedRun (s : Session Realm) (g : PasswordGenerator) (e : Entropy) (p : Principal)
    (r r' : Realm) : List Exchange → Prop
  /-- The load found the principal, or failed, and nothing was written. -/
  | untouched {reads : List Exchange} (hreads : ∀ x ∈ reads, x.IsRead)
      (hfound : ∀ p₁ r₁, (load s).run (p, r) = .ok () (p₁, r₁) → p₁.presence = .present)
      (hstore : r'.principals = r.principals) : UnmodifiedRun s g e p r r' reads
  /-- The load found that it is missing, and the realm refused to create it. -/
  | refused {p₁ : Principal} {r₁ : Realm} {reads : List Exchange} {record : Record}
      {status : Status} (hreads : ∀ x ∈ reads, x.IsRead) (hunread : p.loaded = false)
      (hload : (load s).run (p, r) = .ok () (p₁, r₁)) (habsent : p₁.presence = .absent)
      (hname : record.principal = some p.id) (hstore : r'.principals = r.principals) :
      UnmodifiedRun s g e p r r' (reads ++
        [⟨.create record (.single .principal) (g.generate e).bytes, some status⟩])
  /-- The load found that it is missing, and the realm created it. -/
  | created {p₁ : Principal} {r₁ : Realm} {reads : List Exchange} {record : Record} {new : Entry}
      (hreads : ∀ x ∈ reads, x.IsRead) (hunread : p.loaded = false)
      (hload : (load s).run (p, r) = .ok () (p₁, r₁)) (habsent : p₁.presence = .absent)
      (hname : record.principal = some p.id) (hfree : r.principals.get? p.id.text = none)
      (hstore : r'.principals = r.principals.insert p.id.text new) :
      UnmodifiedRun s g e p r r' (reads ++
        [⟨.create record (.single .principal) (g.generate e).bytes, none⟩])

/-- Whatever was stored before is stored afterwards. -/
theorem UnmodifiedRun.stored {g : PasswordGenerator} {e : Entropy} {r' : Realm}
    {log : List Exchange} (h : UnmodifiedRun s g e p r r' log) {key : String} {entry : Entry}
    (hentry : r.principals.get? key = some entry) : r'.principals.get? key = some entry := by
  cases h with
  | untouched _ _ hstore => rw [hstore, hentry]
  | refused _ _ _ _ _ hstore => rw [hstore, hentry]
  | created _ _ _ _ _ hfree hstore =>
    have hother : key ≠ p.id.text := by
      rintro rfl
      simp [hfree] at hentry
    rw [hstore, TextMap.get?_insert, if_neg hother, hentry]

theorem unmodified_run (hs : s.service = service client) (hp : p.Consistent)
    (hclean : p.isModified = false) (g : PasswordGenerator) (e : Entropy) (r : Realm)
    {p' : Principal} {r' : Realm} {log : List Exchange}
    (hrun : stateOf ((commit s.recorded g e).run (p, (r, []))) = (p', (r', log))) :
    UnmodifiedRun s g e p r r' log := by
  obtain ⟨hnotabsent, hname, hdirty, hsecret⟩ := hp.of_not_modified hclean
  have hload := load_run s p r
  have hstore := load_sameStore hs p r
  obtain ⟨reads, hreads, -, hrecorded⟩ := commit_recorded s g e hp r []
  rw [hrecorded, stateOf_onRecord, run_commit s g e hp, sent, List.nil_append] at hrun
  cases h : (load s).run (p, r) with
  | error f x =>
    simp only [h, stateOf_error, Prod.mk.injEq, List.append_nil] at hrun
    obtain ⟨-, rfl, rfl⟩ := hrun
    rw [h] at hstore
    exact .untouched hreads (fun p₁ r₁ h₁ => by simp [h] at h₁) hstore.principals
  | ok a x =>
    obtain ⟨p₁, r₁⟩ := x
    rw [h] at hload hstore
    have hstage : StagedAlike p p₁ := hload.stagedAlike
    have hname₁ : p₁.pendingName = none := hstage.pendingName.trans hname
    have hdirty₁ : p₁.dirty = .empty := hstage.dirty.trans hdirty
    have hsecret₁ : p₁.secret.isPending = false := by rw [hstage.secret, hsecret]
    have hstore : r₁.principals = r.principals := hstore.principals
    by_cases hpresence : p₁.presence = .present
    · have hplan : p₁.plan g e = [] := by
        rw [plan, if_pos hpresence, changes_eq_nil hname₁ hdirty₁ hsecret₁]
      simp only [h, hplan, Service.deliver_nil, Delivery.exchanges, Delivery.outcome,
        stateOf_ok, Prod.mk.injEq, List.take_nil, List.map_nil, List.append_nil] at hrun
      obtain ⟨-, rfl, rfl⟩ := hrun
      refine .untouched hreads (fun p₂ r₂ h₂ => ?_) hstore
      obtain ⟨rfl, rfl⟩ : p₁ = p₂ ∧ r₁ = r₂ := by simpa [h] using h₂
      exact hpresence
    · have hknown : p₁.presence ≠ .unknown := hload.known hp.known hload.loaded
      have habsent := Presence.eq_absent hknown hpresence
      have hloaded : p.loaded = false := by
        cases hloaded : p.loaded with
        | false => rfl
        | true =>
          obtain ⟨rfl, -⟩ : p = p₁ ∧ r = r₁ := by simpa [run_load, hloaded] using h
          exact absurd habsent hnotabsent
      have hplan : p₁.plan g e = [.create { p₁.record with principal := some p.id }
          (.single .principal) (g.generate e).bytes] := by
        rw [plan, if_neg hpresence, creation_of_nothing_staged hname₁ hdirty₁ hsecret₁, hstage.id]
      simp only [h, hplan] at hrun
      cases hserve : (s.service.serve (.create { p₁.record with principal := some p.id }
          (.single .principal) (g.generate e).bytes)).run r₁ with
      | error status r₂ =>
        have hrefused : r₂.principals = r₁.principals := by
          rw [hs] at hserve
          exact principals_of_refused hserve
        simp only [Service.deliver_cons_error hserve, Delivery.exchanges, Delivery.outcome,
          stateOf_error, Prod.mk.injEq] at hrun
        obtain ⟨-, rfl, rfl⟩ := hrun
        exact .refused hreads hloaded h habsent rfl (hrefused.trans hstore)
      | ok a r₂ =>
        simp only [Service.deliver_cons_ok hserve, Service.deliver_nil, Delivery.exchanges,
          Delivery.outcome, stateOf_ok, Prod.mk.injEq] at hrun
        obtain ⟨-, rfl, rfl⟩ := hrun
        rw [hs] at hserve
        obtain ⟨-, -, -, -, name, hname', hfree, rfl⟩ := ((serveCreate_changes ..).1 _).mp hserve
        obtain rfl : p.id = name := by simpa using hname'
        have hfree : r.principals.get? p.id.text = none := by
          simpa [TextMap.contains, hstore] using hfree
        exact .created hreads hloaded h habsent rfl hfree (by rw [← hstore]; rfl)

/-- **Committing an unmodified principal writes nothing if its load finds it**,
and otherwise at most creates it; whatever is stored stays as it is. -/
theorem commit_unmodified (hs : s.service = service client) (hp : Reachable p)
    (hclean : p.isModified = false) (g : PasswordGenerator) (e : Entropy) (r : Realm) :
    let y := stateOf ((commit s.recorded g e).run (p, (r, [])))
    UnmodifiedRun s g e p r y.2.1 y.2.2 ∧
      ∀ key entry, r.principals.get? key = some entry → y.2.1.principals.get? key = some entry := by
  have h := unmodified_run hs hp.consistent hclean g e r rfl
  exact ⟨h, fun _ _ => h.stored⟩

/-- A principal as it comes from a search, in a realm that stores no principal
any more. -/
theorem commit_unmodified_existing :
    let p := existing ⟨["jdoe"], "R"⟩
    let y := stateOf ((commit (Realm.session ⟨["admin"], "R"⟩).recorded ⟨[]⟩ ⟨fun _ => 0, 0⟩).run
      (p, ({ name := "R" }, [])))
    p.isModified = false ∧ UnmodifiedRun (Realm.session ⟨["admin"], "R"⟩) ⟨[]⟩ ⟨fun _ => 0, 0⟩ p
      { name := "R" } y.2.1 y.2.2 :=
  ⟨by decide, (commit_unmodified rfl (.existing _) (by decide) _ _ _).1⟩

/-- Another client deletes a principal that was found, and a commit without
any change brings it back. -/
theorem commit_unmodified_creates :
    let client : Name := ⟨["admin"], "R"⟩
    let jdoe : Name := ⟨["jdoe"], "R"⟩
    let stored : TextMap Entry := TextMap.empty.insert jdoe.text ⟨.named jdoe, [1]⟩
    let r := stateOf ((serveDelete jdoe).run { name := "R", principals := stored })
    let y := stateOf ((commit (Realm.session client) ⟨[⟨[97], 1, by decide⟩]⟩
      ⟨fun _ => 0, 0⟩).run (existing jdoe, r))
    Reachable (existing jdoe) ∧ (existing jdoe).isModified = false ∧
      r.principals.contains jdoe.text = false ∧
      y.2.calls.map Call.kind = [.delete, .get, .get, .create] ∧
      y.2.principals.contains jdoe.text = true :=
  ⟨.existing _, by decide, by decide, by decide, by decide⟩

end RealmAdmin.Principal
