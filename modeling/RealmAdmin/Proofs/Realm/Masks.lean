/-
RealmAdmin.Proofs.Realm.Masks — the masks that a commit sends, and a realm's rules.

A realm refuses a creation or a modification whose mask breaks its rules, and
nothing else, with the status for a bad mask (`serve_badMask_iff`). What keeps
a commit within these rules is what always holds of a principal's stage: every
request of a plan has a legal mask (`Consistent.plan_legal`). So a commit that
ends with that status has met a fault, in every realm (`commit_masks`).
-/
import RealmAdmin.Proofs.Principal.Commit
import RealmAdmin.Proofs.Realm.Deliver

namespace RealmAdmin

/-- Whether a realm lets the request carry its fields. -/
def Request.HasLegalMask : Request → Prop
  | .create _ fields _ => fields = fields.forCreate ∧ .principal ∈ fields
  | .modify _ fields => fields = fields.forModify ∧ ¬ (.policy ∈ fields ∧ .policyClear ∈ fields)
  | _ => True

/-! ## A realm's rules -/

namespace Realm

variable {client : Name} {r r' : Realm} {q : Request} {qs : List Request}

/-- The other statuses with which a realm refuses a request. -/
theorem badMask_ne : Status.unknownPrincipal ≠ .badMask ∧ Status.duplicate ≠ .badMask ∧
    Status.badPrincipal ≠ .badMask ∧ Status.passwordTooShort ≠ .badMask ∧
    Status.failure ≠ .badMask := by decide

/-- Where no fault is laid, a bad mask is reported exactly if the mask is not
legal. -/
theorem serve_badMask_iff (hfaults : r.faults q.call.kind = []) (hq : q.IsAddressed) :
    (∃ r', ((service client).serve q).run r = .error .badMask r') ↔ ¬ q.HasLegalMask := by
  obtain ⟨hunknown, hduplicate, hprincipal, hshort, hfailure⟩ := badMask_ne
  have henter := run_enter q.call r
  rw [hfaults] at henter
  cases q with
  | create record fields password =>
    rw [Request.call] at henter
    by_cases hmask : fields = fields.forCreate
    · by_cases hmem : .principal ∈ fields
      · by_cases hempty : password = []
        · simp [service, serveCreate, henter, ← hmask, hmem, hempty, Request.HasLegalMask, hshort]
        · have hinsert : ((service client).serve (.create record fields password)).run r = _ :=
            run_serveCreate client record hfaults hmask hmem hempty
          rw [hinsert, run_insertNew, principal_make hmem]
          cases hname : record.principal with
          | none => simp [← hmask, hmem, Request.HasLegalMask, hprincipal]
          | some name =>
            cases htaken : r.principals.contains name.text <;>
              simp [← hmask, hmem, Request.HasLegalMask, htaken, hduplicate]
      · simp [service, serveCreate, henter, ← hmask, hmem, Request.HasLegalMask]
    · simp [service, serveCreate, henter, hmask, Request.HasLegalMask]
  | modify record fields =>
    obtain ⟨name, hname⟩ := Option.isSome_iff_exists.mp hq
    rw [Request.call, hname] at henter
    have henter : (enter (.modify name.text fields)).run r = _ := henter
    by_cases hmask : fields = fields.forModify
    · by_cases hpolicy : .policy ∈ fields ∧ .policyClear ∈ fields
      · simp [service, serveModify, henter, hname, ← hmask, hpolicy, Request.HasLegalMask]
      · cases he : r.principals.get? name.text <;>
          simp [service, serveModify, henter, hname, ← hmask, hpolicy, run_entry, he,
            Request.HasLegalMask, hunknown]
    · simp [service, serveModify, henter, hname, hmask, Request.HasLegalMask]
  | get name fields =>
    rw [Request.call] at henter
    cases he : r.principals.get? name.text <;>
      simp [service, serveGet, henter, run_entry, he, Request.HasLegalMask, hunknown]
  | rename source target =>
    rw [Request.call] at henter
    cases htaken : r.principals.contains target.text
    · cases he : r.principals.get? source.text <;>
        simp [service, serveRename, henter, htaken, run_entry, he, Request.HasLegalMask, hunknown]
    · simp [service, serveRename, henter, htaken, Request.HasLegalMask, hduplicate]
  | changePassword name password =>
    rw [Request.call] at henter
    by_cases hempty : password = []
    · simp [service, serveChangePassword, henter, hempty, Request.HasLegalMask, hshort]
    · cases he : r.principals.get? name.text <;>
        simp [service, serveChangePassword, henter, hempty, run_entry, he, Request.HasLegalMask,
          hunknown]
  | delete name =>
    rw [Request.call] at henter
    cases he : r.principals.get? name.text <;>
      simp [service, serveDelete, henter, run_entry, he, Request.HasLegalMask, hunknown]
  | list filter =>
    rw [Request.call] at henter
    rw [run_serveList hfaults]
    split <;> simp [Request.HasLegalMask, hfailure]
  | privileges =>
    rw [Request.call] at henter
    simp [service, servePrivileges, henter, Request.HasLegalMask]

/-- A legal mask is called bad only by a fault. -/
theorem badMask_of_refused (hq : q.IsAddressed) (hmask : q.HasLegalMask)
    (h : ((service client).serve q).run r = .error .badMask r') :
    .badMask ∈ r.faults q.call.kind := by
  cases hfaults : r.faults q.call.kind with
  | nil => exact absurd hmask ((serve_badMask_iff hfaults hq).mp ⟨r', h⟩)
  | cons fault rest =>
    rw [run_serve_fault hq hfaults] at h
    obtain ⟨rfl, -⟩ : fault = .badMask ∧ _ := by simpa using h
    exact List.mem_cons_self

/-- Of changes with legal masks, one is called bad only by a fault. -/
theorem badMask_of_deliver (hqs : ∀ q ∈ qs, q.IsChange ∧ q.HasLegalMask)
    (h : ((service client).deliver qs r).refusal = some .badMask) :
    ∃ kind, .badMask ∈ r.faults kind := by
  induction qs generalizing r with
  | nil => cases h
  | cons q qs ih =>
    obtain ⟨hchange, hmask⟩ := hqs q List.mem_cons_self
    cases hserve : ((service client).serve q).run r with
    | error status r' =>
      rw [Service.deliver_cons_error hserve] at h
      obtain rfl : status = .badMask := Option.some.inj h
      exact ⟨q.call.kind, badMask_of_refused hchange.isAddressed hmask hserve⟩
    | ok a r' =>
      have hfaults : r'.faults = r.faults := by
        rcases serve_sameStore hchange (.refl r) hserve with
          ⟨a', r₁, hserve', -, hfaults⟩ | ⟨fault, rest, -, hserve'⟩
        · obtain ⟨-, rfl⟩ : a = a' ∧ r' = r₁ := by simpa [hserve] using hserve'
          exact hfaults
        · simp [hserve] at hserve'
      rw [Service.deliver_cons_ok hserve] at h
      rw [← hfaults]
      exact ih (fun q hq => hqs q (List.mem_cons_of_mem _ hq)) h

/-- A read uses up faults, and fails with one of them. -/
theorem ReadRun.faults {name : Name} {fields : FieldSet}
    {result : EStateM.Result Failure Realm (Option Record)} (h : ReadRun name fields r result) :
    (∀ kind, (stateOf result).faults kind ⊆ r.faults kind) ∧
      ∀ f ∈ failureOf result, ∃ fault ∈ r.faults .get, f = .ofStatus fault := by
  have harmed {rest : List Status} {fault : Status} (hfaults : r.faults .get = fault :: rest)
      (kind : CallKind) : (if kind = .get then rest else r.faults kind) ⊆ r.faults kind := by
    split
    · next hkind =>
      rw [hkind, hfaults]
      exact List.subset_cons_self _ _
    · exact List.Subset.refl _
  cases h with
  | found hfaults hentry => exact ⟨fun kind => List.Subset.refl _, by simp⟩
  | missing hfaults hentry => exact ⟨fun kind => List.Subset.refl _, by simp⟩
  | pretended hfaults => exact ⟨harmed hfaults, by simp⟩
  | failed hfaults => exact ⟨harmed hfaults, by simp [hfaults]⟩

end Realm

/-! ## What a commit sends -/

namespace Principal

open Realm

variable {σ : Type} {p : Principal} {q : Request} {g : PasswordGenerator} {e : Entropy}

/-- Every request of a plan has a legal mask. -/
theorem Consistent.plan_legal (hp : p.Consistent) (h : q ∈ p.plan g e) : q.HasLegalMask := by
  unfold plan at h
  split at h
  · rcases mem_changes h with ⟨bytes, rfl⟩ | ⟨target, rfl⟩ | ⟨record, rfl, -⟩
    · trivial
    · trivial
    · refine ⟨FieldSet.ext_mem fun f => ?_, fun hboth => hp.policies ?_⟩
      · rw [FieldSet.mem_forModify, FieldSet.mem_erase]
        exact (and_iff_left_of_imp fun hf => hp.writable f hf.1 hf.2).symm
      · exact ⟨(FieldSet.mem_erase.mp hboth.1).1, (FieldSet.mem_erase.mp hboth.2).1⟩
  · obtain rfl := List.mem_singleton.mp h
    refine ⟨FieldSet.ext_mem fun f => ?_, by simp [creationFields, Field.allowedOnCreate]⟩
    simp [creationFields]

/-- Every request that a commit sends to a service has a legal mask. -/
theorem Consistent.commit_legal (hp : p.Consistent) (s : Session σ) (g : PasswordGenerator)
    (e : Entropy) (w : σ) {x : Exchange}
    (hx : x ∈ (stateOf ((Principal.commit s.recorded g e).run (p, (w, [])))).2.2) :
    x.request.HasLegalMask := by
  obtain ⟨reads, hreads, -, hrun⟩ := commit_recorded s g e hp w []
  rw [hrun, stateOf_onRecord, List.nil_append, List.mem_append] at hx
  rcases hx with hx | hx
  · obtain ⟨name, fields, hget⟩ := hreads x hx
    rw [hget]
    trivial
  · rw [sent] at hx
    cases hload : (Principal.load s).run (p, w) with
    | error f y => simp [hload] at hx
    | ok a y =>
      have hrun := load_run s p w
      rw [hload] at hx hrun
      have hp₁ : y.1.Consistent := hp.of_stagedAlike hrun.stagedAlike (hrun.known hp.known)
      exact hp₁.plan_legal (Delivery.request_mem hx)

variable {s : Session Realm} {client : Name} {r : Realm}

/-- Consulting the template uses up faults, and fails with one of them, or
because the template has no name. -/
theorem TemplateRun.faults {result : EStateM.Result Failure (Principal × Realm) Unit}
    (hs : s.service = service client) (h : TemplateRun s p r result) :
    (∀ kind, (stateOf result).2.faults kind ⊆ r.faults kind) ∧
      ∀ f ∈ failureOf result,
        f = .malformedName ∨ ∃ fault ∈ r.faults .get, f = .ofStatus fault := by
  cases h with
  | @unnamed f hname =>
    have hmalformed : f = .malformedName := by
      rw [Name.template, Name.make] at hname
      split at hname
      · cases hname
      · exact (Except.error.inj hname).symm
    exact ⟨fun kind => List.Subset.refl _, by simp [hmalformed]⟩
  | @refused template f w' hname hread =>
    have hrun := (run_fetch? hs template p.fieldsToRead r).faults
    rw [hread] at hrun
    exact ⟨hrun.1, fun f hf => .inr (hrun.2 f hf)⟩
  | @prefilled template record w' hname hread =>
    have hrun := (run_fetch? hs template p.fieldsToRead r).faults
    rw [hread] at hrun
    exact ⟨hrun.1, by simp⟩
  | @bare template w' hname hread =>
    have hrun := (run_fetch? hs template p.fieldsToRead r).faults
    rw [hread] at hrun
    exact ⟨hrun.1, by simp⟩

/-- A load uses up faults, and fails with one of them, or because the template
has no name. -/
theorem load_faults (hs : s.service = service client) (p : Principal) (r : Realm) :
    (∀ kind, (stateOf ((load s).run (p, r))).2.faults kind ⊆ r.faults kind) ∧
      ∀ f ∈ failureOf ((load s).run (p, r)),
        f = .malformedName ∨ ∃ fault ∈ r.faults .get, f = .ofStatus fault := by
  have hread := (run_fetch? hs p.id p.fieldsToRead r).faults
  have hload := load_run s p r
  generalize (load s).run (p, r) = result at hload ⊢
  cases hload with
  | kept hloaded => exact ⟨fun kind => List.Subset.refl _, by simp⟩
  | found hloaded hpresence hfetch =>
    rw [hfetch] at hread
    exact ⟨hread.1, by simp⟩
  | refused hloaded hpresence hfetch =>
    rw [hfetch] at hread
    exact ⟨hread.1, fun f hf => .inr (hread.2 f hf)⟩
  | @missing w' _ hloaded habsent htemplate =>
    have hread : ∀ kind, w'.faults kind ⊆ r.faults kind := by
      rcases habsent with ⟨-, rfl⟩ | ⟨-, hfetch⟩
      · exact fun kind => List.Subset.refl _
      · rw [hfetch] at hread
        exact hread.1
    obtain ⟨hused, hfails⟩ := htemplate.faults hs
    refine ⟨fun kind => List.Subset.trans (hused kind) (hread kind), fun f hf => (hfails f hf).imp_right ?_⟩
    rintro ⟨fault, hfault, rfl⟩
    exact ⟨fault, hread .get hfault, rfl⟩

/-- In a realm, a commit ends with the status for a bad mask only if a fault
with that status was laid. -/
theorem Consistent.badMask_of_commit (hp : p.Consistent) (hs : s.service = service client)
    {f : Failure} {x : Principal × Realm}
    (hrun : (Principal.commit s g e).run (p, r) = .error f x) (hstatus : f.status = .badMask) :
    ∃ kind, .badMask ∈ r.faults kind := by
  obtain ⟨hfaults, hfails⟩ := load_faults hs p r
  have hload := load_run s p r
  rw [run_commit s g e hp] at hrun
  cases h : (Principal.load s).run (p, r) with
  | error f' y =>
    obtain ⟨rfl, -⟩ : f' = f ∧ _ := by simpa [h] using hrun
    rcases hfails f' (by simp [h]) with rfl | ⟨fault, hfault, rfl⟩
    · exact absurd hstatus (by decide)
    · exact ⟨.get, hstatus ▸ hfault⟩
  | ok a y =>
    obtain ⟨p₁, r₁⟩ := y
    rw [h] at hfaults hload
    have hp₁ : p₁.Consistent := hp.of_stagedAlike hload.stagedAlike (hload.known hp.known)
    simp only [h, hs, Delivery.outcome] at hrun
    cases hrefusal : ((service client).deliver (p₁.plan g e) r₁).refusal with
    | none => simp [hrefusal] at hrun
    | some status =>
      obtain ⟨rfl, -⟩ : .ofStatus status = f ∧ _ := by simpa [hrefusal] using hrun
      obtain rfl : status = .badMask := hstatus
      obtain ⟨kind, hmem⟩ := badMask_of_deliver
        (fun q hq => ⟨isChange_of_mem_plan hq, hp₁.plan_legal hq⟩) hrefusal
      exact ⟨kind, hfaults kind hmem⟩

/-- **What always holds of a principal's stage keeps its commits within the
rules on masks**: nothing that is dirty is dropped from a modification, every
service gets legal masks only, and no realm calls one bad, unless a fault with
that status was laid. -/
theorem commit_masks (hp : Reachable p) :
    p.Consistent ∧ p.dirty.forModify = p.dirty.erase .principal ∧
      (∀ {σ : Type} (s : Session σ) (g : PasswordGenerator) (e : Entropy) (w : σ),
        ∀ x ∈ (stateOf ((commit s.recorded g e).run (p, (w, [])))).2.2,
          x.request.HasLegalMask) ∧
      ∀ (s : Session Realm) (client : Name) (g : PasswordGenerator) (e : Entropy) (r : Realm)
        (f : Failure) (x : Principal × Realm), s.service = service client →
        (commit s g e).run (p, r) = .error f x → f.status = .badMask →
          ∃ kind, .badMask ∈ r.faults kind := by
  have hconsistent := hp.consistent
  refine ⟨hconsistent, hconsistent.forModify_dirty, fun s g e w x => ?_, ?_⟩
  · exact hconsistent.commit_legal s g e w
  · intro s client g e r f x hs hrun hstatus
    exact hconsistent.badMask_of_commit hs hrun hstatus

/-- A policy is staged, then its clearing in its place: the one change that is
sent carries the second field alone. -/
theorem commit_masks_of_cleared_policy :
    let jdoe : Name := ⟨["jdoe"], "R"⟩
    let p := (Edit.policy none).stage ((Edit.policy (some "strict")).stage (existing jdoe))
    let r : Realm :=
      { name := "R", principals := TextMap.empty.insert jdoe.text ⟨.named jdoe, [1]⟩ }
    let y := stateOf ((commit (Realm.session ⟨["admin"], "R"⟩).recorded ⟨[]⟩ ⟨fun _ => 0, 0⟩).run
      (p, (r, [])))
    Reachable p ∧ y.2.1.calls = [.get jdoe.text p.fieldsToRead,
      .modify jdoe.text (.single .policyClear)] ∧ ∀ x ∈ y.2.2, x.request.HasLegalMask := by
  intro jdoe p r y
  let c : Connection Realm := ⟨Realm.session ⟨["admin"], "R"⟩, ⟨[]⟩⟩
  have hset : Reachable ((Edit.policy (some "strict")).stage (existing jdoe)) :=
    .after (.existing jdoe) c (.edit (.policy (some "strict"))) r
  have hp : Reachable p := .after hset c (.edit (.policy none)) r
  exact ⟨hp, by decide, (commit_masks hp).2.2.1 _ _ _ _⟩

end Principal

end RealmAdmin
