/-
RealmAdmin.Proofs.Realm.Deliver — changes that meet faults, and changes that
do not.

What a realm makes of a change depends on what it stores, on its clock, and on
its faults, and on nothing else. So requests that are carried out in one realm
are carried out in every realm that stores the same, with the same result, up
to the first fault that was laid for one of them (`deliver_sameStore`). Of the
record in a request a realm looks at the fields that the request carries
(`deliver_trimmed`).
-/
import RealmAdmin.Proofs.Principal.Plan
import RealmAdmin.Proofs.Realm.Load

namespace RealmAdmin

/-- Whether the request creates or changes a principal that it names. -/
def Request.IsChange : Request → Prop
  | .create .. | .rename .. | .changePassword .. => True
  | .modify record _ => record.principal.isSome = true
  | .get .. | .delete _ | .list _ | .privileges => False

theorem Request.IsChange.isAddressed {q : Request} (hq : q.IsChange) : q.IsAddressed := by
  cases q with
  | modify record fields => exact hq
  | _ => trivial

/-- The request with nothing in its record but what it carries, and the name. -/
def Request.trimmed : Request → Request
  | .create record fields password =>
    .create (Record.blank.merge record (fields.insert .principal)) fields password
  | .modify record fields =>
    .modify (Record.blank.merge record (fields.insert .principal)) fields
  | q => q

namespace Realm

variable {client : Name} {r r' h h' : Realm} {q : Request} {qs : List Request}

/-! ## One change -/

/-- A change that is carried out in one realm is carried out in a realm that
stores the same, or meets a fault there. -/
theorem serve_sameStore (hq : q.IsChange) (hstore : SameStore h r) {a : q.Answer}
    (hok : ((service client).serve q).run h = .ok a h') :
    (∃ a' r', ((service client).serve q).run r = .ok a' r' ∧ SameStore h' r' ∧
        r'.faults = r.faults) ∨
      ∃ fault rest, r.faults q.call.kind = fault :: rest ∧
        ((service client).serve q).run r =
          .error fault ((r.logged q.call).armed q.call.kind rest) := by
  obtain ⟨hprincipals, hclock⟩ := hstore
  cases hfaults : r.faults q.call.kind with
  | cons fault rest => exact .inr ⟨fault, rest, rfl, run_serve_fault hq.isAddressed hfaults⟩
  | nil =>
    refine .inl ?_
    cases q with
    | create record fields password =>
      obtain ⟨-, hmask, hmem, hpassword, name, hname, hfree, rfl⟩ :=
        ((serveCreate_changes ..).1 _).mp hok
      refine ⟨(), _, ((serveCreate_changes ..).1 _).mpr
        ⟨hfaults, hmask, hmem, hpassword, name, hname, hprincipals ▸ hfree, rfl⟩, ?_, rfl⟩
      exact ⟨by simp [put, hprincipals, hclock], by simp [put, ticked, hclock]⟩
    | modify record fields =>
      obtain ⟨-, hmask, hpolicy, name, e, hname, he, rfl⟩ :=
        ((serveModify_changes ..).1 _).mp hok
      refine ⟨(), _, ((serveModify_changes ..).1 _).mpr
        ⟨hfaults, hmask, hpolicy, name, e, hname, hprincipals ▸ he, rfl⟩, ?_, rfl⟩
      exact ⟨by simp [put, hprincipals, hclock], by simp [put, ticked, hclock]⟩
    | rename source target =>
      obtain ⟨-, hfree, e, he, rfl⟩ := ((serveRename_changes ..).1 _).mp hok
      refine ⟨(), _, ((serveRename_changes ..).1 _).mpr
        ⟨hfaults, hprincipals ▸ hfree, e, hprincipals ▸ he, rfl⟩, ?_, rfl⟩
      exact ⟨by simp [put, drop, hprincipals, hclock], by simp [put, ticked, hclock]⟩
    | changePassword name password =>
      obtain ⟨-, hpassword, e, he, rfl⟩ := ((serveChangePassword_changes ..).1 _).mp hok
      refine ⟨(), _, ((serveChangePassword_changes ..).1 _).mpr
        ⟨hfaults, hpassword, e, hprincipals ▸ he, rfl⟩, ?_, rfl⟩
      exact ⟨by simp [put, hprincipals, hclock], by simp [put, ticked, hclock]⟩
    | get name fields => exact hq.elim
    | delete name => exact hq.elim
    | list filter => exact hq.elim
    | privileges => exact hq.elim

/-- A fault that a change has met is used up, and it was not one for a read. -/
theorem faults_armed (hq : q.IsChange) {fault : Status} {rest : List Status}
    (hfaults : r.faults q.call.kind = fault :: rest) :
    ((r.logged q.call).armed q.call.kind rest).faultCount < r.faultCount ∧
      ((r.logged q.call).armed q.call.kind rest).faults .get = r.faults .get := by
  cases q with
  | create record fields password => simp_all [faultCount, armed, logged, Request.call, Call.kind]
  | modify record fields => simp_all [faultCount, armed, logged, Request.call, Call.kind]
  | rename source target => simp_all [faultCount, armed, logged, Request.call, Call.kind]
  | changePassword name password =>
    simp_all [faultCount, armed, logged, Request.call, Call.kind]
  | get name fields => exact hq.elim
  | delete name => exact hq.elim
  | list filter => exact hq.elim
  | privileges => exact hq.elim

/-! ## Many changes -/

/-- Changes that are carried out in one realm are carried out in a realm that
stores the same, up to the first that meets a fault there. -/
theorem deliver_sameStore : ∀ {qs : List Request} {h r : Realm}, (∀ q ∈ qs, q.IsChange) →
    SameStore h r → ((service client).deliver qs h).refusal = none →
      (((service client).deliver qs r).refusal = none ∧
        SameStore ((service client).deliver qs h).world ((service client).deliver qs r).world) ∨
      ∃ status d, (service client).deliver qs r = d ∧ d.refusal = some status ∧
        ((service client).deliver (qs.take d.carriedOut) h).refusal = none ∧
        SameStore ((service client).deliver (qs.take d.carriedOut) h).world d.world ∧
        d.world.faultCount < r.faultCount ∧ d.world.faults .get = r.faults .get
  | [], h, r, _, hstore, _ => .inl ⟨rfl, hstore⟩
  | q :: qs, h, r, hqs, hstore, hdone => by
    have hq := hqs q List.mem_cons_self
    cases hserve : ((service client).serve q).run h with
    | error status h' =>
      rw [Service.deliver_cons_error hserve] at hdone
      cases hdone
    | ok a h' =>
      rw [Service.deliver_cons_ok hserve] at hdone
      rcases serve_sameStore hq hstore hserve with
        ⟨a', r', hserve', hstore', hfaults⟩ | ⟨fault, rest, hfaults, hserve'⟩
      · have hrest := deliver_sameStore (fun q hq => hqs q (List.mem_cons_of_mem _ hq)) hstore' hdone
        rw [Service.deliver_cons_ok hserve, Service.deliver_cons_ok hserve']
        rcases hrest with ⟨hnone, hworld⟩ | ⟨status, d, hd, hrefused, htake, hworld, hcount, hget⟩
        · exact .inl ⟨hnone, hworld⟩
        · subst hd
          refine .inr ⟨status, _, rfl, hrefused, ?_⟩
          rw [List.take_succ_cons, Service.deliver_cons_ok hserve]
          have hcount' : r'.faultCount = r.faultCount := by simp [faultCount, hfaults]
          exact ⟨htake, hworld, hcount' ▸ hcount, hget.trans (congrFun hfaults .get)⟩
      · obtain ⟨hcount, hget⟩ := faults_armed hq hfaults
        rw [Service.deliver_cons_error hserve']
        exact .inr ⟨fault, _, rfl, rfl, rfl, hstore.trans (sameStore_armed ..), hcount, hget⟩

/-- Where no fault is laid, changes that are carried out in one realm are all
carried out in a realm that stores the same. -/
theorem deliver_healthy (hqs : ∀ q ∈ qs, q.IsChange) (hstore : SameStore h r)
    (hdone : ((service client).deliver qs h).refusal = none) :
    ((service client).deliver qs r.healthy).refusal = none ∧
      SameStore ((service client).deliver qs h).world
        ((service client).deliver qs r.healthy).world := by
  rcases deliver_sameStore hqs (hstore.trans (sameStore_healthy r)) hdone with
    hall | ⟨status, d, -, -, -, -, hcount, -⟩
  · exact hall
  · simp [faultCount] at hcount

/-! ## What a change looks at -/

theorem agreeAt_trimmed {record : Record} {fields : FieldSet} {f : Field}
    (hf : f ∈ fields.insert .principal) :
    (Record.blank.merge record (fields.insert .principal)).AgreeAt record f :=
  Record.agreeAt_merge_of_mem hf

theorem serveCreate_trimmed (client : Name) (record : Record) (fields : FieldSet)
    (password : List UInt8) :
    serveCreate client (Record.blank.merge record (fields.insert .principal)) fields password =
      serveCreate client record fields password := by
  have hname : (Record.blank.merge record (fields.insert .principal)).principal =
      record.principal := agreeAt_trimmed (f := .principal) (by simp)
  have hmerge (base : Record) :
      base.merge (Record.blank.merge record (fields.insert .principal)) fields =
        base.merge record fields :=
    Record.merge_congr fun f hf => agreeAt_trimmed (by simp [hf])
  unfold serveCreate
  simp only [hname, hmerge]

theorem serveModify_trimmed (client : Name) (record : Record) (fields : FieldSet) :
    serveModify client (Record.blank.merge record (fields.insert .principal)) fields =
      serveModify client record fields := by
  have hname : (Record.blank.merge record (fields.insert .principal)).principal =
      record.principal := agreeAt_trimmed (f := .principal) (by simp)
  have hmerge (base : Record) :
      base.merge (Record.blank.merge record (fields.insert .principal)) fields =
        base.merge record fields :=
    Record.merge_congr fun f hf => agreeAt_trimmed (by simp [hf])
  unfold serveModify
  simp only [hname, hmerge]

/-- A realm takes the trimmed requests as it takes the requests. -/
theorem deliver_trimmed (client : Name) : ∀ (qs : List Request) (r : Realm),
    (service client).deliver (qs.map Request.trimmed) r = (service client).deliver qs r
  | [], _ => rfl
  | q :: qs, r => by
    have ih := deliver_trimmed client qs
    rw [List.map_cons]
    cases q with
    | create record fields password =>
      have hserve : ((service client).serve (.create
          (Record.blank.merge record (fields.insert .principal)) fields password)).run r =
          ((service client).serve (.create record fields password)).run r :=
        congrArg (EStateM.run · r) (serveCreate_trimmed client record fields password)
      simp only [Service.deliver, Request.trimmed, ih]
      rw [hserve]
      cases ((service client).serve (.create record fields password)).run r <;> rfl
    | modify record fields =>
      have hserve : ((service client).serve (.modify
          (Record.blank.merge record (fields.insert .principal)) fields)).run r =
          ((service client).serve (.modify record fields)).run r :=
        congrArg (EStateM.run · r) (serveModify_trimmed client record fields)
      simp only [Service.deliver, Request.trimmed, ih]
      rw [hserve]
      cases ((service client).serve (.modify record fields)).run r <;> rfl
    | _ => simp only [Service.deliver, Request.trimmed, ih]

end Realm

/-! ## What a commit sends -/

namespace Principal

variable {p : Principal} {g : PasswordGenerator} {e : Entropy} {q : Request}

theorem isChange_of_mem_changes (h : q ∈ p.changes) : q.IsChange := by
  rcases mem_changes h with ⟨bytes, rfl⟩ | ⟨target, rfl⟩ | ⟨record, rfl, hname⟩
  · trivial
  · trivial
  · exact Option.isSome_iff_exists.mpr ⟨p.name, hname⟩

theorem isChange_of_mem_plan (h : q ∈ p.plan g e) : q.IsChange := by
  unfold plan at h
  split at h
  · exact isChange_of_mem_changes h
  · obtain rfl := List.mem_singleton.mp h
    trivial

end Principal

end RealmAdmin
