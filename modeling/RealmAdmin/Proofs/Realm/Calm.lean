/-
RealmAdmin.Proofs.Realm.Calm — clients that create a principal in a calm realm.

In a calm realm no fault is laid, and clients may add and list principals. A calm realm
is ready for a name if the text of the name compiles as a filter. What a client is told
there on its way to a new principal is known: it goes on with the name, or it is told
that the name is taken (`follows_preparation`). Its last request creates the principal or
is told the same (`serve_creation`).
-/
import RealmAdmin.Proofs.Principal.Creator
import RealmAdmin.Proofs.Realm.Masks
import RealmAdmin.Proofs.Realm.Upkeep

namespace RealmAdmin

open Principal Realm

/-! ## Calm realms -/

namespace Realm

/-- A realm in which no fault is laid, and which lets its clients add and list
principals. -/
structure IsCalm (r : Realm) : Prop where
  faults : ∀ kind, r.faults kind = []
  add : r.privileges.contains .add = true
  list : r.privileges.contains .list = true

/-- A calm realm in which a name can be looked for. -/
structure IsReadyFor (r : Realm) (n : Name) : Prop where
  calm : r.IsCalm
  compiles : r.compiles n.text = true

variable {client n : Name} {r : Realm}

/-- A realm stays ready for a name if faults, privileges and what compiles stay the same. -/
theorem IsReadyFor.of_same {r' : Realm} (h : r.IsReadyFor n) (hfaults : r'.faults = r.faults)
    (hprivileges : r'.privileges = r.privileges) (hcompiles : r'.compiles = r.compiles) :
    r'.IsReadyFor n where
  calm := ⟨hfaults ▸ h.calm.faults, hprivileges ▸ h.calm.add, hprivileges ▸ h.calm.list⟩
  compiles := hcompiles ▸ h.compiles

/-- Requests leave a realm ready for a name. -/
theorem IsReadyFor.serve (h : r.IsReadyFor n) (client : Name) (q : Request) :
    (stateOf (((service client).serve q).run r)).IsReadyFor n := by
  refine Preserves.serve (P := (IsReadyFor · n)) (fun call r h => ?_)
    (fun r h => h.of_same rfl rfl rfl) (fun r name e h => h.of_same rfl rfl rfl)
    (fun r name h => h.of_same rfl rfl rfl) client q r h
  rw [run_enter, h.calm.faults]
  exact h.of_same rfl rfl rfl

theorem IsCalm.run_privileges (hr : r.IsCalm) :
    ((service client).serve .privileges).run r = .ok r.privileges (r.logged .privileges) := by
  rw [run_servePrivileges, hr.faults]

/-- A look for the name finds the stored texts that its text matches. -/
theorem IsReadyFor.run_list (h : r.IsReadyFor n) :
    ((service client).serve (.list n.text)).run r =
      .ok (r.principalNames.filter (Text.globMatches n.text)) (r.logged (.list n.text)) := by
  rw [run_serveList (h.calm.faults _), fullFilter_text, if_pos h.compiles]

/-- Who only asks, in realms that are ready for the name. -/
def asking (n : Name) : Dialogue.Protocol where
  asks := Request.IsQuestion
  answers q answer :=
    ∃ client r, r.IsReadyFor n ∧ answerOf (((service client).serve q).run r) = answer

theorem asking_get {name : Name} {fields : FieldSet} {status : Status}
    (h : (asking n).answers (.get name fields) (.error status)) : status = .unknownPrincipal := by
  obtain ⟨client, r, hr, hanswer⟩ := h
  have hrun : ((service client).serve (.get name fields)).run r = _ :=
    run_serveGet (hr.calm.faults _)
  rw [hrun] at hanswer
  cases he : r.principals.get? name.text with
  | none =>
    rw [he] at hanswer
    exact (Except.error.inj hanswer).symm
  | some e =>
    rw [he] at hanswer
    cases hanswer

end Realm

/-! ## Clients for a name -/

namespace Creator

/-- Whether this is the name that the client creates, with a password that is not
empty. -/
structure IsFor (b : Creator) (n : Name) : Prop where
  name : Name.parse b.name b.realm = .ok n
  password : b.sent.bytes ≠ []

/-- What comes of the preparation: a principal to be created, unless the name is taken. -/
def Prepares (b : Creator) (n : Name) : Except Failure Principal → Prop
  | .ok p => Underway n b.waiting? p
  | .error failure => failure = .alreadyExists

variable {b : Creator} {n : Name}

theorem follows_require_of_calm {needed : Privileges} {operation : Operation}
    (hgranted : ∀ r, IsCalm r → r.privileges.contains needed = true) :
    (Dialogue.require needed operation).Follows (asking n) fun outcome => outcome = .ok () := by
  refine .bind ⟨trivial, fun answer hanswer => ?_⟩
  obtain ⟨client, r, hr, rfl⟩ := hanswer
  rw [hr.calm.run_privileges]
  change Dialogue.Follows _ _ (if r.privileges.contains needed then pure () else _)
  rw [if_pos (hgranted r hr.calm)]
  rfl

/-- A client is let go on with a name unless it is told that the name is taken. -/
theorem follows_create_of_ready (h : b.IsFor n) :
    (Dialogue.create b.name b.realm b.password).Follows (asking n) fun outcome =>
      match outcome with
      | .ok p => Underway n ((b.password.filter (!·.isEmpty)).map .ofText) p
      | .error failure => failure = .alreadyExists := by
  refine .bind ((follows_require_of_calm fun r hr => hr.add).imp ?_)
  rintro _ rfl
  rw [h.name]
  change Dialogue.Follows _ _ (Dialogue.require .list .list >>= _)
  refine .bind ((follows_require_of_calm fun r hr => hr.list).imp ?_)
  rintro _ rfl
  refine .bind ⟨trivial, fun answer hanswer => ?_⟩
  obtain ⟨client, r, hr, rfl⟩ := hanswer
  rw [hr.run_list]
  change Dialogue.Follows _ _ (if List.isEmpty _ then pure (Principal.begun n b.password) else _)
  split
  · exact .begun n b.password
  · exact rfl

theorem follows_preparation (h : b.IsFor n) :
    b.preparation.Follows (asking n) (b.Prepares n) := by
  have hasks (name : Name) (fields : FieldSet) : (asking n).asks (.get name fields) := trivial
  refine .bind ((follows_create_of_ready h).imp fun outcome houtcome => ?_)
  cases outcome with
  | error failure => exact houtcome
  | ok p =>
    refine .bind ((follows_prepareAll hasks b.generator houtcome).imp ?_)
    rintro _ ⟨p', rfl, h'⟩
    refine .bind ((follows_loadNew hasks h').imp ?_)
    rintro _ ⟨result, rfl, hok, hfail⟩
    cases result with
    | ok p₁ => exact hok p₁ rfl
    | error failure =>
      rcases hfail failure rfl with hrealm | ⟨name, fields, status, hanswer, hknown⟩
      · exact absurd hrealm (Name.isValid_of_parse h.name).2.2
      · exact absurd (asking_get hanswer) hknown

/-- What a calm realm answers to the request that creates the principal. -/
theorem serve_creation (h : b.IsFor n) {p : Principal} (hp : Underway n b.waiting? p)
    (client : Name) {r : Realm} (hr : r.IsCalm) :
    let result := ((service client).serve (p.creation b.generator b.entropy)).run r
    if r.principals.contains n.text then
      answerOf result = .error .duplicate ∧ (stateOf result).principals = r.principals
    else answerOf result = .ok () ∧ (stateOf result).principals.contains n.text = true := by
  have hname : p.name = n := by rw [Principal.name, hp.pendingName, hp.id, Option.getD_none]
  have hmask : (p.creation b.generator b.entropy).HasLegalMask :=
    hp.consistent.plan_legal (by rw [plan, if_neg (by simp [hp.absent])]; exact List.mem_cons_self)
  have hsent : (p.secret.pending?.getD (b.generator.generate b.entropy)).bytes ≠ [] := by
    rw [hp.waiting]
    exact h.password
  have hrun : ((service client).serve (p.creation b.generator b.entropy)).run r = _ :=
    run_serveCreate client { p.record with principal := some p.name } (hr.faults .create) hmask.1
      hmask.2 hsent
  rw [run_insertNew, principal_make hmask.2] at hrun
  rw [hrun]
  dsimp only
  rw [principals_ticked, principals_logged, hname]
  cases r.principals.contains n.text with
  | true => exact ⟨rfl, rfl⟩
  | false =>
    refine ⟨rfl, ?_⟩
    change (TextMap.insert _ n.text _).contains n.text = true
    exact TextMap.contains_of_get? (TextMap.get?_insert_self ..)

end Creator

end RealmAdmin
