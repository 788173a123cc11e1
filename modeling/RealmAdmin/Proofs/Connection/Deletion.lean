/-
RealmAdmin.Proofs.Connection.Deletion — what is left of a principal that was deleted.

A deletion takes the entry under the principal's own name out of the realm, whatever name
is staged, or it leaves both sides as they were (`deletion_changes`). The principal is
`Cleared` then: it is absent, and at most a password is staged for it. It stays so as long
as nothing is set and no commit succeeds (`Idle.cleared`), and what it takes over from the
template meanwhile is not staged. So the next commit that succeeds has nothing to send but
the name and a password, and the realm makes the rest of the record (`Cleared.commit`).
-/
import RealmAdmin.Proofs.Principal.Creator
import RealmAdmin.Proofs.Realm.Settled

namespace RealmAdmin

open Realm

variable {σ : Type}

/-- The entry of a principal that was created with a name and a password alone: the rest
is the realm's. -/
def Entry.anew (client : Name) (now : Int64) (id : Name) (password : List UInt8) : Entry where
  record := {
    Record.named id with
    keyVersion := 1, lastPasswordChange := now, modifyTime := now, modifier := some client }
  password := password

/-- Where only the name is requested, the rest of the record is not looked at. -/
theorem Entry.make_principal (client : Name) (now : Int64) {record : Record} {id : Name}
    (hname : record.principal = some id) (password : List UInt8) :
    Entry.make client now record (.single .principal) password = .anew client now id password := by
  have hfields : (FieldSet.single .principal).toList = [.principal] := by decide
  simp only [Entry.make, Record.merge, hfields, List.foldl_cons, List.foldl_nil, Record.copy, hname]
  rfl

namespace Principal

variable {g : PasswordGenerator} {id : Name} {staged : Option Secret} {p p' p₁ : Principal}

/-! ## After a deletion -/

/-- Whether an action that ended so has set nothing, and has committed nothing. -/
def Action.IsIdle : Action → (succeeded : Bool) → Prop
  | .setName _, _ | .setPassword _, _ | .randomizePassword _, _ | .edit _, _ => False
  | .commit _, succeeded => succeeded = false
  | .load, _ | .ask _, _ | .delete, _ => True

/-- What a principal can have become while nothing was set and no commit succeeded, with
its generator of passwords; each action was taken beside some outside world. -/
inductive Idle (g : PasswordGenerator) (p : Principal) : Principal → Prop
  | start : Idle g p p
  | after {σ : Type} {p' : Principal} (h : Idle g p p') (c : Connection σ)
      (hc : c.generator = g) (a : Action) (w : σ)
      (ha : a.IsIdle (succeeded ((a.run c).run (p', w)))) :
      Idle g p (stateOf ((a.run c).run (p', w))).1

/-- What holds of a principal that was deleted under its own name. A password that was
staged is still there, and where none was there may be one that a commit has generated. -/
structure Cleared (g : PasswordGenerator) (id : Name) (staged : Option Secret) (p : Principal) :
    Prop where
  id : p.id = id
  absent : p.presence = .absent
  pendingName : p.pendingName = none
  clean : p.dirty = .empty
  password : p.secret.pending? = staged ∨
    staged = none ∧ ∃ e, p.secret.pending? = some (g.generate e)

theorem cleared_deleted (g : PasswordGenerator) (p : Principal) :
    Cleared g p.id p.secret.pending? p.deleted :=
  ⟨rfl, rfl, rfl, rfl, .inl rfl⟩

theorem Cleared.consistent (h : Cleared g id staged p) : p.Consistent :=
  .of_nothing_staged h.pendingName h.clean fun _ => by simp [h.absent]

theorem Cleared.load (h : Cleared g id staged p) (s : Session σ) (w : σ) :
    Cleared g id staged (stateOf ((Principal.load s).run (p, w))).1 :=
  have hstage := load_stagedAlike s p w
  { id := hstage.id.trans h.id
    absent := (Creator.load_new h.absent s w).1
    pendingName := hstage.pendingName.trans h.pendingName
    clean := hstage.dirty.trans h.clean
    password := by rw [hstage.secret]; exact h.password }

/-- A commit that gets no further leaves the password that it has generated. -/
theorem Cleared.withPassword (h : Cleared g id staged p) (e : Entropy) :
    Cleared g id staged (p.withPassword g e) where
  id := by rw [withPassword_eq]; exact h.id
  absent := by rw [withPassword_eq]; exact h.absent
  pendingName := by rw [withPassword_eq]; exact h.pendingName
  clean := by rw [withPassword_eq]; exact h.clean
  password := by
    rw [pending?_withPassword]
    rcases h.password with hsame | ⟨hnone, e', hgenerated⟩
    · rw [hsame]
      cases staged with
      | some secret => exact .inl rfl
      | none => exact .inr ⟨rfl, e, rfl⟩
    · exact .inr ⟨hnone, e', by rw [hgenerated, Option.getD_some]⟩

/-- The one request that a commit plans for it. -/
theorem Cleared.plan (h : Cleared g id staged p) (e : Entropy) : p.plan g e =
    [.create { p.record with principal := some id } (.single .principal)
      (p.secret.pending?.getD (g.generate e)).bytes] := by
  have habsent : p.presence ≠ .present := by simp [h.absent]
  have hname : p.name = id := by rw [name, h.pendingName, Option.getD_none, h.id]
  have hfields : p.creationFields = .single .principal := by
    rw [creationFields, h.clean]
    decide
  rw [Principal.plan, if_neg habsent, creation, hname, hfields]

/-- A commit that fails keeps the principal as it was cleared. -/
theorem Cleared.commit_failed (h : Cleared g id staged p) (s : Session σ) (e : Entropy) (w : σ)
    (hfailed : succeeded ((commit s g e).run (p, w)) = false) :
    Cleared g id staged (stateOf ((commit s g e).run (p, w))).1 := by
  have hload := h.load s w
  rw [run_commit s g e h.consistent] at hfailed ⊢
  cases hrun : (Principal.load s).run (p, w) with
  | error f x =>
    rw [hrun] at hload
    exact hload
  | ok a x =>
    obtain ⟨p₁, w₁⟩ := x
    rw [hrun] at hload hfailed
    -- The load went well, so it is the creation that was refused.
    have hcleared : Cleared g id staged p₁ := hload
    have habsent : p₁.presence ≠ .present := by simp [hcleared.absent]
    dsimp only at hfailed ⊢
    rw [hcleared.plan e] at hfailed ⊢
    generalize Request.create _ _ _ = q at hfailed ⊢
    cases hserve : (s.service.serve q).run w₁ with
    | ok b w₂ =>
      rw [outcome_cons_ok hserve] at hfailed
      cases hfailed
    | error status w₂ =>
      rw [outcome_cons_error hserve, readied, if_neg habsent]
      exact hcleared.withPassword e

theorem Cleared.after (h : Cleared g id staged p) (c : Connection σ) (hc : c.generator = g)
    (a : Action) (w : σ) (ha : a.IsIdle (succeeded ((a.run c).run (p, w)))) :
    Cleared g id staged (stateOf ((a.run c).run (p, w))).1 := by
  cases a with
  | load => exact h.load c.session w
  | ask question =>
    rw [Action.run, stateOf_ask]
    exact h.load c.session w
  | commit e =>
    subst hc
    exact h.commit_failed c.session e w ha
  | delete =>
    rcases delete_run c p w with ⟨w', hrun⟩ | ⟨f, w', hrun⟩
    · rw [Action.run, hrun]
      exact ⟨h.id, rfl, rfl, rfl, h.password⟩
    · rw [Action.run, hrun]
      exact h
  | _ => exact ha.elim

/-- A principal that was deleted stays cleared until something is set or committed. -/
theorem Idle.cleared (hidle : Idle g p p') (h : Cleared g id staged p) :
    Cleared g id staged p' := by
  induction hidle with
  | start => exact h
  | after _ c hc a w ha ih => exact ih.after c hc a w ha

/-! ## The next commit -/

section

variable {s : Session Realm} {client : Name} {r r' r₁ : Realm} {e : Entropy}

/-- A commit that succeeds creates the principal anew, under a name that is free by now,
with a blank record and the password that is staged, or else a generated one. -/
theorem Cleared.commit (h : Cleared g id staged p) (hs : s.service = service client)
    (hok : (Principal.commit s g e).run (p, r) = .ok () (p', r')) :
    let password := (p.secret.pending?.getD (g.generate e)).bytes
    r.principals.contains id.text = false ∧
      r'.calls = r.calls ++
        (if p.loaded then [] else [.get (Name.text ⟨["default"], id.realm⟩) .readable]) ++
        [.create id.text (.single .principal)] ∧
      r'.principals = r.principals.insert id.text (.anew client (r.clock + 1) id password) := by
  intro password
  obtain ⟨p₁, r₁, hload, hstage, -, hdone⟩ := planned_of_commit h.consistent hok
  have hcalls := calls_load_absent hs h.absent hload
  have hstore := load_sameStore hs p r
  have hcleared := h.load s r
  rw [hload] at hstore hcleared
  have hcleared : Cleared g id staged p₁ := hcleared
  have hstored : r₁.principals = r.principals := hstore.principals
  have hclock : r₁.clock = r.clock := hstore.clock
  have hfields : p.fieldsToRead = .readable := by
    rw [fieldsToRead, h.clean]
    decide
  rw [h.id, hfields] at hcalls
  rw [hcleared.plan e, hs] at hdone
  cases hserve : ((service client).serve (.create { p₁.record with principal := some id }
      (.single .principal) (p₁.secret.pending?.getD (g.generate e)).bytes)).run r₁ with
  | error status r₂ =>
    rw [outcome_cons_error hserve] at hdone
    cases hdone
  | ok a r₂ =>
    rw [outcome_cons_ok hserve] at hdone
    obtain ⟨-, rfl⟩ : _ ∧ r₂ = r' := by simpa [Delivery.outcome] using hdone
    obtain ⟨-, -, -, -, name, hname, hfree, rfl⟩ := ((serveCreate_changes ..).1 _).mp hserve
    obtain rfl : id = name := Option.some.inj hname
    rw [hstored] at hfree
    refine ⟨hfree, ?_, ?_⟩
    · rw [← hcalls]
      rfl
    · -- What the load took over from the template is in the record, but not requested.
      rw [Entry.make_principal client _ hname, hclock, hstage.secret]
      exact congrArg (TextMap.insert · id.text _) hstored

/-- The password is the one that was staged before the deletion, if there was one. -/
theorem Cleared.password_bytes (h : Cleared g id staged p) (e : Entropy) :
    (∀ secret, staged = some secret →
      (p.secret.pending?.getD (g.generate e)).bytes = secret.bytes) ∧
    (staged = none → ∃ e', (p.secret.pending?.getD (g.generate e)).bytes = (g.generate e').bytes) := by
  rcases h.password with hsame | ⟨hnone, e', hgenerated⟩
  · rw [hsame]
    refine ⟨fun secret hsecret => by rw [hsecret, Option.getD_some], fun hnone => ⟨e, ?_⟩⟩
    rw [hnone, Option.getD_none]
  · rw [hnone, hgenerated]
    exact ⟨nofun, fun _ => ⟨e', by rw [Option.getD_some]⟩⟩

/-- **Deletions** of a principal with anything staged. A deletion that fails changes
neither the principal nor what is stored. One that succeeds has taken the entry under the
principal's own name, and nothing else, out of the realm, and nothing is staged any more
but perhaps a password. As long as nothing is set, the next commit that succeeds reads at
most the realm's template, unless the principal is loaded already, and creates an entry
under the same name; whatever the principal has loaded or had staged, there is nothing in
it but the name, what the realm puts there by itself, and the password that was staged, or
else a generated one. -/
theorem clean_deletion {c : Connection Realm} {admin : Name}
    (hc : c.session.service = service admin) (p : Principal) (r : Realm) :
    match (c.delete).run (p, r) with
    | .error _ (p', r') => p' = p ∧ r'.principals = r.principals
    | .ok _ (p', r') =>
      r.principals.contains p.id.text = true ∧ r'.principals = r.principals.erase p.id.text ∧
      p'.id = p.id ∧ p'.name = p'.id ∧ p'.dirty = .empty ∧ p'.isModified = true ∧
      ∀ (g : PasswordGenerator) (p₁ : Principal), Idle g p' p₁ →
      ∀ (s : Session Realm) (client : Name) (e : Entropy) (r₁ : Realm) (p₂ : Principal) (r₂ : Realm),
        s.service = service client → (Principal.commit s g e).run (p₁, r₁) = .ok () (p₂, r₂) →
        r₁.principals.contains p.id.text = false ∧
        r₂.calls = r₁.calls ++
          (if p₁.loaded then [] else [.get (Name.text ⟨["default"], p.id.realm⟩) .readable]) ++
          [.create p.id.text (.single .principal)] ∧
        ∃ password,
          r₂.principals =
            r₁.principals.insert p.id.text (.anew client (r₁.clock + 1) p.id password) ∧
          (∀ secret, p.secret.pending? = some secret → password = secret.bytes) ∧
          (p.secret.pending? = none → ∃ e', password = (g.generate e').bytes) := by
  have hdelete := deletion_changes hc p r
  cases hrun : (c.delete).run (p, r) with
  | error f y =>
    rw [hrun] at hdelete
    exact hdelete
  | ok a y =>
    obtain ⟨p', r'⟩ := y
    rw [hrun] at hdelete
    obtain ⟨rfl, hstored, hgone⟩ := hdelete
    refine ⟨hstored, hgone, rfl, rfl, rfl, rfl, ?_⟩
    intro g p₁ hidle s client e r₁ p₂ r₂ hs hok
    have hcleared := hidle.cleared (cleared_deleted g p)
    obtain ⟨hfree, hcalls, hcreated⟩ := hcleared.commit hs hok
    exact ⟨hfree, hcalls, _, hcreated, hcleared.password_bytes e⟩

/-- A principal with a new name, a new lifetime and a new password staged, in a realm whose
template has a lifetime of its own: it is deleted, asked for its lifetime, and committed. -/
theorem clean_deletion_of_staged :
    let jdoe : Name := ⟨["jdoe"], "R"⟩
    let smith : Name := ⟨["smith"], "R"⟩
    let template : Name := ⟨["default"], "R"⟩
    let client : Name := ⟨["admin"], "R"⟩
    let c : Connection Realm := ⟨Realm.session client, ⟨[]⟩⟩
    let r : Realm := {
      name := "R"
      principals := (TextMap.empty.insert jdoe.text ⟨.named jdoe, [1]⟩).insert template.text
        ⟨{ Record.named template with maxLife := 3600 }, [2]⟩ }
    let p := ((Edit.maxLifetime (.hours 2)).stage (existing jdoe)).rename smith |>.setPassword ⟨[3]⟩
    let y := stateOf ((c.delete).run (p, r))
    let z := stateOf (((Action.ask .maxLifetime).run c).run y)
    let x := (Principal.commit c.session c.generator ⟨fun _ => 0, 0⟩).run z
    succeeded ((c.delete).run (p, r)) = true ∧ z.1.record.maxLife = 3600 ∧ succeeded x = true ∧
      (stateOf x).2.principals = z.2.principals.insert jdoe.text (.anew client 1700000001 jdoe [3]) := by
  intro jdoe smith template client c r p y z x
  have hends : succeeded ((c.delete).run (p, r)) = true := by decide
  have hdeleted : (c.delete).run (p, r) = .ok () (y.1, y.2) := eq_ok_of_succeeded hends
  have hidle : Idle c.generator y.1 z.1 := .after .start c rfl (.ask .maxLifetime) y.2 trivial
  have hcommitted : succeeded x = true := by decide
  have hok : x = .ok () ((stateOf x).1, (stateOf x).2) := eq_ok_of_succeeded hcommitted
  have hc : c.session.service = service client := rfl
  have hclean := clean_deletion hc p r
  rw [hdeleted] at hclean
  obtain ⟨-, -, -, -, -, -, hnext⟩ := hclean
  obtain ⟨-, -, password, hstored, hsame, -⟩ := hnext c.generator z.1 hidle c.session client
    ⟨fun _ => 0, 0⟩ z.2 (stateOf x).1 (stateOf x).2 hc hok
  have hpassword : password = [3] := hsame ⟨[3]⟩ (by decide)
  have hclock : z.2.clock + 1 = 1700000001 := by decide
  rw [hpassword, hclock] at hstored
  exact ⟨hends, by decide, hcommitted, hstored⟩

end

end Principal

end RealmAdmin
