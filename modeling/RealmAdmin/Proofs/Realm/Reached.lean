/-
RealmAdmin.Proofs.Realm.Reached — the realms that calls lead to.

`Event` lists what can happen to a realm: it is arranged, a session is opened in
it, it is sent a request. A realm is `Reached` if it is new, or if something has
happened to one that is reached; which events are allowed is a parameter. Only
two ways of arranging a realm change its principals (`principals_arranged`).
-/
import RealmAdmin.Proofs.Realm.Serve

namespace RealmAdmin

/-- The names that a request is about. -/
def Request.names : Request → List Name
  | .get name _ | .changePassword name _ | .delete name => [name]
  | .create record _ _ | .modify record _ => record.principal.toList
  | .rename source target => [source, target]
  | .list _ | .privileges => []

/-- Whether each of these names has a component. -/
def Request.IsNamed (q : Request) : Prop := ∀ name ∈ q.names, name.components ≠ []

namespace Realm

/-- Something that happens to a realm. -/
inductive Event where
  | addPrincipal (name password : String)
  | updateRecord (name : String) (edit : Record → Record)
  | setPrivileges (privileges : Privileges)
  | setDefaultPrincipal (name : String)
  | addCache (cache name : String)
  | failNext (kind : CallKind) (fault : Status)
  | clearCalls
  | openWithPassword (client : Name) (password : List UInt8) (params : SessionParams)
  | openWithCache (cache : String) (params : SessionParams)
  | request (client : Name) (q : Request)

/-- The realm after an event, whether what was tried has succeeded or not. -/
def Event.run : Event → Realm → Realm
  | .addPrincipal name password, r => stateOf ((Realm.addPrincipal name password).run r)
  | .updateRecord name edit, r => stateOf ((Realm.updateRecord name edit).run r)
  | .setPrivileges privileges, r => r.setPrivileges privileges
  | .setDefaultPrincipal name, r => r.setDefaultPrincipal name
  | .addCache cache name, r => r.addCache cache name
  | .failNext kind fault, r => r.failNext kind fault
  | .clearCalls, r => r.clearCalls
  | .openWithPassword client password params, r =>
    stateOf ((Realm.openWithPassword client password params).run r)
  | .openWithCache cache params, r => stateOf ((Realm.openWithCache cache params).run r)
  | .request client q, r => stateOf (((service client).serve q).run r)

/-- A realm that allowed events lead to. -/
inductive Reached (allowed : Event → Prop) : Realm → Prop
  | new (name : String) (compiles : String → Bool := fun _ => true) :
    Reached allowed (new name compiles)
  | after {r : Realm} (h : Reached allowed r) (event : Event) (hallowed : allowed event) :
    Reached allowed (event.run r)

/-- Whether each name in a request has a component. -/
def Event.IsNamed : Event → Prop
  | .request _ q => q.IsNamed
  | _ => True

/-! ## What steps preserve -/

/-- Whether a step preserves a property of the realm, also when it fails. -/
def Preserves {α : Type} (P : Realm → Prop) (x : Step α) : Prop :=
  ∀ r, P r → P (stateOf (x.run r))

section

variable {α β : Type} {P : Realm → Prop}

theorem Preserves.bind {x : Step α} {f : α → Step β} (hx : Preserves P x)
    (hf : ∀ a, Preserves P (f a)) : Preserves P (x >>= f) := by
  intro r hr
  have hx := hx r hr
  rw [EStateM.run_bind]
  cases h : x.run r with
  | ok a r' =>
    rw [h] at hx
    exact hf a r' hx
  | error status r' =>
    rw [h] at hx
    exact hx

theorem Preserves.ite {p : Prop} [Decidable p] {x y : Step α} (hx : Preserves P x)
    (hy : Preserves P y) : Preserves P (if p then x else y) := by
  by_cases hp : p
  · rwa [if_pos hp]
  · rwa [if_neg hp]

theorem Preserves.get : Preserves P get := fun _ hr => hr

theorem Preserves.pure (a : α) : Preserves P (pure a : Step α) := fun _ hr => hr

theorem Preserves.throw (status : Status) : Preserves P (throw status : Step α) := fun _ hr => hr

/-- A step that goes on unless a condition forbids it. -/
theorem Preserves.guard {p : Prop} [Decidable p] (status : Status) {f : PUnit → Step α}
    (hf : Preserves P (f ⟨⟩)) :
    Preserves P (if p then MonadExcept.throw status >>= f else f ⟨⟩) :=
  .ite (fun _ hr => hr) hf

theorem Preserves.entry (name : Name) : Preserves P (entry name) := by
  refine Preserves.get.bind fun r => ?_
  cases r.principals.get? name.text with
  | none => exact .throw _
  | some e => exact .pure e

theorem Preserves.compile (filter : String) : Preserves P (compile filter) :=
  Preserves.get.bind fun _ => .ite (.pure _) (.throw _)

theorem Preserves.list (henter : ∀ call, Preserves P (enter call)) (filter : String) :
    Preserves P (serveList filter) :=
  (henter _).bind fun _ => (Preserves.compile filter).bind fun _ =>
    Preserves.get.bind fun _ => .pure _

theorem Preserves.insertNew (hput : ∀ (r : Realm) name e, P r → P (r.put name e)) (e : Entry) :
    Preserves P (insertNew e) := by
  intro r hr
  rw [run_insertNew]
  cases e.record.principal with
  | none => exact hr
  | some name =>
    dsimp only
    split
    · exact hr
    · exact hput r name e hr

end

/-- What entering calls preserves is preserved by requests, if the clock and the
principals play no part in it. -/
theorem Preserves.serve {P : Realm → Prop} (henter : ∀ call, Preserves P (enter call))
    (htick : ∀ r : Realm, P r → P r.ticked) (hput : ∀ (r : Realm) name e, P r → P (r.put name e))
    (hdrop : ∀ (r : Realm) name, P r → P (r.drop name)) (client : Name) (q : Request) :
    Preserves P ((service client).serve q) := by
  have htick : Preserves P tick := htick
  have hstore (name : Name) (e : Entry) : Preserves P (store name e) := fun r => hput r name e
  have hremove (name : Name) : Preserves P (remove name) := fun r => hdrop r name
  cases q with
  | get name fields => exact (henter _).bind fun _ => (Preserves.entry name).bind fun _ => .pure _
  | create record fields password =>
    refine (henter _).bind fun _ => .guard _ (.guard _ (.guard _ (htick.bind fun now => ?_)))
    exact .insertNew hput _
  | modify record fields =>
    change Preserves P (serveModify client record fields)
    unfold serveModify
    cases record.principal with
    | none => exact .throw _
    | some name =>
      refine (henter _).bind fun _ => .guard _ (.guard _ (htick.bind fun now => ?_))
      exact (Preserves.entry name).bind fun e => hstore name _
  | rename source target =>
    refine (henter _).bind fun _ => Preserves.get.bind fun r => .guard _ ?_
    refine (Preserves.entry source).bind fun e => (hremove source).bind fun _ => ?_
    exact htick.bind fun now => hstore target _
  | changePassword name password =>
    refine (henter _).bind fun _ => .guard _ (htick.bind fun now => ?_)
    exact (Preserves.entry name).bind fun e => hstore name _
  | delete name =>
    exact (henter _).bind fun _ => (Preserves.entry name).bind fun _ => hremove name
  | list filter => exact .list henter filter
  | privileges => exact (henter _).bind fun _ => Preserves.get.bind fun r => .pure _

theorem Preserves.checkRealm {P : Realm → Prop} (params : SessionParams) :
    Preserves P (checkRealm params) :=
  Preserves.get.bind fun _ => .ite (.throw _) (.pure _)

/-- What entering calls preserves is preserved by opening a session, if its parameters
play no part in it. -/
theorem Preserves.openWithPassword {P : Realm → Prop} (henter : ∀ call, Preserves P (enter call))
    {params : SessionParams} (hparams : ∀ r : Realm, P r → P { r with lastParams := some params })
    (client : Name) (password : List UInt8) :
    Preserves P (openWithPassword client password params) :=
  (henter _).bind fun _ => (Preserves.checkRealm params).bind fun _ =>
    Preserves.get.bind fun _ => .ite hparams (.throw _)

theorem Preserves.openWithCache {P : Realm → Prop} (henter : ∀ call, Preserves P (enter call))
    {params : SessionParams} (hparams : ∀ r : Realm, P r → P { r with lastParams := some params })
    (cache : String) : Preserves P (openWithCache cache params) := by
  refine (henter _).bind fun _ => (Preserves.checkRealm params).bind fun _ => ?_
  refine .bind (Preserves.get.bind fun r => ?_) fun _ => hparams
  cases r.caches.get? cache with
  | none => exact .throw _
  | some client => exact .pure client

/-! ## What arranging preserves -/

/-- Whether the event can change which principals are stored, or what is stored
of them. -/
def Event.IsWrite : Event → Prop
  | .addPrincipal .. | .updateRecord .. | .request .. => True
  | _ => False

section

variable {principals : TextMap Entry}

theorem preserves_principals_enter (call : Call) :
    Preserves (·.principals = principals) (enter call) := by
  intro r hr
  rw [run_enter]
  cases r.faults call.kind <;> exact hr

end

theorem principals_addCache (r : Realm) (cache name : String) :
    (r.addCache cache name).principals = r.principals := by
  unfold addCache
  split <;> rfl

/-- Arranging changes the principals in two ways only: one is added, or a stored
record is changed. -/
theorem principals_arranged {event : Event} (h : ¬ event.IsWrite) (r : Realm) :
    (event.run r).principals = r.principals := by
  cases event with
  | addCache cache name => exact principals_addCache r cache name
  | openWithPassword client password params =>
    exact Preserves.openWithPassword preserves_principals_enter (fun _ hr => hr) client password
      r rfl
  | openWithCache cache params =>
    exact Preserves.openWithCache preserves_principals_enter (fun _ hr => hr) cache r rfl
  | addPrincipal name password => exact absurd trivial h
  | updateRecord name edit => exact absurd trivial h
  | request client q => exact absurd trivial h
  | _ => rfl

end Realm

end RealmAdmin
