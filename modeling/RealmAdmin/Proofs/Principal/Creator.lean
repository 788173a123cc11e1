/-
RealmAdmin.Proofs.Principal.Creator — a client that creates a principal.

A `Creator` asks for a new principal, prepares it, and commits it once; it may
stage what it likes but another name. `Creator.program` is what it runs beside a
service. `Creator.dialogue` is the same program taken one request at a time
(`run_dialogue`), and `Underway` is what holds of the principal until the last of
these requests, the one that creates it.
-/
import RealmAdmin.Proofs.Dialogue
import RealmAdmin.Proofs.Principal.Password

namespace RealmAdmin

open Principal

variable {σ : Type}

/-! ## Clients -/

/-- What a client does with a new principal before it commits it. -/
inductive Preparation where
  | setPassword (secret : Secret)
  | randomizePassword (e : Entropy)
  | edit (d : Edit)
  | load
  | ask (question : Question)

def Preparation.action : Preparation → Action
  | .setPassword secret => .setPassword secret
  | .randomizePassword e => .randomizePassword e
  | .edit d => .edit d
  | .load => .load
  | .ask question => .ask question

/-- The password that is staged after some preparations. -/
def Preparation.staged (g : PasswordGenerator) : List Preparation → Option Secret → Option Secret
  | [], before => before
  | .setPassword secret :: rest, _ => staged g rest (some secret)
  | .randomizePassword e :: rest, _ => staged g rest (some (g.generate e))
  | .edit _ :: rest, before | .load :: rest, before | .ask _ :: rest, before =>
    staged g rest before

/-- A client that creates a principal: who it is and where its session was opened,
how it generates passwords, and what it creates the principal with. -/
structure Creator where
  client : Name
  realm : String
  host : String
  port : UInt16
  generator : PasswordGenerator
  name : String
  password : Option String
  preparations : List Preparation
  entropy : Entropy

/-- Work on a principal that nobody looks at afterwards. -/
def Work.alone {α : Type} (x : Work σ α) (p : Principal) : Remote σ α := fun w =>
  match x.run (p, w) with
  | .ok a y => .ok a y.2
  | .error failure y => .error failure y.2

namespace Creator

/-- The client's connection to a service. -/
def connection (b : Creator) (S : Service σ) : Connection σ :=
  ⟨⟨S, b.client, b.realm, b.host, b.port⟩, b.generator⟩

/-- Take preparations in turn, whether they succeed or not. -/
def prepare (b : Creator) (S : Service σ) (preparations : List Preparation) (p : Principal) :
    Remote σ Principal := fun w =>
  let y := takeAll (b.connection S) (preparations.map (·.action)) (p, w)
  .ok y.1 y.2

/-- What the client runs. -/
def program (b : Creator) (S : Service σ) : Remote σ Unit := do
  let p ← (b.connection S).create b.name b.password
  let p ← b.prepare S b.preparations p
  Work.alone (commit (b.connection S).session b.generator b.entropy) p

/-- The password that is staged when the client commits, if one is. -/
def waiting? (b : Creator) : Option Secret :=
  Preparation.staged b.generator b.preparations ((b.password.filter (!·.isEmpty)).map .ofText)

/-- The password that the client sends: the one that is staged, or else one that its
commit generates. -/
def sent (b : Creator) : Secret := b.waiting?.getD (b.generator.generate b.entropy)

end Creator

/-! ## One request at a time -/

/-- A principal to be created, with a password if one is given. -/
def Principal.begun (id : Name) (password : Option String) : Principal :=
  match password.filter (!·.isEmpty) with
  | some password => (fresh id).setPassword (.ofText password)
  | none => fresh id

/-- Nothing is known of a principal that has just been begun, except for its name and for
the password that was given. -/
theorem Principal.begun_fields (id : Name) (password : Option String) :
    let p := Principal.begun id password
    p.id = id ∧ p.name = id ∧ p.presence = .absent ∧ p.loaded = false ∧ p.dirty = .empty ∧
      p.secret.pending? = (password.filter (!·.isEmpty)).map .ofText := by
  unfold Principal.begun
  cases password.filter (!·.isEmpty) <;> exact ⟨rfl, rfl, rfl, rfl, rfl, rfl⟩

/-- A new principal after the realm's template was asked for. -/
def Principal.consulted (p : Principal) : Except Status Record → Except Failure Principal
  | .ok defaults => .ok { p.refresh defaults with loaded := true }
  | .error status =>
    if status = .unknownPrincipal then .ok { p with loaded := true } else .error (.ofStatus status)

namespace Dialogue

/-- Go on only with the privileges for an operation. -/
def require (needed : Privileges) (operation : Operation) : Dialogue Unit := do
  let granted ← request .privileges
  if granted.contains needed then pure () else fail (.unauthorized operation)

/-- A principal to be created, whose name may not be taken. -/
def create (name realm : String) (password : Option String) : Dialogue Principal := do
  require .add .add
  let id ← ofExcept (Name.parse name realm)
  require .list .list
  let taken ← request (.list id.text)
  if taken.isEmpty then pure (Principal.begun id password) else fail .alreadyExists

/-- Load a principal that the service is known not to have: all there is to read is
the template. -/
def loadNew (p : Principal) : Dialogue (Except Failure Principal) :=
  if p.loaded then pure (.ok p)
  else match Name.template p.id.realm with
    | .error failure => pure (.error failure)
    | .ok template => .send (.get template p.fieldsToRead) fun answer => pure (p.consulted answer)

/-- Load a new principal; it stays as it is where that fails. -/
def tryLoadNew (p : Principal) : Dialogue Principal := do
  return (← loadNew p).toOption.getD p

def prepare (g : PasswordGenerator) (p : Principal) : Preparation → Dialogue Principal
  | .setPassword secret => pure (p.setPassword secret)
  | .randomizePassword e => pure (p.randomizePassword g e)
  | .edit d => pure (d.stage p)
  | .load | .ask _ => tryLoadNew p

def prepareAll (g : PasswordGenerator) : List Preparation → Principal → Dialogue Principal
  | [], p => pure p
  | a :: rest, p => do prepareAll g rest (← prepare g p a)

end Dialogue

open Dialogue

namespace Creator

/-- All that comes before the request that creates the principal. -/
def preparation (b : Creator) : Dialogue Principal := do
  let p ← create b.name b.realm b.password
  let p ← prepareAll b.generator b.preparations p
  ofExcept (← loadNew p)

/-- The request that creates the principal. -/
def submit (b : Creator) (p : Principal) : Dialogue Unit :=
  request (p.creation b.generator b.entropy)

/-- The client's program, halted at each request. -/
def dialogue (b : Creator) : Dialogue Unit := b.preparation >>= b.submit

end Creator

/-! ## New principals -/

/-- What holds of a principal that is about to be created under a name with this
password staged. -/
structure Underway (id : Name) (waiting : Option Secret) (p : Principal) : Prop where
  consistent : p.Consistent
  absent : p.presence = .absent
  id : p.id = id
  pendingName : p.pendingName = none
  waiting : p.secret.pending? = waiting

section

variable {id : Name} {waiting : Option Secret} {p p' : Principal}

theorem Underway.begun (id : Name) (password : Option String) :
    Underway id ((password.filter (!·.isEmpty)).map .ofText) (.begun id password) := by
  unfold Principal.begun
  cases password.filter (!·.isEmpty) with
  | none => exact ⟨fresh_consistent id, rfl, rfl, rfl, rfl⟩
  | some password => exact ⟨(fresh_consistent id).setPassword _, rfl, rfl, rfl, rfl⟩

theorem Underway.setPassword (h : Underway id waiting p) (secret : Secret) :
    Underway id (some secret) (p.setPassword secret) :=
  ⟨h.consistent.setPassword secret, h.absent, h.id, h.pendingName, rfl⟩

theorem Underway.stage (h : Underway id waiting p) (d : Edit) :
    Underway id waiting (d.stage p) := by
  obtain ⟨hid, hpresence, -⟩ := stage_same p d
  exact ⟨h.consistent.stage d, hpresence.trans h.absent, hid.trans h.id,
    (pendingName_stage p d).trans h.pendingName,
    (congrArg SecretSlot.pending? (secret_stage p d)).trans h.waiting⟩

/-- What a principal takes over from the template is not staged. -/
theorem Underway.of_stagedAlike (h : Underway id waiting p) (hstage : StagedAlike p p')
    (habsent : p'.presence = .absent) : Underway id waiting p' :=
  ⟨h.consistent.of_stagedAlike hstage fun _ => by simp [habsent], habsent, hstage.id.trans h.id,
    hstage.pendingName.trans h.pendingName, (congrArg _ hstage.secret).trans h.waiting⟩

theorem Underway.consulted (h : Underway id waiting p) {answer : Except Status Record}
    (hp' : p.consulted answer = .ok p') : Underway id waiting p' := by
  cases answer with
  | ok defaults =>
    obtain rfl := Except.ok.inj hp'
    have hstage := refresh_stagedAlike p defaults
    have hstage : StagedAlike p { p.refresh defaults with loaded := true } :=
      ⟨hstage.id, hstage.pendingName, hstage.secret, hstage.dirty, hstage.record⟩
    exact h.of_stagedAlike hstage h.absent
  | error status =>
    rw [Principal.consulted] at hp'
    split at hp'
    · obtain rfl := Except.ok.inj hp'
      exact h.of_stagedAlike ⟨rfl, rfl, rfl, rfl, fun f _ => .refl _ f⟩ h.absent
    · cases hp'

end

/-! ## What is asked on the way -/

section

variable {P : Protocol} {id : Name} {waiting : Option Secret} {p : Principal}

/-- A load keeps the principal underway. It fails only if the realm has no name, or
if a read is refused. -/
theorem follows_loadNew (hasks : ∀ name fields, P.asks (.get name fields))
    (h : Underway id waiting p) :
    (loadNew p).Follows P fun outcome => ∃ result, outcome = .ok result ∧
      (∀ p', result = .ok p' → Underway id waiting p') ∧
      ∀ failure, result = .error failure → id.realm = "" ∨
        ∃ name fields status, P.answers (.get name fields) (.error status) ∧
          status ≠ .unknownPrincipal := by
  unfold loadNew
  split
  · exact ⟨_, rfl, fun p' hp' => Except.ok.inj hp' ▸ h, by simp⟩
  · rw [Name.template_eq, h.id]
    by_cases hrealm : id.realm = ""
    · rw [if_pos hrealm]
      exact ⟨_, rfl, by simp, fun _ _ => .inl hrealm⟩
    · rw [if_neg hrealm]
      refine ⟨hasks _ _, fun answer hanswer => ⟨_, rfl, fun p' => h.consulted, ?_⟩⟩
      intro failure hfailure
      cases answer with
      | ok defaults => cases hfailure
      | error status =>
        refine .inr ⟨_, _, status, hanswer, fun hunknown => ?_⟩
        rw [Principal.consulted, if_pos hunknown] at hfailure
        cases hfailure

theorem follows_tryLoadNew (hasks : ∀ name fields, P.asks (.get name fields))
    (h : Underway id waiting p) : (tryLoadNew p).Follows P fun outcome =>
      ∃ p', outcome = .ok p' ∧ Underway id waiting p' := by
  refine .bind ((follows_loadNew hasks h).imp ?_)
  rintro _ ⟨result, rfl, hok, -⟩
  cases result with
  | ok p' => exact ⟨p', rfl, hok p' rfl⟩
  | error failure => exact ⟨p, rfl, h⟩

theorem follows_prepareAll (hasks : ∀ name fields, P.asks (.get name fields))
    (g : PasswordGenerator) {preparations : List Preparation} (h : Underway id waiting p) :
    (prepareAll g preparations p).Follows P fun outcome =>
      ∃ p', outcome = .ok p' ∧ Underway id (Preparation.staged g preparations waiting) p' := by
  induction preparations generalizing p waiting with
  | nil => exact ⟨p, rfl, h⟩
  | cons a rest ih =>
    have hload : (tryLoadNew p >>= prepareAll g rest).Follows P fun outcome =>
        ∃ p', outcome = .ok p' ∧ Underway id (Preparation.staged g rest waiting) p' := by
      refine .bind ((follows_tryLoadNew hasks h).imp ?_)
      rintro _ ⟨p', rfl, h'⟩
      exact ih h'
    cases a with
    | setPassword secret => exact ih (h.setPassword secret)
    | randomizePassword e => exact ih (h.setPassword (g.generate e))
    | edit d => exact ih (h.stage d)
    | load => exact hload
    | ask question => exact hload

/-- Whatever the service answers, a principal to be created is underway. -/
theorem follows_create (name realm : String) (password : Option String) :
    (create name realm password).Follows .any fun outcome =>
      ∀ p, outcome = .ok p → ∃ id waiting, Underway id waiting p := by
  refine follows_any_bind _ (fun a => ?_) (by simp)
  refine follows_any_bind _ (fun id => ?_) (by simp)
  refine follows_any_bind _ (fun a => ?_) (by simp)
  refine follows_any_bind _ (fun taken => ?_) (by simp)
  split
  · rintro _ ⟨⟩
    exact ⟨id, _, .begun id password⟩
  · rintro _ ⟨⟩

end

/-! ## The dialogue is the program -/

namespace Creator

variable {p : Principal} (b : Creator) (S : Service σ)

theorem run_require (needed : Privileges) (operation : Operation) :
    (require needed operation).run S = (b.connection S).require needed operation := by
  have hask : (request .privileges).run S = S.request .privileges := run_request S .privileges
  rw [require, Connection.require, Connection.may, bind_assoc, Dialogue.run_bind]
  refine (congrArg (· >>= _) hask).trans (bind_congr fun granted => ?_)
  rw [run_ite, pure_bind]
  rfl

theorem run_create :
    (create b.name b.realm b.password).run S = (b.connection S).create b.name b.password := by
  rw [create, Connection.create, Dialogue.run_bind, b.run_require]
  refine bind_congr fun _ => ?_
  rw [Dialogue.run_bind, run_ofExcept]
  refine bind_congr fun id => ?_
  rw [Dialogue.run_bind, b.run_require, Connection.list, bind_assoc]
  refine bind_congr fun _ => ?_
  have hask : (request (.list id.text)).run S = S.request (.list id.text) :=
    run_request S (.list id.text)
  rw [Dialogue.run_bind]
  refine (congrArg (· >>= _) hask).trans (bind_congr fun taken => ?_)
  rw [run_ite]
  unfold Principal.begun
  cases taken.isEmpty <;> cases b.password.filter (!·.isEmpty) <;> rfl

/-- A load makes no principal of a new one that is there, and keeps it where it fails. -/
theorem load_new (habsent : p.presence = .absent) (s : Session σ) (w : σ) :
    (stateOf ((load s).run (p, w))).1.presence = .absent ∧
      (failureOf ((load s).run (p, w)) ≠ none → (stateOf ((load s).run (p, w))).1 = p) := by
  have hmark : { p with presence := .absent } = p := by rw [← habsent]
  have hrun := load_run s p w
  generalize (load s).run (p, w) = result at hrun
  cases hrun with
  | kept hloaded => exact ⟨habsent, fun _ => rfl⟩
  | found hloaded hpresence hread => exact absurd habsent hpresence
  | refused hloaded hpresence hread => exact ⟨habsent, fun _ => rfl⟩
  | missing hloaded hknown htemplate =>
    rw [hmark] at htemplate
    refine ⟨htemplate.presence.trans habsent, fun hfailed => ?_⟩
    cases htemplate <;> first | rfl | exact absurd rfl hfailed

/-- A new principal is loaded as principals are. -/
theorem run_loadNew (habsent : p.presence = .absent) (w : σ) :
    ((loadNew p).run S).run w = match (load (b.connection S).session).run (p, w) with
      | .ok _ (p', w') => .ok (.ok p') w'
      | .error failure (_, w') => .ok (.error failure) w' := by
  have hmark : { p with presence := .absent } = p := by rw [← habsent]
  rw [run_load, loadNew, if_pos habsent, hmark]
  by_cases hloaded : p.loaded = true
  · rw [if_pos hloaded, if_pos hloaded]
    rfl
  · rw [if_neg hloaded, if_neg hloaded, run_loadTemplate]
    cases Name.template p.id.realm with
    | error failure => rfl
    | ok template =>
      dsimp only
      rw [Session.run_fetch?, run_send]
      have hserve : (b.connection S).session.service.serve = S.serve := rfl
      rw [hserve]
      cases (S.serve (.get template p.fieldsToRead)).run w with
      | ok defaults w' => rfl
      | error status w' =>
        by_cases hunknown : status = .unknownPrincipal <;> simp [Principal.consulted, hunknown] <;>
          rfl

theorem run_tryLoadNew (habsent : p.presence = .absent) :
    (tryLoadNew p).run S = fun w =>
      let y := stateOf ((load (b.connection S).session).run (p, w))
      .ok y.1 y.2 := by
  funext w
  change ((tryLoadNew p).run S).run w = _
  obtain ⟨-, hkept⟩ := load_new habsent (b.connection S).session w
  rw [tryLoadNew, Dialogue.run_bind, EStateM.run_bind, b.run_loadNew S habsent]
  cases hload : (load (b.connection S).session).run (p, w) with
  | ok a y => rfl
  | error failure y =>
    rw [hload] at hkept
    obtain rfl : y.1 = p := hkept (by simp)
    rfl

theorem run_prepareAll {id : Name} {waiting : Option Secret} (h : Underway id waiting p)
    (preparations : List Preparation) :
    (prepareAll b.generator preparations p).run S = b.prepare S preparations p := by
  induction preparations generalizing p waiting with
  | nil => rfl
  | cons a rest ih =>
    have hload : (tryLoadNew p >>= prepareAll b.generator rest).run S = fun w =>
        let y := takeAll (b.connection S) (rest.map (·.action))
          (stateOf ((load (b.connection S).session).run (p, w)))
        .ok y.1 y.2 := by
      have hnext : (tryLoadNew p).Follows .any fun outcome => ∀ p', outcome = .ok p' →
          (prepareAll b.generator rest p').run S = b.prepare S rest p' := by
        refine (follows_tryLoadNew (fun _ _ => trivial) h).imp ?_
        rintro _ ⟨p', rfl, h'⟩ _ ⟨⟩
        exact ih h'
      rw [run_bind_congr hnext, b.run_tryLoadNew S h.absent]
      rfl
    cases a with
    | setPassword secret => exact ih (h.setPassword secret)
    | randomizePassword e => exact ih (h.setPassword (b.generator.generate e))
    | edit d => exact ih (h.stage d)
    | load => exact hload
    | ask question =>
      refine hload.trans (funext fun w => ?_)
      rw [← stateOf_ask _ question]
      rfl

/-- The commit of a new principal loads it and sends the request that creates it. -/
theorem run_commit {id : Name} {waiting : Option Secret} (h : Underway id waiting p) :
    (do let p₁ ← ofExcept (← loadNew p); b.submit p₁).run S =
      Work.alone (commit (b.connection S).session b.generator b.entropy) p := by
  funext w
  obtain ⟨habsent, -⟩ := load_new h.absent (b.connection S).session w
  change (Dialogue.run S _).run w = _
  rw [Work.alone, Principal.run_commit _ _ _ h.consistent, Dialogue.run_bind, EStateM.run_bind,
    b.run_loadNew S h.absent]
  cases hload : (load (b.connection S).session).run (p, w) with
  | error failure y => rfl
  | ok a y =>
    obtain ⟨p₁, w₁⟩ := y
    rw [hload] at habsent
    have hpresence : p₁.presence ≠ .present := by
      rw [show p₁.presence = .absent from habsent]
      nofun
    dsimp only
    rw [plan, if_neg hpresence]
    have hask : ((b.submit p₁).run S).run w₁ = _ :=
      (congrArg (EStateM.run · w₁) (run_request S _)).trans (S.run_request _ w₁)
    refine hask.trans ?_
    have hservice : (b.connection S).session.service = S := rfl
    rw [hservice]
    cases hserve : (S.serve (p₁.creation b.generator b.entropy)).run w₁ with
    | ok a w₂ =>
      rw [outcome_cons_ok hserve]
      rfl
    | error status w₂ =>
      rw [outcome_cons_error hserve]
      rfl

/-- **The dialogue is the program**: beside every service they are the same. -/
theorem run_dialogue : b.dialogue.run S = b.program S := by
  rw [dialogue, preparation, bind_assoc, program, ← b.run_create]
  refine run_bind_congr ((follows_create ..).imp fun outcome houtcome p hp => ?_)
  obtain ⟨id, waiting, h⟩ := houtcome p hp
  rw [bind_assoc, ← b.run_prepareAll S h]
  refine run_bind_congr ((follows_prepareAll (fun _ _ => trivial) b.generator h).imp ?_)
  rintro _ ⟨p', rfl, h'⟩ _ ⟨⟩
  rw [bind_assoc, b.run_commit S h']

end Creator

end RealmAdmin
