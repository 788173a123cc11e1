/-
RealmAdmin.Proofs.Refusal — a call that is refused is the last one.

A program passes refusals on (`PassesOn`) if of the calls that it adds to a
record, one that was refused is the last, and the program fails with what the
refusal reports. This holds of requests, and of programs made of programs that
pass refusals on (`PassesOn.bind`); so it holds of everything that is done with
a session or a connection, and of setting them up.

Work on a principal goes on after a refusal in one case: a load that is told
that there is no such principal. `Miss` says how it goes on, and
`refusals_passed_on` that there is no other case.
-/
import RealmAdmin.Proofs.Principal.Lazy

namespace RealmAdmin

variable {σ τ ε α β : Type}

/-! ## Passing refusals on -/

/-- Whether a program passes refusals on: of the calls that it adds to a record,
one that was refused is the last, and the program fails with what it reports. -/
def PassesOn (record : τ → List ε) (refusal : ε → Option Status) (x : EStateM Failure τ α) : Prop :=
  ∀ y, ∃ added, record (stateOf (x.run y)) = record y ++ added ∧
    ∀ before call after status, added = before ++ call :: after → refusal call = some status →
      after = [] ∧ failureOf (x.run y) = some (.ofStatus status)

section

variable {record : τ → List ε} {refusal : ε → Option Status} {x : EStateM Failure τ α}
  {f : α → EStateM Failure τ β}

/-- A program that makes no calls passes refusals on. -/
theorem PassesOn.of_no_calls (h : ∀ y, record (stateOf (x.run y)) = record y) :
    PassesOn record refusal x :=
  fun y => ⟨[], by simp [h y], by simp⟩

/-- A program that makes one call passes refusals on if it fails with the
refusal of that call. -/
theorem PassesOn.of_call (h : ∀ y, ∃ call, record (stateOf (x.run y)) = record y ++ [call] ∧
    ∀ status, refusal call = some status → failureOf (x.run y) = some (.ofStatus status)) :
    PassesOn record refusal x := by
  intro y
  obtain ⟨call, hrecord, hfails⟩ := h y
  refine ⟨[call], hrecord, fun before call' after status hsplit hrefused => ?_⟩
  obtain ⟨rfl, rfl, rfl⟩ : before = [] ∧ call = call' ∧ after = [] := by
    cases before <;> simp_all
  exact ⟨rfl, hfails status hrefused⟩

/-- What passes refusals on does so together with what comes after it, for each
answer that it can have. -/
theorem PassesOn.bind (hx : PassesOn record refusal x) (hf : ∀ a, PassesOn record refusal (f a)) :
    PassesOn record refusal (x >>= f) := by
  intro y
  obtain ⟨added, hadded, hlast⟩ := hx y
  cases h : x.run y with
  | error failure z =>
    rw [h] at hadded hlast
    exact ⟨added, by simpa [h] using hadded, by simpa [h] using hlast⟩
  | ok a z =>
    rw [h] at hadded hlast
    obtain ⟨more, hmore, hlast'⟩ := hf a z
    have hrun : (x >>= f).run y = (f a).run z := by simp [h]
    rw [hrun]
    refine ⟨added ++ more, by rw [hmore, ← List.append_assoc]; exact congrArg (· ++ more) hadded,
      fun before call after status hsplit hrefused => ?_⟩
    rcases List.append_eq_append_iff.mp hsplit with ⟨rest, -, hrest⟩ | ⟨rest, hfirst, hrest⟩
    · exact hlast' rest call after status hrest hrefused
    · cases rest with
      | nil => exact hlast' [] call after status (by simpa using hrest.symm) hrefused
      | cons call' rest =>
        -- The first program has ended well, so none of its calls was refused.
        obtain ⟨rfl, -⟩ : call = call' ∧ _ := by simpa using hrest
        obtain ⟨-, hfailed⟩ := hlast before call rest status hfirst hrefused
        cases hfailed

theorem PassesOn.pure (a : α) : PassesOn record refusal (pure a : EStateM Failure τ α) :=
  .of_no_calls fun _ => rfl

theorem PassesOn.throw (failure : Failure) :
    PassesOn record refusal (throw failure : EStateM Failure τ α) :=
  .of_no_calls fun _ => rfl

theorem PassesOn.discard (hx : PassesOn record refusal x) :
    PassesOn record refusal (Functor.discard x) := by
  have hdiscard : Functor.discard x = x >>= fun _ => Pure.pure () := rfl
  rw [hdiscard]
  exact hx.bind fun _ => .pure ()

end

theorem PassesOn.ofExcept {record : σ → List ε} {refusal : ε → Option Status}
    (x : Except Failure α) : PassesOn record refusal (Remote.ofExcept x) := by
  cases x with
  | ok a => exact .pure a
  | error failure => exact .throw failure

/-! ## Sessions and connections -/

/-- A program beside a record of its exchanges passes refusals on. -/
abbrev Remote.PassesOn (x : Remote (σ × List Exchange) α) : Prop :=
  RealmAdmin.PassesOn Prod.snd Exchange.refusal x

/-- A request passes its refusal on. -/
theorem Service.passesOn_request (S : Service σ) (q : Request) :
    Remote.PassesOn (S.recorded.request q) := by
  refine .of_call fun (w, log) => ?_
  rw [run_request, run_recorded]
  cases h : (S.serve q).run w with
  | ok a w' => exact ⟨⟨q, none⟩, rfl, by simp⟩
  | error status w' => exact ⟨⟨q, some status⟩, rfl, by simp⟩

namespace Connection

/-- Something to do with a session or a connection. -/
inductive Errand where
  | fetch (name : Name) (fields : FieldSet)
  | createRecord (record : Record) (fields : FieldSet) (password : Secret)
  | modify (record : Record) (fields : FieldSet)
  | rename (source target : Name)
  | changePassword (name : Name) (password : Secret)
  | deleteName (name : Name)
  | listNames (filter : String)
  | privileges
  | may (needed : Privileges)
  | list (filter : String)
  | create (name : String) (password : Option String)
  | get (filter : String)
  | getAll (filter : String)

/-- Do it; what it brings back does not matter here. -/
def Errand.run (c : Connection σ) : Errand → Remote σ Unit
  | .fetch name fields => discard (c.session.fetch name fields)
  | .createRecord record fields password => c.session.create record fields password
  | .modify record fields => c.session.modify record fields
  | .rename source target => c.session.rename source target
  | .changePassword name password => c.session.changePassword name password
  | .deleteName name => c.session.delete name
  | .listNames filter => discard (c.session.list filter)
  | .privileges => discard c.privileges
  | .may needed => discard (c.may needed)
  | .list filter => discard (c.list filter)
  | .create name password => discard (c.create name password)
  | .get filter => discard (c.get filter)
  | .getAll filter => discard (c.getAll filter)

theorem passesOn_may (c : Connection σ) (needed : Privileges) :
    Remote.PassesOn (c.recorded.may needed) :=
  (c.session.service.passesOn_request .privileges).bind fun _ => .pure _

theorem passesOn_require (c : Connection σ) (needed : Privileges) (operation : Operation) :
    Remote.PassesOn (c.recorded.require needed operation) := by
  refine (c.passesOn_may needed).bind fun granted => ?_
  cases granted with
  | true => exact .pure ()
  | false => exact .throw _

theorem passesOn_list (c : Connection σ) (filter : String) :
    Remote.PassesOn (c.recorded.list filter) :=
  (c.passesOn_require .list .list).bind fun _ => c.session.service.passesOn_request (.list filter)

theorem passesOn_create (c : Connection σ) (name : String) (password : Option String) :
    Remote.PassesOn (c.recorded.create name password) := by
  refine (c.passesOn_require .add .add).bind fun _ => (PassesOn.ofExcept _).bind fun id => ?_
  refine (c.passesOn_list id.text).bind fun names => ?_
  cases names with
  | cons name names => exact .of_no_calls fun _ => rfl
  | nil => cases password.filter (!·.isEmpty) <;> exact .of_no_calls fun _ => rfl

theorem passesOn_get (c : Connection σ) (filter : String) :
    Remote.PassesOn (c.recorded.get filter) := by
  refine (c.passesOn_require .get .get).bind fun _ => (c.passesOn_list filter).bind fun names => ?_
  match names with
  | [] => exact .throw _
  | [name] => exact (PassesOn.ofExcept _).bind fun _ => .pure _
  | name :: other :: names => exact .throw _

theorem passesOn_getAll (c : Connection σ) (filter : String) :
    Remote.PassesOn (c.recorded.getAll filter) :=
  (c.passesOn_require .get .get).bind fun _ => (c.passesOn_list filter).bind fun _ =>
    (PassesOn.ofExcept _).bind fun _ => .pure _

/-- Everything that is done with a session or a connection passes refusals on. -/
theorem Errand.passesOn (c : Connection σ) (errand : Errand) :
    Remote.PassesOn (errand.run c.recorded) := by
  have hrequest := c.session.service.passesOn_request
  cases errand with
  | fetch name fields => exact (hrequest (.get name fields)).discard
  | createRecord record fields password => exact hrequest (.create record fields password.bytes)
  | modify record fields => exact hrequest (.modify record fields)
  | rename source target => exact hrequest (.rename source target)
  | changePassword name password => exact hrequest (.changePassword name password.bytes)
  | deleteName name => exact hrequest (.delete name)
  | listNames filter => exact (hrequest (.list filter)).discard
  | privileges => exact (hrequest .privileges).discard
  | may needed => exact (c.passesOn_may needed).discard
  | list filter => exact (c.passesOn_list filter).discard
  | create name password => exact (c.passesOn_create name password).discard
  | get filter => exact (c.passesOn_get filter).discard
  | getAll filter => exact (c.passesOn_getAll filter).discard

end Connection

/-! ## Setting up -/

/-- A call with a note of how it ended: carried out, or refused. -/
def noted (x : EStateM Status σ α) : EStateM Status (σ × List (Option Status)) α :=
  fun (w, notes) =>
    match x.run w with
    | .ok a w' => .ok a (w', notes ++ [none])
    | .error status w' => .error status (w', notes ++ [some status])

/-- The service with notes of how its calls ended. -/
def Service.noted (S : Service σ) : Service (σ × List (Option Status)) :=
  ⟨fun q => RealmAdmin.noted (S.serve q)⟩

/-- The Kerberos library with notes of how its calls ended, and those of the
services that it opens. -/
def Authenticator.noted (a : Authenticator σ) : Authenticator (σ × List (Option Status)) where
  defaultPrincipal := RealmAdmin.noted a.defaultPrincipal
  defaultCache := a.defaultCache
  cachePrincipal cache := RealmAdmin.noted (a.cachePrincipal cache)
  openWithPassword client password params :=
    Service.noted <$> RealmAdmin.noted (a.openWithPassword client password params)
  openWithCache cache params := Service.noted <$> RealmAdmin.noted (a.openWithCache cache params)

/-- A program beside notes of its calls passes refusals on. -/
abbrev Remote.PassesOnNoted (x : Remote (σ × List (Option Status)) α) : Prop :=
  RealmAdmin.PassesOn Prod.snd id x

/-- A call passes its refusal on. -/
theorem passesOn_call (x : EStateM Status σ α) : (Remote.call (noted x)).PassesOnNoted := by
  refine .of_call fun (w, notes) => ?_
  have hnoted : (noted x).run (w, notes) = match x.run w with
      | .ok a w' => .ok a (w', notes ++ [none])
      | .error status w' => .error status (w', notes ++ [some status]) := rfl
  rw [Remote.run_call, hnoted]
  cases x.run w with
  | ok a w' => exact ⟨none, rfl, by simp⟩
  | error status w' => exact ⟨some status, rfl, by simp⟩

/-- So does a call that opens a service, together with what is done with it. -/
theorem passesOn_open (x : EStateM Status σ (Service σ))
    {f : Service (σ × List (Option Status)) → Remote (σ × List (Option Status)) α}
    (hf : ∀ S : Service σ, (f S.noted).PassesOnNoted) :
    (Remote.call (Service.noted <$> noted x) >>= f).PassesOnNoted := by
  have hmap : Remote.call (Service.noted <$> noted x) = Service.noted <$> Remote.call (noted x) := by
    funext y
    simp only [Remote.call, EStateM.adaptExcept, Functor.map, EStateM.map]
    cases noted x y <;> rfl
  rw [hmap, bind_map_left]
  exact (passesOn_call x).bind hf

theorem passesOn_resolveClient (config : Config) (realm : String) (a : Authenticator σ) :
    (config.resolveClient realm a.noted).PassesOnNoted := by
  unfold Config.resolveClient
  cases Config.given? config.client with
  | some client => exact (PassesOn.ofExcept _).bind fun _ => .pure _
  | none => exact (passesOn_call a.defaultPrincipal).bind fun _ => .pure _

/-- Setting up a session passes refusals on. -/
theorem passesOn_establish (config : Config) (a : Authenticator σ) (credentials : Credentials) :
    (Session.establish config a.noted credentials).PassesOnNoted := by
  have htry (S : Service σ) : (S.noted.request .privileges).PassesOnNoted :=
    passesOn_call (S.serve .privileges)
  refine (PassesOn.ofExcept _).bind fun realm => (PassesOn.ofExcept _).bind fun params => ?_
  cases credentials with
  | password secret =>
    simp only [Session.authenticate, bind_assoc, pure_bind]
    refine (passesOn_resolveClient config params.realm a).bind fun client => ?_
    exact passesOn_open _ fun S => (htry S).bind fun _ => .pure _
  | cache name =>
    simp only [Session.authenticate, bind_assoc, pure_bind]
    exact (passesOn_call _).bind fun client => passesOn_open _ fun S => (htry S).bind fun _ => .pure _

theorem passesOn_connect (config : Config) (a : Authenticator σ) (credentials : Credentials) :
    (Connection.connect config a.noted credentials).PassesOnNoted :=
  (PassesOn.ofExcept _).bind fun _ => (passesOn_establish config a credentials).bind fun _ => .pure _

/-! ## Work on a principal -/

/-- Work beside a record of its exchanges passes refusals on. -/
abbrev Work.PassesOn (x : Work (σ × List Exchange) α) : Prop :=
  RealmAdmin.PassesOn (fun y => y.2.2) Exchange.refusal x

theorem Work.passesOn_look : (Work.look (σ := σ × List Exchange)).PassesOn :=
  .of_no_calls fun _ => rfl

theorem Work.passesOn_change (step : Principal → Principal) :
    (Work.change (σ := σ × List Exchange) step).PassesOn :=
  .of_no_calls fun _ => rfl

/-- What passes refusals on does so on the way of some work. -/
theorem Remote.PassesOn.ask {x : Remote (σ × List Exchange) α} (hx : x.PassesOn) :
    (Work.ask x).PassesOn := by
  intro (p, w)
  obtain ⟨added, hadded, hlast⟩ := hx w
  rw [Work.run_ask]
  cases h : x.run w <;> rw [h] at hadded hlast <;> exact ⟨added, hadded, hlast⟩

namespace Principal

open Work

/-- A commit after its load. -/
def carryOut (s : Session σ) (g : PasswordGenerator) (e : Entropy) : Work σ Unit := do
  if (← look).presence = .present then
    commitPassword s
    commitName s
    commitFields s
  else commitCreation s g e

theorem commit_eq (s : Session σ) (g : PasswordGenerator) (e : Entropy) :
    commit s g e = (do load s; carryOut s g e) := by
  simp [commit, isStored, carryOut]

theorem passesOn_commitPassword (s : Session σ) : (commitPassword s.recorded).PassesOn := by
  refine passesOn_look.bind fun p => ?_
  cases p.secret.pending? with
  | none => exact .pure ()
  | some secret =>
    have hchange := (s.service.passesOn_request (.changePassword p.id secret.bytes)).ask
    exact hchange.bind fun _ => passesOn_change _

theorem passesOn_commitName (s : Session σ) : (commitName s.recorded).PassesOn := by
  refine passesOn_look.bind fun p => ?_
  split
  · cases p.pendingName with
    | none => exact passesOn_change _
    | some target =>
      exact (s.service.passesOn_request (.rename p.id target)).ask.bind fun _ => passesOn_change _
  · exact .pure ()

theorem passesOn_commitFields (s : Session σ) : (commitFields s.recorded).PassesOn := by
  refine passesOn_look.bind fun p => ?_
  dsimp only
  split
  · exact passesOn_change _
  · exact (s.service.passesOn_request (.modify _ _)).ask.bind fun _ => passesOn_change _

theorem passesOn_commitCreation (s : Session σ) (g : PasswordGenerator) (e : Entropy) :
    (commitCreation s.recorded g e).PassesOn := by
  refine (passesOn_change _).bind fun _ => passesOn_look.bind fun p => ?_
  cases p.secret.pending? with
  | none => exact passesOn_change _
  | some secret =>
    exact (s.service.passesOn_request (.create _ _ secret.bytes)).ask.bind fun _ => passesOn_change _

/-- What a commit does after its load passes refusals on. -/
theorem passesOn_carryOut (s : Session σ) (g : PasswordGenerator) (e : Entropy) :
    (carryOut s.recorded g e).PassesOn := by
  refine passesOn_look.bind fun p => ?_
  split
  · exact (passesOn_commitPassword s).bind fun _ => (passesOn_commitName s).bind fun _ =>
      passesOn_commitFields s
  · exact passesOn_commitCreation s g e

/-- The principal when its own record was not found. -/
def missing (p : Principal) : Principal := { p with presence := .absent }

/-- How a load goes on after a read that was refused because there is nobody of
that name; `failure` is what the load, or what it belongs to, fails with. -/
inductive Miss (s : Session σ) (p : Principal) (w : σ) (failure : Option Failure) :
    List Exchange → Request → List Exchange → Prop
  /-- The principal is missing, so the template of its realm is read next. -/
  | own {template : Name} {refusal : Option Status} {rest : List Exchange}
      (hpresence : p.presence ≠ .absent) (hname : Name.template p.id.realm = .ok template) :
      Miss s p w failure [] (.get p.id p.fieldsToRead)
        (⟨.get template p.fieldsToRead, refusal⟩ :: rest)
  /-- The principal is missing, and its realm has no name for a template. -/
  | unnamed {f : Failure} (hpresence : p.presence ≠ .absent)
      (hname : Name.template p.id.realm = .error f) (hfailure : failure = some f) :
      Miss s p w failure [] (.get p.id p.fieldsToRead) []
  /-- The template is missing: the principal is loaded as it is. -/
  | template {template : Name} {before after : List Exchange} {w' : σ}
      (hname : Name.template p.id.realm = .ok template)
      (hload : (load s.recorded).run (p, (w, [])) = .ok () ({ p.missing with loaded := true },
        (w', before ++ [⟨.get template p.fieldsToRead, some .unknownPrincipal⟩]))) :
      Miss s p w failure before (.get template p.fieldsToRead) after

/-- A miss stays one when more is done after a load that has ended well. -/
theorem Miss.append {s : Session σ} {p : Principal} {w : σ} {failure : Option Failure}
    {read : Request} {before after : List Exchange} (h : Miss s p w none before read after)
    (more : List Exchange) : Miss s p w failure before read (after ++ more) := by
  cases h with
  | own hpresence hname => exact .own hpresence hname
  | unnamed hpresence hname hfailure => cases hfailure
  | template hname hload => exact .template hname hload

/-- Whether the refusals among the calls that come after `earlier` ones are those
of work that begins with a load: each is the last call and what the work fails
with, or a miss of the load. -/
def Accounted (s : Session σ) (p : Principal) (w : σ) (failure : Option Failure)
    (earlier calls : List Exchange) : Prop :=
  ∀ before x after status, calls = before ++ x :: after → x.refusal = some status →
    after = [] ∧ failure = some (.ofStatus status) ∨ p.loaded = false ∧
      status = .unknownPrincipal ∧ Miss s p w failure (earlier ++ before) x.request after

section

variable {s : Session σ} {p : Principal} {w : σ} {failure : Option Failure}
  {earlier calls : List Exchange}

theorem Accounted.nil : Accounted s p w failure earlier [] := by
  intro before x after status hsplit
  simp at hsplit

/-- One call, and then the calls after it. -/
theorem Accounted.cons {x : Exchange}
    (hx : ∀ status, x.refusal = some status →
      calls = [] ∧ failure = some (.ofStatus status) ∨ p.loaded = false ∧
        status = .unknownPrincipal ∧ Miss s p w failure earlier x.request calls)
    (hcalls : Accounted s p w failure (earlier ++ [x]) calls) :
    Accounted s p w failure earlier (x :: calls) := by
  intro before y after status hsplit hrefused
  cases before with
  | nil =>
    obtain ⟨rfl, rfl⟩ : x = y ∧ calls = after := by simpa using hsplit
    rw [List.append_nil]
    exact hx status hrefused
  | cons z before =>
    obtain ⟨rfl, hrest⟩ : x = z ∧ calls = before ++ y :: after := by simpa using hsplit
    have hy := hcalls before y after status hrest hrefused
    rwa [List.append_assoc] at hy

/-- The calls of work that passes refusals on, after those of a load that has
ended well. -/
theorem Accounted.append {more : List Exchange} (hcalls : Accounted s p w none [] calls)
    (hmore : ∀ before x after status, more = before ++ x :: after → x.refusal = some status →
      after = [] ∧ failure = some (.ofStatus status)) :
    Accounted s p w failure [] (calls ++ more) := by
  intro before x after status hsplit hrefused
  rcases List.append_eq_append_iff.mp hsplit with ⟨rest, -, hrest⟩ | ⟨rest, hfirst, hrest⟩
  · exact .inl (hmore rest x after status hrest hrefused)
  · cases rest with
    | nil => exact .inl (hmore [] x after status (by simpa using hrest.symm) hrefused)
    | cons y rest =>
      obtain ⟨rfl, rfl⟩ : x = y ∧ after = rest ++ more := by simpa using hrest
      rcases hcalls before x rest status hfirst hrefused with ⟨-, hfailed⟩ | ⟨hloaded, hs, hmiss⟩
      · cases hfailed
      · exact .inr ⟨hloaded, hs, hmiss.append more⟩

end

/-- A load that turns to the template puts one read on record, if the realm has
a name. -/
theorem loadTemplate_accounted (s : Session σ) (p : Principal) (w : σ) {w' : σ}
    {earlier : List Exchange} (hunread : p.loaded = false)
    (hload : (load s.recorded).run (p, (w, [])) =
      (loadTemplate s.recorded).run (p.missing, (w', earlier))) :
    let result := (load s.recorded).run (p, (w, []))
    ∃ calls, (stateOf result).2.2 = earlier ++ calls ∧
      Accounted s p w (failureOf result) earlier calls ∧
      match Name.template p.id.realm with
      | .ok template => ∃ refusal, calls = [⟨.get template p.fieldsToRead, refusal⟩]
      | .error f => calls = [] ∧ failureOf result = some f := by
  intro result
  rw [run_loadTemplate] at hload
  cases hname : Name.template p.id.realm with
  | error f =>
    rw [show Name.template p.missing.id.realm = _ from hname] at hload
    exact ⟨[], by simp [result, hload], .nil, rfl, by simp [result, hload]⟩
  | ok template =>
    let read : Request := .get template p.fieldsToRead
    have hserve : (s.recorded.service.serve read).run (w', earlier) = _ :=
      s.service.run_recorded read w' earlier
    rw [show Name.template p.missing.id.realm = _ from hname] at hload
    dsimp only at hload
    rw [Session.run_fetch?, show p.missing.fieldsToRead = p.fieldsToRead from rfl, hserve] at hload
    cases hread : (s.service.serve read).run w' with
    | ok r w'' =>
      simp only [hread] at hload
      exact ⟨[⟨read, none⟩], by simp [result, hload], .cons (by simp) .nil, none, rfl⟩
    | error status w'' =>
      simp only [hread] at hload
      refine ⟨[⟨read, some status⟩], ?_, .cons (fun status' hrefused => ?_) .nil, some status, rfl⟩
      · by_cases hs : status = .unknownPrincipal <;> simp [result, hload, hs]
      · obtain rfl : status = status' := Option.some.inj hrefused
        by_cases hs : status = .unknownPrincipal
        · subst hs
          exact .inr ⟨hunread, rfl, .template hname hload⟩
        · exact .inl ⟨rfl, by simp [result, hload, hs]⟩

/-- The refusals of a load. -/
theorem load_accounted (s : Session σ) (p : Principal) (w : σ) :
    let result := (load s.recorded).run (p, (w, []))
    Accounted s p w (failureOf result) [] (stateOf result).2.2 := by
  intro result
  have hload := run_load s.recorded p (w, [])
  by_cases hloaded : p.loaded = true
  · rw [if_pos hloaded] at hload
    simpa [result, hload] using Accounted.nil
  rw [if_neg hloaded] at hload
  rw [Bool.not_eq_true] at hloaded
  by_cases hpresence : p.presence = .absent
  · rw [if_pos hpresence] at hload
    obtain ⟨calls, hrecord, hcalls, -⟩ := loadTemplate_accounted s p w hloaded hload
    rw [hrecord]
    exact hcalls
  · let read : Request := .get p.id p.fieldsToRead
    have hserve : (s.recorded.service.serve read).run (w, []) = _ := s.service.run_recorded read w []
    rw [if_neg hpresence, Session.run_fetch?, hserve] at hload
    cases hread : (s.service.serve read).run w with
    | ok r w' =>
      simp only [hread] at hload
      rw [show (stateOf result).2.2 = [⟨read, none⟩] by simp [result, hload]]
      exact .cons (by simp) .nil
    | error status w' =>
      simp only [hread] at hload
      by_cases hs : status = .unknownPrincipal
      · subst hs
        rw [if_pos rfl] at hload
        obtain ⟨calls, hrecord, hcalls, hnext⟩ := loadTemplate_accounted s p w hloaded hload
        rw [hrecord]
        refine .cons (fun status hrefused => ?_) hcalls
        obtain rfl : Status.unknownPrincipal = status := Option.some.inj hrefused
        refine .inr ⟨hloaded, rfl, ?_⟩
        cases hname : Name.template p.id.realm with
        | error f =>
          rw [hname] at hnext
          obtain ⟨rfl, hfailed⟩ := hnext
          exact .unnamed hpresence hname hfailed
        | ok template =>
          rw [hname] at hnext
          obtain ⟨refusal, rfl⟩ := hnext
          exact .own hpresence hname
      · rw [if_neg hs] at hload
        rw [show (stateOf result).2.2 = [⟨read, some status⟩] by simp [result, hload]]
        refine .cons (fun status' hrefused => .inl ⟨rfl, ?_⟩) .nil
        obtain rfl : status = status' := Option.some.inj hrefused
        simp [result, hload]

/-- Whether the action begins with a load. -/
def Action.Loads : Action → Prop
  | .load | .ask _ | .commit _ => True
  | .setName _ | .setPassword _ | .randomizePassword _ | .edit _ | .delete => False

/-- Asking a question is a load, as far as the service can tell. -/
theorem run_ask (s : Session σ) (question : Question) (y : Principal × σ) :
    (question.ask s).run y = (load s).run y := by
  have hdiscard : question.ask s = Functor.discard (question.get s) := by cases question <;> rfl
  have hmap : (Functor.discard (question.get s)).run y = ((fun _ => ()) <$> question.get s).run y := rfl
  rw [hdiscard, hmap, run_map, question.run_get]
  cases (load s).run y <;> rfl

/-- An action that loads is a load and then work that passes refusals on. -/
theorem Action.Loads.run_eq {a : Action} (ha : a.Loads) (c : Connection σ) :
    ∃ rest : Work (σ × List Exchange) Unit, rest.PassesOn ∧
      ∀ y, (a.run c.recorded).run y = (do Principal.load c.session.recorded; rest).run y := by
  have hload (y : Principal × (σ × List Exchange)) :
      (Principal.load c.session.recorded).run y =
        (do Principal.load c.session.recorded; pure ()).run y := by
    cases h : (Principal.load c.session.recorded).run y <;> simp [h]
  cases a with
  | load => exact ⟨pure (), .pure (), hload⟩
  | ask question => exact ⟨pure (), .pure (), fun y => (run_ask _ question y).trans (hload y)⟩
  | commit e =>
    refine ⟨carryOut c.session.recorded c.generator e, passesOn_carryOut _ _ e, fun y => ?_⟩
    exact congrArg (EStateM.run · y) (commit_eq c.session.recorded c.generator e)
  | _ => exact ha.elim

/-- The other actions pass refusals on. -/
theorem Action.passesOn {a : Action} (ha : ¬ a.Loads) (c : Connection σ) :
    (a.run c.recorded).PassesOn := by
  cases a with
  | setName text =>
    have hparse (x : Except Failure Name) :
        Remote.PassesOn (Remote.ofExcept x : Remote (σ × List Exchange) Name) := .ofExcept x
    exact (hparse _).ask.bind fun name => passesOn_change _
  | setPassword secret => exact passesOn_change (·.setPassword secret)
  | randomizePassword e => exact passesOn_change (·.randomizePassword c.generator e)
  | edit d => exact passesOn_change d.stage
  | delete =>
    refine (c.passesOn_require .delete .delete).ask.bind fun _ => passesOn_look.bind fun p => ?_
    exact (c.session.service.passesOn_request (.delete p.id)).ask.bind fun _ => passesOn_change _
  | _ => exact absurd trivial ha

/-- The refusals of an action on a principal: each is the last call and what the
action fails with, or a miss of its load. -/
theorem Action.accounted (c : Connection σ) (p : Principal) (a : Action) (w : σ) :
    let result := (a.run c.recorded).run (p, (w, []))
    ∀ before x after status, (stateOf result).2.2 = before ++ x :: after → x.refusal = some status →
      after = [] ∧ failureOf result = some (.ofStatus status) ∨ a.Loads ∧ p.loaded = false ∧
        status = .unknownPrincipal ∧ Miss c.session p w (failureOf result) before x.request after := by
  intro result before x after status hsplit hrefused
  by_cases ha : a.Loads
  · have hload := load_accounted c.session p w
    obtain ⟨rest, hrest, hrun⟩ := ha.run_eq c
    have hresult : result = (do Principal.load c.session.recorded; rest).run (p, (w, [])) := hrun _
    rw [EStateM.run_bind] at hresult
    have hwhole : Accounted c.session p w (failureOf result) [] (stateOf result).2.2 := by
      cases h : (Principal.load c.session.recorded).run (p, (w, [])) with
      | error f y =>
        simp only [h] at hload hresult
        rw [hresult]
        exact hload
      | ok _ y =>
        simp only [h] at hload hresult
        obtain ⟨more, hmore, hlast⟩ := hrest y
        have hmore : (stateOf (rest.run y)).2.2 = y.2.2 ++ more := hmore
        rw [hresult, hmore]
        exact hload.append hlast
    exact (hwhole before x after status hsplit hrefused).imp_right fun hmiss => ⟨ha, hmiss⟩
  · obtain ⟨added, hadded, hlast⟩ := Action.passesOn ha c (p, (w, []))
    have hsplit : added = before ++ x :: after := by rw [← hsplit]; exact hadded.symm
    exact .inl (hlast before x after status hsplit hrefused)

end Principal

/-- **A refusal ends what it is met in.** Of the calls of anything that is done
with a session or a connection, setting them up included, and of work on a
principal, one that was refused is the last, and the outcome is the failure that
it reports, with its status. The one exception are the reads of a load that are
told that there is nobody of that name: after the principal's own the template
is read, and without a template the principal is loaded as it is. One status
alone says so. -/
theorem refusals_passed_on :
    (∀ (c : Connection σ) (errand : Connection.Errand), (errand.run c.recorded).PassesOn) ∧
    (∀ (config : Config) (a : Authenticator σ) (credentials : Credentials),
      (Session.establish config a.noted credentials).PassesOnNoted ∧
        (Connection.connect config a.noted credentials).PassesOnNoted) ∧
    (∀ (c : Connection σ) (p : Principal) (a : Principal.Action) (w : σ),
      let result := (a.run c.recorded).run (p, (w, []))
      ∀ before x after status,
        (stateOf result).2.2 = before ++ x :: after → x.refusal = some status →
          after = [] ∧ failureOf result = some (.ofStatus status) ∨
            a.Loads ∧ p.loaded = false ∧ status = .unknownPrincipal ∧
              Principal.Miss c.session p w (failureOf result) before x.request after) ∧
    ∀ status : Status, (Failure.ofStatus status).status = status ∧
      ((Failure.ofStatus status).isUnknownPrincipal = true ↔ status.code = 43787532) :=
  ⟨fun c errand => errand.passesOn c,
    fun config a credentials => ⟨passesOn_establish config a credentials,
      passesOn_connect config a credentials⟩,
    fun c p a w => a.accounted c p w,
    fun _ => ⟨rfl, Failure.isUnknownPrincipal_ofStatus.trans
      ⟨congrArg Status.code, congrArg Status.mk⟩⟩⟩

/-- A service that knows nobody and takes nobody: a commit misses the principal
and the template, sends its creation, and fails with the refusal of that. -/
theorem refusals_passed_on_by_creation :
    let s : Session Unit := ⟨⟨fun
      | .get .. => throw .unknownPrincipal
      | .create .. | .modify .. | .rename .. | .changePassword .. | .delete _ => throw .duplicate
      | .list _ => pure []
      | .privileges => pure .all⟩, ⟨["admin"], "R"⟩, "R", "kdc", 749⟩
    let c : Connection Unit := ⟨s, ⟨[]⟩⟩
    let p := Principal.existing ⟨["jdoe"], "R"⟩
    let own : Exchange := ⟨.get p.id p.fieldsToRead, some .unknownPrincipal⟩
    let template : Exchange := ⟨.get ⟨["default"], "R"⟩ p.fieldsToRead, some .unknownPrincipal⟩
    let creation : Exchange := ⟨.create (.named p.id) (.single .principal) [], some .duplicate⟩
    let result := ((Principal.Action.commit ⟨fun _ => 0, 0⟩).run c.recorded).run (p, ((), []))
    (stateOf result).2.2 = [own, template, creation] ∧
      Principal.Miss s p () (failureOf result) [] own.request [template, creation] ∧
      Principal.Miss s p () (failureOf result) [own] template.request [creation] ∧
      failureOf result = some (.ofStatus .duplicate) := by
  intro s c p own template creation result
  have hrecord : (stateOf result).2.2 = [own, template, creation] := by decide
  have hall := refusals_passed_on.2.2.1 c p (.commit ⟨fun _ => 0, 0⟩) ()
  have hmiss {before after : List Exchange} {x : Exchange} (hx : x.refusal = some .unknownPrincipal)
      (hsplit : [own, template, creation] = before ++ x :: after) (hafter : after ≠ []) :
      Principal.Miss s p () (failureOf result) before x.request after := by
    rcases hall before x after _ (hrecord.trans hsplit) hx with ⟨hlast, -⟩ | ⟨-, -, -, h⟩
    · exact absurd hlast hafter
    · exact h
  refine ⟨hrecord, hmiss rfl rfl (by simp), @hmiss [own] [creation] template rfl rfl (by simp), ?_⟩
  rcases hall [own, template] creation [] _ hrecord rfl with ⟨-, h⟩ | ⟨-, -, h, -⟩
  · exact h
  · cases h

end RealmAdmin
