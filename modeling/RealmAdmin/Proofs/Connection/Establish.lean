/-
RealmAdmin.Proofs.Connection.Establish — when a session can be set up with a realm.

Everything that the settings leave to be found out is found out first, without a
call: `resolve` is that part alone. Then there is one call, which opens the service,
and if that succeeds one query of the privileges. `Opens` says when the opening
succeeds, and `sessions_established` when all of it does, which calls are made on the
way, and what the connection is then like.
-/
import Mathlib.Control.Monad.Basic
import RealmAdmin.Proofs.Config.Endpoint
import RealmAdmin.Proofs.Realm.Serve

namespace RealmAdmin

/-! ## What is found out first -/

/-- The cache that credentials without a password stand for: the named one, else that
of the settings, else the default one. A name without a type is that of a file. -/
def Config.cacheFor (config : Config) (name : Option String) : String :=
  let chosen := (name.or config.cache).getD "FILE:/tmp/krb5cc_memory"
  if ':' ∈ chosen.toList then chosen else "FILE:" ++ chosen

namespace Realm

/-- The principal whose administrative client a password is for: the settings' or else
the local user. -/
def clientBase (r : Realm) (config : Config) (realm : String) : Except Failure Name :=
  match Config.given? config.client, r.defaultPrincipal with
  | some client, _ => Name.parse client realm
  | none, some name => .ok name
  | none, none => .error (.ofStatus .cacheNotFound)

/-- The client that the credentials are of. -/
def clientOf (r : Realm) (config : Config) (realm : String) : Credentials → Except Failure Name
  | .password _ => (r.clientBase config realm).map (·.withInstance "admin")
  | .cache name =>
    match r.caches.get? (config.cacheFor name) with
    | some client => .ok client
    | none => .error (.ofStatus .noCacheFile)

/-- The generator of passwords, the parameters and the client of a session, or the
first failure to find one of them out. -/
def resolve (r : Realm) (config : Config) (credentials : Credentials) :
    Except Failure (PasswordGenerator × SessionParams × Name) := do
  let generator ← PasswordGenerator.ofSettings config.classes
  let params ← config.resolveParams (← config.resolveRealm)
  return (generator, params, ← r.clientOf config params.realm credentials)

/-! ## Opening -/

/-- The call that opens the service. -/
def openingCall (config : Config) (client : Name) : Credentials → Call
  | .password _ => .openWithPassword client.text
  | .cache name => .openWithCache (config.cacheFor name)

/-- The step that answers it. -/
def openWith (config : Config) (params : SessionParams) (client : Name) :
    Credentials → Step (Service Realm)
  | .password secret => openWithPassword client secret.bytes params
  | .cache name => openWithCache (config.cacheFor name) params

/-- The realm that remembers what its latest session was opened with. -/
def openedWith (r : Realm) (params : SessionParams) : Realm := { r with lastParams := some params }

/-- Whether the realm knows the client by these credentials. -/
def Knows (r : Realm) (config : Config) (client : Name) : Credentials → Prop
  | .password secret => ∃ e, r.principals.get? client.text = some e ∧ e.password = secret.bytes
  | .cache name => ∃ owner, r.caches.get? (config.cacheFor name) = some owner

/-- Whether the realm opens a session. -/
def Opens (r : Realm) (config : Config) (params : SessionParams) (client : Name)
    (credentials : Credentials) : Prop :=
  r.faults .opening = [] ∧ params.realm = r.name ∧ r.Knows config client credentials

variable {r : Realm} {config : Config} {params : SessionParams} {client : Name}
  {credentials : Credentials} {realm : String}

theorem owner_of_clientOf {name : Option String}
    (h : r.clientOf config realm (.cache name) = .ok client) :
    r.caches.get? (config.cacheFor name) = some client := by
  cases howner : r.caches.get? (config.cacheFor name) with
  | none => simp [clientOf, howner] at h
  | some owner =>
    exact congrArg some (by simpa [clientOf, howner] using h)

theorem administers_of_clientOf {secret : Secret}
    (h : r.clientOf config realm (.password secret) = .ok client) :
    client.components = [client.primary, "admin"] := by
  cases hbase : r.clientBase config realm with
  | error f => simp [clientOf, hbase, Except.map] at h
  | ok base =>
    obtain rfl : base.withInstance "admin" = client := by
      simpa [clientOf, hbase, Except.map] using h
    rfl

/-- Find out who the client is, after the call and the realm have passed. -/
def identify (config : Config) (client : Name) : Credentials → Step Name
  | .password secret => do
    if ((← get).principals.get? client.text).any (·.password == secret.bytes) then return client
    else throw .badPassword
  | .cache name => cachePrincipal (config.cacheFor name)

/-- Both ways to open a service are one, up to how they identify the client. -/
theorem openWith_eq :
    openWith config params client credentials = (do
      enter (openingCall config client credentials)
      checkRealm params
      opened (← identify config client credentials) params) := by
  cases credentials with
  | cache name => rfl
  | password secret =>
    simp only [openWith, openWithPassword, identify, openingCall, bind_assoc]
    refine bind_congr fun _ => bind_congr fun _ => bind_congr fun r' => ?_
    split <;> rfl

theorem run_identify (h : r.clientOf config realm credentials = .ok client) :
    r.Knows config client credentials ∧ (identify config client credentials).run r = .ok client r ∨
      ¬ r.Knows config client credentials ∧
        ∃ status, (identify config client credentials).run r = .error status r := by
  cases credentials with
  | password secret =>
    by_cases hknown : (r.principals.get? client.text).any (·.password == secret.bytes) = true
    · exact .inl ⟨by simpa [Knows, Option.any_eq_true] using hknown, by simp [identify, hknown]⟩
    · exact .inr ⟨by simpa [Knows, Option.any_eq_true] using hknown, .badPassword,
        by simp [identify, hknown]⟩
  | cache name =>
    have howner := owner_of_clientOf h
    exact .inl ⟨⟨client, howner⟩, by simp [identify, cachePrincipal, howner]⟩

@[simp] theorem run_opened (client : Name) (params : SessionParams) (r : Realm) :
    (opened client params).run r = .ok (service client) (r.openedWith params) := rfl

theorem run_checkRealm (params : SessionParams) (r : Realm) :
    (checkRealm params).run r =
      if params.realm = r.name then .ok () r else .error .realmUnknown r := by
  by_cases h : params.realm = r.name <;> simp [checkRealm, h]

/-- The opening call is logged. It succeeds if the realm opens the session, and leaves
the parameters behind. -/
theorem run_openWith (params : SessionParams)
    (h : r.clientOf config realm credentials = .ok client) :
    let call := openingCall config client credentials
    let result := (openWith config params client credentials).run r
    r.Opens config params client credentials ∧
        result = .ok (service client) ((r.logged call).openedWith params) ∨
      ¬ r.Opens config params client credentials ∧
        ∃ status r', result = .error status r' ∧ r'.calls = r.calls ++ [call] := by
  intro call
  have hkind : call.kind = .opening := by cases credentials <;> rfl
  have henter := run_enter call r
  rw [openWith_eq, show openingCall config client credentials = call from rfl]
  generalize call = call at *
  intro result
  rw [hkind] at henter
  cases hfaults : r.faults .opening with
  | cons fault rest =>
    rw [hfaults] at henter
    have hrun : result = .error fault ((r.logged call).armed .opening rest) := by
      simp [result, henter]
    exact .inr ⟨fun hopens => by simp [Opens, hfaults] at hopens, fault, _, hrun, rfl⟩
  | nil =>
    rw [hfaults] at henter
    by_cases hrealm : params.realm = r.name
    · rcases run_identify (r := r.logged call) h with ⟨hknown, hfound⟩ | ⟨hunknown, status, hfound⟩
      · refine .inl ⟨⟨hfaults, hrealm, hknown⟩, ?_⟩
        simp [result, henter, run_checkRealm, hrealm, hfound]
      · have hrun : result = .error status (r.logged call) := by
          simp [result, henter, run_checkRealm, hrealm, hfound]
        exact .inr ⟨fun hopens => hunknown hopens.2.2, status, _, hrun, rfl⟩
    · have hrun : result = .error .realmUnknown (r.logged call) := by
        simp [result, henter, run_checkRealm, hrealm]
      exact .inr ⟨fun hopens => hrealm hopens.2.1, _, _, hrun, rfl⟩

/-! ## Connecting -/

/-- Ask the realm's side for the client of the credentials. -/
def findClient (config : Config) (realm : String) : Credentials → Remote Realm Name
  | .password _ => config.resolveClient realm authenticator
  | .cache name => Remote.call (cachePrincipal (config.cacheFor name))

theorem run_findClient (config : Config) (realm : String) (credentials : Credentials)
    (r : Realm) :
    (findClient config realm credentials).run r =
      match r.clientOf config realm credentials with
      | .ok client => .ok client r
      | .error f => .error f r := by
  cases credentials with
  | cache name =>
    cases h : r.caches.get? (config.cacheFor name) <;>
      simp [findClient, clientOf, Remote.run_call, cachePrincipal, h]
  | password secret =>
    unfold findClient Config.resolveClient clientOf clientBase
    cases Config.given? config.client with
    | some client =>
      cases h : Name.parse client realm <;> simp [h, Except.map, Name.adminInstance]
    | none =>
      cases h : r.defaultPrincipal <;>
        simp [h, Remote.run_call, Except.map, authenticator, localPrincipal,
          Name.adminInstance]

/-- Once the client is known there is one way to authenticate. -/
theorem authenticate_eq (config : Config) (params : SessionParams) (credentials : Credentials) :
    Session.authenticate config authenticator params credentials = (do
      let client ← findClient config params.realm credentials
      return (client, ← Remote.call (openWith config params client credentials))) := by
  cases credentials <;> rfl

theorem run_authenticate (config : Config) (params : SessionParams) (credentials : Credentials)
    (r : Realm) :
    (Session.authenticate config authenticator params credentials).run r =
      match r.clientOf config params.realm credentials with
      | .error f => .error f r
      | .ok client =>
        match (openWith config params client credentials).run r with
        | .ok S r' => .ok (client, S) r'
        | .error status r' => .error (.ofStatus status) r' := by
  rw [authenticate_eq, EStateM.run_bind, run_findClient]
  cases r.clientOf config params.realm credentials with
  | error f => rfl
  | ok client =>
    have hcall := Remote.run_call (openWith config params client credentials) r
    cases hopen : (openWith config params client credentials).run r <;> simp [hcall, hopen]

theorem realm_of_resolveParams {realm : String} (h : config.resolveParams realm = .ok params) :
    params.realm = realm := by
  rcases config.resolveParams_cases realm with ⟨server, host, written, -, -, hrun⟩ | ⟨-, hrun⟩
  · obtain rfl := Except.ok.inj (hrun.symm.trans h)
    rfl
  · cases hrun.symm.trans h

/-- The client that is found out is the one of the credentials. -/
theorem client_of_resolve {generator : PasswordGenerator}
    (h : r.resolve config credentials = .ok (generator, params, client)) :
    r.clientOf config params.realm credentials = .ok client := by
  unfold resolve at h
  cases hclasses : PasswordGenerator.ofSettings config.classes with
  | error f => simp [hclasses] at h
  | ok generator' =>
    cases hparams : config.resolveRealm >>= config.resolveParams with
    | error f => simp [hclasses, ← bind_assoc, hparams] at h
    | ok params' =>
      cases hclient : r.clientOf config params'.realm credentials with
      | error f => simp [hclasses, ← bind_assoc, hparams, hclient] at h
      | ok client' =>
        obtain ⟨-, rfl, rfl⟩ : generator' = generator ∧ params' = params ∧ client' = client := by
          simpa [hclasses, ← bind_assoc, hparams, hclient] using h
        exact hclient

/-- Connecting is finding everything out, opening the service, and asking it for the
privileges. -/
theorem run_connect (config : Config) (credentials : Credentials) (r : Realm) :
    (Connection.connect config authenticator credentials).run r =
      match r.resolve config credentials with
      | .error f => .error f r
      | .ok (generator, params, client) =>
        match (openWith config params client credentials).run r with
        | .error status r' => .error (.ofStatus status) r'
        | .ok S r' =>
          match (S.serve .privileges).run r' with
          | .error status r'' => .error (.ofStatus status) r''
          | .ok _ r'' =>
            .ok ⟨⟨S, client, params.realm, params.adminServer, params.port⟩, generator⟩ r'' := by
  unfold Connection.connect Session.establish resolve
  cases hclasses : PasswordGenerator.ofSettings config.classes with
  | error f => rfl
  | ok generator =>
    cases hrealm : config.resolveRealm with
    | error f => rfl
    | ok realm =>
      cases hparams : config.resolveParams realm with
      | error f => simp [hparams]
      | ok params =>
        obtain rfl := realm_of_resolveParams hparams
        have hauth := run_authenticate config params credentials r
        cases hfound : r.clientOf config params.realm credentials with
        | error f => simp [hparams, hauth, hfound]
        | ok client =>
          cases hopen : (openWith config params client credentials).run r with
          | error status r' => simp [hparams, hauth, hfound, hopen]
          | ok S r' =>
            have hquery := S.run_request .privileges r'
            cases hprivileges : (S.serve .privileges).run r' <;>
              simp [hparams, hauth, hfound, hopen, hquery, hprivileges]

/-- How an attempt to connect can end, once everything has been found out: the service
is not opened, or it is and does not tell the privileges, or all goes well. -/
inductive Attempt (r : Realm) (config : Config) (credentials : Credentials)
    (generator : PasswordGenerator) (params : SessionParams) (client : Name) :
    EStateM.Result Failure Realm (Connection Realm) → Prop
  | shut {f : Failure} {r' : Realm} (hshut : ¬ r.Opens config params client credentials)
      (hcalls : r'.calls = r.calls ++ [openingCall config client credentials]) :
      Attempt r config credentials generator params client (.error f r')
  | silent {f : Failure} {r' : Realm} (hopens : r.Opens config params client credentials)
      (hfault : r.faults .privileges ≠ [])
      (hcalls : r'.calls = r.calls ++ [openingCall config client credentials, .privileges]) :
      Attempt r config credentials generator params client (.error f r')
  | connected (hopens : r.Opens config params client credentials)
      (hcalm : r.faults .privileges = []) :
      Attempt r config credentials generator params client
        (.ok ⟨⟨service client, client, params.realm, params.adminServer, params.port⟩, generator⟩
          (((r.logged (openingCall config client credentials)).openedWith params).logged
            .privileges))

theorem attempt_connect {generator : PasswordGenerator}
    (h : r.resolve config credentials = .ok (generator, params, client)) :
    Attempt r config credentials generator params client
      ((Connection.connect config authenticator credentials).run r) := by
  rw [run_connect, h]
  dsimp only
  rcases run_openWith params (client_of_resolve h) with
    ⟨hopens, hrun⟩ | ⟨hshut, status, r', hrun, hcalls⟩
  · let opened := (r.logged (openingCall config client credentials)).openedWith params
    have hquery := run_servePrivileges client opened
    have hfaults : opened.faults .privileges = r.faults .privileges := rfl
    rw [hfaults] at hquery
    rw [hrun]
    dsimp only
    rw [hquery]
    cases hcalm : r.faults .privileges with
    | nil => exact .connected hopens hcalm
    | cons fault rest =>
      exact .silent hopens (by simp [hcalm]) (by simp [opened, armed, logged, openedWith])
  · rw [hrun]
    exact .shut hshut hcalls

/-- **How a session is set up.** If the classes of passwords, the realm, the server or
the client cannot be found out, in this order, that is the failure, and the realm has
not been called. Otherwise it has been called once, to open the service for the client
or for the cache, and once more, to query the privileges, if and only if that has
succeeded; which it does if no fault was laid for it, the realm is this one, and the
client is stored with exactly this password, or the cache is there. The whole succeeds
if no fault was laid for the query either. The session then has the realm, the host
and the port that the service was opened with, and the client has the instance
`admin`, or is the one whose cache it is. -/
theorem sessions_established (config : Config) (r : Realm) (credentials : Credentials) :
    let result := (Connection.connect config authenticator credentials).run r
    match r.resolve config credentials with
    | .error f => result = .error f r
    | .ok (generator, params, client) =>
      let opening := openingCall config client credentials
      let opens := r.Opens config params client credentials
      (succeeded ((openWith config params client credentials).run r) = true ↔ opens) ∧
      (opens → (stateOf result).calls = r.calls ++ [opening, .privileges]) ∧
      (¬ opens → (stateOf result).calls = r.calls ++ [opening]) ∧
      (succeeded result = true ↔ opens ∧ r.faults .privileges = []) ∧
      ∀ c r', result = .ok c r' →
        c = ⟨⟨service client, client, params.realm, params.adminServer, params.port⟩, generator⟩ ∧
        r'.lastParams = some ⟨c.session.realm, c.session.host, c.session.port⟩ ∧
        match credentials with
        | .password _ => c.session.client.components = [c.session.client.primary, "admin"]
        | .cache name => r.caches.get? (config.cacheFor name) = some c.session.client := by
  intro result
  cases hresolve : r.resolve config credentials with
  | error f => simp [result, run_connect, hresolve]
  | ok found =>
    obtain ⟨generator, params, client⟩ := found
    have hclient := client_of_resolve hresolve
    have hattempt : Attempt r config credentials generator params client result :=
      attempt_connect hresolve
    refine ⟨?_, ?_⟩
    · rcases run_openWith params hclient with
        ⟨hopens, hrun⟩ | ⟨hshut, status, r', hrun, hcalls⟩
      · simp [hrun, succeeded, hopens]
      · simp [hrun, succeeded, hshut]
    · clear_value result
      cases hattempt with
      | shut hshut hcalls =>
        exact ⟨fun hopens => absurd hopens hshut, fun _ => hcalls,
          by simp [succeeded, hshut], nofun⟩
      | silent hopens hfault hcalls =>
        exact ⟨fun _ => hcalls, fun hshut => absurd hopens hshut,
          by simp [succeeded, hfault], nofun⟩
      | connected hopens hcalm =>
        refine ⟨fun _ => by simp [logged, openedWith], fun hshut => absurd hopens hshut,
          by simp [succeeded, hopens, hcalm], ?_⟩
        rintro c r' ⟨⟩
        refine ⟨rfl, rfl, ?_⟩
        cases credentials with
        | password secret => exact administers_of_clientOf hclient
        | cache name => exact owner_of_clientOf hclient

/-- A new realm takes its first client, whom the settings name without the instance. -/
theorem sessions_established_for_admin :
    let r := Realm.new "R"
    let config : Config := {
      client := some "admin", realm := some "R", adminServer := some "kdc:88" }
    let credentials : Credentials := .password (.ofText "secret")
    let result := (Connection.connect config authenticator credentials).run r
    ∃ c r', result = .ok c r' ∧ r'.calls = [.openWithPassword "admin/admin@R", .privileges] ∧
      r'.lastParams = some ⟨"R", "kdc", 88⟩ ∧ c.session.client.components = ["admin", "admin"] := by
  intro r config credentials result
  let params : SessionParams := ⟨"R", "kdc", 88⟩
  let client : Name := ⟨["admin", "admin"], "R"⟩
  have hfound : (r.resolve config credentials).map Prod.snd =
      .ok (params, client) := by decide +kernel
  obtain ⟨generator, hresolve⟩ : ∃ generator,
      r.resolve config credentials = .ok (generator, params, client) := by
    cases h : r.resolve config credentials with
    | error f => rw [h] at hfound; cases hfound
    | ok found =>
      rw [h] at hfound
      exact ⟨found.1, congrArg (fun x => Except.ok (found.1, x)) (Except.ok.inj hfound)⟩
  have hstored : (r.principals.get? client.text).map (·.password) =
      some (Secret.ofText "secret").bytes := by decide +kernel
  have hopens : r.Opens config params client credentials := by
    obtain ⟨e, he, hpassword⟩ := Option.map_eq_some_iff.mp hstored
    exact ⟨rfl, rfl, e, he, hpassword⟩
  have hall := sessions_established config r credentials
  simp only [hresolve] at hall
  obtain ⟨-, hcalls, -, hsuccess, hconnected⟩ := hall
  cases hresult : (Connection.connect config authenticator credentials).run r with
  | error f r' =>
    have hdone := hsuccess.mpr ⟨hopens, rfl⟩
    rw [hresult] at hdone
    cases hdone
  | ok c r' =>
    obtain ⟨rfl, hparams, hadmin⟩ := hconnected c r' hresult
    have hlog := hcalls hopens
    rw [hresult] at hlog
    exact ⟨_, r', hresult, hlog.trans (by decide +kernel), hparams, hadmin⟩

end Realm

end RealmAdmin
