/-
RealmAdmin.Proofs.Realm.Load — loading a principal from a realm.

A read can end in four ways in a realm (`ReadRun`): it brings what is stored,
there is nothing stored, a fault pretends that there is nothing, or another
fault fails it. However a load ends, the realm stores the same afterwards and
shows the same time (`SameStore`). Where no fault pretends, a load that ends
well has found the principal exactly if it `isThere`, and one that fails has
used up a fault, unless the realm's template has no name (`load_ok`,
`load_error`).
-/
import RealmAdmin.Proofs.Principal.Load
import RealmAdmin.Proofs.Realm.Serve

namespace RealmAdmin

/-! ## Realms that store the same -/

/-- The second realm stores the same as the first and shows the same time. -/
structure Realm.SameStore (r r' : Realm) : Prop where
  principals : r'.principals = r.principals
  clock : r'.clock = r.clock

namespace Realm

variable {r r' r'' : Realm}

theorem SameStore.refl (r : Realm) : SameStore r r := ⟨rfl, rfl⟩

theorem SameStore.symm (h : SameStore r r') : SameStore r' r := ⟨h.1.symm, h.2.symm⟩

theorem SameStore.trans (h : SameStore r r') (h' : SameStore r' r'') : SameStore r r'' :=
  ⟨h'.1.trans h.1, h'.2.trans h.2⟩

theorem sameStore_armed (r : Realm) (call : Call) (kind : CallKind) (faults : List Status) :
    SameStore r ((r.logged call).armed kind faults) := ⟨rfl, rfl⟩

/-- How many faults are laid for the calls of a commit. -/
def faultCount (r : Realm) : Nat :=
  (r.faults .get).length + (r.faults .create).length + (r.faults .changePassword).length +
    (r.faults .rename).length + (r.faults .modify).length

/-- The realm without faults. -/
def healthy (r : Realm) : Realm := { r with faults := fun _ => [] }

@[simp] theorem principals_healthy (r : Realm) : r.healthy.principals = r.principals := rfl
@[simp] theorem clock_healthy (r : Realm) : r.healthy.clock = r.clock := rfl
@[simp] theorem faults_healthy (r : Realm) (kind : CallKind) : r.healthy.faults kind = [] := rfl

theorem sameStore_healthy (r : Realm) : SameStore r r.healthy := ⟨rfl, rfl⟩

/-- A session of one client with a realm. -/
def session (client : Name) : Session Realm := ⟨service client, client, client.realm, "kdc", 749⟩

/-! ## Reads -/

/-- How a read can end in a realm. -/
inductive ReadRun (name : Name) (fields : FieldSet) (r : Realm) :
    EStateM.Result Failure Realm (Option Record) → Prop
  | found {e : Entry} (hfaults : r.faults .get = [])
      (hentry : r.principals.get? name.text = some e) :
      ReadRun name fields r
        (.ok (some (Record.blank.merge e.record fields)) (r.logged (.get name.text fields)))
  | missing (hfaults : r.faults .get = []) (hentry : r.principals.get? name.text = none) :
      ReadRun name fields r (.ok none (r.logged (.get name.text fields)))
  | pretended {rest : List Status} (hfaults : r.faults .get = .unknownPrincipal :: rest) :
      ReadRun name fields r (.ok none ((r.logged (.get name.text fields)).armed .get rest))
  | failed {fault : Status} {rest : List Status} (hfaults : r.faults .get = fault :: rest) :
      ReadRun name fields r
        (.error (.ofStatus fault) ((r.logged (.get name.text fields)).armed .get rest))

/-- Every read ends in one of the ways of `ReadRun`. -/
theorem run_fetch? {s : Session Realm} {client : Name} (hs : s.service = service client)
    (name : Name) (fields : FieldSet) (r : Realm) :
    ReadRun name fields r ((s.fetch? name fields).run r) := by
  rw [Session.run_fetch?, hs]
  cases hfaults : r.faults .get with
  | cons fault rest =>
    rw [run_serve_fault (q := .get name fields) trivial hfaults]
    by_cases hunknown : fault = .unknownPrincipal
    · subst hunknown
      simpa [Request.call, Call.kind] using ReadRun.pretended hfaults
    · simpa [Request.call, Call.kind, hunknown] using ReadRun.failed hfaults
  | nil =>
    have hserve : ((service client).serve (.get name fields)).run r = _ := run_serveGet hfaults
    rw [hserve]
    cases hentry : r.principals.get? name.text with
    | some e => exact .found hfaults hentry
    | none => exact .missing hfaults hentry

theorem ReadRun.sameStore {name : Name} {fields : FieldSet}
    {result : EStateM.Result Failure Realm (Option Record)} (h : ReadRun name fields r result) :
    SameStore r (stateOf result) := by
  cases h <;> exact ⟨rfl, rfl⟩

/-- A read is logged, however it ends. -/
theorem ReadRun.calls {name : Name} {fields : FieldSet}
    {result : EStateM.Result Failure Realm (Option Record)} (h : ReadRun name fields r result) :
    (stateOf result).calls = r.calls ++ [.get name.text fields] := by
  cases h <;> rfl

/-- Without a fault that pretends otherwise, a read that ends well says what
is stored, and uses up no fault. -/
theorem ReadRun.ok {name : Name} {fields : FieldSet} {answer : Option Record}
    (h : ReadRun name fields r (.ok answer r')) (hget : .unknownPrincipal ∉ r.faults .get) :
    r'.faults = r.faults ∧ answer.isSome = r.principals.contains name.text := by
  cases h with
  | found hfaults hentry => simp [TextMap.contains, hentry]
  | missing hfaults hentry => simp [TextMap.contains, hentry]
  | pretended hfaults => simp [hfaults] at hget

/-- A read that fails uses up a fault. -/
theorem ReadRun.error {name : Name} {fields : FieldSet} {f : Failure}
    (h : ReadRun name fields r (.error f r')) :
    r'.faultCount < r.faultCount ∧ ∀ fault ∈ r'.faults .get, fault ∈ r.faults .get := by
  cases h with
  | failed hfaults => simp +contextual [faultCount, armed, logged, hfaults]

end Realm

namespace Principal

open Realm

variable {s : Session Realm} {client : Name} {p p₁ : Principal} {r r₁ : Realm} {f : Failure}

/-! ## Loads -/

/-- Whether a load will have found the principal in a realm. -/
def isThere (p : Principal) (r : Realm) : Bool :=
  if p.loaded ∨ p.presence = .absent then p.presence = .present
  else r.principals.contains p.id.text

/-- Whether the template of the principal's realm has a name. -/
def HasTemplateName (p : Principal) : Prop := ∃ template, Name.template p.id.realm = .ok template

theorem TemplateRun.sameStore {result : EStateM.Result Failure (Principal × Realm) Unit}
    (hs : s.service = service client) (h : TemplateRun s p r result) :
    SameStore r (stateOf result).2 := by
  cases h with
  | unnamed hname => exact .refl r
  | @refused template f w' hname hread =>
    have hrun := run_fetch? hs template p.fieldsToRead r
    rw [hread] at hrun
    exact hrun.sameStore
  | @prefilled template record w' hname hread =>
    have hrun := run_fetch? hs template p.fieldsToRead r
    rw [hread] at hrun
    exact hrun.sameStore
  | @bare template w' hname hread =>
    have hrun := run_fetch? hs template p.fieldsToRead r
    rw [hread] at hrun
    exact hrun.sameStore

/-- Consulting the template makes one call. -/
theorem TemplateRun.calls (hs : s.service = service client)
    (h : TemplateRun s p r (.ok () (p₁, r₁))) : r₁.calls =
      r.calls ++ [.get (Name.text ⟨["default"], p.id.realm⟩) p.fieldsToRead] := by
  have hasked {template : Name} (hname : Name.template p.id.realm = .ok template) :
      (stateOf ((s.fetch? template p.fieldsToRead).run r)).calls =
        r.calls ++ [.get (Name.text ⟨["default"], p.id.realm⟩) p.fieldsToRead] := by
    rw [Name.template_eq] at hname
    split at hname
    · cases hname
    · obtain rfl := Except.ok.inj hname
      exact (run_fetch? hs _ p.fieldsToRead r).calls
  cases h with
  | prefilled hname hread =>
    have hcalls := hasked hname
    rwa [hread] at hcalls
  | bare hname hread =>
    have hcalls := hasked hname
    rwa [hread] at hcalls

/-- A load leaves the realm's store as it is, also when it fails. -/
theorem load_sameStore (hs : s.service = service client) (p : Principal) (r : Realm) :
    SameStore r (stateOf ((load s).run (p, r))).2 := by
  have hread := run_fetch? hs p.id p.fieldsToRead r
  have hload := load_run s p r
  generalize (load s).run (p, r) = result at hload ⊢
  cases hload with
  | kept hloaded => exact .refl r
  | found hloaded hpresence hfetch => exact (hfetch ▸ hread).sameStore
  | refused hloaded hpresence hfetch => exact (hfetch ▸ hread).sameStore
  | missing hloaded habsent htemplate =>
    rcases habsent with ⟨-, rfl⟩ | ⟨-, hfetch⟩
    · exact htemplate.sameStore hs
    · exact (hfetch ▸ hread).sameStore.trans (htemplate.sameStore hs)

/-- Whether a load can end well where no fault is in the way. -/
def IsLoadable (p : Principal) (r : Realm) : Prop :=
  p.isThere r = true ∨ p.loaded = true ∨ p.HasTemplateName

theorem TemplateRun.ok (hs : s.service = service client) (h : TemplateRun s p r (.ok () (p₁, r₁)))
    (hget : .unknownPrincipal ∉ r.faults .get) : r₁.faults = r.faults ∧ p.HasTemplateName := by
  cases h with
  | @prefilled template record w' hname hread =>
    have hrun := run_fetch? hs template p.fieldsToRead r
    rw [hread] at hrun
    exact ⟨(hrun.ok hget).1, template, hname⟩
  | @bare template w' hname hread =>
    have hrun := run_fetch? hs template p.fieldsToRead r
    rw [hread] at hrun
    exact ⟨(hrun.ok hget).1, template, hname⟩

theorem TemplateRun.error (hs : s.service = service client)
    (h : TemplateRun s p r (.error f (p₁, r₁))) :
    p₁ = p ∧ (¬ p.HasTemplateName ∨
      r₁.faultCount < r.faultCount ∧ ∀ fault ∈ r₁.faults .get, fault ∈ r.faults .get) := by
  cases h with
  | unnamed hname => exact ⟨rfl, .inl fun ⟨template, h⟩ => by simp [hname] at h⟩
  | @refused template f w' hname hread =>
    have hrun := run_fetch? hs template p.fieldsToRead r
    rw [hread] at hrun
    exact ⟨rfl, .inr hrun.error⟩

theorem isThere_of_missing (hs : s.service = service client)
    (hget : .unknownPrincipal ∉ r.faults .get) (hloaded : p.loaded = false)
    (habsent : p.presence = .absent ∧ r₁ = r ∨
      p.presence ≠ .absent ∧ (s.fetch? p.id p.fieldsToRead).run r = .ok none r₁) :
    r₁.faults = r.faults ∧ p.isThere r = false := by
  rcases habsent with ⟨habsent, rfl⟩ | ⟨hpresence, hfetch⟩
  · simp [isThere, habsent]
  · have hread := run_fetch? hs p.id p.fieldsToRead r
    rw [hfetch] at hread
    obtain ⟨hfaults, hthere⟩ := hread.ok hget
    simp [isThere, hloaded, hpresence, hfaults, ← hthere]

/-- Without a fault that pretends otherwise, a load that ends well has found
the principal exactly if it is there, and has used up no fault. -/
theorem load_ok (hs : s.service = service client) (hget : .unknownPrincipal ∉ r.faults .get)
    (h : (load s).run (p, r) = .ok () (p₁, r₁)) :
    r₁.faults = r.faults ∧ (p₁.presence = .present ↔ p.isThere r = true) ∧ p.IsLoadable r := by
  have hread := run_fetch? hs p.id p.fieldsToRead r
  have hload := load_run s p r
  rw [h] at hload
  cases hload with
  | kept hloaded => simp [isThere, IsLoadable, hloaded]
  | found hloaded hpresence hfetch =>
    rw [hfetch] at hread
    obtain ⟨hfaults, hthere⟩ := hread.ok hget
    simp [isThere, IsLoadable, hloaded, hpresence, found, hfaults, ← hthere]
  | @missing w' _ hloaded habsent htemplate =>
    obtain ⟨hfaults, hthere⟩ := isThere_of_missing hs hget hloaded habsent
    have hpresence := htemplate.presence
    obtain ⟨hfaults', hname⟩ := htemplate.ok hs (hfaults ▸ hget)
    have hpresence : p₁.presence = .absent := hpresence
    exact ⟨hfaults'.trans hfaults, by simp [hpresence, hthere], .inr (.inr hname)⟩

/-- Without a fault that pretends otherwise, a load that fails has used up a
fault, and a repeated one finds what this one would have found. -/
theorem load_error (hs : s.service = service client) (hget : .unknownPrincipal ∉ r.faults .get)
    (hloadable : p.IsLoadable r) (h : (load s).run (p, r) = .error f (p₁, r₁)) :
    p₁.isThere r₁ = p.isThere r ∧ p₁.loaded = p.loaded ∧ r₁.faultCount < r.faultCount ∧
      ∀ fault ∈ r₁.faults .get, fault ∈ r.faults .get := by
  have hread := run_fetch? hs p.id p.fieldsToRead r
  have hload := load_run s p r
  rw [h] at hload
  cases hload with
  | refused hloaded hpresence hfetch =>
    rw [hfetch] at hread
    have hstore : SameStore r r₁ := hread.sameStore
    exact ⟨by simp [isThere, hstore.principals], rfl, hread.error⟩
  | @missing w' _ hloaded habsent htemplate =>
    obtain ⟨hfaults, hthere⟩ := isThere_of_missing hs hget hloaded habsent
    have hname : p.HasTemplateName := by simpa [IsLoadable, hthere, hloaded] using hloadable
    obtain ⟨rfl, hused⟩ := htemplate.error hs
    have hused := hused.resolve_left (not_not_intro hname)
    refine ⟨?_, rfl, ?_⟩
    · rw [hthere]
      simp [isThere]
    · simpa [faultCount, hfaults] using hused

end Principal

end RealmAdmin
