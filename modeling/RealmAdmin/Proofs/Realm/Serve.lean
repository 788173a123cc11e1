/-
RealmAdmin.Proofs.Realm.Serve — what a realm does with each request.

A request is entered first, and meets the fault that was laid for it. For
each request that changes something there is one statement of when it is
carried out and of the realm it leaves (`serveCreate_ok` and its siblings),
in terms of what becomes of one entry. A request that is refused leaves every
entry as it was (`principals_of_refused`).
-/
import RealmAdmin.Proofs.Record
import RealmAdmin.Proofs.Work
import RealmAdmin.Realm.Serve

namespace RealmAdmin

/-- The call that a realm logs for a request. -/
def Request.call : Request → Call
  | .get name fields => .get name.text fields
  | .create record fields _ => .create ((record.principal.map Name.text).getD "") fields
  | .modify record fields => .modify ((record.principal.map Name.text).getD "") fields
  | .rename source target => .rename source.text target.text
  | .changePassword name _ => .changePassword name.text
  | .delete name => .delete name.text
  | .list filter => .list filter
  | .privileges => .privileges

/-- Whether the request says which principal it is about; only the record of
a modify request can fail to. -/
def Request.IsAddressed : Request → Prop
  | .modify record _ => record.principal.isSome = true
  | _ => True

/-! ## Entries -/

namespace Entry

/-- The entry that a request to create a principal makes. -/
def make (client : Name) (now : Int64) (record : Record) (fields : FieldSet)
    (password : List UInt8) : Entry :=
  let new := { Record.blank with keyVersion := 1 }.merge record fields
  ⟨Realm.stamp client now { new with lastPasswordChange := now }, password⟩

/-- The entry after a request wrote some fields of it. -/
def modified (e : Entry) (client : Name) (now : Int64) (record : Record) (fields : FieldSet) :
    Entry :=
  let changed := e.record.merge record fields
  { e with
    record := Realm.stamp client now
      (if .policyClear ∈ fields then { changed with policy := none } else changed) }

/-- The entry under another name. -/
def renamed (e : Entry) (client : Name) (now : Int64) (target : Name) : Entry :=
  { e with record := Realm.stamp client now { e.record with principal := some target } }

/-- The entry with another password. -/
def rekeyed (e : Entry) (client : Name) (now : Int64) (password : List UInt8) : Entry :=
  let record := { e.record with keyVersion := e.record.keyVersion + 1, lastPasswordChange := now }
  ⟨Realm.stamp client now record, password⟩

end Entry

namespace Realm

/-! ## Steps -/

/-- The realm with one more call in its log. -/
def logged (r : Realm) (call : Call) : Realm := { r with calls := r.calls ++ [call] }

/-- The realm with other faults laid for one kind of call. -/
def armed (r : Realm) (kind : CallKind) (faults : List Status) : Realm :=
  { r with faults := fun k => if k = kind then faults else r.faults k }

/-- The realm a second later. -/
def ticked (r : Realm) : Realm := { r with clock := r.clock + 1 }

/-- The realm with an entry stored under a name. -/
def put (r : Realm) (name : Name) (e : Entry) : Realm :=
  { r with principals := r.principals.insert name.text e }

/-- The realm without the entry under a name. -/
def drop (r : Realm) (name : Name) : Realm :=
  { r with principals := r.principals.erase name.text }

variable {client name source target : Name} {record : Record} {fields : FieldSet}
  {password : List UInt8} {call : Call} {r r' : Realm} {e : Entry}

@[simp] theorem principals_logged : (r.logged call).principals = r.principals := rfl
@[simp] theorem name_logged : (r.logged call).name = r.name := rfl
@[simp] theorem faults_logged : (r.logged call).faults = r.faults := rfl
@[simp] theorem privileges_logged : (r.logged call).privileges = r.privileges := rfl
@[simp] theorem clock_logged : (r.logged call).clock = r.clock := rfl
@[simp] theorem principals_ticked : r.ticked.principals = r.principals := rfl
@[simp] theorem clock_drop : (r.drop name).clock = r.clock := rfl
@[simp] theorem principals_armed {kind : CallKind} {faults : List Status} :
    (r.armed kind faults).principals = r.principals := rfl

@[simp] theorem run_throw {α : Type} (status : Status) (r : Realm) :
    (throw status : Step α).run r = .error status r := rfl

@[simp] theorem run_tick (r : Realm) : tick.run r = .ok (r.clock + 1) r.ticked := rfl

@[simp] theorem run_store (name : Name) (e : Entry) (r : Realm) :
    (store name e).run r = .ok () (r.put name e) := rfl

@[simp] theorem run_remove (name : Name) (r : Realm) :
    (remove name).run r = .ok () (r.drop name) := rfl

theorem run_entry (name : Name) (r : Realm) :
    (entry name).run r =
      match r.principals.get? name.text with
      | some e => .ok e r
      | none => .error .unknownPrincipal r := by
  cases h : r.principals.get? name.text <;> simp [entry, h]

theorem run_insertNew (e : Entry) (r : Realm) :
    (insertNew e).run r =
      match e.record.principal with
      | none => .error .badPrincipal r
      | some name =>
        if r.principals.contains name.text then .error .duplicate r else .ok () (r.put name e) := by
  cases hname : e.record.principal with
  | none => simp [insertNew, hname]
  | some name =>
    cases htaken : r.principals.contains name.text <;> simp [insertNew, hname, htaken, put]

/-- A call is logged, and fails if a fault was laid for its kind. -/
theorem run_enter (call : Call) (r : Realm) :
    (enter call).run r =
      match r.faults call.kind with
      | [] => .ok () (r.logged call)
      | fault :: rest => .error fault ((r.logged call).armed call.kind rest) := by
  cases h : r.faults call.kind <;> simp [enter, h, logged, armed]

/-! ## Requests that are carried out -/

theorem run_serveGet (h : r.faults .get = []) :
    (serveGet name fields).run r =
      match r.principals.get? name.text with
      | some e => .ok (Record.blank.merge e.record fields) (r.logged (.get name.text fields))
      | none => .error .unknownPrincipal (r.logged (.get name.text fields)) := by
  have henter := run_enter (.get name.text fields) r
  rw [Call.kind, h] at henter
  cases he : r.principals.get? name.text <;> simp [serveGet, henter, run_entry, he]

theorem run_servePrivileges (client : Name) (r : Realm) :
    ((service client).serve .privileges).run r =
      match r.faults .privileges with
      | [] => .ok r.privileges (r.logged .privileges)
      | fault :: rest => .error fault ((r.logged .privileges).armed .privileges rest) := by
  have henter := run_enter .privileges r
  rw [Call.kind] at henter
  cases h : r.faults .privileges <;>
  · rw [h] at henter
    simp [service, servePrivileges, henter]

/-- A name's text is a filter with a realm. -/
theorem fullFilter_text (r : Realm) (n : Name) : r.fullFilter n.text = n.text := by
  rw [fullFilter, if_pos (by simp [Name.text])]

theorem run_compile (filter : String) (r : Realm) :
    (compile filter).run r =
      if r.compiles (r.fullFilter filter) then .ok (r.fullFilter filter) r
      else .error .failure r := by
  cases h : r.compiles (r.fullFilter filter) <;> simp [compile, h]

theorem run_serveList (h : r.faults .list = []) (filter : String) :
    ((service client).serve (.list filter)).run r =
      if r.compiles (r.fullFilter filter) then
        .ok (r.principalNames.filter (Text.globMatches (r.fullFilter filter)))
          (r.logged (.list filter))
      else .error .failure (r.logged (.list filter)) := by
  have henter := run_enter (.list filter) r
  rw [Call.kind, h] at henter
  have hcompile := run_compile filter (r.logged (.list filter))
  have hfull : (r.logged (.list filter)).fullFilter filter = r.fullFilter filter := rfl
  have hcompiles : (r.logged (.list filter)).compiles = r.compiles := rfl
  have hnames : (r.logged (.list filter)).principalNames = r.principalNames := rfl
  rw [hfull, hcompiles] at hcompile
  cases hfits : r.compiles (r.fullFilter filter) with
  | false => simp [service, serveList, henter, hcompile, hfits]
  | true => simp [service, serveList, henter, hcompile, hfits, hnames]

/-- A change of a realm: when it is carried out and what it leaves, while a
refusal leaves every entry as it was. -/
def Changes (x : Step Unit) (r : Realm) (carriedOut : Realm → Prop) : Prop :=
  (∀ r', x.run r = .ok () r' ↔ carriedOut r') ∧
    ∀ status r', x.run r = .error status r' → r'.principals = r.principals

theorem serveModify_changes (client : Name) (record : Record) (fields : FieldSet) (r : Realm) :
    Changes (serveModify client record fields) r fun r' =>
      r.faults .modify = [] ∧ fields = fields.forModify ∧
      ¬ (.policy ∈ fields ∧ .policyClear ∈ fields) ∧
      ∃ name e, record.principal = some name ∧ r.principals.get? name.text = some e ∧
        r' = ((r.logged (.modify name.text fields)).ticked).put name
          (e.modified client (r.clock + 1) record fields) := by
  unfold Changes
  cases hname : record.principal with
  | none => simp [serveModify, hname]
  | some name =>
    have henter := run_enter (.modify name.text fields) r
    rw [Call.kind] at henter
    cases hfaults : r.faults .modify with
    | cons fault rest =>
      rw [hfaults] at henter
      simp [serveModify, hname, henter]
    | nil =>
      rw [hfaults] at henter
      by_cases hmask : fields = fields.forModify
      · by_cases hpolicy : .policy ∈ fields ∧ .policyClear ∈ fields
        · simp [serveModify, hname, henter, ← hmask, hpolicy]
        · cases he : r.principals.get? name.text with
          | none => simp [serveModify, hname, henter, ← hmask, hpolicy, run_entry, he]
          | some e =>
            simp [serveModify, hname, henter, ← hmask, hpolicy, run_entry, he, Entry.modified,
              eq_comm (a := put _ _ _)]
      · simp [serveModify, hname, henter, hmask]

theorem serveChangePassword_changes (client name : Name) (password : List UInt8) (r : Realm) :
    Changes (serveChangePassword client name password) r fun r' =>
      r.faults .changePassword = [] ∧ password ≠ [] ∧
      ∃ e, r.principals.get? name.text = some e ∧
        r' = ((r.logged (.changePassword name.text)).ticked).put name
          (e.rekeyed client (r.clock + 1) password) := by
  unfold Changes
  have henter := run_enter (.changePassword name.text) r
  rw [Call.kind] at henter
  cases hfaults : r.faults .changePassword with
  | cons fault rest =>
    rw [hfaults] at henter
    simp [serveChangePassword, henter]
  | nil =>
    rw [hfaults] at henter
    by_cases hempty : password = []
    · simp [serveChangePassword, henter, hempty]
    · cases he : r.principals.get? name.text with
      | none => simp [serveChangePassword, henter, hempty, run_entry, he]
      | some e =>
        simp [serveChangePassword, henter, hempty, run_entry, he, Entry.rekeyed,
          eq_comm (a := put _ _ _)]

theorem serveRename_changes (client source target : Name) (r : Realm) :
    Changes (serveRename client source target) r fun r' =>
      r.faults .rename = [] ∧ r.principals.contains target.text = false ∧
      ∃ e, r.principals.get? source.text = some e ∧
        r' = (((r.logged (.rename source.text target.text)).drop source).ticked).put target
          (e.renamed client (r.clock + 1) target) := by
  unfold Changes
  have henter := run_enter (.rename source.text target.text) r
  rw [Call.kind] at henter
  cases hfaults : r.faults .rename with
  | cons fault rest =>
    rw [hfaults] at henter
    simp [serveRename, henter]
  | nil =>
    rw [hfaults] at henter
    cases htaken : r.principals.contains target.text with
    | true => simp [serveRename, henter, htaken]
    | false =>
      cases he : r.principals.get? source.text with
      | none => simp [serveRename, henter, htaken, run_entry, he]
      | some e =>
        simp [serveRename, henter, htaken, run_entry, he, Entry.renamed,
          eq_comm (a := put _ _ _)]

theorem serveDelete_changes (name : Name) (r : Realm) :
    Changes (serveDelete name) r fun r' =>
      r.faults .delete = [] ∧ r.principals.contains name.text = true ∧
        r' = (r.logged (.delete name.text)).drop name := by
  unfold Changes
  have henter := run_enter (.delete name.text) r
  rw [Call.kind] at henter
  cases hfaults : r.faults .delete with
  | cons fault rest =>
    rw [hfaults] at henter
    simp [serveDelete, henter]
  | nil =>
    rw [hfaults] at henter
    cases he : r.principals.get? name.text with
    | none => simp [serveDelete, henter, run_entry, he, TextMap.contains]
    | some e => simp [serveDelete, henter, run_entry, he, TextMap.contains, eq_comm (a := drop _ _)]

/-- A created entry has the name of the request. -/
theorem principal_make (h : .principal ∈ fields) (now : Int64) :
    (Entry.make client now record fields password).record.principal = record.principal := by
  let new := { Record.blank with keyVersion := 1 }
  have hagree : (new.merge record fields).AgreeAt record .principal :=
    Record.agreeAt_merge_of_mem h
  exact hagree

/-- A creation that passes the checks puts the entry that it makes into the
realm. -/
theorem run_serveCreate (client : Name) (record : Record) {fields : FieldSet}
    {password : List UInt8} {r : Realm} (hfaults : r.faults .create = [])
    (hmask : fields = fields.forCreate) (hmem : .principal ∈ fields) (hempty : password ≠ []) :
    (serveCreate client record fields password).run r =
      (insertNew (.make client (r.clock + 1) record fields password)).run
        (r.logged (.create ((record.principal.map Name.text).getD "") fields)).ticked := by
  have henter := run_enter (.create ((record.principal.map Name.text).getD "") fields) r
  rw [Call.kind, hfaults] at henter
  simp only [serveCreate, EStateM.run_bind, henter, if_neg (not_not_intro hmask),
    if_neg (not_not_intro hmem), List.isEmpty_iff, if_neg hempty, run_tick]
  rfl

theorem serveCreate_changes (client : Name) (record : Record) (fields : FieldSet)
    (password : List UInt8) (r : Realm) :
    Changes (serveCreate client record fields password) r fun r' =>
      r.faults .create = [] ∧ fields = fields.forCreate ∧ .principal ∈ fields ∧ password ≠ [] ∧
      ∃ name, record.principal = some name ∧ r.principals.contains name.text = false ∧
        r' = ((r.logged (.create name.text fields)).ticked).put name
          (.make client (r.clock + 1) record fields password) := by
  unfold Changes
  have henter := run_enter (.create ((record.principal.map Name.text).getD "") fields) r
  rw [Call.kind] at henter
  cases hfaults : r.faults .create with
  | cons fault rest =>
    rw [hfaults] at henter
    simp [serveCreate, henter]
  | nil =>
    rw [hfaults] at henter
    by_cases hmask : fields = fields.forCreate
    · by_cases hmem : .principal ∈ fields
      · by_cases hempty : password = []
        · simp [serveCreate, henter, ← hmask, hmem, hempty]
        · rw [run_serveCreate client record hfaults hmask hmem hempty, run_insertNew,
            principal_make hmem]
          cases hname : record.principal with
          | none => simp
          | some name =>
            cases htaken : r.principals.contains name.text <;>
              simp [← hmask, hmem, hempty, htaken, eq_comm (a := put _ _ _)]
      · simp [serveCreate, henter, ← hmask, hmem]
    · simp [serveCreate, henter, hmask]

/-! ## Requests that are refused -/

/-- A request meets the fault that was laid for its kind before anything else
is looked at. -/
theorem run_serve_fault {q : Request} {fault : Status} {rest : List Status} (hq : q.IsAddressed)
    (h : r.faults q.call.kind = fault :: rest) :
    ((service client).serve q).run r =
      .error fault ((r.logged q.call).armed q.call.kind rest) := by
  have henter := run_enter q.call r
  rw [h] at henter
  cases q with
  | get name fields =>
    rw [Request.call] at henter
    simp [service, serveGet, henter, Request.call]
  | create record fields password =>
    rw [Request.call] at henter
    simp [service, serveCreate, henter, Request.call]
  | modify record fields =>
    obtain ⟨name, hname⟩ := Option.isSome_iff_exists.mp hq
    rw [Request.call, hname] at henter
    have henter : (enter (.modify name.text fields)).run r = _ := henter
    simp [service, serveModify, henter, hname, Request.call]
  | rename source target =>
    rw [Request.call] at henter
    simp [service, serveRename, henter, Request.call]
  | changePassword name password =>
    rw [Request.call] at henter
    simp [service, serveChangePassword, henter, Request.call]
  | delete name =>
    rw [Request.call] at henter
    simp [service, serveDelete, henter, Request.call]
  | list filter =>
    rw [Request.call] at henter
    simp [service, serveList, henter, Request.call]
  | privileges =>
    rw [Request.call] at henter
    simp [service, servePrivileges, henter, Request.call]

/-- A request that is refused leaves every entry as it was. -/
theorem principals_of_refused {q : Request} {status : Status}
    (h : ((service client).serve q).run r = .error status r') : r'.principals = r.principals := by
  have hfault (hq : q.IsAddressed) {fault : Status} {rest : List Status}
      (hcons : r.faults q.call.kind = fault :: rest) : r'.principals = r.principals := by
    rw [run_serve_fault hq hcons, EStateM.Result.error.injEq] at h
    simp [← h.2]
  have henter := run_enter q.call r
  cases hfaults : r.faults q.call.kind with
  | cons fault rest =>
    cases q with
    | modify record fields => exact (serveModify_changes ..).2 _ _ h
    | _ => exact hfault trivial hfaults
  | nil =>
    rw [hfaults] at henter
    cases q with
    | create record fields password => exact (serveCreate_changes ..).2 _ _ h
    | modify record fields => exact (serveModify_changes ..).2 _ _ h
    | rename source target => exact (serveRename_changes ..).2 _ _ h
    | changePassword name password => exact (serveChangePassword_changes ..).2 _ _ h
    | delete name => exact (serveDelete_changes ..).2 _ _ h
    | get name fields =>
      change (serveGet name fields).run r = _ at h
      rw [run_serveGet hfaults] at h
      cases he : r.principals.get? name.text with
      | none =>
        obtain ⟨-, rfl⟩ : _ ∧ _ = r' := by simpa [he] using h
        rfl
      | some e => simp [he] at h
    | list filter =>
      rw [run_serveList hfaults] at h
      split at h
      · cases h
      · cases h
        rfl
    | privileges =>
      rw [Request.call] at henter
      simp [service, servePrivileges, henter] at h

/-- To say what the client may do leaves every entry as it was. -/
theorem principals_of_privileges {privileges : Privileges}
    (h : ((service client).serve .privileges).run r = .ok privileges r') :
    r'.principals = r.principals := by
  have henter := run_enter .privileges r
  cases hfaults : r.faults .privileges with
  | cons fault rest =>
    rw [run_serve_fault (q := .privileges) trivial hfaults] at h
    cases h
  | nil =>
    rw [Call.kind, hfaults] at henter
    obtain ⟨-, rfl⟩ : _ ∧ _ = r' := by
      simpa [service, servePrivileges, henter] using h
    rfl

end Realm

end RealmAdmin
