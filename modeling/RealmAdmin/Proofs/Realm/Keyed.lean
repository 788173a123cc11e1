/-
RealmAdmin.Proofs.Realm.Keyed — a realm that stores under names, not texts.

A realm stores each principal under the text of its name. `Keeper` lists what the
service needs of the store, and the programs over it are those of the service:
with the texts as keys they are the realm's own (`service_byText`). With the
names themselves as keys they are those of a `NamedRealm`. The two answer every
sequence of requests alike (`text_keys`), because no two names have one text.
-/
import Mathlib.Data.List.AList
import RealmAdmin.Proofs.Name.Injective
import RealmAdmin.Proofs.Realm.Reached

namespace RealmAdmin

/-! ## The service over any store -/

/-- What a service needs of whatever keeps its principals. -/
structure Keeper (σ : Type) where
  /-- A step of the realm that leaves its principals alone. -/
  aside : {α : Type} → Realm.Step α → EStateM Status σ α
  find : Name → EStateM Status σ (Option Entry)
  store : Name → Entry → EStateM Status σ Unit
  remove : Name → EStateM Status σ Unit
  /-- The texts of the stored names, in order. -/
  texts : EStateM Status σ (List String)

namespace Keeper

open Realm (enter tick stamp compile)

variable {σ : Type} (k : Keeper σ)

/-- The entry of a principal. -/
def entry (name : Name) : EStateM Status σ Entry := do
  match ← k.find name with
  | some e => return e
  | none => throw .unknownPrincipal

/-- Whether a principal is stored. -/
def contains (name : Name) : EStateM Status σ Bool := return (← k.find name).isSome

/-- Store a new entry under the name in its record. -/
def insertNew (e : Entry) : EStateM Status σ Unit := do
  match e.record.principal with
  | none => throw .badPrincipal
  | some name =>
    if ← k.contains name then throw .duplicate
    k.store name e

def serveGet (name : Name) (fields : FieldSet) : EStateM Status σ Record := do
  k.aside (enter (.get name.text fields))
  return Record.blank.merge (← k.entry name).record fields

def serveCreate (client : Name) (record : Record) (fields : FieldSet) (password : List UInt8) :
    EStateM Status σ Unit := do
  k.aside (enter (.create ((record.principal.map Name.text).getD "") fields))
  if fields ≠ fields.forCreate then throw .badMask
  if .principal ∉ fields then throw .badMask
  if password.isEmpty then throw .passwordTooShort
  let now ← k.aside tick
  k.insertNew (.make client now record fields password)

def serveModify (client : Name) (record : Record) (fields : FieldSet) : EStateM Status σ Unit := do
  match record.principal with
  | none => throw .badPrincipal
  | some name =>
    k.aside (enter (.modify name.text fields))
    if fields ≠ fields.forModify then throw .badMask
    if .policy ∈ fields ∧ .policyClear ∈ fields then throw .badMask
    let now ← k.aside tick
    let e ← k.entry name
    k.store name (e.modified client now record fields)

def serveRename (client source target : Name) : EStateM Status σ Unit := do
  k.aside (enter (.rename source.text target.text))
  if ← k.contains target then throw .duplicate
  let e ← k.entry source
  k.remove source
  let now ← k.aside tick
  k.store target (e.renamed client now target)

def serveChangePassword (client name : Name) (password : List UInt8) :
    EStateM Status σ Unit := do
  k.aside (enter (.changePassword name.text))
  if password.isEmpty then throw .passwordTooShort
  let now ← k.aside tick
  let e ← k.entry name
  k.store name (e.rekeyed client now password)

def serveDelete (name : Name) : EStateM Status σ Unit := do
  k.aside (enter (.delete name.text))
  let _ ← k.entry name
  k.remove name

def serveList (filter : String) : EStateM Status σ (List String) := do
  k.aside (enter (.list filter))
  let full ← k.aside (compile filter)
  return (← k.texts).filter (Text.globMatches full)

/-- The service as one client meets it. -/
def service (client : Name) : Service σ where
  serve
    | .get name fields => k.serveGet name fields
    | .create record fields password => k.serveCreate client record fields password
    | .modify record fields => k.serveModify client record fields
    | .rename source target => k.serveRename client source target
    | .changePassword name password => k.serveChangePassword client name password
    | .delete name => k.serveDelete name
    | .list filter => k.serveList filter
    | .privileges => do
      k.aside (enter .privileges)
      k.aside (return (← get).privileges)

end Keeper

/-! ## Texts as keys -/

/-- A realm keeps its principals under the texts of their names. -/
def Keeper.byText : Keeper Realm where
  aside x := x
  find name := return (← get).principals.get? name.text
  store := Realm.store
  remove := Realm.remove
  texts := return (← get).principalNames

theorem Keeper.serveList_byText (filter : String) :
    byText.serveList filter = Realm.serveList filter := by
  refine bind_congr fun _ => bind_congr fun full => ?_
  rfl

/-- With texts as keys the service is the realm's own. -/
theorem Keeper.service_byText (client : Name) : byText.service client = Realm.service client := by
  refine congrArg Service.mk (funext fun q => ?_)
  cases q with
  | list filter => exact serveList_byText filter
  | _ => rfl

/-! ## Names as keys -/

/-- A realm without its principals. -/
def Realm.shell (r : Realm) : Realm := { r with principals := .empty }

/-- A realm that keeps its principals under their names. -/
structure NamedRealm where
  /-- What there is besides the principals. -/
  shell : Realm
  entries : AList fun _ : Name => Entry

namespace NamedRealm

/-- The texts of the stored names, in order. -/
def texts (d : NamedRealm) : List String := (d.entries.keys.map Name.text).mergeSort (· ≤ ·)

end NamedRealm

/-- A named realm keeps its principals under their names. -/
def Keeper.byName : Keeper NamedRealm where
  aside x := fun d =>
    match x.run d.shell with
    | .ok a shell => .ok a { d with shell }
    | .error status shell => .error status { d with shell }
  find name := return (← get).entries.lookup name
  store name e := modify fun d => { d with entries := d.entries.insert name e }
  remove name := modify fun d => { d with entries := d.entries.erase name }
  texts := return (← get).texts

/-- Whether the named realm stores the same as the realm: it is the same but for
the principals, and has each entry under the name whose text is the key. -/
structure Represents (r : Realm) (d : NamedRealm) : Prop where
  shell : d.shell = r.shell
  lookup : ∀ name : Name, name.components ≠ [] →
    d.entries.lookup name = r.principals.get? name.text
  named : ∀ name ∈ d.entries.keys, name.components ≠ []
  keyed : ∀ key ∈ r.principals.keys, ∃ name ∈ d.entries.keys, name.text = key

/-! ## Programs that answer alike -/

/-- Whether two outcomes are alike: they have the same answer, or the same
failure, and related states. -/
inductive SameOutcome {ε σ τ α : Type} (R : σ → τ → Prop) :
    EStateM.Result ε σ α → EStateM.Result ε τ α → Prop
  | ok (a : α) {s : σ} {t : τ} (h : R s t) : SameOutcome R (.ok a s) (.ok a t)
  | error (e : ε) {s : σ} {t : τ} (h : R s t) : SameOutcome R (.error e s) (.error e t)

/-- Whether two programs answer alike from related states on. -/
def Alike {ε σ τ α : Type} (R : σ → τ → Prop) (x : EStateM ε σ α) (y : EStateM ε τ α) : Prop :=
  ∀ s t, R s t → SameOutcome R (x.run s) (y.run t)

section

variable {ε σ τ α β : Type} {R : σ → τ → Prop}

theorem Alike.pure (a : α) : Alike R (pure a : EStateM ε σ α) (pure a : EStateM ε τ α) :=
  fun _ _ h => .ok a h

theorem Alike.throw (e : ε) :
    Alike R (throw e : EStateM ε σ α) (MonadExcept.throw e : EStateM ε τ α) :=
  fun _ _ h => .error e h

theorem Alike.bind {x : EStateM ε σ α} {y : EStateM ε τ α} {f : α → EStateM ε σ β}
    {g : α → EStateM ε τ β} (hx : Alike R x y) (hf : ∀ a, Alike R (f a) (g a)) :
    Alike R (x >>= f) (y >>= g) := by
  intro s t h
  have hrun := hx s t h
  rw [EStateM.run_bind, EStateM.run_bind]
  generalize x.run s = outcome, y.run t = outcome' at hrun ⊢
  cases hrun with
  | ok a h' => exact hf a _ _ h'
  | error e h' => exact .error e h'

/-- Programs that go on unless a condition forbids it. -/
theorem Alike.guard {p : Prop} [Decidable p] (e : ε) {f : PUnit → EStateM ε σ α}
    {g : PUnit → EStateM ε τ α} (h : ¬ p → Alike R (f ⟨⟩) (g ⟨⟩)) :
    Alike R (if p then MonadExcept.throw e >>= f else f ⟨⟩)
      (if p then MonadExcept.throw e >>= g else g ⟨⟩) := by
  by_cases hp : p
  · rw [if_pos hp, if_pos hp]
    exact fun _ _ h' => .error e h'
  · rw [if_neg hp, if_neg hp]
    exact h hp

end

/-! ## The two services -/

namespace Represents

open Realm (enter tick)

variable {r : Realm} {d : NamedRealm}

/-- What there is besides the principals plays no part in where they are. -/
theorem aside (h : Represents r d) {r' : Realm} (hr' : r'.principals = r.principals) :
    Represents r' { d with shell := r'.shell } where
  shell := rfl
  lookup := by simpa [hr'] using h.lookup
  named := h.named
  keyed := by simpa [hr'] using h.keyed

/-- Another entry under a name is another entry under its text. -/
theorem put (h : Represents r d) {name : Name} (hname : name.components ≠ []) (e : Entry) :
    Represents (r.put name e) { d with entries := d.entries.insert name e } where
  shell := h.shell
  lookup other hother := by
    change _ = (r.principals.insert name.text e).get? other.text
    rw [TextMap.get?_insert]
    by_cases hsame : other = name
    · rw [hsame, if_pos rfl, AList.lookup_insert]
    · rw [if_neg fun heq => hsame (Name.eq_of_text_eq hother hname heq),
        AList.lookup_insert_ne hsame, h.lookup other hother]
  named other hother := by
    rw [← AList.mem_keys, AList.mem_insert, AList.mem_keys] at hother
    rcases hother with rfl | hother
    · exact hname
    · exact h.named other hother
  keyed key hkey := by
    change key ∈ (r.principals.insert name.text e).keys at hkey
    rw [TextMap.mem_keys, TextMap.get?_insert] at hkey
    by_cases hsame : key = name.text
    · exact ⟨name, AList.mem_keys.mp (by simp), hsame.symm⟩
    · rw [if_neg hsame, ← TextMap.mem_keys] at hkey
      obtain ⟨other, hother, htext⟩ := h.keyed key hkey
      rw [← AList.mem_keys] at hother
      exact ⟨other, AList.mem_keys.mp ((AList.mem_insert _).mpr (.inr hother)), htext⟩

/-- Nothing under a name is nothing under its text. -/
theorem drop (h : Represents r d) {name : Name} (hname : name.components ≠ []) :
    Represents (r.drop name) { d with entries := d.entries.erase name } where
  shell := h.shell
  lookup other hother := by
    change _ = (r.principals.erase name.text).get? other.text
    rw [TextMap.get?_erase]
    by_cases hsame : other = name
    · rw [hsame, if_pos rfl, AList.lookup_erase]
    · rw [if_neg fun heq => hsame (Name.eq_of_text_eq hother hname heq),
        AList.lookup_erase_ne hsame, h.lookup other hother]
  named other hother := by
    rw [← AList.mem_keys, AList.mem_erase, AList.mem_keys] at hother
    exact h.named other hother.2
  keyed key hkey := by
    change key ∈ (r.principals.erase name.text).keys at hkey
    rw [TextMap.mem_keys, TextMap.get?_erase] at hkey
    by_cases hsame : key = name.text
    · simp [hsame] at hkey
    · rw [if_neg hsame, ← TextMap.mem_keys] at hkey
      obtain ⟨other, hother, rfl⟩ := h.keyed key hkey
      rw [← AList.mem_keys] at hother
      have hne : other ≠ name := fun heq => hsame (by rw [heq])
      exact ⟨other, AList.mem_keys.mp (AList.mem_erase.mpr ⟨hne, hother⟩), rfl⟩

/-- The texts of the names are the keys, in the same order. -/
theorem texts (h : Represents r d) : d.texts = r.principalNames := by
  have hnodup : (d.entries.keys.map Name.text).Nodup :=
    (List.nodup_map_iff_inj_on d.entries.keys_nodup).mpr fun m hm n hn heq =>
      Name.eq_of_text_eq (h.named m hm) (h.named n hn) heq
  have hmem (key : String) : key ∈ d.entries.keys.map Name.text ↔ key ∈ r.principals.keys := by
    rw [List.mem_map]
    constructor
    · rintro ⟨name, hname, rfl⟩
      rw [TextMap.mem_keys, ← h.lookup name (h.named name hname), AList.lookup_isSome]
      exact AList.mem_keys.mpr hname
    · exact h.keyed key
  have hkeys := r.principals.keys_ascending
  have hperm : d.texts.Perm r.principals.keys :=
    (List.mergeSort_perm _ _).trans ((List.perm_ext_iff_of_nodup hnodup
      (hkeys.imp Std.ne_of_lt)).mpr hmem)
  have htrans (a b c : String) (hab : decide (a ≤ b) = true) (hbc : decide (b ≤ c) = true) :
      decide (a ≤ c) = true :=
    decide_eq_true (String.le_trans (of_decide_eq_true hab) (of_decide_eq_true hbc))
  have htotal (a b : String) : (decide (a ≤ b) || decide (b ≤ a)) = true := by
    simpa using String.le_total a b
  have hsorted : d.texts.Pairwise (· ≤ ·) :=
    (List.pairwise_mergeSort htrans htotal _).imp of_decide_eq_true
  exact hperm.eq_of_pairwise (fun _ _ _ _ => String.le_antisymm) hsorted (hkeys.imp Std.le_of_lt)

end Represents

namespace Keeper

open Realm (enter tick compile)

/-- Whether a step is aside of the principals: it leaves them alone, and does the same
without them. -/
def IsAside {α : Type} (x : Realm.Step α) : Prop :=
  ∀ r, (∃ a r', x.run r = .ok a r' ∧ r'.principals = r.principals ∧
      x.run r.shell = .ok a r'.shell) ∨
    ∃ status r', x.run r = .error status r' ∧ r'.principals = r.principals ∧
      x.run r.shell = .error status r'.shell

theorem isAside_enter (call : Call) : IsAside (enter call) := by
  intro r
  have hrun := Realm.run_enter call r
  have hshell := Realm.run_enter call r.shell
  have hfaults : r.shell.faults = r.faults := rfl
  rw [hfaults] at hshell
  cases h : r.faults call.kind with
  | nil =>
    rw [h] at hrun hshell
    exact .inl ⟨(), _, hrun, rfl, hshell⟩
  | cons fault rest =>
    rw [h] at hrun hshell
    exact .inr ⟨fault, _, hrun, rfl, hshell⟩

theorem isAside_compile (filter : String) : IsAside (compile filter) := by
  intro r
  have hrun := Realm.run_compile filter r
  have hshell := Realm.run_compile filter r.shell
  have hfull : r.shell.fullFilter filter = r.fullFilter filter := rfl
  have hcompiles : r.shell.compiles = r.compiles := rfl
  rw [hfull, hcompiles] at hshell
  cases h : r.compiles (r.fullFilter filter) with
  | true =>
    rw [h] at hrun hshell
    exact .inl ⟨_, r, hrun, rfl, hshell⟩
  | false =>
    rw [h] at hrun hshell
    exact .inr ⟨_, r, hrun, rfl, hshell⟩

theorem isAside_tick : IsAside tick := fun _ => .inl ⟨_, _, rfl, rfl, rfl⟩

theorem isAside_read {α : Type} {f : Realm → α} (hf : ∀ r, f r.shell = f r) :
    IsAside (return f (← get)) :=
  fun r => .inl ⟨f r, r, rfl, rfl, congrArg (EStateM.Result.ok · r.shell) (hf r)⟩

variable {name : Name}

/-- Such a step is alike aside of both. -/
theorem alike_aside {α : Type} {x : Realm.Step α} (hx : IsAside x) :
    Alike Represents (byText.aside x) (byName.aside x) := by
  intro r d h
  have hname : (byName.aside x).run d = match x.run d.shell with
    | .ok a shell => .ok a { d with shell }
    | .error status shell => .error status { d with shell } := rfl
  rw [hname, h.shell]
  rcases hx r with ⟨a, r', hrun, hprincipals, hshell⟩ | ⟨status, r', hrun, hprincipals, hshell⟩
  · rw [show (byText.aside x).run r = _ from hrun, hshell]
    exact .ok a (h.aside hprincipals)
  · rw [show (byText.aside x).run r = _ from hrun, hshell]
    exact .error status (h.aside hprincipals)

theorem alike_find (hname : name.components ≠ []) :
    Alike Represents (byText.find name) (byName.find name) := by
  intro r d h
  have hfound : (byName.find name).run d = .ok (d.entries.lookup name) d := rfl
  rw [hfound, h.lookup name hname]
  exact .ok _ h

theorem alike_store (hname : name.components ≠ []) (e : Entry) :
    Alike Represents (byText.store name e) (byName.store name e) :=
  fun _ _ h => .ok () (h.put hname e)

theorem alike_remove (hname : name.components ≠ []) :
    Alike Represents (byText.remove name) (byName.remove name) :=
  fun _ _ h => .ok () (h.drop hname)

theorem alike_texts : Alike Represents byText.texts byName.texts := by
  intro r d h
  have htexts : byName.texts.run d = .ok d.texts d := rfl
  rw [htexts, h.texts]
  exact .ok _ h

theorem alike_entry (hname : name.components ≠ []) :
    Alike Represents (byText.entry name) (byName.entry name) := by
  refine (alike_find hname).bind fun found => ?_
  cases found with
  | none => exact .throw _
  | some e => exact .pure e

theorem alike_contains (hname : name.components ≠ []) :
    Alike Represents (byText.contains name) (byName.contains name) :=
  (alike_find hname).bind fun _ => .pure _

theorem alike_insertNew {e : Entry} (he : ∀ name ∈ e.record.principal, name.components ≠ []) :
    Alike Represents (byText.insertNew e) (byName.insertNew e) := by
  unfold insertNew
  cases hname : e.record.principal with
  | none => exact .throw _
  | some name =>
    have hcomponents := he name hname
    refine (alike_contains hcomponents).bind fun taken => ?_
    cases taken with
    | true => exact .throw _
    | false => exact alike_store hcomponents e

theorem alike_serveGet (hname : name.components ≠ []) (fields : FieldSet) :
    Alike Represents (byText.serveGet name fields) (byName.serveGet name fields) :=
  (alike_aside (isAside_enter _)).bind fun _ => (alike_entry hname).bind fun _ => .pure _

theorem alike_serveCreate (client : Name) {record : Record}
    (hrecord : ∀ name ∈ record.principal, name.components ≠ []) (fields : FieldSet)
    (password : List UInt8) :
    Alike Represents (byText.serveCreate client record fields password)
      (byName.serveCreate client record fields password) := by
  refine (alike_aside (isAside_enter _)).bind fun _ => .guard _ fun _ => ?_
  refine .guard _ fun hmem => .guard _ fun _ => ?_
  refine (alike_aside isAside_tick).bind fun now => alike_insertNew ?_
  rwa [Realm.principal_make (not_not.mp hmem)]

theorem alike_serveModify (client : Name) {record : Record}
    (hrecord : ∀ name ∈ record.principal, name.components ≠ []) (fields : FieldSet) :
    Alike Represents (byText.serveModify client record fields)
      (byName.serveModify client record fields) := by
  unfold serveModify
  cases hname : record.principal with
  | none => exact .throw _
  | some name =>
    have hcomponents := hrecord name hname
    refine (alike_aside (isAside_enter _)).bind fun _ => .guard _ fun _ => ?_
    refine .guard _ fun _ => (alike_aside isAside_tick).bind fun now => ?_
    exact (alike_entry hcomponents).bind fun e => alike_store hcomponents _

theorem alike_serveRename (client : Name) {source target : Name} (hsource : source.components ≠ [])
    (htarget : target.components ≠ []) :
    Alike Represents (byText.serveRename client source target)
      (byName.serveRename client source target) := by
  refine (alike_aside (isAside_enter _)).bind fun _ => ?_
  refine (alike_contains htarget).bind fun taken => .guard _ fun _ => ?_
  refine (alike_entry hsource).bind fun e => (alike_remove hsource).bind fun _ => ?_
  exact (alike_aside isAside_tick).bind fun now => alike_store htarget _

theorem alike_serveChangePassword (client : Name) (hname : name.components ≠ [])
    (password : List UInt8) :
    Alike Represents (byText.serveChangePassword client name password)
      (byName.serveChangePassword client name password) := by
  refine (alike_aside (isAside_enter _)).bind fun _ => .guard _ fun _ => ?_
  refine (alike_aside isAside_tick).bind fun now => ?_
  exact (alike_entry hname).bind fun e => alike_store hname _

theorem alike_serveDelete (hname : name.components ≠ []) :
    Alike Represents (byText.serveDelete name) (byName.serveDelete name) :=
  (alike_aside (isAside_enter _)).bind fun _ => (alike_entry hname).bind fun _ =>
    alike_remove hname

theorem alike_serveList (filter : String) :
    Alike Represents (byText.serveList filter) (byName.serveList filter) := by
  refine (alike_aside (isAside_enter _)).bind fun _ => ?_
  refine (alike_aside (isAside_compile filter)).bind fun full => ?_
  exact alike_texts.bind fun _ => .pure _

/-- The two services answer each request alike. -/
theorem alike_serve (client : Name) {q : Request} (hq : q.IsNamed) :
    Alike Represents ((Realm.service client).serve q) ((byName.service client).serve q) := by
  rw [← service_byText]
  cases q with
  | get name fields => exact alike_serveGet (hq name (by simp [Request.names])) fields
  | create record fields password =>
    have hrecord : ∀ name ∈ record.principal, name.components ≠ [] :=
      fun name hname => hq name (by simpa [Request.names] using hname)
    exact alike_serveCreate client hrecord fields password
  | modify record fields =>
    have hrecord : ∀ name ∈ record.principal, name.components ≠ [] :=
      fun name hname => hq name (by simpa [Request.names] using hname)
    exact alike_serveModify client hrecord fields
  | rename source target =>
    exact alike_serveRename client (hq source (by simp [Request.names]))
      (hq target (by simp [Request.names]))
  | changePassword name password =>
    exact alike_serveChangePassword client (hq name (by simp [Request.names])) password
  | delete name => exact alike_serveDelete (hq name (by simp [Request.names]))
  | list filter => exact alike_serveList filter
  | privileges =>
    exact (alike_aside (isAside_enter _)).bind fun _ =>
      alike_aside (isAside_read fun _ => rfl)

end Keeper

/-! ## Whole sequences of requests -/

/-- What requests that clients send in turn are answered, and the state that they
leave. -/
def Service.answers {σ : Type} (service : Name → Service σ) :
    List (Name × Request) → σ → List ((q : Request) × Except Status q.Answer) × σ
  | [], w => ([], w)
  | (client, q) :: rest, w =>
    match ((service client).serve q).run w with
    | .ok a w' => ((⟨q, .ok a⟩ :: (answers service rest w').1), (answers service rest w').2)
    | .error status w' =>
      ((⟨q, .error status⟩ :: (answers service rest w').1), (answers service rest w').2)

/-- Services that answer each request alike answer every sequence alike. -/
theorem Alike.answers {σ τ : Type} {R : σ → τ → Prop} {S : Name → Service σ} {T : Name → Service τ}
    {requests : List (Name × Request)}
    (hserve : ∀ x ∈ requests, Alike R ((S x.1).serve x.2) ((T x.1).serve x.2)) {s : σ} {t : τ}
    (h : R s t) : (Service.answers S requests s).1 = (Service.answers T requests t).1 ∧
      R (Service.answers S requests s).2 (Service.answers T requests t).2 := by
  induction requests generalizing s t with
  | nil => exact ⟨rfl, h⟩
  | cons x rest ih =>
    obtain ⟨client, q⟩ := x
    have hrun := hserve _ List.mem_cons_self s t h
    have hrest {s : σ} {t : τ} := @ih (fun x hx => hserve x (List.mem_cons_of_mem _ hx)) s t
    simp only [Service.answers]
    generalize ((S client).serve q).run s = outcome, ((T client).serve q).run t = outcome' at hrun ⊢
    cases hrun with
    | ok a h' => exact ⟨congrArg (⟨q, .ok a⟩ :: ·) (hrest h').1, (hrest h').2⟩
    | error status h' => exact ⟨congrArg (⟨q, .error status⟩ :: ·) (hrest h').1, (hrest h').2⟩

/-! ## Realms that are reached -/

/-- Whether every key is the text of a name. -/
def Realm.KeyedByNames (r : Realm) : Prop :=
  ∀ key ∈ r.principals.keys, ∃ name : Name, name.components ≠ [] ∧ name.text = key

theorem Represents.keyedByNames {r : Realm} {d : NamedRealm} (h : Represents r d) :
    r.KeyedByNames := fun key hkey =>
  let ⟨name, hname, htext⟩ := h.keyed key hkey
  ⟨name, h.named name hname, htext⟩

namespace Realm.KeyedByNames

variable {r : Realm}

/-- A realm whose keys are texts of names is represented. -/
theorem represents (h : r.KeyedByNames) : ∃ d, Represents r d := by
  have : Nonempty Name := ⟨⟨[], ""⟩⟩
  choose! name hname htext using h
  have hkey {x : String × Entry} (hx : x ∈ r.principals.entries) : x.1 ∈ r.principals.keys :=
    List.mem_map.mpr ⟨x, hx, rfl⟩
  let entries : List (Sigma fun _ : Name => Entry) :=
    r.principals.entries.map fun x => ⟨name x.1, x.2⟩
  have hkeys (n : Name) : n ∈ entries.keys ↔ ∃ x ∈ r.principals.entries, name x.1 = n := by
    simp [entries, List.keys]
  have hnodup : entries.NodupKeys := by
    refine List.Nodup.of_map Name.text ?_
    have htexts : entries.keys.map Name.text = r.principals.keys := by
      simp only [entries, List.keys, List.map_map, TextMap.keys]
      exact List.map_congr_left fun x hx => htext x.1 (hkey hx)
    rw [htexts]
    exact r.principals.keys_ascending.imp Std.ne_of_lt
  refine ⟨⟨r.shell, ⟨entries, hnodup⟩⟩, rfl, fun n hn => Option.ext fun e => ?_, fun n h => ?_,
    fun key h => ?_⟩
  · rw [TextMap.get?_eq_some_iff, ← Option.mem_def, AList.mem_lookup_iff]
    constructor
    · intro h
      obtain ⟨x, hx, heq⟩ := List.mem_map.mp h
      obtain ⟨rfl, rfl⟩ : name x.1 = n ∧ x.2 = e := by simpa using heq
      rwa [htext x.1 (hkey hx)]
    · intro h
      have hsame : name n.text = n := Name.eq_of_text_eq (hname _ (hkey h)) hn (htext _ (hkey h))
      exact List.mem_map.mpr ⟨(n.text, e), h, by rw [hsame]⟩
  · obtain ⟨x, hx, rfl⟩ := (hkeys n).mp h
    exact hname x.1 (hkey hx)
  · obtain ⟨x, hx, rfl⟩ := List.mem_map.mp h
    exact ⟨name x.1, (hkeys _).mpr ⟨x, hx, rfl⟩, htext x.1 (hkey hx)⟩

theorem of_principals {r' : Realm} (h : r.KeyedByNames) (hr' : r'.principals = r.principals) :
    r'.KeyedByNames := by
  rwa [KeyedByNames, hr']

theorem put (h : r.KeyedByNames) {name : Name} (hname : name.components ≠ []) (e : Entry) :
    (r.put name e).KeyedByNames := by
  obtain ⟨d, hd⟩ := h.represents
  exact (hd.put hname e).keyedByNames

theorem addPrincipal (h : r.KeyedByNames) (name password : String) :
    (stateOf ((Realm.addPrincipal name password).run r)).KeyedByNames := by
  unfold Realm.addPrincipal
  cases hname : Name.parse name r.name with
  | error f => simpa [hname] using h
  | ok principal =>
    have hticked : r.ticked.KeyedByNames := h
    simp only [EStateM.run_bind, EStateM.run_get, hname, run_tick, run_insertNew, Record.named]
    split
    · exact hticked
    · exact hticked.put (Name.isValid_of_parse hname).1 _

theorem updateRecord (h : r.KeyedByNames) (name : String) (edit : Record → Record) :
    (stateOf ((Realm.updateRecord name edit).run r)).KeyedByNames := by
  unfold Realm.updateRecord
  cases he : r.principals.get? (r.key name) with
  | none => simpa [he] using h
  | some e =>
    simp only [EStateM.run_bind, EStateM.run_get, he]
    intro key hkey
    refine h key ?_
    rw [TextMap.mem_keys] at hkey ⊢
    change ((r.principals.insert _ _).get? key).isSome at hkey
    rw [TextMap.get?_insert] at hkey
    by_cases hsame : key = r.key name
    · rw [hsame, he]
      rfl
    · rwa [if_neg hsame] at hkey

end Realm.KeyedByNames

/-- The keys of a realm that is reached are texts of names. -/
theorem Realm.Reached.keyedByNames {r : Realm} (h : Reached Event.IsNamed r) :
    r.KeyedByNames := by
  induction h with
  | new name compiles =>
    have hempty : KeyedByNames { name, compiles } := fun key hkey => by cases hkey
    have hadded := hempty.addPrincipal adminClient adminPassword
    unfold Realm.new
    split
    · next hrun => rwa [hrun] at hadded
    · next hrun => rwa [hrun] at hadded
  | @after r h event hnamed ih =>
    cases event with
    | addPrincipal name password => exact ih.addPrincipal name password
    | updateRecord name edit => exact ih.updateRecord name edit
    | request client q =>
      obtain ⟨d, hd⟩ := ih.represents
      have hrun := Keeper.alike_serve client hnamed r d hd
      change KeyedByNames (stateOf (((service client).serve q).run r))
      generalize ((service client).serve q).run r = outcome,
        ((Keeper.byName.service client).serve q).run d = outcome' at hrun ⊢
      cases hrun with
      | ok a h' => exact h'.keyedByNames
      | error status h' => exact h'.keyedByNames
    | _ => exact ih.of_principals (principals_arranged (by simp [Event.IsWrite]) r)

/-- **Texts are as good as names.** Two names with a component have the same text
only if they are the same. So a realm that stores under texts is no other than one
that stores under names: each realm that is reached is represented by one, and
from then on the two answer whatever clients ask, in every order, alike. -/
theorem text_keys :
    (∀ m n : Name, m.components ≠ [] → n.components ≠ [] → m.text = n.text → m = n) ∧
    (∀ r, Realm.Reached Realm.Event.IsNamed r → ∃ d, Represents r d) ∧
    ∀ r d, Represents r d → ∀ requests : List (Name × Request),
      (∀ x ∈ requests, x.2.IsNamed) →
        (Service.answers Realm.service requests r).1 =
            (Service.answers Keeper.byName.service requests d).1 ∧
          Represents (Service.answers Realm.service requests r).2
            (Service.answers Keeper.byName.service requests d).2 :=
  ⟨fun _ _ hm hn h => Name.eq_of_text_eq hm hn h, fun _ h => h.keyedByNames.represents,
    fun _ _ h _ hnamed => Alike.answers (fun x hx => Keeper.alike_serve x.1 (hnamed x hx)) h⟩

/-- A name with a slash in its one component, and the name whose two components
that slash would separate: both are stored, and each of them is stored once. -/
theorem text_keys_of_escaped_slash :
    let admin : Name := ⟨["admin", "admin"], "R"⟩
    let one : Name := ⟨["a/b"], "R"⟩
    let two : Name := ⟨["a", "b"], "R"⟩
    let create (name : Name) : Name × Request :=
      (admin, .create (.named name) (.single .principal) [7])
    let requests := [create one, create two, create two, (admin, .delete two), (admin, .delete two)]
    one.text ≠ two.text ∧ ∃ d, Represents (Realm.new "R") d ∧
      (Service.answers Keeper.byName.service requests d).1.map (fun x => x.2.toOption.isSome) =
        [true, true, false, true, false] := by
  intro admin one two create requests
  obtain ⟨hinj, hreached, hanswers⟩ := text_keys
  obtain ⟨d, hd⟩ := hreached _ (.new "R")
  have hnamed : ∀ x ∈ requests, x.2.IsNamed := by
    simp [requests, create, Request.IsNamed, Request.names, Record.named, one, two]
  refine ⟨fun h => absurd (hinj one two (by simp [one]) (by simp [two]) h) (by decide), d, hd, ?_⟩
  rw [← (hanswers _ d hd requests hnamed).1]
  decide +kernel

end RealmAdmin
