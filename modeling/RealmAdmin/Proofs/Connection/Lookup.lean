/-
RealmAdmin.Proofs.Connection.Lookup — the principals that a filter finds.

To look principals up, a connection asks for the privileges and for a listing, and then
asks nothing more. So what it answers is a function of what is listed (`run_get`,
`run_getAll`).

What is listed are texts of names, and the text of a name is read as that name or not at
all. So a principal that is found is stored under the text of its name, where its first
load finds it (`findable_existing`), and no template is looked for.
-/
import RealmAdmin.Proofs.Checks
import RealmAdmin.Proofs.Realm.Contest
import RealmAdmin.Proofs.Realm.Listing

namespace RealmAdmin

open Realm

/-! ## Listed principals -/

/-- The principal that listed names stand for, if there is one of them. -/
def Session.theOne {σ : Type} (s : Session σ) : List String → Except Failure Principal
  | [] => .error .unknownPrincipal
  | [name] => (s.parseName name).map .existing
  | _ => .error .ambiguousName

/-- The principals that listed names stand for. -/
def Session.eachOne {σ : Type} (s : Session σ) (names : List String) :
    Except Failure (List Principal) :=
  (names.mapM s.parseName).map (·.map .existing)

/-- What a realm lists for a filter. -/
def Realm.listing (r : Realm) (filter : String) : Except Failure (List String) :=
  if r.compiles (r.fullFilter filter) then
    .ok (r.principalNames.filter (Text.globMatches (r.fullFilter filter)))
  else .error (.ofStatus .failure)

theorem Realm.listing_logged (r : Realm) (call : Call) (filter : String) :
    (r.logged call).listing filter = r.listing filter := rfl

namespace Connection

variable {c : Connection Realm} {client : Name} {r : Realm}

theorem run_require_of_granted (hservice : c.session.service = service client)
    (hfaults : r.faults .privileges = []) {needed : Privileges}
    (hgranted : r.privileges.contains needed = true) (operation : Operation) :
    (c.require needed operation).run r = .ok () (r.logged .privileges) := by
  rw [run_require, hservice, run_servePrivileges, hfaults]
  dsimp only
  rw [if_pos hgranted]

theorem run_list (hservice : c.session.service = service client)
    (hprivileges : r.faults .privileges = []) (hlist : r.faults .list = [])
    (hgranted : r.privileges.contains .list = true) (filter : String) :
    (c.list filter).run r =
      (Remote.ofExcept (r.listing filter)).run ((r.logged .privileges).logged (.list filter)) := by
  have hserve : ((service client).serve (.list filter)).run (r.logged .privileges) = _ :=
    run_serveList (r := r.logged .privileges) hlist filter
  have hask : (c.session.list filter).run (r.logged .privileges) = _ :=
    c.session.service.run_request (.list filter) _
  have hfull : (r.logged .privileges).fullFilter filter = r.fullFilter filter := rfl
  have hcompiles : (r.logged .privileges).compiles = r.compiles := rfl
  rw [hservice, hserve, hfull, hcompiles] at hask
  rw [list, EStateM.run_bind, run_require_of_granted hservice hprivileges hgranted]
  dsimp only
  rw [hask, listing]
  cases r.compiles (r.fullFilter filter) <;> rfl

variable (hservice : c.session.service = service client) (hfaults : ∀ kind, r.faults kind = [])
  (hget : r.privileges.contains .get = true) (hlist : r.privileges.contains .list = true)

include hservice hfaults hget hlist

theorem run_get (filter : String) :
    (c.get filter).run r = (Remote.ofExcept (r.listing filter >>= c.session.theOne)).run
      (((r.logged .privileges).logged .privileges).logged (.list filter)) := by
  have hnames := run_list (r := r.logged .privileges) hservice (hfaults _) (hfaults _) hlist filter
  rw [listing_logged] at hnames
  rw [get, EStateM.run_bind, run_require_of_granted hservice (hfaults _) hget]
  dsimp only
  rw [EStateM.run_bind, hnames]
  cases r.listing filter with
  | error failure => rfl
  | ok names =>
    match names with
    | [] => rfl
    | [name] =>
      rw [ok_bind, Session.theOne]
      cases hname : c.session.parseName name <;> simp [hname, Except.map]
    | _ :: _ :: _ => rfl

theorem run_getAll (filter : String) :
    (c.getAll filter).run r = (Remote.ofExcept (r.listing filter >>= c.session.eachOne)).run
      (((r.logged .privileges).logged .privileges).logged (.list filter)) := by
  have hnames := run_list (r := r.logged .privileges) hservice (hfaults _) (hfaults _) hlist filter
  rw [listing_logged] at hnames
  rw [getAll, EStateM.run_bind, run_require_of_granted hservice (hfaults _) hget]
  dsimp only
  rw [EStateM.run_bind, hnames]
  cases r.listing filter with
  | error failure => rfl
  | ok names =>
    rw [ok_bind, Session.eachOne]
    cases hids : names.mapM c.session.parseName <;> simp [hids, Except.map]

end Connection

/-! ## Principals that are found -/

/-- A principal that was not touched, and that its first load will find: as long as the
realm stores the same, the load asks for it once, and asks nothing else. -/
structure Principal.Findable (s : Session Realm) (r : Realm) (p : Principal) : Prop where
  unmodified : p.isModified = false
  unread : p.loaded = false
  found : ∀ r' : Realm, r'.principals = r.principals → r'.faults .get = [] →
    ∃ p', (Principal.load s).run (p, r') =
        .ok () (p', r'.logged (.get p.id.text p.fieldsToRead)) ∧
      p'.presence = .present ∧ p'.loaded = true

section

variable {s : Session Realm} {client : Name} {r : Realm} {names : List String}

/-- Under the text of its name a principal is found. -/
theorem findable_existing (hs : s.service = service client) {n : Name}
    (hstored : n.text ∈ r.principalNames) : (Principal.existing n).Findable s r where
  unmodified := rfl
  unread := rfl
  found := by
    intro r' hsame hfaults
    obtain ⟨e, he⟩ := Option.isSome_iff_exists.mp (TextMap.mem_keys.mp hstored)
    generalize hp : Principal.existing n = p
    obtain rfl : p.id = n := by rw [← hp]; rfl
    have hunread : ¬ p.loaded = true := by rw [← hp]; nofun
    have hunknown : ¬ p.presence = .absent := by rw [← hp]; nofun
    have hread : ((service client).serve (.get p.id p.fieldsToRead)).run r' = _ :=
      run_serveGet hfaults
    have hfetch := s.run_fetch? p.id p.fieldsToRead r'
    rw [hs, hread, hsame, he] at hfetch
    refine ⟨p.found (Record.blank.merge e.record p.fieldsToRead), ?_, rfl, rfl⟩
    rw [Principal.run_load, if_neg hunread, if_neg hunknown, hfetch]

/-- Whether each of the texts is read as a name that it is the text of, or not at all. -/
def Session.ReadsTexts (s : Session Realm) (texts : List String) : Prop :=
  ∀ text ∈ texts, (∃ n, s.parseName text = .ok n ∧ n.text = text) ∨
    s.parseName text = .error .malformedName

/-- So it is with the texts that are stored under, if those are texts of names. -/
theorem Realm.KeyedByNames.readsTexts (h : r.KeyedByNames) (s : Session Realm) :
    s.ReadsTexts r.principalNames := by
  intro text htext
  obtain ⟨n, -, rfl⟩ := h text htext
  exact (n.parse_text_cases s.realm).imp_left fun hread => ⟨n, hread, rfl⟩

theorem Session.theOne_answers {s : Session Realm} (hread : s.ReadsTexts names) :
    (s.theOne names = .error .unknownPrincipal ↔ names = []) ∧
    (s.theOne names = .error .ambiguousName ↔ 2 ≤ names.length) ∧
    ∀ text, names = [text] →
      (∃ n, s.parseName text = .ok n ∧ s.theOne names = .ok (.existing n) ∧ n.text = text) ∨
      s.parseName text = .error .malformedName ∧ s.theOne names = .error .malformedName := by
  have hambiguous : Failure.unknownPrincipal ≠ .ambiguousName := by decide
  have hmalformed : Failure.malformedName ≠ .unknownPrincipal := by decide
  have hmalformed' : Failure.malformedName ≠ .ambiguousName := by decide
  match names with
  | [] => simp [theOne, hambiguous]
  | [name] =>
    rcases hread name List.mem_cons_self with ⟨n, hn, rfl⟩ | hn
    · simp [theOne, hn, Except.map]
    · simp [theOne, hn, Except.map, hmalformed, hmalformed']
  | _ :: _ :: _ => simp [theOne, hambiguous.symm]

theorem Session.theOne_ok {s : Session Realm} (hread : s.ReadsTexts names) {p : Principal}
    (h : s.theOne names = .ok p) : ∃ n, p = .existing n ∧ n.text ∈ names := by
  match names with
  | [] => cases h
  | [name] =>
    obtain ⟨-, -, hsingle⟩ := Session.theOne_answers hread
    rcases hsingle name rfl with ⟨n, -, hfound, rfl⟩ | ⟨-, hfailed⟩
    · exact ⟨n, Except.ok.inj (h.symm.trans hfound), List.mem_cons_self⟩
    · rw [hfailed] at h
      cases h
  | _ :: _ :: _ => cases h

theorem Session.exists_eachOne_iff (s : Session Realm) :
    (∃ ps, s.eachOne names = .ok ps) ↔ ∀ text ∈ names, ∃ n, s.parseName text = .ok n := by
  rw [← exists_mapM_ok_iff, eachOne]
  cases names.mapM s.parseName <;> simp [Except.map]

theorem Session.eachOne_ok {s : Session Realm} (hread : s.ReadsTexts names)
    {ps : List Principal} (h : s.eachOne names = .ok ps) :
    ps.map (·.id.text) = names ∧ ∀ p ∈ ps, ∃ n, p = .existing n ∧ n.text ∈ names := by
  obtain ⟨ids, hids, rfl⟩ : ∃ ids, names.mapM s.parseName = .ok ids ∧ ids.map .existing = ps := by
    rw [eachOne] at h
    cases hids : names.mapM s.parseName with
    | error failure => simp [hids, Except.map] at h
    | ok ids => exact ⟨ids, rfl, by simpa [hids, Except.map] using h⟩
  have htexts : ids.map Name.text = names := by
    have hpaired := mapM_ok_iff.mp hids
    clear hids h
    induction hpaired with
    | nil => rfl
    | @cons text n names ids hn _ ih =>
      obtain ⟨hfirst, hrest⟩ := List.forall_mem_cons.mp hread
      rcases hfirst with ⟨m, hm, rfl⟩ | hbad
      · obtain rfl := Except.ok.inj (hm.symm.trans hn)
        rw [List.map_cons, ih hrest]
      · rw [hbad] at hn
        cases hn
  refine ⟨by rw [List.map_map]; exact htexts, fun p hp => ?_⟩
  obtain ⟨n, hn, rfl⟩ := List.mem_map.mp hp
  exact ⟨n, rfl, htexts ▸ List.mem_map_of_mem hn⟩

end

namespace Connection

/-- **What is found is what is listed.** If the filter compiles, with its realm, then the
one principal that it finds and all of those that it finds are told by the names that are
listed. The texts of the names that are found are the listed ones; a text that is read as
no name makes both of them fail. Each principal that is found will be loaded by one call,
and be there. Nothing is stored. -/
theorem lookup_lists (c : Connection Realm) {client : Name}
    (hservice : c.session.service = service client) {r : Realm} (hr : Reached Event.IsNamed r)
    (hfaults : ∀ kind, r.faults kind = []) (hget : r.privileges.contains .get = true)
    (hlist : r.privileges.contains .list = true) (filter : String)
    (hcompiles : r.compiles (r.fullFilter filter) = true) :
    let one := (c.get filter).run r
    let all := (c.getAll filter).run r
    (stateOf one).principals = r.principals ∧ (stateOf all).principals = r.principals ∧
    ∃ names, r.Lists (r.fullFilter filter) names ∧ names.Nodup ∧
      (answerOf one = .error .unknownPrincipal ↔ names = []) ∧
      (answerOf one = .error .ambiguousName ↔ 2 ≤ names.length) ∧
      (∀ text, names = [text] →
        (∃ n, c.session.parseName text = .ok n) ∧ (∃ p, answerOf one = .ok p ∧ p.id.text = text) ∨
        (¬ ∃ n, c.session.parseName text = .ok n) ∧ answerOf one = .error .malformedName) ∧
      ((∃ ps, answerOf all = .ok ps) ↔ ∀ text ∈ names, ∃ n, c.session.parseName text = .ok n) ∧
      (∀ ps, answerOf all = .ok ps → ps.map (·.id.text) = names) ∧
      (∀ p, answerOf one = .ok p → p.Findable c.session r) ∧
      ∀ ps, answerOf all = .ok ps → ∀ p ∈ ps, p.Findable c.session r := by
  intro one all
  have hone : one = _ := run_get hservice hfaults hget hlist filter
  have hall : all = _ := run_getAll hservice hfaults hget hlist filter
  rw [hone, hall, Remote.stateOf_ofExcept, Remote.stateOf_ofExcept, Remote.answerOf_ofExcept,
    Remote.answerOf_ofExcept]
  refine ⟨rfl, rfl, ?_⟩
  have hnames : r.listing filter = _ := if_pos hcompiles
  have hlists := hr.keyedByNames.lists_filter (r.fullFilter filter)
  generalize r.principalNames.filter _ = names at hnames hlists
  have hstored {text : String} (htext : text ∈ names) : text ∈ r.principalNames :=
    ((hlists.mem_iff text).mp htext).1
  have hread : c.session.ReadsTexts names := fun text htext =>
    hr.keyedByNames.readsTexts c.session text (hstored htext)
  rw [hnames, ok_bind, ok_bind]
  obtain ⟨hnone, hmany, hsingle⟩ := Session.theOne_answers hread
  refine ⟨names, hlists, hlists.nodup, hnone, hmany, fun text htext => ?_,
    c.session.exists_eachOne_iff, fun ps hps => (Session.eachOne_ok hread hps).1, fun p hp => ?_,
    fun ps hps p hp => ?_⟩
  · rcases hsingle text htext with ⟨n, hn, hfound, rfl⟩ | ⟨hbad, hfailed⟩
    · exact .inl ⟨⟨n, hn⟩, _, hfound, rfl⟩
    · exact .inr ⟨by rw [hbad]; nofun, hfailed⟩
  · obtain ⟨n, rfl, hn⟩ := Session.theOne_ok hread hp
    exact findable_existing hservice (hstored hn)
  · obtain ⟨n, rfl, hn⟩ := (Session.eachOne_ok hread hps).2 p hp
    exact findable_existing hservice (hstored hn)

/-- A realm with its first client and a name whose text is read as no name. -/
theorem lookup_lists_of_slash :
    let admin : Name := ⟨["admin", "admin"], "R"⟩
    let c : Connection Realm := ⟨⟨service admin, admin, "R", "kdc", 749⟩, ⟨[]⟩⟩
    let r := Event.run (.addPrincipal "a@A\\/B" "pw") (Realm.new "R")
    Reached Event.IsNamed r ∧ (∀ kind, r.faults kind = []) ∧
      r.privileges.contains .get = true ∧ r.privileges.contains .list = true ∧
      (∀ filter ∈ ["ad*", "*@*", "a@*"], r.compiles (r.fullFilter filter) = true) ∧
      (∃ p, answerOf ((c.get "ad*").run r) = .ok p ∧ p.Findable c.session r) ∧
      (∃ names, r.Lists "*@*" names ∧ 2 ≤ names.length) ∧
      ¬ ∃ ps, answerOf ((c.getAll "a@*").run r) = .ok ps := by
  intro admin c r
  have hr : Reached Event.IsNamed r := .after (.new "R") _ trivial
  have hfaults (kind : CallKind) : r.faults kind = [] := rfl
  have hget : r.privileges.contains .get = true := by decide
  have hlist : r.privileges.contains .list = true := by decide
  have hcompiles : ∀ filter ∈ ["ad*", "*@*", "a@*"], r.compiles (r.fullFilter filter) = true :=
    fun _ _ => rfl
  have hlookup (filter : String) := lookup_lists c rfl hr hfaults hget hlist filter
  refine ⟨hr, hfaults, hget, hlist, hcompiles, ?_, ?_, ?_⟩
  · have hone : answerOf ((c.get "ad*").run r) = .ok (.existing admin) := by decide +kernel
    obtain ⟨-, -, _, -, -, -, -, -, -, -, hfindable, -⟩ :=
      hlookup "ad*" (hcompiles _ (by decide))
    exact ⟨_, hone, hfindable _ hone⟩
  · have hone : answerOf ((c.get "*@*").run r) = .error .ambiguousName := by decide +kernel
    obtain ⟨-, -, names, hlists, -, -, hmany, -⟩ := hlookup "*@*" (hcompiles _ (by decide))
    exact ⟨names, hlists, hmany.mp hone⟩
  · have hone : answerOf ((c.get "a@*").run r) = .error .malformedName := by decide +kernel
    obtain ⟨-, -, names, -, -, hnone, hmany, hsingle, hall, -⟩ :=
      hlookup "a@*" (hcompiles _ (by decide))
    rw [hall]
    intro hnamed
    match names, hnone, hmany, hsingle, hnamed with
    | [], hnone, _, _, _ => exact absurd (hone.symm.trans (hnone.mpr rfl)) (by decide)
    | [text], _, _, hsingle, hnamed =>
      rcases hsingle text rfl with ⟨-, p, hp, -⟩ | ⟨hbad, -⟩
      · exact absurd (hone.symm.trans hp) nofun
      · exact hbad (hnamed text List.mem_cons_self)
    | _ :: _ :: rest, _, hmany, _, _ =>
      exact absurd (hone.symm.trans (hmany.mpr (Nat.le_add_left 2 rest.length))) (by decide)

end Connection

end RealmAdmin
