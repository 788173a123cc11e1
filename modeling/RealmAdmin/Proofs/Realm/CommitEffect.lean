/-
RealmAdmin.Proofs.Realm.CommitEffect — what a commit does to the entries of a
realm.

What has become of a principal's entry can be told from which requests were
carried out: `EntryChange` says how each of them shows in the entry, and that
nothing else has changed; `EntryEffect` says where the entry is then, and that
the others are where they were. `commit_effect` is the main statement, for a
commit that is cut anywhere.
-/
import RealmAdmin.Proofs.Principal.Commit
import RealmAdmin.Proofs.Realm.Effect

namespace RealmAdmin.Principal

open Realm

variable {client : Name} {clock now : Int64} {entry : Entry} {q : Request} {qs : List Request}
  {f : Field} {p p' : Principal} {r r' : Realm} {i : Nat}

/-! ## What a commit leaves -/

/-- Whether a call of some kind is on record as carried out. -/
def CarriedOut (log : List Exchange) (kind : CallKind) : Prop :=
  ∃ x ∈ log, x.request.call.kind = kind ∧ x.refusal = none

instance (log : List Exchange) (kind : CallKind) : Decidable (CarriedOut log kind) :=
  inferInstanceAs (Decidable (∃ x ∈ log, _))

/-- After some reads and a delivery, the calls on record as carried out are
the requests that were. -/
theorem carriedOut_append {reads : List Exchange} (hreads : ∀ x ∈ reads, x.IsRead)
    (d : Delivery Realm) (qs : List Request) {kind : CallKind} (hkind : kind ≠ .get) :
    CarriedOut (reads ++ d.exchanges qs) kind ↔
      ∃ q ∈ qs.take d.carriedOut, q.call.kind = kind := by
  constructor
  · rintro ⟨x, hx, hcall, hdone⟩
    rcases List.mem_append.mp hx with hx | hx
    · obtain ⟨name, fields, hget⟩ := hreads x hx
      rw [hget] at hcall
      exact absurd hcall.symm hkind
    · rw [Delivery.exchanges, List.mem_append] at hx
      rcases hx with hx | hx
      · obtain ⟨q, hq, rfl⟩ := List.mem_map.mp hx
        exact ⟨q, hq, hcall⟩
      · split at hx
        · obtain rfl := List.mem_singleton.mp hx
          cases hdone
        · cases hx
  · rintro ⟨q, hq, hcall⟩
    refine ⟨⟨q, none⟩, List.mem_append_right _ ?_, hcall, rfl⟩
    exact List.mem_append_left _ (List.mem_map.mpr ⟨q, hq, rfl⟩)

/-- Whether a record has what is staged for the attributes of a principal. -/
structure HoldsStaged (p : Principal) (record : Record) : Prop where
  set : ∀ f ∈ p.dirty, f ≠ .principal → record.AgreeAt p.record f
  cleared : .policyClear ∈ p.dirty → record.policy = none

/-- What has become of the entry of a principal, by the calls on record: each
change that was carried out has its effect, and nothing else has changed but
the stamp. -/
structure EntryChange (p : Principal) (log : List Exchange) (client : Name) (clock : Int64)
    (before after : Entry) : Prop where
  password : CarriedOut log .changePassword →
    (∃ secret, p.secret.pending? = some secret ∧ after.password = secret.bytes) ∧
      after.record.lastPasswordChange = clock + 1 ∧
      (¬ (CarriedOut log .modify ∧ .keyVersion ∈ p.dirty) →
        after.record.keyVersion = before.record.keyVersion + 1)
  samePassword : ¬ CarriedOut log .changePassword → after.password = before.password
  renamed : CarriedOut log .rename → after.record.principal = some p.name
  written : CarriedOut log .modify → p.HoldsStaged after.record
  kept : ∀ f, ¬ f.IsStamp → (CarriedOut log .rename → f ≠ .principal) →
    (CarriedOut log .changePassword → f ≠ .keyVersion ∧ f ≠ .lastPasswordChange) →
    (CarriedOut log .modify → f = .principal ∨ p.Unstaged f) →
      after.record.AgreeAt before.record f
  stamped : (∃ kind, kind ≠ .get ∧ CarriedOut log kind) → after.record.modifier = some client
  untouched : (∀ kind, kind ≠ .get → ¬ CarriedOut log kind) → after = before

variable {log : List Exchange}

/-- Each change of a principal leaves its stamp. -/
theorem modifier_effects_take (hq : q ∈ p.changes.take i) :
    (effects client (p.changes.take i) clock entry).record.modifier = some client := by
  rcases List.eq_nil_or_concat (p.changes.take i) with hnil | ⟨before, last, htake⟩
  · simp [hnil] at hq
  · obtain ⟨now, heffects⟩ := effects_concat client before last clock entry
    have hlast : last ∈ p.changes := List.mem_of_mem_take (by rw [htake]; simp)
    rw [htake, List.concat_eq_append, heffects]
    rcases mem_changes hlast with ⟨bytes, rfl⟩ | ⟨target, rfl⟩ | ⟨record, rfl, -⟩ <;> rfl

/-- A renaming among the changes of a principal is to the name to show. -/
theorem eq_rename_of_mem (hq : q ∈ p.changes) (hkind : q.call.kind = .rename) :
    q = .rename p.id p.name := by
  simp only [changes, List.mem_append, Option.mem_toList] at hq
  rcases hq with (hq | hq) | hq
  · obtain ⟨secret, -, rfl⟩ := Option.map_eq_some_iff.mp hq
    cases hkind
  · obtain ⟨target, htarget, rfl⟩ := Option.map_eq_some_iff.mp hq
    rw [name, htarget, Option.getD_some]
  · obtain ⟨-, rfl⟩ : _ ∧ _ = q := by simpa [fieldChange?] using hq
    cases hkind

/-- Dirty fields are not part of a stamp. -/
theorem Consistent.not_isStamp (hp : p.Consistent) (hmem : f ∈ p.dirty) : ¬ f.IsStamp := by
  rintro (rfl | rfl) <;> simpa [Field.allowedOnModify] using hp.writable _ hmem (by decide)

/-- What is written after a change of the password is the name and the dirty
fields. -/
theorem effects_of_password (hp : p.Consistent)
    (hdone : ∃ q ∈ p.changes.take i, q.call.kind = .changePassword) :
    let after := effects client (p.changes.take i) clock entry
    (∃ secret, p.secret.pending? = some secret ∧ after.password = secret.bytes) ∧
      after.record.lastPasswordChange = clock + 1 ∧
      (¬ ((∃ q ∈ p.changes.take i, q.call.kind = .modify) ∧ .keyVersion ∈ p.dirty) →
        after.record.keyVersion = entry.record.keyVersion + 1) := by
  intro after
  obtain ⟨q, hq, hkind⟩ := hdone
  obtain ⟨secret, rest, hsecret, htake, hrest⟩ := take_changes_of_password hq hkind
  have hlater {f : Field} {q : Request} (hq : q ∈ rest) (hwrites : q.Writes f)
      (hname : f ≠ .principal) (hpolicy : f ≠ .policy) :
      (∃ q ∈ p.changes.take i, q.call.kind = .modify) ∧ f ∈ p.dirty := by
    have hmem : q ∈ p.changes.take i := by
      rw [htake]
      exact List.mem_cons_of_mem _ hq
    rcases hrest q hq with hrename | rfl
    · rw [eq_rename_of_mem (List.mem_of_mem_take hmem) hrename] at hwrites
      exact absurd hwrites hname
    · refine ⟨⟨_, hmem, rfl⟩, (FieldSet.mem_erase.mp (hwrites.resolve_right ?_)).1⟩
      exact fun h => hpolicy h.1
  have hafter : after = effects client rest (clock + 1)
      (entry.rekeyed client (clock + 1) secret.bytes) := by
    simp only [after, htake, effects, Request.effect]
  rw [hafter]
  refine ⟨⟨secret, hsecret, ?_⟩, ?_, fun hversion => ?_⟩
  · refine password_effects fun q hq hpassword => ?_
    rcases hrest q hq with hrename | rfl
    · simp [hpassword] at hrename
    · cases hpassword
  · refine agreeAt_effects (f := .lastPasswordChange) (by simp [Field.IsStamp]) ?_
    intro q hq hwrites
    have hdirty := (hlater hq hwrites (by decide) (by decide)).2
    simpa [Field.allowedOnModify] using hp.writable _ hdirty (by decide)
  · refine agreeAt_effects (f := .keyVersion) (by simp [Field.IsStamp]) ?_
    exact fun q hq hwrites => hversion (hlater hq hwrites (by decide) (by decide))

/-- A renamed entry has the name that was staged. -/
theorem effects_of_rename (hdone : ∃ q ∈ p.changes.take i, q.call.kind = .rename) :
    (effects client (p.changes.take i) clock entry).record.principal = some p.name := by
  obtain ⟨q, hq, hkind⟩ := hdone
  refine agreeAt_effects_of_writes (.named p.name) (f := .principal) (by simp [Field.IsStamp])
    (fun q hq hwrites now entry => ?_) ⟨q, hq, ?_⟩
  · have hmem := List.mem_of_mem_take hq
    rcases mem_changes hmem with ⟨bytes, rfl⟩ | ⟨target, rfl⟩ | ⟨record, rfl, -⟩
    · simp [Request.Writes] at hwrites
    · rw [eq_rename_of_mem hmem rfl]
      rfl
    · simp [Request.Writes] at hwrites
  · rw [eq_rename_of_mem (List.mem_of_mem_take hq) hkind]
    rfl

/-- A modification with the dirty fields writes what is staged. -/
theorem Consistent.holdsStaged_modified (hp : p.Consistent) {record : Record} {fields : FieldSet}
    (hfields : ∀ f, f ≠ .principal → (f ∈ fields ↔ f ∈ p.dirty))
    (hrecord : ∀ f ∈ fields, record.AgreeAt p.record f) :
    p.HoldsStaged (entry.modified client now record fields).record where
  set f hf hname := by
    have hmem : f ∈ fields := (hfields f hname).mpr hf
    have hpolicy : ¬ (f = .policy ∧ .policyClear ∈ fields) := by
      rintro ⟨rfl, hclear⟩
      exact hp.policies ⟨hf, (hfields .policyClear (by decide)).mp hclear⟩
    exact ((agreeAt_modified (hp.not_isStamp hf) hpolicy).trans
      (Record.agreeAt_merge_of_mem hmem)).trans (hrecord f hmem)
  cleared hclear := policy_modified_of_clear ((hfields .policyClear (by decide)).mpr hclear)

/-- The fields are written last, so that the entry has what is staged. -/
theorem effects_of_modify (hp : p.Consistent)
    (hdone : ∃ q ∈ p.changes.take i, q.call.kind = .modify) :
    p.HoldsStaged (effects client (p.changes.take i) clock entry).record := by
  obtain ⟨q, hq, hkind⟩ := hdone
  obtain ⟨htake, rfl⟩ := take_changes_of_modify hq hkind
  obtain ⟨now, heffects⟩ := effects_concat client
    (p.passwordChange?.toList ++ p.nameChange?.toList) _ clock entry
  rw [htake, heffects]
  refine hp.holdsStaged_modified (fun f hname => by simp [hname]) fun f hf => ?_
  have hname := (FieldSet.mem_erase.mp hf).2
  cases f <;> first | rfl | exact absurd rfl hname | trivial

/-- Some of the changes of a principal, carried out in turn, change its entry
as the record of calls says. -/
theorem entryChange_take (hp : p.Consistent)
    (hlog : ∀ {kind}, kind ≠ .get →
      (CarriedOut log kind ↔ ∃ q ∈ p.changes.take i, q.call.kind = kind)) :
    EntryChange p log client clock entry (effects client (p.changes.take i) clock entry) := by
  have hpassword : CarriedOut log .changePassword ↔ _ := hlog (by decide)
  have hrename : CarriedOut log .rename ↔ _ := hlog (by decide)
  have hmodify : CarriedOut log .modify ↔ _ := hlog (by decide)
  refine ⟨?_, ?_, ?_, ?_, fun f hf => ?_, ?_, fun hnone => ?_⟩
  · rw [hpassword, hmodify]
    exact effects_of_password hp
  · rw [hpassword]
    exact fun hnot => password_effects fun q hq hkind => hnot ⟨q, hq, hkind⟩
  · rw [hrename]
    exact effects_of_rename
  · rw [hmodify]
    exact effects_of_modify hp
  · rw [hpassword, hrename, hmodify]
    intro hname hkey hfields
    refine agreeAt_effects hf fun q hq hwrites => ?_
    rcases mem_changes (List.mem_of_mem_take hq) with ⟨bytes, rfl⟩ | ⟨target, rfl⟩ | ⟨record, rfl, -⟩
    · obtain ⟨hversion, htime⟩ := hkey ⟨_, hq, rfl⟩
      exact hwrites.elim hversion htime
    · exact hname ⟨_, hq, rfl⟩ hwrites
    · simp only [Request.Writes, FieldSet.mem_erase] at hwrites
      rcases hfields ⟨_, hq, rfl⟩ with hname | ⟨hclean, hpolicy⟩
      · simp [hname] at hwrites
      · exact hwrites.elim (fun h => hclean h.1) fun h => hpolicy ⟨h.1, h.2.1⟩
  · rintro ⟨kind, hget, hdone⟩
    obtain ⟨q, hq, -⟩ := (hlog hget).mp hdone
    exact modifier_effects_take hq
  · have hnil : p.changes.take i = [] := List.eq_nil_iff_forall_not_mem.mpr fun q hq => by
      have hget : q.call.kind ≠ .get := by
        rcases kind_of_mem_changes (List.mem_of_mem_take hq) with h | h | h <;> simp [h]
      exact hnone _ hget ((hlog hget).mpr ⟨q, hq, rfl⟩)
    rw [hnil]
    rfl

/-- What a commit has done to the entry of a principal that it found, by the
calls on record: the entry is under the name that the principal has now, and
every entry under another name is as it was. -/
structure EntryEffect (p p' : Principal) (log : List Exchange) (client : Name) (r r' : Realm) :
    Prop where
  renamed : CarriedOut log .rename → p'.id = p.name ∧ r'.principals.get? p.id.text = none ∧
    r.principals.get? p.name.text = none
  sameName : ¬ CarriedOut log .rename → p'.id = p.id
  others : ∀ key, key ≠ p.id.text → key ≠ p'.id.text →
    r'.principals.get? key = r.principals.get? key
  entry : ∀ before, r.principals.get? p.id.text = some before →
    ∃ after, r'.principals.get? p'.id.text = some after ∧
      EntryChange p log client r.clock before after
  unstored : r.principals.get? p.id.text = none → r'.principals = r.principals

/-- Nothing has changed under another name than the two of the principal. -/
theorem EntryEffect.of_other_name (h : EntryEffect p p' log client r r') {key : String}
    (hid : key ≠ p.id.text) (hname : key ≠ p.name.text) :
    r'.principals.get? key = r.principals.get? key := by
  refine h.others key hid ?_
  by_cases hdone : CarriedOut log .rename
  · rwa [(h.renamed hdone).1]
  · rwa [h.sameName hdone]

/-- The changes of a principal, as far as the realm carries them out. -/
theorem deliver_effect (client : Name) (hp : p.Consistent) {reads : List Exchange}
    (hreads : ∀ x ∈ reads, x.IsRead) (r : Realm) :
    let d := (service client).deliver p.changes r
    EntryEffect p ((p.changes.take d.carriedOut).foldl settle p) (reads ++ d.exchanges p.changes)
      client r d.world := by
  intro d
  have hlog {kind : CallKind} (hkind : kind ≠ .get) := carriedOut_append hreads d p.changes hkind
  have hrename : CarriedOut _ .rename ↔ _ := hlog (by decide)
  have hnocreate : ∀ q ∈ p.changes.take d.carriedOut, q.call.kind ≠ .create := fun q hq => by
    rcases kind_of_mem_changes (List.mem_of_mem_take hq) with h | h | h <;> simp [h]
  obtain ⟨hmoved, hstayed⟩ := id_foldl_settle (p := p) hnocreate
  cases hentry : r.principals.get? p.id.text with
  | none =>
    obtain ⟨hcount, hstore⟩ := deliver_unstored client hentry
    refine ⟨fun hdone => ?_, fun _ => ?_, fun key _ _ => ?_, fun before hstored => ?_,
      fun _ => hstore⟩
    · simp [hrename, d, hcount] at hdone
    · simp [d, hcount]
    · rw [hstore]
    · simp [hentry] at hstored
  | some before =>
    have hview := deliver_stored client hp rfl hentry
    refine ⟨fun hdone => ?_, fun hnot => ?_, fun key hid hkey => ?_, fun stored hstored => ?_,
      fun hnone => ?_⟩
    · have hname := hmoved (hrename.mp hdone)
      have hfree := rename_target_free client hp rfl (hrename.mp hdone)
      have hne : p.id.text ≠ p.name.text := fun he => by simp [← he, hentry] at hfree
      refine ⟨hname, ?_, hfree⟩
      rw [hview, if_neg (hname.symm ▸ hne), if_pos rfl]
    · exact hstayed fun q hq hkind => hnot (hrename.mpr ⟨q, hq, hkind⟩)
    · rw [hview, if_neg hkey, if_neg hid]
    · obtain rfl : before = stored := Option.some.inj (hentry.symm.trans hstored)
      exact ⟨_, (hview _).trans (if_pos rfl), entryChange_take hp hlog⟩
    · simp [hentry] at hnone

/-! ## Before the load -/

variable {p₁ : Principal} {r₁ : Realm} {before after : Entry}

theorem StagedAlike.holdsStaged {record : Record} (h : StagedAlike p p₁)
    (hheld : p₁.HoldsStaged record) : p.HoldsStaged record where
  set f hf hname :=
    (hheld.set f (h.dirty ▸ hf) hname).trans (h.record f (FieldSet.mem_insert.mpr (.inl hf)))
  cleared hclear := hheld.cleared (h.dirty ▸ hclear)

theorem StagedAlike.entryChange (h : StagedAlike p p₁)
    (hchange : EntryChange p₁ log client clock before after) :
    EntryChange p log client clock before after where
  password := by
    rw [← h.secret, ← h.dirty]
    exact hchange.password
  samePassword := hchange.samePassword
  renamed := by
    rw [← h.name]
    exact hchange.renamed
  written hdone := h.holdsStaged (hchange.written hdone)
  kept f hf hname hkey hfields :=
    hchange.kept f hf hname hkey fun hdone => (hfields hdone).imp_right h.unstaged
  stamped := hchange.stamped
  untouched := hchange.untouched

/-- A load changes neither what is staged nor what is stored. -/
theorem EntryEffect.before_load (h : EntryEffect p₁ p' log client r₁ r') (hstage : StagedAlike p p₁)
    (hstore : SameStore r r₁) : EntryEffect p p' log client r r' where
  renamed := by
    rw [← hstage.name, ← hstage.id, ← hstore.principals]
    exact h.renamed
  sameName := by
    rw [← hstage.id]
    exact h.sameName
  others := by
    rw [← hstage.id, ← hstore.principals]
    exact h.others
  entry before hbefore := by
    rw [← hstage.id, ← hstore.principals] at hbefore
    obtain ⟨after, hafter, hchange⟩ := h.entry before hbefore
    exact ⟨after, hafter, hstage.entryChange (hstore.clock ▸ hchange)⟩
  unstored := by
    rw [← hstage.id, ← hstore.principals]
    exact h.unstored

/-- A principal that is created is stored under the name to show. -/
theorem deliver_creation_others (client : Name) (p : Principal) (g : PasswordGenerator)
    (e : Entropy) (r : Realm) {key : String} (hkey : key ≠ p.name.text) :
    ((service client).deliver [p.creation g e] r).world.principals.get? key =
      r.principals.get? key := by
  cases hserve : ((service client).serve (p.creation g e)).run r with
  | error status r₁ => rw [Service.deliver_cons_error hserve, principals_of_refused hserve]
  | ok a r₁ =>
    obtain ⟨-, -, -, -, name, hname, -, rfl⟩ := ((serveCreate_changes ..).1 _).mp hserve
    obtain rfl := Option.some.inj hname
    rw [Service.deliver_cons_ok hserve]
    simp [put, TextMap.get?_insert, hkey]

/-- **The effect of a commit** on a realm, however it ends: nothing is stored
under another name than the one that the principal has and the one that is
staged for it, and if the commit found the principal then its entry has changed
as the record of calls says. -/
theorem commit_effect {s : Session Realm} (hp : p.Consistent) (hs : s.service = service client)
    (g : PasswordGenerator) (e : Entropy) (r : Realm) :
    let y := stateOf ((commit s.recorded g e).run (p, (r, [])))
    (∀ key, key ≠ p.id.text → (∀ target ∈ p.pendingName, key ≠ target.text) →
      y.2.1.principals.get? key = r.principals.get? key) ∧
    ∀ p₁ r₁, (load s).run (p, r) = .ok () (p₁, r₁) → p₁.presence = .present →
      EntryEffect p y.1 y.2.2 client r y.2.1 := by
  intro y
  obtain ⟨reads, hreads, -, hrun⟩ := commit_recorded s g e hp r []
  have hload := load_run s p r
  have hstore := load_sameStore hs p r
  have hother {key : String} (hid : key ≠ p.id.text)
      (htarget : ∀ target ∈ p.pendingName, key ≠ target.text) : key ≠ p.name.text := by
    cases hname : p.pendingName with
    | none => simpa [name, hname] using hid
    | some target => simpa [name, hname] using htarget target hname
  simp only [y, hrun, run_commit s g e hp, sent, hs, stateOf_onRecord]
  cases h : (load s).run (p, r) with
  | error f x =>
    rw [h] at hstore
    refine ⟨fun key _ _ => ?_, by simp⟩
    exact congrArg (·.get? key) hstore.principals
  | ok a x =>
    obtain ⟨p₁, r₁⟩ := x
    rw [h] at hload hstore
    have hstage : StagedAlike p p₁ := hload.stagedAlike
    have hp₁ : p₁.Consistent := hp.of_stagedAlike hstage (hload.known hp.known)
    simp only [stateOf_outcome, List.nil_append]
    by_cases hpresent : p₁.presence = .present
    · simp only [plan, readied, if_pos hpresent]
      have heffect := (deliver_effect client hp₁ hreads r₁).before_load hstage hstore
      refine ⟨fun key hid htarget => heffect.of_other_name hid (hother hid htarget), ?_⟩
      rintro _ _ ⟨⟩ -
      exact heffect
    · simp only [plan, readied, if_neg hpresent]
      refine ⟨fun key hid htarget => ?_, ?_⟩
      · rw [deliver_creation_others client p₁ g e r₁ (hstage.name ▸ hother hid htarget)]
        exact congrArg (·.get? key) hstore.principals
      · rintro _ _ ⟨⟩ hfound
        exact absurd hfound hpresent

/-- A fault refuses the last request of a commit: the entry has moved and has
the new password, but not the flags that were staged. -/
theorem commit_effect_of_refused_modify :
    let jdoe : Name := ⟨["jdoe"], "R"⟩
    let smith : Name := ⟨["smith"], "R"⟩
    let admin : Name := ⟨["admin"], "R"⟩
    let p := (((existing jdoe).setPassword ⟨[3]⟩).rename smith).setAttributes ⟨64⟩
    let r : Realm := {
      name := "R"
      principals := TextMap.empty.insert jdoe.text ⟨.named jdoe, [1]⟩
      faults := fun kind => if kind = .modify then [.failure] else [] }
    let y := stateOf ((commit (Realm.session admin).recorded ⟨[]⟩ ⟨fun _ => 0, 0⟩).run (p, (r, [])))
    p.Consistent ∧ EntryEffect p y.1 y.2.2 admin r y.2.1 ∧
      CarriedOut y.2.2 .changePassword ∧ CarriedOut y.2.2 .rename ∧ ¬ CarriedOut y.2.2 .modify ∧
      y.2.1.principals.get? jdoe.text = none ∧
      ∃ after, y.2.1.principals.get? smith.text = some after ∧ after.password = [3] ∧
        after.record.keyVersion = 1 ∧ after.record.attributes = .none := by
  intro jdoe smith admin p r y
  have hp : p.Consistent :=
    (((existing_consistent jdoe).setPassword _).rename smith).assign .attributes _ nofun rfl nofun
      nofun
  have hload := eq_ok_of_succeeded (x := (load (Realm.session admin)).run (p, r)) (by decide)
  have heffect : EntryEffect p y.1 y.2.2 admin r y.2.1 :=
    (commit_effect hp rfl ⟨[]⟩ ⟨fun _ => 0, 0⟩ r).2 _ _ hload (by decide)
  have hpassword : CarriedOut y.2.2 .changePassword := by decide
  have hrename : CarriedOut y.2.2 .rename := by decide
  have hmodify : ¬ CarriedOut y.2.2 .modify := by decide
  obtain ⟨hname, hfree, -⟩ := heffect.renamed hrename
  obtain ⟨after, hafter, hchange⟩ := heffect.entry ⟨.named jdoe, [1]⟩ (by decide)
  obtain ⟨⟨secret, hsecret, hbytes⟩, -, hversion⟩ := hchange.password hpassword
  obtain rfl : secret = ⟨[3]⟩ := (Option.some.inj hsecret).symm
  rw [hname] at hafter
  refine ⟨hp, heffect, hpassword, hrename, hmodify, hfree, after, hafter, hbytes, ?_, ?_⟩
  · exact hversion fun h => hmodify h.1
  · exact hchange.kept .attributes (by simp [Field.IsStamp]) (fun _ => by decide)
      (fun _ => by decide) fun h => absurd h hmodify

end RealmAdmin.Principal
