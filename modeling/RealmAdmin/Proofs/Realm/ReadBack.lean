/-
RealmAdmin.Proofs.Realm.ReadBack — staged edits are read back until a commit.

A load leaves out the fields that are dirty, so the value of a staged edit
stays in the snapshot, whatever the realm or its template has. `Uncommitted`
runs go on from the staging of an edit as long as nothing takes it off the
stage, and `ReadsBack` is what each of their steps keeps: the snapshot has the
edit's value, under a dirty field, or because a load would find it again.

One edit is different. A policy is cleared under a field of its own, so a load
does not leave the policy out, and takes over the one that the realm still
has. `staged_read_back` says exactly when a staged edit is not read back, and
`cleared_policy_not_read_back` is a run that shows it.
-/
import RealmAdmin.Proofs.Realm.SoleWriter

namespace RealmAdmin.Principal

open Realm

/-! ## Runs -/

/-- Whether an action that ends this way leaves an edit staged. -/
def Action.Keeps (d : Edit) : Action → (succeeded : Bool) → Prop
  | .edit d', _ => d'.target ≠ d.target
  | .commit _, true | .delete, true => False
  | _, _ => True

/-- Whether an action loads the principal before anything else. -/
def Action.loads : Action → Bool
  | .load | .ask _ | .commit _ => true
  | _ => false

/-- Whether an action reads the record: it loads the principal, for the first
time since the last change, and the load ends well. -/
def Action.reads (a : Action) (c : Connection Realm) (p : Principal) (r : Realm) : Bool :=
  a.loads && !p.loaded && succeeded ((Principal.load c.session).run (p, r))

/-- A run from the staging of an edit, with whether the record was read since
then, in which nobody else writes to the realm and no fault pretends that a
principal is missing. The edit is neither committed nor replaced. -/
inductive Uncommitted (d : Edit) : (read : Bool) → Principal → Realm → Prop
  | staged {edits : List Edit} {p : Principal} {r : Realm} (h : SoleWriter edits p r) :
      Uncommitted d false (d.stage p) r
  | after {read : Bool} {client : Name} {p : Principal} {r : Realm} (h : Uncommitted d read p r)
      (hget : .unknownPrincipal ∉ r.faults .get) (c : Connection Realm)
      (hc : c.session.service = service client) (a : Action)
      (hkeeps : a.Keeps d (succeeded ((a.run c).run (p, r)))) :
      Uncommitted d (read || a.reads c p r) (stateOf ((a.run c).run (p, r))).1
        (stateOf ((a.run c).run (p, r))).2
  | outside {read : Bool} {p : Principal} {r r' : Realm} (h : Uncommitted d read p r)
      (hstore : r'.principals = r.principals) : Uncommitted d read p r'

/-! ## The invariant -/

/-- The entry that a load reads: the principal's own, or if it is absent the
one of its realm's template. -/
def source? (p : Principal) (store : TextMap Entry) : Option Entry :=
  if p.presence = .present then store.get? p.id.text
  else (Name.template p.id.realm).toOption.bind fun template => store.get? template.text

/-- The policy that a load finds. -/
def sourcePolicy (p : Principal) (store : TextMap Entry) : Option String :=
  (p.source? store).bind (·.record.policy)

/-- What a run keeps for a staged edit, beside what is tracked of it. -/
structure ReadsBack (d : Edit) (read : Bool) (p : Principal) (store : TextMap Entry) : Prop where
  known : read = true → p.presence ≠ .unknown
  /-- An absent principal is not loaded anew. -/
  loaded : p.presence = .absent → d.field ∉ p.dirty ∨ read = true → p.loaded = true
  holds : ¬ (d.field = .policyClear ∧ read = true) → d.Holds p.record
  policy : d.field = .policyClear → read = true → p.record.policy = p.sourcePolicy store

variable {d : Edit} {read : Bool} {p p₁ p' : Principal} {r r' : Realm}
  {store store' : TextMap Entry} {entry : Entry} {s : Session Realm} {client : Name}
  {g : PasswordGenerator} {e : Entropy}

theorem sourcePolicy_of_present (hpresent : p.presence = .present)
    (hentry : store.get? p.id.text = some entry) : p.sourcePolicy store = entry.record.policy := by
  simp [sourcePolicy, source?, hpresent, hentry]

/-- Of an absent principal a load finds what its template has. -/
theorem sourcePolicy_of_absent (habsent : p.presence = .absent) {template : Name}
    (hname : Name.template p.id.realm = .ok template) :
    p.sourcePolicy store = (store.get? template.text).bind (·.record.policy) := by
  simp [sourcePolicy, source?, habsent, hname, Except.toOption]

/-- Right after its staging the snapshot has the edit's value. -/
theorem readsBack_stage (d : Edit) (p : Principal) (store : TextMap Entry) :
    ReadsBack d false (d.stage p) store where
  known := nofun
  loaded _ hclean := by
    obtain ⟨-, -, hloaded⟩ := stage_same p d
    rw [hloaded]
    exact (not_mem_stage (hclean.resolve_right nofun)).1
  holds _ := holds_stage p d
  policy _ := nofun

/-- What happens beside the attribute does not matter. -/
theorem ReadsBack.of_same_attribute (h : ReadsBack d read p store) (hid : p₁.id = p.id)
    (hpresence : p₁.presence = p.presence) (hloaded : p₁.loaded = p.loaded)
    (hrecord : p₁.record.AgreeAt p.record d.target) (hdirty : d.field ∈ p₁.dirty ↔ d.field ∈ p.dirty) :
    ReadsBack d read p₁ store where
  known := by rw [hpresence]; exact h.known
  loaded := by rw [hpresence, hdirty, hloaded]; exact h.loaded
  holds hset := (Edit.holds_congr hrecord).mpr (h.holds hset)
  policy hclear hread := by
    obtain rfl := Edit.eq_of_clear hclear
    have hsource : p₁.sourcePolicy store = p.sourcePolicy store := by
      rw [sourcePolicy, sourcePolicy, source?, source?, hpresence, hid]
    rw [hsource, ← h.policy hclear hread]
    exact hrecord

/-! ## Loading -/

/-- A principal whose record has been read. -/
theorem ReadsBack.of_read (hknown : p.presence ≠ .unknown) (hloaded : p.loaded = true)
    (hholds : d.field ≠ .policyClear → d.Holds p.record)
    (hpolicy : d.field = .policyClear → p.record.policy = p.sourcePolicy store) :
    ReadsBack d true p store :=
  ⟨fun _ => hknown, fun _ _ => hloaded, fun hset => hholds fun hclear => hset ⟨hclear, rfl⟩,
    fun hclear _ => hpolicy hclear⟩

/-- Clearing a policy takes the policy itself off the stage. -/
theorem Tracks.policy_not_mem (h : Tracks [d] p store) (hclear : d.field = .policyClear) :
    .policy ∉ p.dirty := by
  obtain rfl := Edit.eq_of_clear hclear
  exact fun hmem => (h.kept _ List.mem_cons_self).opposite .policy hmem rfl

/-- A policy that is not dirty is taken over from what is read. -/
theorem policy_refresh (source : Record) (h : .policy ∉ p.dirty) :
    (p.refresh (Record.blank.merge source p.fieldsToRead)).record.policy = source.policy :=
  refresh_agreeAt_source (f := .policy) source h nofun

/-- A load that finds the principal. -/
theorem ReadsBack.of_found (htracks : Tracks [d] p store) (hnotabsent : p.presence ≠ .absent)
    (hentry : store.get? p.id.text = some entry) :
    ReadsBack d true (p.found (Record.blank.merge entry.record p.fieldsToRead)) store := by
  refine .of_read nofun rfl (fun hset => ?_) fun hclear => ?_
  · have hkept := htracks.kept d List.mem_cons_self
    by_cases hmem : d.field ∈ p.dirty
    · exact ((refresh_stagedAlike p _).holds hmem hset).mpr (hkept.staged hmem hset)
    · have hpresent := Presence.eq_present (hkept.known hmem) hnotabsent
      have htarget : d.target ∉ p.dirty := by rwa [Edit.target_eq_field hset]
      have hread := refresh_agreeAt_source entry.record htarget d.target_ne_principal
      exact (Edit.holds_congr hread).mpr (hkept.stored hmem entry ⟨hpresent, hentry⟩)
  · have hread := policy_refresh entry.record (htracks.policy_not_mem hclear)
    exact hread.trans (sourcePolicy_of_present (p := p.found _) rfl hentry).symm

/-- Where a load does not find the principal, the edit is dirty and no load has
ended well before. -/
theorem ReadsBack.of_missing (h : ReadsBack d read p store) (htracks : Tracks [d] p store)
    (hloaded : p.loaded = false)
    (hmissing : p.presence ≠ .absent → store.get? p.id.text = none) :
    d.field ∈ p.dirty ∧ read = false := by
  have hunsettled : ¬ (d.field ∉ p.dirty ∨ read = true) := fun hsettled => by
    have hknown := hsettled.elim (htracks.kept d List.mem_cons_self).known h.known
    have hthere : p.presence ≠ .absent := fun habsent => by
      simp [h.loaded habsent hsettled] at hloaded
    obtain ⟨entry, -, hentry⟩ := htracks.found (Presence.eq_present hknown hthere)
    simp [hmissing hthere] at hentry
  simpa using hunsettled

/-- Consulting the template, with the edit dirty. -/
theorem TemplateRun.readsBack {result : EStateM.Result Failure (Principal × Realm) Unit}
    (h : TemplateRun s p r result) (hs : s.service = service client)
    (hget : .unknownPrincipal ∉ r.faults .get) (habsent : p.presence = .absent)
    (hmem : d.field ∈ p.dirty) (hpolicy : d.field = .policyClear → .policy ∉ p.dirty)
    (hholds : d.Holds p.record) :
    ReadsBack d (succeeded result) (stateOf result).1 r.principals := by
  have hfailed : ReadsBack d false p r.principals :=
    ⟨nofun, fun _ hclean => absurd hmem (hclean.resolve_right nofun), fun _ => hholds, fun _ => nofun⟩
  cases h with
  | unnamed hname => exact hfailed
  | refused hname hread => exact hfailed
  | @prefilled template record w' hname hread =>
    have hrun := run_fetch? hs template p.fieldsToRead r
    rw [hread] at hrun
    cases hrun with
    | @found entry hfaults hentry =>
      have hsource : p.sourcePolicy r.principals = entry.record.policy := by
        rw [sourcePolicy_of_absent habsent hname, hentry]
        rfl
      exact .of_read (fun hunknown => nomatch habsent.symm.trans hunknown) rfl
        (fun hset => ((refresh_stagedAlike p _).holds hmem hset).mpr hholds)
        fun hclear => (policy_refresh entry.record (hpolicy hclear)).trans hsource.symm
  | @bare template w' hname hread =>
    have hrun := run_fetch? hs template p.fieldsToRead r
    rw [hread] at hrun
    cases hrun with
    | pretended hfaults => simp [hfaults] at hget
    | missing hfaults hentry =>
      -- There is no policy to be found, and the snapshot has none.
      have hsource : p.sourcePolicy r.principals = none := by
        rw [sourcePolicy_of_absent habsent hname, hentry]
        rfl
      refine .of_read (fun hunknown => nomatch habsent.symm.trans hunknown) rfl (fun _ => hholds)
        fun hclear => ?_
      obtain rfl := Edit.eq_of_clear hclear
      exact Eq.trans hholds hsource.symm

/-- A load keeps an edit readable, also when it fails. -/
theorem ReadsBack.load (h : ReadsBack d read p r.principals) (htracks : Tracks [d] p r.principals)
    (hs : s.service = service client) (hget : .unknownPrincipal ∉ r.faults .get) :
    ReadsBack d (read || (!p.loaded && succeeded ((Principal.load s).run (p, r))))
      (stateOf ((Principal.load s).run (p, r))).1 r.principals := by
  have hfetched := run_fetch? hs p.id p.fieldsToRead r
  have hload := load_run s p r
  generalize (Principal.load s).run (p, r) = result at hload ⊢
  cases hload with
  | kept hloaded => simpa [hloaded] using h
  | found hloaded hpresence hfetch =>
    rw [hfetch] at hfetched
    cases hfetched with
    | found hfaults hentry =>
      simpa [hloaded, succeeded] using ReadsBack.of_found htracks hpresence hentry
  | refused hloaded hpresence hfetch => simpa [succeeded] using h
  | @missing w' _ hloaded habsent htemplate =>
    obtain ⟨hfaults, hthere⟩ := isThere_of_missing hs hget hloaded habsent
    have hstore : w'.principals = r.principals := by
      rcases habsent with ⟨-, rfl⟩ | ⟨-, hfetch⟩
      · rfl
      · exact (hfetch ▸ hfetched).sameStore.principals
    have hmissing (hpresence : p.presence ≠ .absent) : r.principals.get? p.id.text = none := by
      simpa [isThere, hloaded, hpresence, TextMap.contains] using hthere
    obtain ⟨hmem, rfl⟩ := h.of_missing htracks hloaded hmissing
    have hback := htemplate.readsBack hs (hfaults ▸ hget) rfl hmem htracks.policy_not_mem
      (h.holds fun hread => Bool.false_ne_true hread.2)
    simpa [hloaded, hstore] using hback

/-! ## Commits that fail -/

/-- A principal that is there, after a change that left the policy of its entry
as it was. -/
theorem ReadsBack.of_change (h : ReadsBack d read p store) (hpresent : p.presence = .present)
    (hpresence : p₁.presence = p.presence) (hrecord : p₁.record = p.record)
    (hentry : store.get? p.id.text = some entry) (entry' : Entry)
    (hentry' : store'.get? p₁.id.text = some entry')
    (hpolicy : entry'.record.policy = entry.record.policy) : ReadsBack d read p₁ store' := by
  have hpresent' := hpresence.trans hpresent
  refine ⟨fun _ => by simp [hpresent'], by simp [hpresent'], hrecord ▸ h.holds, ?_⟩
  intro hclear hread
  rw [hrecord, sourcePolicy_of_present hpresent' hentry', hpolicy,
    ← sourcePolicy_of_present hpresent hentry]
  exact h.policy hclear hread

/-- The fields are written last, so what comes before that leaves the policy of
the entry as it was. -/
theorem ReadsBack.settle (h : ReadsBack d read p r.principals) (hpresent : p.presence = .present)
    {q : Request} {rest : List Request} (hq : p.changes = q :: rest) (hmore : rest ≠ [])
    {a : q.Answer} (hserve : ((service client).serve q).run r = .ok a r') :
    ReadsBack d read (p.settle q) r'.principals := by
  obtain ⟨-, ⟨secret, -, rfl⟩ | ⟨target, htarget, rfl⟩ | ⟨-, rfl⟩⟩ := changes_cons hq
  · obtain ⟨-, -, entry, hentry, rfl⟩ := ((serveChangePassword_changes ..).1 _).mp hserve
    exact h.of_change hpresent rfl rfl hentry _ (TextMap.get?_insert_self ..) rfl
  · obtain ⟨-, -, entry, hentry, rfl⟩ := ((serveRename_changes ..).1 _).mp hserve
    have hid : (p.settle (.rename p.id target)).id = target := by
      simp [Principal.settle, renamed, name, htarget]
    refine h.of_change hpresent rfl rfl hentry (entry.renamed client (r.clock + 1) target) ?_ rfl
    rw [hid]
    exact TextMap.get?_insert_self ..
  · exact absurd (changes_of_modify hq) hmore

/-- Of changes that are not all carried out, those that are leave an edit
readable: the fields would have been written last. -/
theorem ReadsBack.deliver (client : Name) {qs : List Request} (h : ReadsBack d read p r.principals)
    (hp : p.Consistent) (hpresent : p.presence = .present) (hqs : p.changes = qs)
    (hrefused : ((service client).deliver qs r).refusal ≠ none) :
    ReadsBack d read (stateOf (((service client).deliver qs r).outcome p qs)).1
      (stateOf (((service client).deliver qs r).outcome p qs)).2.principals := by
  induction qs generalizing p r with
  | nil => exact absurd rfl hrefused
  | cons q qs ih =>
    cases hserve : ((service client).serve q).run r with
    | error status r' =>
      rw [outcome_cons_error hserve, stateOf_error, principals_of_refused hserve]
      exact h
    | ok a r' =>
      rw [Service.deliver_cons_ok hserve] at hrefused
      -- A refusal is still to come, so this was not the last request.
      have hmore : qs ≠ [] := by
        rintro rfl
        exact hrefused rfl
      obtain ⟨hconsistent, hrest, hpresence⟩ := hp.settle hqs
      rw [outcome_cons_ok hserve]
      exact ih (h.settle hpresent hqs hmore hserve) hconsistent (hpresence.trans hpresent) hrest
        hrefused

/-- A commit that fails keeps an edit readable. -/
theorem ReadsBack.commit (h : ReadsBack d read p r.principals) (htracks : Tracks [d] p r.principals)
    (hs : s.service = service client) (hget : .unknownPrincipal ∉ r.faults .get)
    (hfailed : succeeded ((Principal.commit s g e).run (p, r)) = false) :
    ReadsBack d (read || (!p.loaded && succeeded ((Principal.load s).run (p, r))))
      (stateOf ((Principal.commit s g e).run (p, r))).1
      (stateOf ((Principal.commit s g e).run (p, r))).2.principals := by
  have hback := h.load htracks hs hget
  have hstore := (load_sameStore hs p r).principals
  have hconsistent := htracks.consistent.load s r
  rw [← hstore] at hback
  rw [run_commit s g e htracks.consistent] at hfailed ⊢
  cases hload : (Principal.load s).run (p, r) with
  | error f x =>
    rw [hload] at hback
    exact hback
  | ok a x =>
    obtain ⟨p₁, r₁⟩ := x
    simp only [hload, hs, stateOf_ok] at hback hconsistent hfailed ⊢
    by_cases hpresent : p₁.presence = .present
    · have hplan : p₁.plan g e = p₁.changes := if_pos hpresent
      have hready : p₁.readied g e = p₁ := if_pos hpresent
      rw [hplan, hready] at hfailed ⊢
      exact hback.deliver client hconsistent hpresent rfl (refusal_of_failed hfailed)
    · have hplan : p₁.plan g e = [p₁.creation g e] := if_neg hpresent
      have hready : p₁.readied g e = p₁.withPassword g e := if_neg hpresent
      rw [hplan, hready] at hfailed ⊢
      cases hserve : ((service client).serve (p₁.creation g e)).run r₁ with
      | ok a r' =>
        rw [outcome_cons_ok hserve] at hfailed
        cases hfailed
      | error status r' =>
        rw [outcome_cons_error hserve, stateOf_error, principals_of_refused hserve, withPassword_eq]
        exact hback.of_same_attribute rfl rfl rfl (.refl _ _) Iff.rfl

/-! ## Actions -/

/-- An edit that stays staged is tracked on. -/
theorem Action.Keeps.mem_tracked {a : Action} {succeeded : Bool} (h : a.Keeps d succeeded) :
    d ∈ a.tracked [d] succeeded := by
  cases a with
  | edit d' => simp [Action.tracked, Ne.symm h]
  | commit e =>
    cases succeeded with
    | false => exact List.mem_cons_self
    | true => exact h.elim
  | delete =>
    cases succeeded with
    | false => exact List.mem_cons_self
    | true => exact h.elim
  | _ => exact List.mem_cons_self

theorem Tracks.after_kept (h : Tracks [d] p r.principals) {c : Connection Realm}
    (hc : c.session.service = service client) {a : Action}
    (hkeeps : a.Keeps d (succeeded ((a.run c).run (p, r)))) :
    Tracks [d] (stateOf ((a.run c).run (p, r))).1 (stateOf ((a.run c).run (p, r))).2.principals := by
  have htracks := h.after hc a
  have hmem := hkeeps.mem_tracked
  cases hrun : (a.run c).run (p, r) with
  | ok b x =>
    rw [hrun] at htracks hmem
    exact Tracks.of_edits htracks (List.forall_mem_singleton.mpr hmem)
  | error f x =>
    rw [hrun] at htracks hmem
    exact Tracks.of_edits htracks (List.forall_mem_singleton.mpr hmem)

theorem ReadsBack.after (h : ReadsBack d read p r.principals) (htracks : Tracks [d] p r.principals)
    {c : Connection Realm} (hc : c.session.service = service client)
    (hget : .unknownPrincipal ∉ r.faults .get) {a : Action}
    (hkeeps : a.Keeps d (succeeded ((a.run c).run (p, r)))) :
    ReadsBack d (read || a.reads c p r) (stateOf ((a.run c).run (p, r))).1
      (stateOf ((a.run c).run (p, r))).2.principals := by
  have hunread (hloads : a.loads = false) : (read || a.reads c p r) = read := by
    simp [Action.reads, hloads]
  cases a with
  | setName text =>
    rw [hunread rfl]
    rcases setName_run c.session text p r with ⟨name, -, hrun⟩ | ⟨f, -, hrun⟩
    · obtain ⟨hid, hpresence, hloaded, hrecord, hdirty⟩ := rename_same p name
      rw [Action.run, hrun]
      exact h.of_same_attribute hid hpresence hloaded (hrecord ▸ .refl _ _)
        (hdirty d.field d.field_ne_principal)
    · rw [Action.run, hrun]
      exact h
  | setPassword secret =>
    rw [hunread rfl]
    exact h.of_same_attribute rfl rfl rfl (.refl _ _) Iff.rfl
  | randomizePassword e =>
    rw [hunread rfl]
    exact h.of_same_attribute rfl rfl rfl (.refl _ _) Iff.rfl
  | edit d' =>
    have hother : d'.target ≠ d.target := hkeeps
    obtain ⟨hid, hpresence, hloaded⟩ := stage_same p d'
    obtain ⟨hfield, -, -, hopposite⟩ := Edit.field_unrelated d' d hother.symm
    rw [hunread rfl]
    refine h.of_same_attribute hid hpresence hloaded (agreeAt_stage hother.symm) ?_
    exact (mem_stage_of_ne hfield).trans (and_iff_left hopposite)
  | load =>
    have hload := h.load htracks hc hget
    rw [← (load_sameStore hc p r).principals] at hload
    exact hload
  | ask question =>
    have hload := h.load htracks hc hget
    rw [← (load_sameStore hc p r).principals] at hload
    rw [Action.run, stateOf_ask]
    exact hload
  | commit e =>
    cases hfailed : succeeded (((Action.commit e).run c).run (p, r)) with
    | true =>
      rw [hfailed] at hkeeps
      exact hkeeps.elim
    | false => exact h.commit htracks hc hget hfailed
  | delete =>
    rcases delete_run c p r with ⟨r', hrun⟩ | ⟨f, r', hrun⟩
    · rw [Action.run, hrun] at hkeeps
      exact hkeeps.elim
    · rw [hunread rfl, Action.run, hrun, stateOf_error, principals_of_undeleted hc hrun]
      exact h

/-- Both invariants hold along a run. -/
theorem Uncommitted.readsBack (h : Uncommitted d read p r) :
    Tracks [d] p r.principals ∧ ReadsBack d read p r.principals := by
  induction h with
  | @staged edits p r h =>
    have htracks := h.tracks.stage d
    exact ⟨htracks.of_edits (List.forall_mem_singleton.mpr List.mem_cons_self),
      readsBack_stage d p r.principals⟩
  | after _ hget c hc a hkeeps ih =>
    obtain ⟨htracks, hback⟩ := ih
    exact ⟨htracks.after_kept hc hkeeps, hback.after htracks hc hget hkeeps⟩
  | outside _ hstore ih => rwa [hstore]

/-- **A staged edit is read back until it is committed**, as its wire form is
read, unless it clears the policy: that one is read back until a load takes
over a policy that the realm has for the principal, or in its template. -/
theorem staged_read_back (h : Uncommitted d read p r) (hs : s.service = service client)
    (hget : .unknownPrincipal ∉ r.faults .get) {answer : d.question.Answer}
    (hask : (d.question.get s).run (p, r) = .ok answer (p', r')) :
    answer = d.readBack ↔ (d.field = .policyClear → read = true ∨ p.loaded = false →
      p'.sourcePolicy r.principals = none) := by
  obtain ⟨hload, rfl⟩ := Question.load_of_get hask
  obtain ⟨htracks, hback⟩ := h.readsBack
  have hback := hback.load htracks hs hget
  have hread : (read || (!p.loaded && succeeded ((load s).run (p, r)))) = true ↔
      read = true ∨ p.loaded = false := by simp [hload, succeeded]
  rw [hload] at hback hread
  by_cases hcovered : d.field = .policyClear ∧ (read = true ∨ p.loaded = false)
  · -- A load has taken over the policy, and the answer is what it found.
    obtain ⟨hclear, hread'⟩ := hcovered
    have hpolicy := hback.policy hclear (hread.mpr hread')
    obtain rfl := Edit.eq_of_clear hclear
    have hanswer : p'.record.policy = p'.sourcePolicy r.principals := hpolicy
    exact ⟨fun h _ _ => hanswer.symm.trans h, fun h => hanswer.trans (h rfl hread')⟩
  · have hholds := hback.holds fun h => hcovered ⟨h.1, hread.mp h.2⟩
    exact iff_of_true (Edit.answerFor_of_holds hholds)
      fun hclear hread' => absurd ⟨hclear, hread'⟩ hcovered

/-- A commit has changed the password when its renaming is refused. The record
is read again after that, and the lifetime that is set is still shown. -/
theorem staged_read_back_after_cut_commit :
    let jdoe : Name := ⟨["jdoe"], "R"⟩
    let smith : Name := ⟨["smith"], "R"⟩
    let c : Connection Realm := ⟨Realm.session ⟨["admin"], "R"⟩, ⟨[]⟩⟩
    let d : Edit := .maxLifetime (.hours 1)
    let r : Realm := {
      name := "R"
      principals := (TextMap.empty.insert jdoe.text
        ⟨{ Record.named jdoe with maxLife := 60 }, [1]⟩).insert smith.text ⟨.named smith, [2]⟩ }
    let after (a : Action) (x : Principal × Realm) := stateOf ((a.run c).run x)
    let x := after (.setName "smith") (after (.setPassword ⟨[3]⟩) (d.stage (existing jdoe), r))
    let y := after (.commit ⟨fun _ => 0, 0⟩) x
    (∃ read, Uncommitted d read y.1 y.2) ∧ y.1.loaded = false ∧
      y.2.calls.map Call.kind = [.get, .changePassword, .rename] ∧
      ∃ z, (Principal.maxLifetime c.session).run (y.1, y.2) = .ok (.hours 1) z := by
  intro jdoe smith c d r after x y
  have hnext (a : Action) (x : Principal × Realm) (hget : .unknownPrincipal ∉ x.2.faults .get)
      (hkeeps : a.Keeps d (succeeded ((a.run c).run (x.1, x.2))))
      (h : ∃ read, Uncommitted d read x.1 x.2) :
      ∃ read, Uncommitted d read (after a x).1 (after a x).2 :=
    let ⟨_, h⟩ := h
    ⟨_, h.after hget c rfl a hkeeps⟩
  have hstaged : ∃ read, Uncommitted d read (d.stage (existing jdoe)) r :=
    ⟨_, .staged (.existing jdoe r)⟩
  have hkeyed := hnext (.setPassword ⟨[3]⟩) (d.stage (existing jdoe), r) (by decide) trivial hstaged
  have hnamed : ∃ read, Uncommitted d read x.1 x.2 :=
    hnext (.setName "smith") _ (by decide) trivial hkeyed
  have hfails : succeeded (((Action.commit ⟨fun _ => 0, 0⟩).run c).run (x.1, x.2)) = false := by
    decide
  obtain ⟨read, hrun⟩ : ∃ read, Uncommitted d read y.1 y.2 :=
    hnext (.commit ⟨fun _ => 0, 0⟩) x (by decide) (hfails ▸ trivial) hnamed
  obtain ⟨answer, hask⟩ := exists_answer
    (show succeeded ((d.question.get c.session).run (y.1, y.2)) = true by decide)
  obtain rfl : answer = d.readBack := (staged_read_back hrun rfl (by decide) hask).mpr nofun
  exact ⟨⟨read, hrun⟩, by decide, by decide, _, hask⟩

/-- A policy is cleared before anything is read. The load of the getter reads
the policy that is stored, and the getter shows it. -/
theorem cleared_policy_not_read_back :
    let jdoe : Name := ⟨["jdoe"], "R"⟩
    let c : Connection Realm := ⟨Realm.session ⟨["admin"], "R"⟩, ⟨[]⟩⟩
    let d : Edit := .policy none
    let r : Realm := {
      name := "R"
      principals := TextMap.empty.insert jdoe.text
        ⟨{ Record.named jdoe with policy := some "strict" }, [1]⟩ }
    Uncommitted d false (d.stage (existing jdoe)) r ∧ .policyClear ∈ (d.stage (existing jdoe)).dirty ∧
      .unknownPrincipal ∉ r.faults .get ∧ d.readBack = none ∧
      ∃ z, (Principal.policy c.session).run (d.stage (existing jdoe), r) = .ok (some "strict") z := by
  intro jdoe c d r
  obtain ⟨answer, hask⟩ := exists_answer
    (show succeeded ((Question.policy.get c.session).run (d.stage (existing jdoe), r)) = true by
      decide)
  obtain rfl : answer = some "strict" := by
    rw [(Question.load_of_get hask).2]
    decide
  exact ⟨.staged (.existing jdoe r), by decide, by decide, rfl, _, hask⟩

end RealmAdmin.Principal
