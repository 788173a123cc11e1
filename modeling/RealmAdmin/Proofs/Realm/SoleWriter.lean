/-
RealmAdmin.Proofs.Realm.SoleWriter — which edits a commit makes lasting.

A `SoleWriter` run is made of actions on one principal, with the edits since
its last commit as a list, while nobody else writes to the realm. The edits of
a run are tracked (`SoleWriter.tracks`), so a commit that succeeds on a
principal that is there leaves an entry that holds them all.

A principal that is created is another matter. A setter stages nothing where
the snapshot has its value already, and the snapshot may have it from the
realm's template. The creation then leaves the field out, and the entry gets
the value of a blank record: `committed_edits` says exactly which edits are
lost in this way, and `committed_edit_lost` is a run that loses one.
-/
import RealmAdmin.Proofs.Realm.Tracks

namespace RealmAdmin.Principal

open Realm

variable {s : Session Realm} {client : Name} {g : PasswordGenerator} {e : Entropy}
  {edits : List Edit} {p p₁ p' : Principal} {r r₁ r' : Realm} {store : TextMap Entry}

/-! ## Commits -/

/-- A commit of a principal that is there keeps track of the edits, wherever
the realm cuts it. -/
theorem Tracks.deliver (client : Name) {qs : List Request} (h : Tracks edits p r.principals)
    (hpresent : p.presence = .present) (hqs : p.changes = qs) :
    Tracks edits (stateOf (((service client).deliver qs r).outcome p qs)).1
      (stateOf (((service client).deliver qs r).outcome p qs)).2.principals := by
  induction qs generalizing p r with
  | nil => exact h
  | cons q qs ih =>
    cases hserve : ((service client).serve q).run r with
    | error status r' =>
      rw [outcome_cons_error hserve, stateOf_error, principals_of_refused hserve]
      exact h
    | ok a r' =>
      obtain ⟨-, hrest, hpresence⟩ := h.consistent.settle hqs
      rw [outcome_cons_ok hserve]
      exact ih (h.settle hpresent hqs hserve) (hpresence.trans hpresent) hrest

/-- A creation that the realm carries out. -/
theorem creation_entry (h : ((service client).serve (p.creation g e)).run r = .ok () r') :
    r'.principals.get? p.name.text = some (.make client (r.clock + 1)
      { p.record with principal := some p.name } p.creationFields
      (p.secret.pending?.getD (g.generate e)).bytes) := by
  obtain ⟨-, -, -, -, name, hname, -, rfl⟩ := ((serveCreate_changes ..).1 _).mp h
  obtain rfl : p.name = name := Option.some.inj hname
  exact TextMap.get?_insert_self ..

/-- Which edits the entry of a created principal holds. -/
theorem holds_creation (client : Name) {d : Edit} (h : d.IsKept p store) (now : Int64)
    (password : List UInt8) :
    d.Holds (Entry.make client now { p.record with principal := some p.name } p.creationFields
      password).record ↔ d.field ∈ p.dirty ∨ d.Holds .blank := by
  have hfields : d.target ∈ p.creationFields ↔ d.target ∈ p.dirty := by
    rw [creationFields, FieldSet.mem_forCreate, FieldSet.mem_insert,
      or_iff_left d.target_ne_principal, and_iff_left d.allowedOnCreate_target]
  by_cases hmem : d.field ∈ p.dirty
  · by_cases hset : d.field = .policyClear
    · -- To clear the policy is nothing to send, and a blank record has none.
      have hblank := d.holds_blank_of_clear hset
      have htarget : d.target ∉ p.dirty := fun h' => h.opposite _ h' (d.displaces_target hset)
      rw [Edit.holds_make_of_not_mem (mt hfields.mp htarget)]
      exact iff_of_true hblank (.inr hblank)
    · have htarget : d.target ∈ p.dirty := by rwa [Edit.target_eq_field hset]
      rw [Edit.holds_make_of_mem (hfields.mpr htarget), d.holds_named]
      exact iff_of_true (h.staged hmem hset) (.inl hmem)
  · have htarget := (Edit.target_not_mem hmem h.opposite).1
    rw [Edit.holds_make_of_not_mem (mt hfields.mp htarget), or_iff_right hmem]

/-- How a commit ends: with nothing staged and an entry that holds these of
the edits, or with the edits still tracked. -/
def CommitTracks (edits : List Edit) (held : Edit → Prop) :
    EStateM.Result Failure (Principal × Realm) Unit → Prop
  | .ok _ (p', r') => Tracks [] p' r'.principals ∧ ∃ entry, p'.StoredAs r'.principals entry ∧
      ∀ d ∈ edits, d.Holds entry.record ↔ held d
  | .error _ (p', r') => Tracks edits p' r'.principals

/-- What is sent for a principal that is there writes every edit. -/
theorem Tracks.commit_present (h : Tracks edits p r.principals) (hpresent : p.presence = .present)
    (g : PasswordGenerator) (e : Entropy) :
    CommitTracks edits (fun _ => True)
      (((service client).deliver (p.plan g e) r).outcome (p.readied g e) (p.plan g e)) := by
  have hplan : p.plan g e = p.changes := if_pos hpresent
  have hready : p.readied g e = p := if_pos hpresent
  have htracks := h.deliver client hpresent rfl
  obtain ⟨p', hp', hpresence, -, hdirty, -⟩ := h.consistent.plan_done g e
  rw [hplan, hready] at hp' ⊢
  rw [Delivery.outcome] at htracks ⊢
  cases hrefusal : ((service client).deliver p.changes r).refusal with
  | some status =>
    simp only [hrefusal, stateOf_error] at htracks
    exact htracks
  | none =>
    simp only [hrefusal, stateOf_ok, hp'] at htracks
    obtain ⟨entry, hentry⟩ := htracks.found hpresence
    dsimp only
    rw [hp']
    refine ⟨htracks.of_edits (List.forall_mem_nil _), entry, hentry, fun d hd => iff_of_true ?_ trivial⟩
    have hclean : d.field ∉ p'.dirty := by simp [hdirty]
    exact (htracks.kept d hd).stored hclean entry hentry

/-- A password in the slot plays no part. -/
theorem Tracks.withPassword (h : Tracks edits p store) (g : PasswordGenerator) (e : Entropy) :
    Tracks edits (p.withPassword g e) store := by
  have hconsistent := h.consistent.withPassword g e
  rw [withPassword_eq] at hconsistent ⊢
  exact h.of_same_snapshot hconsistent rfl rfl rfl rfl fun _ _ => Iff.rfl

/-- What is sent for a principal that is absent creates it with the edits that
are dirty. -/
theorem Tracks.commit_absent (h : Tracks edits p r.principals) (habsent : p.presence ≠ .present)
    (g : PasswordGenerator) (e : Entropy) :
    CommitTracks edits (fun d => d.field ∈ p.dirty ∨ d.Holds .blank)
      (((service client).deliver (p.plan g e) r).outcome (p.readied g e) (p.plan g e)) := by
  have hplan : p.plan g e = [p.creation g e] := if_neg habsent
  have hready : p.readied g e = p.withPassword g e := if_neg habsent
  rw [hplan, hready]
  cases hserve : ((service client).serve (p.creation g e)).run r with
  | error status r' =>
    rw [outcome_cons_error hserve, CommitTracks, principals_of_refused hserve]
    exact h.withPassword g e
  | ok a r' =>
    have hentry := creation_entry hserve
    have hholds (d : Edit) (hd : d ∈ edits) := holds_creation client (h.kept d hd)
      (r.clock + 1) (p.secret.pending?.getD (g.generate e)).bytes
    generalize Entry.make .. = entry at hentry hholds
    have hid : (p.withPassword g e).created.id = p.name := by
      rw [withPassword_eq]
      rfl
    have hstored : (p.withPassword g e).created.StoredAs r'.principals entry := by
      rw [StoredAs, hid]
      exact ⟨rfl, hentry⟩
    rw [outcome_cons_ok hserve]
    refine ⟨⟨created_consistent _, ?_, fun _ => ⟨entry, hstored⟩, ?_, List.forall_mem_nil _⟩,
      entry, hstored, hholds⟩
    · exact fun hmem => absurd hmem (FieldSet.not_mem_empty _)
    · exact fun hloaded => absurd hloaded Bool.false_ne_true

/-- A commit keeps track of the edits until it succeeds, and then it has
written those that it sent. -/
theorem Tracks.commit (hs : s.service = service client) (h : Tracks edits p r.principals)
    (g : PasswordGenerator) (e : Entropy) :
    match (Principal.load s).run (p, r) with
    | .ok _ (p₁, _) => CommitTracks edits
        (fun d => p₁.presence = .absent → d.field ∈ p.dirty ∨ d.Holds .blank)
        ((Principal.commit s g e).run (p, r))
    | .error _ _ => CommitTracks edits (fun _ => True) ((Principal.commit s g e).run (p, r)) := by
  have htracks := h.load hs
  have hload := load_run s p r
  rw [run_commit s g e h.consistent]
  cases hrun : (Principal.load s).run (p, r) with
  | error f x =>
    rw [hrun] at htracks
    exact htracks
  | ok a x =>
    obtain ⟨p₁, r₁⟩ := x
    rw [hrun] at htracks hload
    have hdirty : p₁.dirty = p.dirty := hload.stagedAlike.dirty
    have hknown := htracks.consistent.known hload.loaded
    dsimp only
    rw [hs]
    by_cases hpresent : p₁.presence = .present
    · simpa [hpresent] using htracks.commit_present hpresent g e
    · have habsent : p₁.presence = .absent := Presence.eq_absent hknown hpresent
      simpa [habsent, hdirty] using htracks.commit_absent hpresent g e

/-! ## Actions -/

/-- The edits since the last commit, after one more action. A setter's value
takes the place of an earlier one for the same attribute. -/
def Action.tracked (before : List Edit) : Action → (succeeded : Bool) → List Edit
  | .edit d, _ => d :: before.filter (·.target ≠ d.target)
  | .commit _, true | .delete, true => []
  | _, _ => before

/-- A run on one principal, with the edits since its last commit, in which
nobody else writes to the realm. What is laid of faults or read by others does
not matter, and each action may be taken by another client. -/
inductive SoleWriter : List Edit → Principal → Realm → Prop
  | existing (id : Name) (r : Realm) : SoleWriter [] (existing id) r
  | fresh (id : Name) (r : Realm) : SoleWriter [] (fresh id) r
  | succeeded {client : Name} {before : List Edit} {p p' : Principal} {r r' : Realm}
      (h : SoleWriter before p r) (c : Connection Realm) (hc : c.session.service = service client)
      (a : Action) (hrun : (a.run c).run (p, r) = .ok () (p', r')) :
      SoleWriter (a.tracked before true) p' r'
  | failed {client : Name} {before : List Edit} {p p' : Principal} {r r' : Realm} {f : Failure}
      (h : SoleWriter before p r) (c : Connection Realm) (hc : c.session.service = service client)
      (a : Action) (hrun : (a.run c).run (p, r) = .error f (p', r')) :
      SoleWriter (a.tracked before false) p' r'
  | outside {before : List Edit} {p : Principal} {r r' : Realm} (h : SoleWriter before p r)
      (hstore : r'.principals = r.principals) : SoleWriter before p r'

/-- A run goes on with any action, however it ends. -/
theorem soleWriter_after (h : SoleWriter edits p r) (c : Connection Realm)
    (hc : c.session.service = service client) (a : Action) :
    SoleWriter (a.tracked edits (succeeded ((a.run c).run (p, r))))
      (stateOf ((a.run c).run (p, r))).1 (stateOf ((a.run c).run (p, r))).2 := by
  cases hrun : (a.run c).run (p, r) with
  | ok b x => exact .succeeded h c hc a hrun
  | error f x => exact .failed h c hc a hrun

theorem soleWriter_of_succeeded (h : SoleWriter edits p r) (c : Connection Realm)
    (hc : c.session.service = service client) (a : Action)
    (hok : succeeded ((a.run c).run (p, r)) = true) :
    SoleWriter (a.tracked edits true) (stateOf ((a.run c).run (p, r))).1
      (stateOf ((a.run c).run (p, r))).2 := by
  rw [← hok]
  exact soleWriter_after h c hc a

/-- The edits that are tracked after an action. -/
def ActionTracks (edits : List Edit) (a : Action) :
    EStateM.Result Failure (Principal × Realm) Unit → Prop
  | .ok _ (p', r') => Tracks (a.tracked edits true) p' r'.principals
  | .error _ (p', r') => Tracks (a.tracked edits false) p' r'.principals

/-- An action that has no part in the edits tracks them if what it leaves
does, whether it succeeded or not. -/
theorem actionTracks_of_stateOf {a : Action} (hsame : ∀ succeeded, a.tracked edits succeeded = edits)
    {result : EStateM.Result Failure (Principal × Realm) Unit}
    (h : Tracks edits (stateOf result).1 (stateOf result).2.principals) :
    ActionTracks edits a result := by
  cases result with
  | ok b x =>
    rw [ActionTracks, hsame]
    exact h
  | error f x =>
    rw [ActionTracks, hsame]
    exact h

/-- To look at the privileges leaves the realm's store as it was. -/
theorem principals_of_require {c : Connection Realm} (hc : c.session.service = service client)
    (needed : Privileges) (operation : Operation) (r : Realm) :
    (stateOf ((c.require needed operation).run r)).principals = r.principals := by
  rw [c.run_require, hc]
  cases hserve : ((service client).serve .privileges).run r with
  | error status r₁ => exact principals_of_refused hserve
  | ok granted r₁ =>
    have hstore := principals_of_privileges hserve
    dsimp only
    split <;> exact hstore

/-- A deletion takes the entry under the principal's own name out of the realm, whatever
name is staged, or it changes nothing. -/
theorem deletion_changes {c : Connection Realm} (hc : c.session.service = service client)
    (p : Principal) (r : Realm) :
    match (c.delete).run (p, r) with
    | .ok _ (p', r') => p' = p.deleted ∧ r.principals.contains p.id.text = true ∧
        r'.principals = r.principals.erase p.id.text
    | .error _ (p', r') => p' = p ∧ r'.principals = r.principals := by
  have hrequire := principals_of_require hc .delete .delete r
  rw [c.run_delete, EStateM.run_bind]
  cases hmay : (c.require .delete .delete).run r with
  | error f r₁ =>
    rw [hmay] at hrequire
    exact ⟨rfl, hrequire⟩
  | ok a r₁ =>
    rw [hmay] at hrequire
    have hrequire : r₁.principals = r.principals := hrequire
    have hdelete : (c.session.delete p.id).run r₁ = _ :=
      c.session.service.run_request (.delete p.id) r₁
    dsimp only
    rw [hdelete, hc]
    cases hserve : ((service client).serve (.delete p.id)).run r₁ with
    | error status r₂ => exact ⟨rfl, (principals_of_refused hserve).trans hrequire⟩
    | ok b r₂ =>
      obtain ⟨-, hstored, rfl⟩ := ((serveDelete_changes ..).1 _).mp hserve
      rw [hrequire] at hstored
      exact ⟨rfl, hstored, congrArg (TextMap.erase · p.id.text) hrequire⟩

/-- A deletion that fails leaves the realm's store as it was. -/
theorem principals_of_undeleted {c : Connection Realm} (hc : c.session.service = service client)
    {f : Failure} (h : (c.delete).run (p, r) = .error f (p', r')) : r'.principals = r.principals := by
  have hchanges := deletion_changes hc p r
  rw [h] at hchanges
  exact hchanges.2

theorem Tracks.after (h : Tracks edits p r.principals) {c : Connection Realm}
    (hc : c.session.service = service client) (a : Action) :
    ActionTracks edits a ((a.run c).run (p, r)) := by
  cases a with
  | setName text =>
    rcases setName_run c.session text p r with ⟨name, -, hrun⟩ | ⟨f, -, hrun⟩
    · rw [Action.run, hrun]
      exact h.rename name
    · rw [Action.run, hrun]
      exact h
  | setPassword secret =>
    exact h.of_same_snapshot (h.consistent.setPassword secret) rfl rfl rfl rfl fun _ _ => Iff.rfl
  | randomizePassword e =>
    exact h.of_same_snapshot (h.consistent.setPassword (c.generator.generate e)) rfl rfl rfl rfl
      fun _ _ => Iff.rfl
  | edit d => exact h.stage d
  | load => exact actionTracks_of_stateOf (fun _ => rfl) (h.load hc)
  | ask question =>
    refine actionTracks_of_stateOf (fun _ => rfl) ?_
    rw [Action.run, stateOf_ask]
    exact h.load hc
  | commit e =>
    have htracks : ∃ held, CommitTracks edits held
        ((Principal.commit c.session c.generator e).run (p, r)) := by
      have htracks := h.commit hc c.generator e
      split at htracks <;> exact ⟨_, htracks⟩
    obtain ⟨held, htracks⟩ := htracks
    rw [Action.run]
    cases hrun : (Principal.commit c.session c.generator e).run (p, r) with
    | ok a x =>
      rw [hrun] at htracks
      exact htracks.1
    | error f x =>
      rw [hrun] at htracks
      exact htracks
  | delete =>
    rcases delete_run c p r with ⟨r', hrun⟩ | ⟨f, r', hrun⟩
    · rw [Action.run, hrun]
      exact .of_nothing_staged (deleted_consistent p) rfl (by simp [deleted])
    · rw [Action.run, hrun, ActionTracks, principals_of_undeleted hc hrun]
      exact h

/-- The edits of a run are tracked. -/
theorem SoleWriter.tracks (h : SoleWriter edits p r) : Tracks edits p r.principals := by
  induction h with
  | existing id r => exact .of_nothing_staged (existing_consistent id) rfl nofun
  | fresh id r => exact .of_nothing_staged (fresh_consistent id) rfl nofun
  | succeeded _ c hc a hrun ih =>
    have htracks := ih.after hc a
    rwa [hrun] at htracks
  | failed _ c hc a hrun ih =>
    have htracks := ih.after hc a
    rwa [hrun] at htracks
  | outside _ hstore ih => rwa [hstore]

/-- **Which edits a commit makes lasting**: after a commit that succeeded the
realm has an entry for the principal, and it holds every edit since the last
commit, unless the commit created the principal, the setter had left nothing
to send, and a blank record has another value. -/
theorem committed_edits (h : SoleWriter edits p r) (hs : s.service = service client)
    (hok : (commit s g e).run (p, r) = .ok () (p', r')) :
    ∃ p₁ r₁ entry, (load s).run (p, r) = .ok () (p₁, r₁) ∧
      r'.principals.get? p'.id.text = some entry ∧
      ∀ d ∈ edits, d.Holds entry.record ↔
        (p₁.presence = .absent → d.field ∈ p.dirty ∨ d.Holds .blank) := by
  have htracks := h.tracks.commit hs g e
  cases hrun : (load s).run (p, r) with
  | error f x => simp [run_commit s g e h.tracks.consistent, hrun] at hok
  | ok a x =>
    obtain ⟨p₁, r₁⟩ := x
    simp only [hrun, hok] at htracks
    obtain ⟨-, entry, hentry, hholds⟩ := htracks
    exact ⟨p₁, r₁, entry, rfl, hentry.2, hholds⟩

/-- A new lifetime of a principal that is there. -/
theorem committed_edits_of_present :
    let jdoe : Name := ⟨["jdoe"], "R"⟩
    let c : Connection Realm := ⟨Realm.session ⟨["admin"], "R"⟩, ⟨[]⟩⟩
    let d : Edit := .maxLifetime (.hours 1)
    let r : Realm :=
      { name := "R", principals := TextMap.empty.insert jdoe.text ⟨.named jdoe, [1]⟩ }
    let z := (commit c.session c.generator ⟨fun _ => 0, 0⟩).run (d.stage (existing jdoe), r)
    SoleWriter [d] (d.stage (existing jdoe)) r ∧ succeeded z = true ∧
      ∃ entry, (stateOf z).2.principals.get? (stateOf z).1.id.text = some entry ∧
        d.Holds entry.record := by
  intro jdoe c d r z
  have hrun : SoleWriter [d] (d.stage (existing jdoe)) r :=
    .succeeded (.existing jdoe r) c rfl (.edit d) rfl
  have hends : succeeded z = true := by decide
  have hok : z = .ok () ((stateOf z).1, (stateOf z).2) := eq_ok_of_succeeded hends
  obtain ⟨p₁, r₁, entry, -, hentry, hholds⟩ := committed_edits hrun rfl hok
  have hdirty : d.field ∈ (d.stage (existing jdoe)).dirty := by decide
  exact ⟨hrun, hends, entry, hentry, (hholds d List.mem_cons_self).mpr fun _ => .inl hdirty⟩

/-- The realm's template expires. A new principal is shown to expire at that
time, is set to, and is created so that it never does. -/
theorem committed_edit_lost :
    let newbie : Name := ⟨["newbie"], "R"⟩
    let template : Name := ⟨["default"], "R"⟩
    let c : Connection Realm := ⟨Realm.session ⟨["admin"], "R"⟩, ⟨[⟨[97], 1, by decide⟩]⟩⟩
    let d : Edit := .expireTime (.at ⟨1800000000, 0, by decide, by decide⟩)
    let r : Realm := {
      name := "R"
      principals := TextMap.empty.insert template.text
        ⟨{ Record.named template with expireTime := 1800000000 }, [1]⟩ }
    let x := stateOf (((Action.ask .expireTime).run c).run (fresh newbie, r))
    let z := (commit c.session c.generator ⟨fun _ => 0, 0⟩).run (d.stage x.1, x.2)
    SoleWriter [d] (d.stage x.1) x.2 ∧ succeeded z = true ∧ (stateOf z).1.id = newbie ∧
      ∃ entry, (stateOf z).2.principals.get? newbie.text = some entry ∧
        entry.record.expireTime = 0 ∧ ¬ d.Holds entry.record := by
  intro newbie template c d r x z
  have hends : succeeded (((Action.ask .expireTime).run c).run (fresh newbie, r)) = true := by
    decide
  have hasked := soleWriter_of_succeeded (.fresh newbie r) c rfl (.ask .expireTime) hends
  have hset {p : Principal} {r : Realm} (h : SoleWriter [] p r) : SoleWriter [d] (d.stage p) r :=
    .succeeded h c rfl (.edit d) rfl
  have hstored : ((stateOf z).2.principals.get? newbie.text).map (·.record.expireTime) = some 0 := by
    decide
  obtain ⟨entry, hentry, htime⟩ := Option.map_eq_some_iff.mp hstored
  have hok : succeeded z = true := by decide
  have hid : (stateOf z).1.id = newbie := by decide
  exact ⟨hset hasked, hok, hid, entry, hentry, htime,
    fun hholds => absurd (htime.symm.trans hholds) (by decide)⟩

end RealmAdmin.Principal
