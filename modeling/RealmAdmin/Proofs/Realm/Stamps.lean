/-
RealmAdmin.Proofs.Realm.Stamps — the stamps of stored records grow with time.

A realm is `Sound` if every entry is stored under the name in its record and its
stamps are in order: the password was changed no later than the record, and the
record no later than the clock shows. Records come from clients, with anything in
them; that they cannot break this is due to the masks, which let neither stamp
through, and to the stamping, which comes last. One lemma for each request says what
it stamps, `Sound.after` that events preserve soundness, and `stamps_increase` that
in a whole run each stamp is later than all that were there before.

The clock is a machine number. `KeepsTime` says that it does not run over, which it
could only after more events than any machine can go through.
-/
import RealmAdmin.Proofs.Realm.Upkeep

namespace RealmAdmin

/-- The name under which the request, when it is carried out, leaves a stamped entry. -/
def Request.stamps? : Request → Option Name
  | .create record .. | .modify record _ => record.principal
  | .rename _ target => some target
  | .changePassword name _ => some name
  | .get .. | .delete _ | .list _ | .privileges => none

/-- Whether the request leaves a stamped entry when it is carried out. -/
def Request.IsStamping : Request → Prop
  | .create .. | .modify .. | .rename .. | .changePassword .. => True
  | .get .. | .delete _ | .list _ | .privileges => False

/-! ## Entries -/

/-- Whether an entry belongs under a key at a time. -/
structure Entry.FitsAt (e : Entry) (key : String) (clock : Int64) : Prop where
  named : ∃ name, e.record.principal = some name ∧ name.text = key
  ordered : e.record.lastPasswordChange ≤ e.record.modifyTime
  past : e.record.modifyTime ≤ clock

namespace Entry

variable {e : Entry} {key : String} {clock now : Int64} {client name : Name} {record : Record}
  {fields : FieldSet} {password : List UInt8}

theorem FitsAt.mono (h : e.FitsAt key clock) (hle : clock ≤ now) : e.FitsAt key now :=
  ⟨h.named, h.ordered, Int64.le_trans h.past hle⟩

theorem fitsAt_make (hmem : .principal ∈ fields) (hname : record.principal = some name) :
    (make client now record fields password).FitsAt name.text now :=
  ⟨⟨name, (Realm.principal_make hmem now).trans hname, rfl⟩, Int64.le_refl now, Int64.le_refl now⟩

/-- The mask of a modification lets no stamp through. -/
theorem FitsAt.modified (h : e.FitsAt name.text clock) (hmask : fields = fields.forModify)
    (hname : record.principal = some name) (hle : clock ≤ now) :
    (e.modified client now record fields).FitsAt name.text now := by
  have hstamp : .lastPasswordChange ∉ fields := by
    rw [hmask, FieldSet.mem_forModify]
    simp [Field.allowedOnModify]
  have hchanged : (e.record.merge record fields).lastPasswordChange = e.record.lastPasswordChange :=
    Record.agreeAt_merge_of_not_mem hstamp
  have hprincipal :
      ∃ n, (e.record.merge record fields).principal = some n ∧ n.text = name.text := by
    by_cases hmem : .principal ∈ fields
    · have hsame : (e.record.merge record fields).principal = record.principal :=
        Record.agreeAt_merge_of_mem hmem
      exact ⟨name, hsame.trans hname, rfl⟩
    · have hsame : (e.record.merge record fields).principal = e.record.principal :=
        Record.agreeAt_merge_of_not_mem hmem
      rw [hsame]
      exact h.named
  have hbefore : e.record.lastPasswordChange ≤ now :=
    Int64.le_trans (Int64.le_trans h.ordered h.past) hle
  refine ⟨?_, ?_, Int64.le_refl now⟩
  · unfold Entry.modified Realm.stamp
    split <;> exact hprincipal
  · unfold Entry.modified Realm.stamp
    split <;> exact hchanged ▸ hbefore

theorem FitsAt.renamed (h : e.FitsAt key clock) (hle : clock ≤ now) (target : Name) :
    (e.renamed client now target).FitsAt target.text now :=
  ⟨⟨target, rfl, rfl⟩, Int64.le_trans (Int64.le_trans h.ordered h.past) hle, Int64.le_refl now⟩

theorem FitsAt.rekeyed (h : e.FitsAt key clock) :
    (e.rekeyed client now password).FitsAt key now :=
  ⟨h.named, Int64.le_refl now, Int64.le_refl now⟩

end Entry

namespace Realm

variable {client : Name} {r r' : Realm}

/-- Whether every entry belongs under its key. -/
def Sound (r : Realm) : Prop := ∀ key e, r.principals.get? key = some e → e.FitsAt key r.clock

theorem Sound.of_principals (h : r.Sound) (r' : Realm) (hsame : r'.principals = r.principals)
    (hle : r.clock ≤ r'.clock) : r'.Sound := by
  intro key e he
  rw [hsame] at he
  exact (h key e he).mono hle

theorem Sound.put (h : r.Sound) {name : Name} {e : Entry} (he : e.FitsAt name.text r.clock) :
    (r.put name e).Sound := by
  intro key e' he'
  change (r.principals.insert name.text e).get? key = some e' at he'
  rw [TextMap.get?_insert] at he'
  split at he'
  · next hkey =>
    obtain rfl := Option.some.inj he'
    subst hkey
    exact he
  · exact h key e' he'

theorem Sound.drop (h : r.Sound) (name : Name) : (r.drop name).Sound := by
  intro key e he
  change (r.principals.erase name.text).get? key = some e at he
  rw [TextMap.get?_erase] at he
  split at he
  · cases he
  · exact h key e he

/-! ## Requests -/

/-- What a request that is carried out leaves under the name that it stamps. -/
theorem stamped_of_served {q : Request} {a : q.Answer} (hq : q.IsStamping)
    (h : ((service client).serve q).run r = .ok a r') :
    r'.clock = r.clock + 1 ∧ ∃ name e, q.stamps? = some name ∧
      r'.principals.get? name.text = some e ∧ e.record.modifier = some client ∧
      e.record.modifyTime = r.clock + 1 := by
  cases q with
  | create record fields password =>
    obtain ⟨-, -, -, -, name, hname, -, rfl⟩ := ((serveCreate_changes ..).1 r').mp h
    exact ⟨rfl, name, _, hname, TextMap.get?_insert_self .., rfl, rfl⟩
  | modify record fields =>
    obtain ⟨-, -, -, name, e, hname, -, rfl⟩ := ((serveModify_changes ..).1 r').mp h
    exact ⟨rfl, name, _, hname, TextMap.get?_insert_self .., rfl, rfl⟩
  | rename source target =>
    obtain ⟨-, -, e, -, rfl⟩ := ((serveRename_changes ..).1 r').mp h
    exact ⟨rfl, target, _, rfl, TextMap.get?_insert_self .., rfl, rfl⟩
  | changePassword name password =>
    obtain ⟨-, -, e, -, rfl⟩ := ((serveChangePassword_changes ..).1 r').mp h
    exact ⟨rfl, name, _, rfl, TextMap.get?_insert_self .., rfl, rfl⟩
  | _ => exact hq.elim

theorem Sound.served (h : r.Sound) {q : Request} {a : q.Answer}
    (hrun : ((service client).serve q).run r = .ok a r') (hle : r.clock ≤ r'.clock) : r'.Sound := by
  have hquestion (hq : q.IsQuestion) : r'.Sound := by
    have hsame : (stateOf (((service client).serve q).run r)).principals = r.principals :=
      preserves_principals_question hq r rfl
    rw [hrun] at hsame
    exact h.of_principals r' hsame hle
  cases q with
  | create record fields password =>
    obtain ⟨-, -, hmem, -, name, hname, -, rfl⟩ := ((serveCreate_changes ..).1 r').mp hrun
    exact (h.of_principals ((r.logged _).ticked) rfl hle).put (Entry.fitsAt_make hmem hname)
  | modify record fields =>
    obtain ⟨-, hmask, -, name, e, hname, he, rfl⟩ := ((serveModify_changes ..).1 r').mp hrun
    exact (h.of_principals ((r.logged _).ticked) rfl hle).put
      ((h _ e he).modified hmask hname hle)
  | rename source target =>
    obtain ⟨-, -, e, he, rfl⟩ := ((serveRename_changes ..).1 r').mp hrun
    exact ((h.drop source).of_principals (((r.logged _).drop source).ticked) rfl hle).put
      ((h _ e he).renamed hle target)
  | changePassword name password =>
    obtain ⟨-, -, e, he, rfl⟩ := ((serveChangePassword_changes ..).1 r').mp hrun
    exact (h.of_principals ((r.logged _).ticked) rfl hle).put (h _ e he).rekeyed
  | delete name =>
    obtain ⟨-, -, rfl⟩ := ((serveDelete_changes ..).1 r').mp hrun
    exact (h.of_principals (r.logged _) rfl (Int64.le_refl _)).drop name
  | _ => exact hquestion trivial

/-! ## The clock -/

/-- Whether a step lets the clock go on by no more than this. -/
def Paces {α : Type} (n : Nat) (x : Step α) : Prop :=
  ∀ r, ∃ k ≤ n, (stateOf (x.run r)).clock = r.clock + Int64.ofNat k

section

variable {α β : Type} {m n : Nat} {x : Step α} {f : α → Step β}

/-- What preserves the clock does not let it go on. -/
theorem Paces.of_preserves (h : ∀ clock, Preserves (·.clock = clock) x) : Paces n x :=
  fun r => ⟨0, Nat.zero_le n, by simpa using h r.clock r rfl⟩

theorem Paces.bind (hx : Paces m x) (hf : ∀ a, Paces n (f a)) : Paces (m + n) (x >>= f) := by
  intro r
  obtain ⟨k, hk, hclock⟩ := hx r
  rw [EStateM.run_bind]
  cases h : x.run r with
  | error status r' =>
    rw [h] at hclock
    exact ⟨k, by omega, hclock⟩
  | ok a r' =>
    rw [h] at hclock
    obtain ⟨l, hl, hclock'⟩ := hf a r'
    refine ⟨k + l, by omega, ?_⟩
    rw [Int64.ofNat_add, ← Int64.add_assoc, ← hclock]
    exact hclock'

/-- A step that goes on unless a condition forbids it. -/
theorem Paces.guard {p : Prop} [Decidable p] (status : Status) {f : PUnit → Step α}
    (hf : Paces n (f ⟨⟩)) : Paces n (if p then MonadExcept.throw status >>= f else f ⟨⟩) := by
  by_cases hp : p
  · rw [if_pos hp]
    exact fun _ => ⟨0, Nat.zero_le n, by simp [stateOf]⟩
  · rwa [if_neg hp]

theorem Paces.tick : Paces 1 tick := fun _ => ⟨1, Nat.le_refl 1, rfl⟩

theorem preserves_clock_enter (clock : Int64) (call : Call) :
    Preserves (·.clock = clock) (enter call) := by
  intro r hr
  rw [run_enter]
  cases r.faults call.kind <;> exact hr

theorem Paces.enter (call : Call) : Paces 0 (enter call) :=
  .of_preserves fun clock => preserves_clock_enter clock call

end

/-- A request lets the clock go on once at most, also when it is refused. -/
theorem paces_serve (client : Name) (q : Request) : Paces 1 ((service client).serve q) := by
  have hkeep {α : Type} {x : Step α} (hx : ∀ clock, Preserves (·.clock = clock) x) :
      Paces 0 x := .of_preserves hx
  cases q with
  | get name fields =>
    exact (Paces.enter _).bind (n := 1) fun _ => .of_preserves fun _ =>
      (Preserves.entry name).bind fun _ => .pure _
  | list filter =>
    exact (Paces.enter _).bind (n := 1) fun _ => .of_preserves fun _ =>
      (Preserves.compile filter).bind fun _ => Preserves.get.bind fun _ => .pure _
  | privileges =>
    exact (Paces.enter _).bind (n := 1) fun _ => .of_preserves fun _ =>
      Preserves.get.bind fun _ => .pure _
  | delete name =>
    exact (Paces.enter _).bind (n := 1) fun _ => .of_preserves fun _ =>
      (Preserves.entry name).bind fun _ _ hr => hr
  | create record fields password =>
    refine (Paces.enter _).bind (n := 1) fun _ => .guard _ (.guard _ (.guard _ ?_))
    exact Paces.tick.bind (n := 0) fun now => hkeep fun _ =>
      .insertNew (fun _ _ _ hr => hr) _
  | modify record fields =>
    change Paces 1 (serveModify client record fields)
    unfold serveModify
    cases record.principal with
    | none => exact .of_preserves fun _ => .throw _
    | some name =>
      refine (Paces.enter _).bind (n := 1) fun _ => .guard _ (.guard _ ?_)
      exact Paces.tick.bind (n := 0) fun now => hkeep fun _ =>
        (Preserves.entry name).bind fun _ _ hr => hr
  | rename source target =>
    refine (Paces.enter _).bind (n := 1) fun _ => ?_
    refine (hkeep fun _ => Preserves.get).bind (n := 1) fun r => .guard _ ?_
    refine (hkeep fun _ => Preserves.entry source).bind (n := 1) fun e => ?_
    have hremove : Paces 0 (remove source) := hkeep fun _ _ hr => hr
    refine hremove.bind (n := 1) fun _ => ?_
    exact Paces.tick.bind (n := 0) fun now => hkeep fun _ _ hr => hr
  | changePassword name password =>
    refine (Paces.enter _).bind (n := 1) fun _ => .guard _ ?_
    exact Paces.tick.bind (n := 0) fun now => hkeep fun _ =>
      (Preserves.entry name).bind fun _ _ hr => hr

theorem paces_addPrincipal (name password : String) : Paces 1 (addPrincipal name password) := by
  refine (Paces.of_preserves (n := 0) fun _ => Preserves.get).bind (n := 1) fun r => ?_
  cases Name.parse name r.name with
  | error f => exact .of_preserves fun _ => .throw _
  | ok principal =>
    exact Paces.tick.bind (n := 0) fun now => .of_preserves fun _ =>
      .insertNew (fun _ _ _ hr => hr) _

/-- Every event lets the clock go on once at most. -/
theorem clock_event (event : Event) (r : Realm) :
    ∃ k ≤ 1, (event.run r).clock = r.clock + Int64.ofNat k := by
  have hsame (h : (event.run r).clock = r.clock) :
      ∃ k ≤ 1, (event.run r).clock = r.clock + Int64.ofNat k := ⟨0, Nat.zero_le 1, by simpa using h⟩
  cases event with
  | request client q => exact paces_serve client q r
  | addPrincipal name password => exact paces_addPrincipal name password r
  | updateRecord name edit =>
    refine Paces.of_preserves (n := 1) (x := Realm.updateRecord name edit) (fun clock r hr => ?_) r
    unfold Realm.updateRecord
    cases h : r.principals.get? (r.key name) <;> simpa [h] using hr
  | openWithPassword client password params =>
    exact hsame (Preserves.openWithPassword (preserves_clock_enter r.clock) (fun _ hr => hr) client
      password r rfl)
  | openWithCache cache params =>
    exact hsame (Preserves.openWithCache (preserves_clock_enter r.clock) (fun _ hr => hr) cache
      r rfl)
  | addCache cache name =>
    refine hsame ?_
    change (r.addCache cache name).clock = r.clock
    unfold addCache
    split <;> rfl
  | _ => exact hsame rfl

/-! ## Events -/

/-- Whether the event changes a stored record against the service's rules. -/
def Event.IsUpdate : Event → Prop
  | .updateRecord .. => True
  | _ => False

/-- A principal that is added has just been stamped, all but the modifier. -/
theorem Sound.addPrincipal (h : r.Sound) (name password : String)
    (hle : r.clock ≤ (stateOf ((Realm.addPrincipal name password).run r)).clock) :
    (stateOf ((Realm.addPrincipal name password).run r)).Sound := by
  unfold Realm.addPrincipal at hle ⊢
  cases hname : Name.parse name r.name with
  | error f => simpa [hname] using h
  | ok principal =>
    simp only [EStateM.run_bind, EStateM.run_get, hname, run_tick, run_insertNew, Record.named]
      at hle ⊢
    have hticked (hle : r.clock ≤ r.clock + 1) : r.ticked.Sound := h.of_principals r.ticked rfl hle
    cases htaken : r.ticked.principals.contains principal.text with
    | true =>
      simp only [htaken] at hle ⊢
      exact hticked hle
    | false =>
      simp only [htaken] at hle ⊢
      exact (hticked hle).put ⟨⟨principal, rfl, rfl⟩, Int64.le_refl _, Int64.le_refl _⟩

/-- Events preserve soundness while the clock does not run over. -/
theorem Sound.after (h : r.Sound) {event : Event} (hevent : ¬ event.IsUpdate)
    (hle : r.clock ≤ (event.run r).clock) : (event.run r).Sound := by
  cases event with
  | updateRecord name edit => exact absurd trivial hevent
  | addPrincipal name password => exact h.addPrincipal name password hle
  | request client q =>
    have hrun : (Event.request client q).run r = stateOf (((service client).serve q).run r) := rfl
    rw [hrun] at hle ⊢
    cases hserve : ((service client).serve q).run r with
    | ok a r' =>
      rw [hserve] at hle
      exact h.served hserve hle
    | error status r' =>
      rw [hserve] at hle
      exact h.of_principals r' (principals_of_refused hserve) hle
  | _ => exact h.of_principals _ (principals_arranged (by simp [Event.IsWrite]) r) hle

/-! ## Runs -/

/-- The realm after some events. -/
def runAll (events : List Event) (r : Realm) : Realm :=
  events.foldl (fun r event => event.run r) r

theorem runAll_append (first second : List Event) (r : Realm) :
    runAll (first ++ second) r = runAll second (runAll first r) :=
  List.foldl_append

/-- Whether the clock never goes back in the course of some events. -/
def KeepsTime : List Event → Realm → Prop
  | [], _ => True
  | event :: events, r => r.clock ≤ (event.run r).clock ∧ KeepsTime events (event.run r)

theorem KeepsTime.clock_le {events : List Event} (h : KeepsTime events r) :
    r.clock ≤ (runAll events r).clock := by
  induction events generalizing r with
  | nil => exact Int64.le_refl _
  | cons event events ih => exact Int64.le_trans h.1 (ih h.2)

theorem keepsTime_append {first second : List Event} :
    KeepsTime (first ++ second) r ↔ KeepsTime first r ∧ KeepsTime second (runAll first r) := by
  induction first generalizing r with
  | nil => exact ⟨fun h => ⟨trivial, h⟩, fun h => h.2⟩
  | cons event first ih =>
    refine ⟨fun h => ?_, fun h => ⟨h.1.1, ih.mpr ⟨h.1.2, h.2⟩⟩⟩
    obtain ⟨hfirst, hsecond⟩ := ih.mp h.2
    exact ⟨⟨h.1, hfirst⟩, hsecond⟩

theorem Sound.runAll {events : List Event} (h : r.Sound)
    (hevents : ∀ event ∈ events, ¬ event.IsUpdate) (htime : KeepsTime events r) :
    (runAll events r).Sound := by
  induction events generalizing r with
  | nil => exact h
  | cons event events ih =>
    exact ih (h.after (hevents event List.mem_cons_self) htime.1)
      (fun event' hmem => hevents event' (List.mem_cons_of_mem _ hmem)) htime.2

/-- A new realm is an empty one to which its first client was added. -/
theorem new_eq (name : String) (compiles : String → Bool) :
    new name compiles = stateOf ((addPrincipal adminClient adminPassword).run { name, compiles }) := by
  unfold new
  split <;> next hrun => rw [hrun]; rfl

theorem clock_new (name : String) (compiles : String → Bool) :
    (new name compiles).clock = 1700000000 ∨ (new name compiles).clock = 1700000001 := by
  obtain ⟨k, hk, hclock⟩ := paces_addPrincipal adminClient adminPassword { name, compiles }
  rw [new_eq, hclock]
  obtain rfl | rfl := Nat.le_one_iff_eq_zero_or_eq_one.mp hk
  · exact .inl rfl
  · exact .inr rfl

theorem sound_new (name : String) (compiles : String → Bool) : (new name compiles).Sound := by
  have hempty : Sound { name, compiles } := fun key e he => by cases he
  have hclock : (1700000000 : Int64) ≤ (new name compiles).clock := by
    obtain h | h := clock_new name compiles <;> rw [h] <;> decide
  rw [new_eq] at hclock ⊢
  exact hempty.addPrincipal adminClient adminPassword hclock

/-- The clock cannot run over in fewer events than there are seconds left. -/
theorem keepsTime_of_length {events : List Event}
    (h : r.clock.toInt + events.length ≤ Int64.maxValue.toInt) : KeepsTime events r := by
  have hmax : Int64.maxValue.toInt = 9223372036854775807 := rfl
  induction events generalizing r with
  | nil => trivial
  | cons event events ih =>
    obtain ⟨k, hk, hclock⟩ := clock_event event r
    rw [List.length_cons] at h
    have hlow := r.clock.le_toInt
    have hnext : (event.run r).clock.toInt = r.clock.toInt + k := by
      rw [hclock, Int64.toInt_add, Int64.toInt_ofNat_of_lt (by omega)]
      exact Int.bmod_eq_of_le (by omega) (by omega)
    refine ⟨Int64.le_iff_toInt_le.mpr (by omega), ih (by omega)⟩

/-- **Stamps grow with time.** Let a realm go through any events but changes against
the service's rules. Then each entry is stored under the text of the name in its
record, its password was changed no later than its record, and its record no later
than the clock shows. Each request that is carried out and creates, changes or moves
an entry leaves it stamped with the client whose request it was, and with a time that
is later than all that any entry bore before. What this takes is that the clock does
not run over; in nine quintillion events it cannot. -/
theorem stamps_increase :
    (∀ (name : String) (compiles : String → Bool) (events : List Event),
      1700000001 + events.length ≤ Int64.maxValue.toInt → KeepsTime events (new name compiles)) ∧
    ∀ (name : String) (compiles : String → Bool) (events : List Event),
      (∀ event ∈ events, ¬ event.IsUpdate) → KeepsTime events (new name compiles) →
      (∀ key e, (runAll events (new name compiles)).principals.get? key = some e →
        (∃ n, e.record.principal = some n ∧ n.text = key) ∧
        e.record.lastPasswordChange ≤ e.record.modifyTime ∧
        e.record.modifyTime ≤ (runAll events (new name compiles)).clock) ∧
      ∀ (before after : List Event) (client : Name) (q : Request) (a : q.Answer) (r' : Realm),
        events = before ++ .request client q :: after → q.IsStamping →
        ((service client).serve q).run (runAll before (new name compiles)) = .ok a r' →
        ∃ n e, q.stamps? = some n ∧ r'.principals.get? n.text = some e ∧
          e.record.modifier = some client ∧
          ∀ earlier key e', earlier <+: before →
            (runAll earlier (new name compiles)).principals.get? key = some e' →
            e'.record.modifyTime < e.record.modifyTime := by
  refine ⟨fun name compiles events hlength => ?_,
    fun name compiles events hevents htime => ⟨?_, ?_⟩⟩
  · have hclock : (new name compiles).clock.toInt ≤ 1700000001 := by
      obtain h | h := clock_new name compiles <;> rw [h] <;> decide
    exact keepsTime_of_length (by omega)
  · intro key e he
    obtain ⟨hnamed, hordered, hpast⟩ := (sound_new name compiles).runAll hevents htime key e he
    exact ⟨hnamed, hordered, hpast⟩
  · intro before after client q a r' hsplit hq hserve
    obtain ⟨hclock, n, e, hn, he, hmodifier, hstamp⟩ := stamped_of_served hq hserve
    refine ⟨n, e, hn, he, hmodifier, fun earlier key e' hearlier he' => ?_⟩
    obtain ⟨rest, rfl⟩ := hearlier
    subst hsplit
    obtain ⟨hbefore, hstep, -⟩ := keepsTime_append.mp htime
    obtain ⟨hkept, hrest⟩ := keepsTime_append.mp hbefore
    have hsound : (runAll earlier (new name compiles)).Sound :=
      (sound_new name compiles).runAll (fun event hmem => hevents event (by simp [hmem])) hkept
    have hnow :
        (runAll earlier (new name compiles)).clock ≤ (runAll (earlier ++ rest) (new name compiles)).clock := by
      rw [runAll_append]
      exact hrest.clock_le
    have hrun : (Event.request client q).run (runAll (earlier ++ rest) (new name compiles)) = r' := by
      rw [Event.run, hserve, stateOf_ok]
    rw [hrun, hclock] at hstep
    rw [hstamp]
    exact Int64.lt_of_le_of_lt (Int64.le_trans (hsound key e' he').past hnow)
      (Int64.lt_of_le_of_ne hstep (by grind))

/-- A principal is added, and its password changed: the entry is then the one that was
stamped last. -/
theorem stamps_increase_by_new_password :
    let client : Name := ⟨["admin", "admin"], "R"⟩
    let added : Event := .addPrincipal "jdoe" "pw"
    let q : Request := .changePassword ⟨["jdoe"], "R"⟩ [1]
    let r := runAll [added] (new "R")
    ∃ e r', ((service client).serve q).run r = .ok () r' ∧ r'.principals.get? "jdoe@R" = some e ∧
      e.record.modifier = some client ∧
      ∀ key e', r.principals.get? key = some e' → e'.record.modifyTime < e.record.modifyTime := by
  intro client added q r
  have htime : KeepsTime [added, .request client q] (new "R") :=
    stamps_increase.1 "R" _ _ (by decide)
  have hplain : ∀ event ∈ [added, Event.request client q], ¬ event.IsUpdate := by
    simp [added, Event.IsUpdate]
  have hdone : succeeded (((service client).serve q).run r) = true := by decide +kernel
  obtain ⟨-, hstamps⟩ := stamps_increase.2 "R" _ [added, .request client q] hplain htime
  cases hserve : ((service client).serve q).run r with
  | error status r' =>
    rw [hserve] at hdone
    cases hdone
  | ok a r' =>
    obtain ⟨n, e, hn, he, hmodifier, hlater⟩ :=
      hstamps [added] [] client q a r' rfl trivial hserve
    obtain rfl : ⟨["jdoe"], "R"⟩ = n := Option.some.inj hn
    exact ⟨e, r', rfl, he, hmodifier, fun key e' he' => hlater [added] key e' List.prefix_rfl he'⟩

end Realm

end RealmAdmin
