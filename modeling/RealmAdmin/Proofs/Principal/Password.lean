/-
RealmAdmin.Proofs.Principal.Password — what becomes of a password.

A history of passwords says which were staged and which were sent, and how the
service answered; it is put together from the actions that were taken and from
the calls that were recorded, not from what the principal holds. `Lived` is a
principal with its history. `secret_life_cycle` says that the history decides
the secret slot: it holds the password that was staged last, until the service
takes it, and then as many zeros. What is sent is always what was staged last
and not taken since, so no password is taken twice.
-/
import RealmAdmin.Proofs.Principal.Lazy

namespace RealmAdmin

/-! ## Histories -/

/-- What happens to the password of a principal. -/
inductive PasswordEvent where
  /-- One is staged, in place of any other. -/
  | staged (secret : Secret)
  /-- One is sent to the service, which takes it or refuses it. -/
  | sent (bytes : List UInt8) (refusal : Option Status)
  deriving DecidableEq

/-- The events of a principal's passwords, the latest first. -/
abbrev PasswordHistory := List PasswordEvent

namespace PasswordHistory

/-- The password that was staged last, unless the service has taken one since. -/
def waiting? : PasswordHistory → Option Secret
  | [] => none
  | .staged secret :: _ => some secret
  | .sent _ none :: _ => none
  | .sent _ (some _) :: older => waiting? older

/-- The password that the service has taken last. -/
def taken? : PasswordHistory → Option (List UInt8)
  | [] => none
  | .sent bytes none :: _ => some bytes
  | .sent _ (some _) :: older | .staged _ :: older => taken? older

/-- The slot after such a history: the password that is waiting, or else as many
zeros as the password that was taken last has bytes. -/
def slot (h : PasswordHistory) : SecretSlot :=
  match h.waiting?, h.taken? with
  | some secret, _ => .pending secret
  | none, some bytes => .spent ⟨List.replicate bytes.length 0⟩
  | none, none => .empty

/-- Whether each password that was sent was the one that was waiting. -/
def SendsWaiting (h : PasswordHistory) : Prop :=
  ∀ newer bytes refusal older, h = newer ++ .sent bytes refusal :: older →
    ∃ secret, waiting? older = some secret ∧ secret.bytes = bytes

section

variable {h : PasswordHistory} {bytes : List UInt8} {secret : Secret}

theorem pending?_slot (h : PasswordHistory) : (slot h).pending? = waiting? h := by
  unfold slot
  split
  · next hwaiting => rw [hwaiting]; rfl
  · next hwaiting _ => rw [hwaiting]; rfl
  · next hwaiting _ => rw [hwaiting]; rfl

theorem SendsWaiting.nil : SendsWaiting [] := by
  intro newer bytes refusal older hsplit
  simp at hsplit

theorem SendsWaiting.staged (hh : SendsWaiting h) : SendsWaiting (.staged secret :: h) := by
  intro newer bytes refusal older hsplit
  cases newer with
  | nil => simp at hsplit
  | cons event newer => exact hh newer bytes refusal older (List.cons.inj hsplit).2

theorem SendsWaiting.sent (hh : SendsWaiting h) {refusal : Option Status}
    (hwaiting : waiting? h = some secret) : SendsWaiting (.sent secret.bytes refusal :: h) := by
  intro newer bytes refusal' older hsplit
  cases newer with
  | nil =>
    obtain ⟨⟨rfl, -⟩, rfl⟩ : (secret.bytes = bytes ∧ refusal = refusal') ∧ h = older := by
      simpa using hsplit
    exact ⟨secret, hwaiting, rfl⟩
  | cons event newer => exact hh newer bytes refusal' older (List.cons.inj hsplit).2

/-- A password that is waiting was staged after the last one was taken. -/
theorem staged_of_waiting {newer older : PasswordHistory}
    (hwaiting : waiting? (newer ++ .sent bytes none :: older) = some secret) :
    .staged secret ∈ newer := by
  induction newer with
  | nil => simp [waiting?] at hwaiting
  | cons event newer ih =>
    match event with
    | .staged _ => simp_all [waiting?]
    | .sent _ none => simp [waiting?] at hwaiting
    | .sent _ (some _) => exact List.mem_cons_of_mem _ (ih hwaiting)

end

end PasswordHistory

theorem Secret.wipe_eq (secret : Secret) :
    secret.wipe = ⟨List.replicate secret.bytes.length 0⟩ := by
  rw [wipe, List.map_const']

theorem SecretSlot.pending?_eq_some {slot : SecretSlot} {secret : Secret} :
    slot.pending? = some secret ↔ slot = .pending secret := by
  cases slot <;> simp [pending?]

/-- The password that a request carries. -/
def Request.password? : Request → Option (List UInt8)
  | .create _ _ password | .changePassword _ password => some password
  | .get .. | .modify .. | .rename .. | .delete _ | .list _ | .privileges => none

/-- What the exchange is for the history of passwords, if it is about one. -/
def Exchange.passwordEvent? (x : Exchange) : Option PasswordEvent :=
  x.request.password?.map fun bytes => .sent bytes x.refusal

namespace Principal

variable {σ : Type}

/-- The password that an action stages. A commit stages one if it sends a
password while none was waiting: it has generated that one. -/
def Action.staged? (g : PasswordGenerator) (calls : List Exchange) (h : PasswordHistory) :
    Action → Option Secret
  | .setPassword secret => some secret
  | .randomizePassword e => some (g.generate e)
  | .commit e =>
    if h.waiting? = none ∧ calls.filterMap Exchange.passwordEvent? ≠ [] then some (g.generate e)
    else none
  | .setName _ | .edit _ | .load | .ask _ | .delete => none

/-- The history after an action that took some calls. -/
def Action.remember (a : Action) (g : PasswordGenerator) (calls : List Exchange)
    (h : PasswordHistory) : PasswordHistory :=
  (calls.filterMap Exchange.passwordEvent?).reverse ++
    (a.staged? g calls h).toList.map .staged ++ h

/-- A principal that actions lead to, with the history of its passwords. -/
inductive Lived : PasswordHistory → Principal → Prop
  | existing (id : Name) : Lived [] (existing id)
  | fresh (id : Name) : Lived [] (fresh id)
  | after {σ : Type} {h : PasswordHistory} {p : Principal} (hp : Lived h p) (c : Connection σ)
      (a : Action) (w : σ) :
      Lived (a.remember c.generator (stateOf ((a.run c.recorded).run (p, (w, [])))).2.2 h)
        (stateOf ((a.run c.recorded).run (p, (w, [])))).1

theorem Lived.reachable {h : PasswordHistory} {p : Principal} (hp : Lived h p) : Reachable p := by
  induction hp with
  | existing id => exact .existing id
  | fresh id => exact .fresh id
  | after _ c a w ih => exact ih.after c.recorded a (w, [])

/-! ## What commits send -/

section

variable {p : Principal} {q : Request} {qs : List Request}

/-- Only a request with a password takes the password off the stage. -/
theorem secret_settle (p : Principal) (q : Request) :
    (p.settle q).secret = if q.password? = none then p.secret else p.secret.erase := by
  cases q <;> rfl

theorem secret_foldl_settle (hqs : ∀ q ∈ qs, q.password? = none) :
    (qs.foldl settle p).secret = p.secret := by
  induction qs generalizing p with
  | nil => rfl
  | cons q qs ih =>
    rw [List.foldl_cons, ih fun q hq => hqs q (List.mem_cons_of_mem _ hq), secret_settle,
      if_pos (hqs q List.mem_cons_self)]

/-- Of the changes only the first carries a password, the staged one. -/
theorem changes_password (p : Principal) :
    ∃ rest, p.changes = p.passwordChange?.toList ++ rest ∧ ∀ q ∈ rest, q.password? = none := by
  refine ⟨p.nameChange?.toList ++ p.fieldChange?.toList, by rw [changes, List.append_assoc],
    fun q hq => ?_⟩
  rcases List.mem_append.mp hq with hq | hq
  · obtain ⟨target, -, rfl⟩ := Option.map_eq_some_iff.mp (Option.mem_toList.mp hq)
    rfl
  · obtain ⟨-, rfl⟩ : _ ∧ _ = q := by simpa [fieldChange?] using Option.mem_toList.mp hq
    rfl

/-- Reads are no events of passwords. -/
theorem passwordEvents_of_reads {reads : List Exchange} (h : ∀ x ∈ reads, x.IsRead) :
    reads.filterMap Exchange.passwordEvent? = [] := by
  refine List.filterMap_eq_nil_iff.mpr fun x hx => ?_
  obtain ⟨name, fields, hget⟩ := h x hx
  simp [Exchange.passwordEvent?, hget, Request.password?]

/-- A plan has a password in its first request, the one that is waiting when it
is about to be sent, or it has none. -/
theorem plan_password (p : Principal) (g : PasswordGenerator) (e : Entropy) :
    ((∀ q ∈ p.plan g e, q.password? = none) ∧ (p.readied g e).secret = p.secret) ∨
      ∃ q rest, p.plan g e = q :: rest ∧ (∀ q ∈ rest, q.password? = none) ∧
        q.password? = some (p.secret.pending?.getD (g.generate e)).bytes ∧
        (p.readied g e).secret = .pending (p.secret.pending?.getD (g.generate e)) := by
  by_cases hpresent : p.presence = .present
  · obtain ⟨rest, hchanges, hrest⟩ := changes_password p
    rw [plan, readied, if_pos hpresent, if_pos hpresent, hchanges]
    cases hwaiting : p.secret.pending? with
    | none => exact .inl ⟨by simpa [passwordChange?, hwaiting] using hrest, rfl⟩
    | some secret =>
      exact .inr ⟨.changePassword p.id secret.bytes, rest, by simp [passwordChange?, hwaiting], hrest,
        rfl, SecretSlot.pending?_eq_some.mp hwaiting⟩
  · rw [plan, readied, if_neg hpresent, if_neg hpresent]
    exact .inr ⟨p.creation g e, [], rfl, by simp, rfl,
      SecretSlot.pending?_eq_some.mp (pending?_withPassword p g e)⟩

end

/-- What a commit does with a password: it sends none and leaves the slot as it
was, or it sends the one that is waiting, or else the generated one, and the
service refuses it or takes it. -/
inductive PasswordRun (slot : SecretSlot) (generated : Secret) :
    List PasswordEvent → SecretSlot → Prop
  | unsent : PasswordRun slot generated [] slot
  | refused (status : Status) :
    PasswordRun slot generated [.sent (slot.pending?.getD generated).bytes (some status)]
      (.pending (slot.pending?.getD generated))
  | taken : PasswordRun slot generated [.sent (slot.pending?.getD generated).bytes none]
      (.spent (slot.pending?.getD generated).wipe)

section

variable {σ : Type} {p : Principal}

/-- Requests without passwords are no events of passwords. -/
theorem passwordEvents_of_silent {qs : List Request} (h : ∀ q ∈ qs, q.password? = none) :
    (qs.map (⟨·, none⟩ : Request → Exchange)).filterMap Exchange.passwordEvent? = [] := by
  simpa [Exchange.passwordEvent?] using h

/-- A plan that was carried out up to some request after its first one has had its
password taken, if it had one. -/
theorem passwordRun_of_first {q : Request} {rest : List Request} {secret : Secret}
    (hready : p.secret = .pending secret) (hq : q.password? = some secret.bytes)
    (hrest : ∀ q ∈ rest, q.password? = none) :
    ((q :: rest).map (⟨·, none⟩)).filterMap Exchange.passwordEvent? = [.sent secret.bytes none] ∧
      ((q :: rest).foldl settle p).secret = .spent secret.wipe := by
  constructor
  · rw [List.map_cons, List.filterMap_cons, passwordEvents_of_silent hrest]
    simp [Exchange.passwordEvent?, hq]
  · rw [List.foldl_cons, secret_foldl_settle hrest, secret_settle, hq, if_neg (by simp), hready]
    rfl

/-- What becomes of the password when the whole plan is carried out. -/
theorem passwordRun_plan (p : Principal) (g : PasswordGenerator) (e : Entropy) :
    PasswordRun p.secret (g.generate e)
      (((p.plan g e).map (⟨·, none⟩)).filterMap Exchange.passwordEvent?)
      ((p.plan g e).foldl settle (p.readied g e)).secret := by
  rcases plan_password p g e with ⟨hplan, hready⟩ | ⟨q, rest, hplan, hrest, hq, hready⟩
  · rw [passwordEvents_of_silent hplan, secret_foldl_settle hplan, hready]
    exact .unsent
  · obtain ⟨hevents, hsecret⟩ := passwordRun_of_first hready hq hrest
    rw [hplan, hevents, hsecret]
    exact .taken

/-- What becomes of the password when the plan is cut at a request. -/
theorem passwordRun_cut (p : Principal) (g : PasswordGenerator) (e : Entropy) {i : Nat}
    {q : Request} (hq : (p.plan g e)[i]? = some q) (status : Status) :
    PasswordRun p.secret (g.generate e)
      (List.filterMap Exchange.passwordEvent?
        (((p.plan g e).take i).map (⟨·, none⟩) ++ [⟨q, some status⟩]))
      (((p.plan g e).take i).foldl settle (p.readied g e)).secret := by
  rw [List.filterMap_append]
  rcases plan_password p g e with ⟨hplan, hready⟩ | ⟨first, rest, hplan, hrest, hfirst, hready⟩
  · have htake : ∀ q ∈ (p.plan g e).take i, q.password? = none :=
      fun q hq => hplan q (List.mem_of_mem_take hq)
    have hlast : q.password? = none := hplan q (List.mem_of_getElem? hq)
    rw [passwordEvents_of_silent htake, secret_foldl_settle htake, hready]
    simpa [Exchange.passwordEvent?, hlast] using PasswordRun.unsent
  · rw [hplan] at hq ⊢
    cases i with
    | zero =>
      obtain rfl : first = q := by simpa using hq
      simpa [Exchange.passwordEvent?, hfirst, hready] using PasswordRun.refused status
    | succ i =>
      have hlast : q.password? = none := hrest q (List.mem_of_getElem? (by simpa using hq))
      have htake : ∀ q ∈ rest.take i, q.password? = none :=
        fun q hq => hrest q (List.mem_of_mem_take hq)
      obtain ⟨hevents, hsecret⟩ := passwordRun_of_first hready hfirst htake
      rw [List.take_succ_cons, hevents, hsecret]
      simpa [Exchange.passwordEvent?, hlast] using PasswordRun.taken

/-- What a commit does with a password, and that none is waiting when it has
succeeded. -/
theorem commit_password (hp : Reachable p) (c : Connection σ) (e : Entropy) (w : σ) :
    let result := ((Action.commit e).run c.recorded).run (p, (w, []))
    PasswordRun p.secret (c.generator.generate e)
        ((stateOf result).2.2.filterMap Exchange.passwordEvent?) (stateOf result).1.secret ∧
      (failureOf result = none → (stateOf result).1.secret.isPending = false) := by
  intro result
  have hrun : CommitRun c.session c.generator e p w result :=
    commitRun_of_consistent hp.consistent c.session c.generator e w
  generalize result = result at hrun ⊢
  cases hrun with
  | @unloaded f p₁ w₁ reads hload hreads =>
    have hsecret : p₁.secret = p.secret := by
      simpa [hload] using (load_stagedAlike c.session p w).secret
    simp only [stateOf_error, passwordEvents_of_reads hreads, hsecret]
    exact ⟨.unsent, by simp⟩
  | @done p₁ p' w₁ w' reads hload hleft hclean hname hsecret =>
    have hplan := passwordRun_plan p₁ c.generator e
    rw [hload.stage.secret, ← hleft] at hplan
    simp only [stateOf_ok, List.filterMap_append, passwordEvents_of_reads hload.isRead,
      List.nil_append]
    exact ⟨hplan, fun _ => hsecret⟩
  | @cut p₁ p' w₁ w' reads i q status hload hq hleft hrest =>
    have hcut := passwordRun_cut p₁ c.generator e hq status
    rw [hload.stage.secret, ← hleft] at hcut
    rw [stateOf_error, List.filterMap_append, passwordEvents_of_reads hload.isRead, List.nil_append]
    exact ⟨hcut, by simp⟩

/-! ## What the other actions do -/

/-- Whether the action stages or sends a password. -/
def Action.TouchesSecret : Action → Prop
  | .setPassword _ | .randomizePassword _ | .commit _ => True
  | .setName _ | .edit _ | .load | .ask _ | .delete => False

/-- A deletion sends no password. -/
theorem passwordEvents_of_delete (c : Connection σ) (p : Principal) (w : σ) :
    (stateOf ((c.recorded.delete).run (p, (w, [])))).2.2.filterMap Exchange.passwordEvent? = [] := by
  have hmay := c.recorded.run_require .delete .delete (w, [])
  rw [show (c.recorded.session.service.serve .privileges).run (w, []) = _ from
    c.session.service.run_recorded .privileges w []] at hmay
  rw [Connection.delete, EStateM.run_bind, Work.run_ask, hmay]
  cases (c.session.service.serve .privileges).run w with
  | error status w' => rfl
  | ok granted w' =>
    dsimp only
    cases granted.contains .delete with
    | false => rfl
    | true =>
      have hdelete : (Work.ask (c.recorded.session.delete p.id)).run (p, (w', [⟨.privileges, none⟩])) =
          _ := Work.run_ask_request c.session.service.recorded (.delete p.id) p _
      rw [c.session.service.run_recorded] at hdelete
      simp only [if_true, EStateM.run_bind, Work.run_look, List.nil_append, hdelete]
      cases (c.session.service.serve (.delete p.id)).run w' <;> rfl

theorem secret_rename (p : Principal) (name : Name) : (p.rename name).secret = p.secret := by
  unfold Principal.rename
  split <;> rfl

/-- The other actions leave the secret as it was, and send none. -/
theorem secret_after {a : Action} (ha : ¬ a.TouchesSecret) (c : Connection σ) (p : Principal)
    (w : σ) : let y := stateOf ((a.run c.recorded).run (p, (w, [])))
    y.1.secret = p.secret ∧ y.2.2.filterMap Exchange.passwordEvent? = [] := by
  have hload : let y := stateOf ((load c.recorded.session).run (p, (w, [])))
      y.1.secret = p.secret ∧ y.2.2.filterMap Exchange.passwordEvent? = [] := by
    have hrun : (load c.recorded.session).run (p, (w, [])) = _ := load_recorded c.session p w []
    simp only [hrun, stateOf_onRecord, List.nil_append]
    exact ⟨(load_stagedAlike c.session p w).secret,
      passwordEvents_of_reads (isRead_loadReads c.session p w)⟩
  cases a with
  | setName text =>
    rcases setName_run c.recorded.session text p (w, []) with ⟨name, -, hrun⟩ | ⟨f, -, hrun⟩
    · rw [Action.run, hrun]
      exact ⟨secret_rename p name, rfl⟩
    · rw [Action.run, hrun]
      exact ⟨rfl, rfl⟩
  | edit d => exact ⟨secret_stage p d, rfl⟩
  | load => exact hload
  | ask question =>
    rw [Action.run, stateOf_ask]
    exact hload
  | delete =>
    refine ⟨?_, passwordEvents_of_delete c p w⟩
    rcases delete_run c.recorded p (w, []) with ⟨w', hrun⟩ | ⟨f, w', hrun⟩ <;>
      rw [Action.run, hrun] <;> rfl
  | _ => exact absurd trivial ha

/-! ## The life of a password -/

/-- A commit that sends a password sends the one that is waiting, after it has
staged one if there was none. -/
theorem PasswordRun.history {h : PasswordHistory} {generated : Secret}
    {events : List PasswordEvent} {slot : SecretSlot}
    (hrun : PasswordRun h.slot generated events slot) (hsent : h.SendsWaiting) :
    let h' : PasswordHistory := events.reverse ++
      (if h.waiting? = none ∧ events ≠ [] then [.staged generated] else []) ++ h
    slot = h'.slot ∧ h'.SendsWaiting := by
  have hready : ∃ ready : PasswordHistory,
      (if h.waiting? = none then [.staged generated] else []) ++ h = ready ∧ ready.SendsWaiting ∧
        ready.waiting? = some (h.waiting?.getD generated) := by
    cases hwaiting : h.waiting? with
    | none => exact ⟨.staged generated :: h, rfl, hsent.staged, rfl⟩
    | some secret => exact ⟨h, rfl, hsent, hwaiting⟩
  obtain ⟨ready, hready, hsent', hwaiting⟩ := hready
  have hslot : ready.slot = .pending (h.waiting?.getD generated) :=
    SecretSlot.pending?_eq_some.mp (ready.pending?_slot.trans hwaiting)
  cases hrun with
  | unsent => simpa using hsent
  | refused status =>
    rw [h.pending?_slot]
    simp only [ne_eq, List.cons_ne_nil, not_false_eq_true, and_true]
    rw [List.append_assoc, hready]
    exact ⟨hslot.symm, hsent'.sent hwaiting⟩
  | taken =>
    rw [h.pending?_slot]
    simp only [ne_eq, List.cons_ne_nil, not_false_eq_true, and_true]
    rw [List.append_assoc, hready]
    exact ⟨by rw [Secret.wipe_eq]; rfl, hsent'.sent hwaiting⟩

/-- The history goes on deciding the slot, and what is sent is what was waiting. -/
theorem history_after {h : PasswordHistory} (hp : Reachable p) (hslot : p.secret = h.slot)
    (hsent : h.SendsWaiting) (c : Connection σ) (a : Action) (w : σ) :
    let y := stateOf ((a.run c.recorded).run (p, (w, [])))
    y.1.secret = (a.remember c.generator y.2.2 h).slot ∧
      (a.remember c.generator y.2.2 h).SendsWaiting := by
  intro y
  have hidle (ha : ¬ a.TouchesSecret) (hstaged : a.staged? c.generator y.2.2 h = none) :
      y.1.secret = (a.remember c.generator y.2.2 h).slot ∧
        (a.remember c.generator y.2.2 h).SendsWaiting := by
    obtain ⟨hsecret, hevents⟩ := secret_after ha c p w
    have hremember : a.remember c.generator y.2.2 h = h := by
      rw [Action.remember, hstaged, hevents]
      rfl
    rw [hremember]
    exact ⟨hsecret.trans hslot, hsent⟩
  cases a with
  | setPassword secret => exact ⟨rfl, hsent.staged⟩
  | randomizePassword e => exact ⟨rfl, hsent.staged⟩
  | commit e =>
    obtain ⟨hrun, -⟩ := commit_password hp c e w
    rw [hslot] at hrun
    have hremember : (Action.commit e).remember c.generator y.2.2 h =
        (y.2.2.filterMap Exchange.passwordEvent?).reverse ++
          (if h.waiting? = none ∧ y.2.2.filterMap Exchange.passwordEvent? ≠ [] then
            [.staged (c.generator.generate e)] else []) ++ h := by
      rw [Action.remember, Action.staged?]
      split <;> rfl
    rw [hremember]
    exact hrun.history hsent
  | _ => exact hidle not_false rfl

theorem Lived.history {h : PasswordHistory} (hp : Lived h p) :
    p.secret = h.slot ∧ h.SendsWaiting := by
  induction hp with
  | existing id => exact ⟨rfl, .nil⟩
  | fresh id => exact ⟨rfl, .nil⟩
  | after hp c a w ih => exact history_after hp.reachable ih.1 ih.2 c a w

/-- What an action has sent, and what that has made of the slot. -/
theorem sent_after (hp : Reachable p) (c : Connection σ) (a : Action) (w : σ) :
    let y := stateOf ((a.run c.recorded).run (p, (w, [])))
    ∀ x ∈ y.2.2, ∀ bytes, x.request.password? = some bytes →
      y.1.secret = if x.refusal = none then .spent ⟨List.replicate bytes.length 0⟩
        else .pending ⟨bytes⟩ := by
  intro y x hx bytes hbytes
  have hevent : .sent bytes x.refusal ∈ y.2.2.filterMap Exchange.passwordEvent? :=
    List.mem_filterMap.mpr ⟨x, hx, by simp [Exchange.passwordEvent?, hbytes]⟩
  have hidle (ha : ¬ a.TouchesSecret) : y.2.2.filterMap Exchange.passwordEvent? = [] :=
    (secret_after ha c p w).2
  cases a with
  | setPassword secret => cases hx
  | randomizePassword e => cases hx
  | commit e =>
    obtain ⟨hrun, -⟩ := commit_password hp c e w
    change PasswordRun _ _ (y.2.2.filterMap Exchange.passwordEvent?) y.1.secret at hrun
    generalize y.2.2.filterMap Exchange.passwordEvent? = events at hrun hevent
    generalize y.1.secret = slot at hrun ⊢
    cases hrun with
    | unsent => cases hevent
    | refused status =>
      obtain ⟨rfl, hrefusal⟩ : bytes = _ ∧ x.refusal = some status := by simpa using hevent
      simp [hrefusal]
    | taken =>
      obtain ⟨rfl, hrefusal⟩ : bytes = _ ∧ x.refusal = none := by simpa using hevent
      simp [hrefusal, Secret.wipe_eq]
  | _ =>
    rw [hidle not_false] at hevent
    cases hevent

end

/-- **The life of a password.** The history decides the secret slot: the password
that was staged last is pending there until the service takes it, and then as
many zeros are. Each password that was sent was the one that was waiting, so
that after one that was taken another has to be staged before the next is sent.
Sending leaves a password as it is when the service refuses it; no password is
waiting when a commit has succeeded; and nothing but staging and committing
touches the slot. -/
theorem secret_life_cycle {h : PasswordHistory} {p : Principal} (hp : Lived h p) :
    p.secret = h.slot ∧ h.SendsWaiting ∧
    (∀ newer bytes refusal between taken older,
      h = newer ++ .sent bytes refusal :: (between ++ .sent taken none :: older) →
        ∃ secret, .staged secret ∈ between ∧ secret.bytes = bytes) ∧
    ∀ {σ : Type} (c : Connection σ) (a : Action) (w : σ),
      let result := (a.run c.recorded).run (p, (w, []))
      let p' := (stateOf result).1
      (∀ x ∈ (stateOf result).2.2, ∀ bytes, x.request.password? = some bytes →
        p'.secret = if x.refusal = none then .spent ⟨List.replicate bytes.length 0⟩
          else .pending ⟨bytes⟩) ∧
      (∀ e, a = .commit e → failureOf result = none → p'.secret.isPending = false) ∧
      (¬ a.TouchesSecret → p'.secret = p.secret) := by
  obtain ⟨hslot, hsent⟩ := hp.history
  refine ⟨hslot, hsent, fun newer bytes refusal between taken older hsplit => ?_,
    fun c a w => ⟨sent_after hp.reachable c a w, ?_, fun ha => (secret_after ha c p w).1⟩⟩
  · obtain ⟨secret, hwaiting, hbytes⟩ := hsent newer bytes refusal _ hsplit
    exact ⟨secret, PasswordHistory.staged_of_waiting hwaiting, hbytes⟩
  · rintro e rfl
    exact (commit_password hp.reachable c e w).2

/-- A password is staged for a new principal, a service that has the name refuses
it, and another one takes it. -/
theorem secret_life_cycle_of_refused_creation :
    let serving (creation : Option Status) : Service Unit := ⟨fun
      | .create .. => match creation with
        | some status => throw status
        | none => pure ()
      | .get .. => throw .unknownPrincipal
      | .modify .. | .rename .. | .changePassword .. | .delete _ => pure ()
      | .list _ => pure []
      | .privileges => pure .all⟩
    let c (creation : Option Status) : Connection Unit :=
      ⟨⟨serving creation, ⟨["admin"], "R"⟩, "R", "kdc", 749⟩, ⟨[]⟩⟩
    let commit : Action := .commit ⟨fun _ => 0, 0⟩
    let run (creation : Option Status) (p : Principal) :=
      stateOf ((commit.run (c creation).recorded).run (p, ((), [])))
    let p₁ := (fresh ⟨["jdoe"], "R"⟩).setPassword ⟨[7, 7]⟩
    let p₂ := (run (some .duplicate) p₁).1
    let p₃ := (run none p₂).1
    Lived [.sent [7, 7] (some .duplicate), .staged ⟨[7, 7]⟩] p₂ ∧ p₂.secret = .pending ⟨[7, 7]⟩ ∧
      Lived [.sent [7, 7] none, .sent [7, 7] (some .duplicate), .staged ⟨[7, 7]⟩] p₃ ∧
      p₃.secret = .spent ⟨[0, 0]⟩ := by
  intro serving c commit run p₁ p₂ p₃
  have h₁ : Lived [.staged ⟨[7, 7]⟩] p₁ := .after (.fresh _) (c none) (.setPassword ⟨[7, 7]⟩) ()
  have h₂ : Lived [.sent [7, 7] (some .duplicate), .staged ⟨[7, 7]⟩] p₂ :=
    .after h₁ (c (some .duplicate)) commit ()
  have h₃ : Lived [.sent [7, 7] none, .sent [7, 7] (some .duplicate), .staged ⟨[7, 7]⟩] p₃ :=
    .after h₂ (c none) commit ()
  exact ⟨h₂, (secret_life_cycle h₂).1, h₃, (secret_life_cycle h₃).1⟩

end Principal

end RealmAdmin
