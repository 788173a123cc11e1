/-
RealmAdmin.Proofs.Realm.Retry — a commit that is repeated until it succeeds.

A fault fails a request before the realm looks at it. A commit that met one
can be repeated, and the repeated commits together do what one commit does in
the realm without faults: `retried_commit` is that statement.

The invariant is `Unfinished`. The requests that are due, sent without faults,
end in one and the same store, whichever attempt is looked at; what an attempt
carried out it took off the stage, and what it read of the record plays no
part in the requests that are left. Each attempt that fails uses up a fault,
so there is a last one.
-/
import RealmAdmin.Proofs.Password.Generator
import RealmAdmin.Proofs.Principal.Commit
import RealmAdmin.Proofs.Realm.Deliver

namespace RealmAdmin

/-- Other attributes than the name agree also under a common name. -/
theorem Record.AgreeAt.named {a b : Record} {f : Field} (n : Option Name)
    (h : f = .principal ∨ a.AgreeAt b f) :
    Record.AgreeAt { a with principal := n } { b with principal := n } f := by
  rcases h with rfl | h
  · rfl
  · cases f <;> first | rfl | exact h

namespace Principal

open Realm

variable {s : Session Realm} {client : Name} {g : PasswordGenerator} {e : Entropy}
  {p p₁ : Principal} {r r₁ : Realm}

/-! ## Requests that are due -/

/-- The requests that carry out what is staged, once a load has found whether
the principal is there. -/
def due (p : Principal) (r : Realm) (g : PasswordGenerator) (e : Entropy) : List Request :=
  if p.isThere r then p.changes else [p.creation g e]

theorem isChange_of_mem_due {q : Request} (h : q ∈ p.due r g e) : q.IsChange := by
  unfold due at h
  split at h
  · exact isChange_of_mem_changes h
  · obtain rfl := List.mem_singleton.mp h
    trivial

/-- The stage alone decides what is sent to create a principal. -/
theorem StagedAlike.trimmed_creation (h : StagedAlike p p₁) (g : PasswordGenerator)
    (e : Entropy) : (p₁.creation g e).trimmed = (p.creation g e).trimmed := by
  have hfields : p₁.creationFields = p.creationFields := by
    rw [creationFields, h.dirty]
    rfl
  rw [creation, creation, Request.trimmed, Request.trimmed, h.name, h.secret, hfields]
  congr 1
  refine Record.merge_congr fun f hf => .named _ ?_
  have hf : f ∈ p.creationFields ∨ f = .principal := by simpa using hf
  rcases hf with hf | hf
  · exact .inr (h.record f (FieldSet.mem_forCreate.mp hf).1)
  · exact .inl hf

/-- The stage alone decides what is sent to change a principal. -/
theorem StagedAlike.trimmed_changes (h : StagedAlike p p₁) :
    p₁.changes.map Request.trimmed = p.changes.map Request.trimmed := by
  have hpassword : p₁.passwordChange? = p.passwordChange? := by
    rw [passwordChange?, passwordChange?, h.secret, h.id]
  have hname : p₁.nameChange? = p.nameChange? := by
    rw [nameChange?, nameChange?, h.pendingName, h.id]
  have hfields : p₁.fieldChange?.map Request.trimmed = p.fieldChange?.map Request.trimmed := by
    rw [fieldChange?, fieldChange?, h.dirty, h.name]
    dsimp only
    split
    · rfl
    · rw [Option.map_some, Option.map_some, Request.trimmed, Request.trimmed]
      congr 2
      refine Record.merge_congr fun f hf => .named _ ?_
      by_cases hprincipal : f = .principal
      · exact .inl hprincipal
      · have hf : f ∈ p.dirty := by simpa [hprincipal] using hf
        exact .inr (h.record f (FieldSet.mem_insert.mpr (.inl hf)))
  simp only [changes, List.map_append, hpassword, hname, ← Option.toList_map, hfields]

/-- The stage, and whether the principal is there, decide what is due. -/
theorem StagedAlike.trimmed_due (h : StagedAlike p p₁) (hthere : p₁.isThere r₁ = p.isThere r)
    (g : PasswordGenerator) (e : Entropy) :
    (p₁.due r₁ g e).map Request.trimmed = (p.due r g e).map Request.trimmed := by
  rw [due, due, hthere]
  split
  · exact h.trimmed_changes
  · simp [h.trimmed_creation]

/-! ## What every attempt preserves -/

/-- Without faults, and with the draws `e`, what is due for the principal ends
in the store of `ending e`, and if it is created then with `password e`. -/
structure Unfinished (client : Name) (g : PasswordGenerator) (ending : Entropy → Realm)
    (password : Entropy → Secret) (p : Principal) (r : Realm) : Prop where
  consistent : p.Consistent
  loadable : p.IsLoadable r
  done : ∀ e, ((service client).deliver (p.due r g e) r.healthy).refusal = none
  store : ∀ e, SameStore (ending e) ((service client).deliver (p.due r g e) r.healthy).world
  secret : p.isThere r = false → ∀ e, p.secret.pending?.getD (g.generate e) = password e

variable {ending : Entropy → Realm} {password : Entropy → Secret}

/-- Reading the record leaves unfinished what was. -/
theorem Unfinished.of_stagedAlike (hu : Unfinished client g ending password p r)
    (hstage : StagedAlike p p₁) (hconsistent : p₁.Consistent) (hstore : SameStore r r₁)
    (hthere : p₁.isThere r₁ = p.isThere r) (hloadable : p₁.IsLoadable r₁) :
    Unfinished client g ending password p₁ r₁ := by
  have hdeliver (e : Entropy) : (service client).deliver (p₁.due r₁ g e) r₁.healthy =
      (service client).deliver (p.due r g e) r₁.healthy := by
    rw [← deliver_trimmed, hstage.trimmed_due hthere, deliver_trimmed]
  have hdone (e : Entropy) := deliver_healthy (fun q hq => isChange_of_mem_due hq)
    ((sameStore_healthy r).symm.trans hstore) (hu.done e)
  refine ⟨hconsistent, hloadable, fun e => ?_, fun e => ?_, fun habsent => ?_⟩
  · rw [hdeliver]
    exact (hdone e).1
  · rw [hdeliver]
    exact (hu.store e).trans (hdone e).2
  · rw [hstage.secret]
    exact hu.secret (hthere ▸ habsent)

/-- A load that fails uses up a fault. -/
theorem Unfinished.load_error (hu : Unfinished client g ending password p r)
    (hs : s.service = service client) (hget : .unknownPrincipal ∉ r.faults .get) {f : Failure}
    (h : (load s).run (p, r) = .error f (p₁, r₁)) :
    Unfinished client g ending password p₁ r₁ ∧ r₁.faultCount < r.faultCount ∧
      .unknownPrincipal ∉ r₁.faults .get := by
  obtain ⟨hthere, hloaded, hcount, hgets⟩ := Principal.load_error hs hget hu.loadable h
  have hrun := load_run s p r
  have hstore := load_sameStore hs p r
  rw [h] at hrun hstore
  have hstage : StagedAlike p p₁ := hrun.stagedAlike
  have hconsistent := hu.consistent.of_stagedAlike hstage (hrun.known hu.consistent.known)
  refine ⟨hu.of_stagedAlike hstage hconsistent hstore hthere ?_, hcount, fun hmem => hget (hgets _ hmem)⟩
  have hloadable := hu.loadable
  rw [IsLoadable, HasTemplateName, ← hthere, ← hloaded, ← hstage.id] at hloadable
  exact hloadable

/-- After a load that ends well, the plan is what is due. -/
theorem Unfinished.load_ok (hu : Unfinished client g ending password p r)
    (hs : s.service = service client) (hget : .unknownPrincipal ∉ r.faults .get)
    (h : (load s).run (p, r) = .ok () (p₁, r₁)) :
    Unfinished client g ending password p₁ r₁ ∧ r₁.faults = r.faults ∧ p₁.loaded = true ∧
      (p₁.isThere r₁ = true ↔ p₁.presence = .present) := by
  obtain ⟨hfaults, hpresence, -⟩ := Principal.load_ok hs hget h
  have hrun := load_run s p r
  have hstore := load_sameStore hs p r
  rw [h] at hrun hstore
  have hloaded := hrun.loaded
  have hstage : StagedAlike p p₁ := hrun.stagedAlike
  have hconsistent := hu.consistent.of_stagedAlike hstage (hrun.known hu.consistent.known)
  have hthere : p₁.isThere r₁ = true ↔ p₁.presence = .present := by simp [isThere, hloaded]
  exact ⟨hu.of_stagedAlike hstage hconsistent hstore
    (Bool.eq_iff_iff.mpr (hthere.trans hpresence)) (.inr (.inl hloaded)), hfaults, hloaded, hthere⟩

/-- A realm that carries out changes of a principal stores it. -/
theorem contains_of_changes (hdone : ((service client).deliver p.changes r).refusal = none)
    (hchanges : p.changes ≠ []) : r.principals.contains p.id.text = true := by
  cases h : p.changes with
  | nil => exact absurd h hchanges
  | cons q rest =>
    rw [h] at hdone
    cases hserve : ((service client).serve q).run r with
    | error status r' =>
      rw [Service.deliver_cons_error hserve] at hdone
      cases hdone
    | ok a r' =>
      obtain ⟨-, ⟨secret, -, rfl⟩ | ⟨target, -, rfl⟩ | ⟨-, rfl⟩⟩ := changes_cons h
      · obtain ⟨-, -, entry, hentry, -⟩ := ((serveChangePassword_changes ..).1 _).mp hserve
        simp [TextMap.contains, hentry]
      · obtain ⟨-, -, entry, hentry, -⟩ := ((serveRename_changes ..).1 _).mp hserve
        simp [TextMap.contains, hentry]
      · obtain ⟨-, -, -, name, entry, hname, hentry, -⟩ :=
          ((serveModify_changes client { p.record with principal := some p.id } _ r).1 r').mp hserve
        obtain rfl := Option.some.inj hname
        simp [TextMap.contains, hentry]

/-- Changes that were cut by a fault leave unfinished what was, for the
principal without the changes that were carried out. -/
theorem Unfinished.changes_cut (hu : Unfinished client g ending password p r)
    (hthere : p.isThere r = true) (hpresence : p.presence = .present) {status : Status}
    {d : Delivery Realm} (hd : (service client).deliver p.changes r = d)
    (hrefusal : d.refusal = some status) :
    Unfinished client g ending password ((p.changes.take d.carriedOut).foldl settle p) d.world ∧
      d.world.faultCount < r.faultCount ∧ d.world.faults .get = r.faults .get := by
  have hdue (e : Entropy) : p.due r g e = p.changes := by rw [due, if_pos hthere]
  have hisChange (q : Request) (hq : q ∈ p.changes) : q.IsChange := isChange_of_mem_changes hq
  have hall : ((service client).deliver p.changes r.healthy).refusal = none := by
    simpa [hdue] using hu.done ⟨fun _ => 0, 0⟩
  have hcut := deliver_sameStore hisChange (sameStore_healthy r).symm hall
  rw [hd, hrefusal] at hcut
  obtain ⟨hnone, -⟩ | ⟨-, _, rfl, -, htake, hworld, hcount, hget⟩ := hcut
  · cases hnone
  · refine ⟨?_, hcount, hget⟩
    obtain ⟨hconsistent, hrest, hpresence'⟩ := hu.consistent.settle_take d.carriedOut
    have hlt : d.carriedOut < p.changes.length := by
      rw [← hd]
      exact Service.carriedOut_lt_length (by simp [hd, hrefusal])
    generalize (p.changes.take d.carriedOut).foldl settle p = p' at *
    obtain ⟨hsplit, hend⟩ := Service.deliver_append p'.changes htake
    rw [hrest, List.take_append_drop] at hsplit hend
    obtain ⟨hdone, hstore⟩ := deliver_healthy (fun q hq => hisChange q (List.mem_of_mem_drop hq))
      hworld (hsplit.symm.trans hall)
    rw [← hrest] at hdone hstore
    have hthere' : p'.isThere d.world = true := by
      have hstored : d.world.principals.contains p'.id.text = true :=
        contains_of_changes (r := d.world.healthy) hdone fun hnil => by
          rw [hrest, List.drop_eq_nil_iff] at hnil
          omega
      simp [isThere, hpresence', hpresence, hstored]
    have hdue' (e : Entropy) : p'.due d.world g e = p'.changes := by rw [due, if_pos hthere']
    refine ⟨hconsistent, .inl hthere', fun e => ?_, fun e => ?_, fun habsent => ?_⟩
    · rw [hdue']
      exact hdone
    · rw [hdue']
      have hending := hu.store e
      rw [hdue, hend, ← hrest] at hending
      exact hending.trans hstore
    · rw [hthere'] at habsent
      cases habsent

theorem getD_withPassword (p : Principal) (g : PasswordGenerator) (e e' : Entropy) :
    (p.withPassword g e).secret.pending?.getD (g.generate e') =
      p.secret.pending?.getD (g.generate e) := by
  rw [pending?_withPassword, Option.getD_some]

/-- A creation that was cut by a fault leaves unfinished what was, with the
password that it would have had. -/
theorem Unfinished.creation_cut (hu : Unfinished client g ending password p r)
    (hloaded : p.loaded = true) (hpresence : p.presence ≠ .present) (e : Entropy)
    {status : Status} {d : Delivery Realm}
    (hd : (service client).deliver [p.creation g e] r = d) (hrefusal : d.refusal = some status) :
    Unfinished client g (fun _ => ending e) (fun _ => password e) (p.withPassword g e) d.world ∧
      d.carriedOut = 0 ∧ d.world.faultCount < r.faultCount ∧
      d.world.faults .get = r.faults .get := by
  have hthere : p.isThere r = false := by simp [isThere, hloaded, hpresence]
  have hdue (e : Entropy) : p.due r g e = [p.creation g e] := by rw [due, hthere]; rfl
  have hisChange (q : Request) (hq : q ∈ [p.creation g e]) : q.IsChange :=
    isChange_of_mem_due (hdue e ▸ hq)
  have hall : ((service client).deliver [p.creation g e] r.healthy).refusal = none := by
    simpa [hdue] using hu.done e
  have hcut := deliver_sameStore hisChange (sameStore_healthy r).symm hall
  rw [hd, hrefusal] at hcut
  obtain ⟨hnone, -⟩ | ⟨-, _, rfl, -, htake, hworld, hcount, hget⟩ := hcut
  · cases hnone
  · have hzero : d.carriedOut = 0 := by
      have hlt : d.carriedOut < [p.creation g e].length := by
        rw [← hd]
        exact Service.carriedOut_lt_length (by simp [hd, hrefusal])
      simpa using hlt
    refine ⟨?_, hzero, hcount, hget⟩
    rw [hzero, List.take_zero, Service.deliver_nil] at hworld
    obtain ⟨hdone, hstore⟩ := deliver_healthy hisChange hworld hall
    have hthere' : (p.withPassword g e).isThere d.world = false := by
      rw [withPassword_eq]
      simp [isThere, hloaded, hpresence]
    have hdue' (e' : Entropy) : (p.withPassword g e).due d.world g e' = [p.creation g e] := by
      rw [due, hthere', ← creation_withPassword p g e e']
      rfl
    have hloaded' : (p.withPassword g e).loaded = true := by
      rw [withPassword_eq]
      exact hloaded
    refine ⟨hu.consistent.withPassword g e, .inr (.inl hloaded'), fun e' => ?_, fun e' => ?_, ?_⟩
    · rw [hdue']
      exact hdone
    · rw [hdue']
      have hending := hu.store e
      rw [hdue] at hending
      exact hending.trans hstore
    · exact fun _ e' => (getD_withPassword p g e e').trans (hu.secret hthere e)

/-! ## Attempts -/

/-- Whether every request to create a principal has this password. -/
def CreatesWith (password : Secret) (log : List Exchange) : Prop :=
  ∀ x ∈ log, ∀ record fields bytes, x.request = .create record fields bytes →
    bytes = password.bytes

/-- No change creates anything. -/
theorem createsWith_of_changes (d : Delivery Realm) (p : Principal) (word : Secret) :
    CreatesWith word (d.exchanges p.changes) := by
  intro x hx record fields bytes hcreate
  have hmem : .create record fields bytes ∈ p.changes := hcreate ▸ Delivery.request_mem hx
  rcases mem_changes hmem with ⟨_, h⟩ | ⟨_, h⟩ | ⟨_, h, -⟩ <;> cases h

/-- A creation has the staged password, or else the random one. -/
theorem createsWith_of_creation (d : Delivery Realm) (p : Principal) (g : PasswordGenerator)
    (e : Entropy) :
    CreatesWith (p.secret.pending?.getD (g.generate e)) (d.exchanges [p.creation g e]) := by
  intro x hx record fields bytes hcreate
  have hmem : .create record fields bytes ∈ [p.creation g e] := hcreate ▸ Delivery.request_mem hx
  have hcreation := List.mem_singleton.mp hmem
  rw [creation, Request.create.injEq] at hcreation
  exact hcreation.2.2

/-- Sending what is due after a load finishes what is unfinished, or uses up a
fault and leaves it unfinished. -/
theorem Unfinished.perform (hu : Unfinished client g ending password p r)
    (hloaded : p.loaded = true) (e : Entropy) {d : Delivery Realm}
    (hd : (service client).deliver (p.plan g e) r = d) :
    CreatesWith (password e) (d.exchanges (p.plan g e)) ∧
      (d.refusal = none ∧ SameStore (ending e) d.world ∨
        d.refusal ≠ none ∧ d.world.faultCount < r.faultCount ∧
          d.world.faults .get = r.faults .get ∧
          (Unfinished client g ending password
                (((p.plan g e).take d.carriedOut).foldl settle (p.readied g e)) d.world ∧
              (∀ word, CreatesWith word (d.exchanges (p.plan g e))) ∨
            Unfinished client g (fun _ => ending e) (fun _ => password e)
              (((p.plan g e).take d.carriedOut).foldl settle (p.readied g e)) d.world)) := by
  have hplan : p.plan g e = p.due r g e := by simp [plan, due, isThere, hloaded]
  have hall := hu.done e
  have hstore := hu.store e
  have hrun := deliver_sameStore (fun q hq => isChange_of_mem_due hq) (sameStore_healthy r).symm hall
  rw [← hplan] at hall hstore hrun
  rw [hd] at hrun
  have hdone (hnone : d.refusal = none) : SameStore (ending e) d.world := by
    rcases hrun with ⟨-, hworld⟩ | ⟨status, _, rfl, hsome, -⟩
    · exact hstore.trans hworld
    · simp [hnone] at hsome
  by_cases hpresence : p.presence = .present
  · have hthere : p.isThere r = true := by simp [isThere, hloaded, hpresence]
    rw [plan, readied, if_pos hpresence, if_pos hpresence]
    rw [plan, if_pos hpresence] at hd
    refine ⟨createsWith_of_changes d p _, ?_⟩
    cases hrefusal : d.refusal with
    | none => exact .inl ⟨rfl, hdone hrefusal⟩
    | some status =>
      obtain ⟨hleft, hcount, hget⟩ := hu.changes_cut hthere hpresence hd hrefusal
      exact .inr ⟨Option.some_ne_none status, hcount, hget, .inl ⟨hleft, createsWith_of_changes d p⟩⟩
  · have hthere : p.isThere r = false := by simp [isThere, hloaded, hpresence]
    rw [plan, readied, if_neg hpresence, if_neg hpresence]
    rw [plan, if_neg hpresence] at hd
    refine ⟨hu.secret hthere e ▸ createsWith_of_creation d p g e, ?_⟩
    cases hrefusal : d.refusal with
    | none => exact .inl ⟨rfl, hdone hrefusal⟩
    | some status =>
      obtain ⟨hleft, hzero, hcount, hget⟩ := hu.creation_cut hloaded hpresence e hd hrefusal
      rw [hzero]
      exact .inr ⟨Option.some_ne_none status, hcount, hget, .inr hleft⟩

/-- One more attempt finishes what is unfinished, or it fails, uses up a fault
and leaves it unfinished; if it asked for the principal to be created, with
its password. -/
theorem Unfinished.attempt (hu : Unfinished client g ending password p r)
    (hs : s.service = service client) (hget : .unknownPrincipal ∉ r.faults .get) (e : Entropy) :
    CreatesWith (password e) (sent s g e p r) ∧
      ((∃ p' r', (commit s g e).run (p, r) = .ok () (p', r') ∧ SameStore (ending e) r' ∧
        p'.presence = .present ∧ p'.pendingName = none ∧ p'.dirty = .empty ∧
        p'.secret.isPending = false ∧ p'.id = p.name) ∨
      ∃ f p' r', (commit s g e).run (p, r) = .error f (p', r') ∧
        r'.faultCount < r.faultCount ∧ .unknownPrincipal ∉ r'.faults .get ∧ p'.name = p.name ∧
        (Unfinished client g ending password p' r' ∧
            (∀ word, CreatesWith word (sent s g e p r)) ∨
          Unfinished client g (fun _ => ending e) (fun _ => password e) p' r')) := by
  have hstage := load_stagedAlike s p r
  rw [run_commit s g e hu.consistent, sent]
  cases h : (load s).run (p, r) with
  | error f x =>
    obtain ⟨p₁, r₁⟩ := x
    obtain ⟨hu₁, hcount, hget₁⟩ := hu.load_error hs hget h
    rw [h] at hstage
    refine ⟨by simp [CreatesWith], .inr ⟨f, p₁, r₁, rfl, hcount, hget₁, hstage.name, .inl ⟨hu₁, ?_⟩⟩⟩
    simp [CreatesWith]
  | ok a x =>
    obtain ⟨p₁, r₁⟩ := x
    obtain ⟨hu₁, hfaults, hloaded, -⟩ := hu.load_ok hs hget h
    rw [h] at hstage
    have hname : p₁.name = p.name := hstage.name
    obtain ⟨hcreates, hcases⟩ := hu₁.perform hloaded e rfl
    simp only [hs]
    refine ⟨hcreates, ?_⟩
    rcases hcases with ⟨hnone, hstore⟩ | ⟨hsome, hcount, hget₁, hunfinished⟩
    · obtain ⟨p', hp', hpresence, hpending, hdirty, hsecret, hid⟩ := hu₁.consistent.plan_done g e
      refine .inl ⟨p', _, ?_, hstore, hpresence, hpending, hdirty, hsecret, hid.trans hname⟩
      rw [Delivery.outcome, hnone, hp']
    · obtain ⟨status, hstatus⟩ := Option.ne_none_iff_exists'.mp hsome
      refine .inr ⟨_, _, _, by rw [Delivery.outcome, hstatus], ?_, ?_, ?_, hunfinished⟩
      · simpa [faultCount, hfaults] using hcount
      · rw [hget₁, hfaults]
        exact hget
      · rw [name_foldl_settle, name_readied, hname]

/-! ## Repeating a commit -/

/-- A commit that is repeated until it succeeds, after so many attempts that
failed. Each attempt draws its own random numbers. -/
inductive Retried {σ : Type} (s : Session σ) (g : PasswordGenerator) :
    (draws : Nat → Entropy) → Nat → Principal × σ → Principal × σ → Prop
  | success {draws : Nat → Entropy} {x y : Principal × σ}
      (h : (commit s g (draws 0)).run x = .ok () y) : Retried s g draws 0 x y
  | failure {draws : Nat → Entropy} {n : Nat} {f : Failure} {x y z : Principal × σ}
      (h : (commit s g (draws 0)).run x = .error f y)
      (again : Retried s g (fun i => draws (i + 1)) n y z) : Retried s g draws (n + 1) x z

theorem CreatesWith.append {word : Secret} {as bs : List Exchange} (ha : CreatesWith word as)
    (hb : CreatesWith word bs) : CreatesWith word (as ++ bs) :=
  fun x hx => (List.mem_append.mp hx).elim (ha x) (hb x)

theorem createsWith_of_reads {reads : List Exchange} (h : ∀ x ∈ reads, x.IsRead) (word : Secret) :
    CreatesWith word reads := by
  intro x hx record fields bytes hcreate
  obtain ⟨name, fields', hread⟩ := h x hx
  rw [hread] at hcreate
  cases hcreate

/-- What is unfinished gets finished, by repeating the commit. The induction
is on the faults that are laid: an attempt that fails leaves fewer of them. -/
theorem Unfinished.retried (hs : s.service = service client) :
    ∀ (faults : Nat) {ending : Entropy → Realm} {password : Entropy → Secret} {p : Principal}
      {r : Realm}, Unfinished client g ending password p r → .unknownPrincipal ∉ r.faults .get →
      r.faultCount < faults → ∀ (draws : Nat → Entropy) (log : List Exchange),
      ∃ n p' r' new, Retried s.recorded g draws n (p, (r, log)) (p', (r', log ++ new)) ∧
        ∃ j, j ≤ n ∧ SameStore (ending (draws j)) r' ∧ p'.presence = .present ∧
          p'.pendingName = none ∧ p'.dirty = .empty ∧ p'.secret.isPending = false ∧
          p'.id = p.name ∧ CreatesWith (password (draws j)) new := by
  intro faults
  induction faults with
  | zero => exact fun _ _ hlt => absurd hlt (Nat.not_lt_zero _)
  | succ faults ih =>
    intro ending password p r hu hget hlt draws log
    obtain ⟨reads, hreads, -, hrecorded⟩ :=
      commit_recorded s g (draws 0) hu.consistent r log
    obtain ⟨hcreates, hattempt⟩ := hu.attempt hs hget (draws 0)
    rw [List.append_assoc] at hrecorded
    rcases hattempt with ⟨p', r', hrun, hstore, hpresence, hname, hdirty, hsecret, hid⟩ |
      ⟨f, p', r', hrun, hcount, hget', hname, hleft⟩
    · rw [hrun] at hrecorded
      exact ⟨0, p', r', _, .success hrecorded, 0, Nat.le_refl 0, hstore, hpresence, hname, hdirty,
        hsecret, hid, (createsWith_of_reads hreads _).append hcreates⟩
    · rw [hrun] at hrecorded
      have hfewer : r'.faultCount < faults := by omega
      rcases hleft with ⟨hleft, hnone⟩ | hleft
      · obtain ⟨n, p'', r'', new, hagain, j, hj, hstore, hpresence, hpending, hdirty, hsecret, hid,
          hnew⟩ := ih hleft hget' hfewer (fun i => draws (i + 1))
            (log ++ (reads ++ sent s g (draws 0) p r))
        rw [List.append_assoc] at hagain
        exact ⟨n + 1, p'', r'', _, .failure hrecorded hagain, j + 1, Nat.succ_le_succ hj, hstore,
          hpresence, hpending, hdirty, hsecret, hid.trans hname,
          ((createsWith_of_reads hreads _).append (hnone _)).append hnew⟩
      · -- The password is settled now, so the later draws play no part.
        obtain ⟨n, p'', r'', new, hagain, -, -, hstore, hpresence, hpending, hdirty, hsecret, hid,
          hnew⟩ := ih hleft hget' hfewer (fun i => draws (i + 1))
            (log ++ (reads ++ sent s g (draws 0) p r))
        rw [List.append_assoc] at hagain
        exact ⟨n + 1, p'', r'', _, .failure hrecorded hagain, 0, Nat.zero_le _, hstore,
          hpresence, hpending, hdirty, hsecret, hid.trans hname,
          ((createsWith_of_reads hreads _).append hcreates).append hnew⟩

/-! ## The uninterrupted commit -/

/-- Whether a password is empty does not depend on the draws. -/
theorem password_ne_nil (h : (p.secret.pending?.getD (g.generate e)).bytes ≠ []) (e' : Entropy) :
    (p.secret.pending?.getD (g.generate e')).bytes ≠ [] := by
  cases hsecret : p.secret.pending? with
  | some secret => simpa [hsecret] using h
  | none =>
    rw [hsecret, Option.getD_none, ← List.length_pos_iff, g.length_generate] at h
    rw [Option.getD_none, ← List.length_pos_iff, g.length_generate]
    exact h

/-- Whether a realm creates a principal does not depend on the draws. -/
theorem creation_done (hdone : ((service client).deliver [p.creation g e] r).refusal = none)
    (e' : Entropy) : ((service client).deliver [p.creation g e'] r).refusal = none := by
  cases hserve : ((service client).serve (p.creation g e)).run r with
  | error status r' =>
    rw [Service.deliver_cons_error hserve] at hdone
    cases hdone
  | ok a r' =>
    obtain ⟨hfaults, hmask, hmem, hpassword, name, hname, hfree, -⟩ :=
      ((serveCreate_changes ..).1 _).mp hserve
    have hserve' : ((service client).serve (p.creation g e')).run r = .ok () _ :=
      ((serveCreate_changes ..).1 _).mpr
        ⟨hfaults, hmask, hmem, password_ne_nil hpassword e', name, hname, hfree, rfl⟩
    rw [Service.deliver_cons_ok hserve']
    rfl

theorem due_done (hdone : ((service client).deliver (p.due r₁ g e) r).refusal = none)
    (e' : Entropy) : ((service client).deliver (p.due r₁ g e') r).refusal = none := by
  unfold due at *
  split
  · next hthere => rwa [if_pos hthere] at hdone
  · next hthere =>
    rw [if_neg hthere] at hdone
    exact creation_done hdone e'

/-- A commit that succeeds without faults finishes what is unfinished. -/
theorem unfinished_of_commit (hs : s.service = service client) (hp : p.Consistent)
    {x : Principal × Realm} (hok : (commit s g e).run (p, r.healthy) = .ok () x) :
    Unfinished client g (fun e => ((service client).deliver (p.due r g e) r.healthy).world)
      (fun e => p.secret.pending?.getD (g.generate e)) p r := by
  rw [run_commit s g e hp] at hok
  have hrun := load_run s p r.healthy
  have hstore := load_sameStore hs p r.healthy
  cases h : (load s).run (p, r.healthy) with
  | error f y => simp [h] at hok
  | ok a y =>
    obtain ⟨p₁, r₁⟩ := y
    rw [h] at hrun hstore
    obtain ⟨-, hpresence, hloadable⟩ := load_ok hs (by simp) h
    have hstage : StagedAlike p p₁ := hrun.stagedAlike
    have hloaded := hrun.loaded
    have hthere : p₁.isThere r₁ = p.isThere r := by
      refine Bool.eq_iff_iff.mpr (Iff.trans ?_ hpresence)
      simp [isThere, hloaded]
    have hplan : p₁.plan g e = p₁.due r₁ g e := by simp [plan, due, isThere, hloaded]
    have hdone₁ : ((service client).deliver (p₁.plan g e) r₁).refusal = none := by
      cases hrefusal : ((service client).deliver (p₁.plan g e) r₁).refusal with
      | none => rfl
      | some status => simp [h, hs, Delivery.outcome, hrefusal] at hok
    have hdone : ((service client).deliver (p.due r g e) r₁).refusal = none := by
      rw [← deliver_trimmed, ← hstage.trimmed_due hthere, deliver_trimmed, ← hplan, hdone₁]
    have hhealthy := (deliver_healthy (fun q hq => isChange_of_mem_due hq)
      ((sameStore_healthy r).trans hstore).symm hdone).1
    exact ⟨hp, hloadable, due_done hhealthy, fun e => .refl _, fun _ _ => rfl⟩

/-- **A commit that is repeated until it succeeds does what one commit does
without faults**: where one commit would succeed in the realm without the
faults that are laid, the repeated commit succeeds after some attempts, with
the same store, the same time and the same principal, and it asked for no
other password than that one commit with the same draws. -/
theorem retried_commit (hs : s.service = service client) (hp : Reachable p)
    (hget : .unknownPrincipal ∉ r.faults .get) {x : Principal × Realm}
    (hok : (commit s g e).run (p, r.healthy) = .ok () x) (draws : Nat → Entropy) :
    ∃ n p' r' log, Retried s.recorded g draws n (p, (r, [])) (p', (r', log)) ∧
      ∃ j, j ≤ n ∧ ∃ p₁ r₁, (commit s g (draws j)).run (p, r.healthy) = .ok () (p₁, r₁) ∧
        r'.principals = r₁.principals ∧ r'.clock = r₁.clock ∧
        p'.id = p₁.id ∧ p'.presence = p₁.presence ∧ p'.pendingName = none ∧ p'.dirty = .empty ∧
        p'.secret.isPending = false ∧
        CreatesWith (p.secret.pending?.getD (g.generate (draws j))) log := by
  have hu := unfinished_of_commit hs hp.consistent hok
  obtain ⟨n, p', r', log, hretried, j, hj, hstore, hpresence, hname, hdirty, hsecret, hid, hlog⟩ :=
    hu.retried hs (r.faultCount + 1) hget (Nat.lt_succ_self _) draws []
  have hhealthy : Unfinished client g _ _ p r.healthy :=
    hu.of_stagedAlike (.refl p) hp.consistent (sameStore_healthy r) rfl hu.loadable
  obtain ⟨-, ⟨p₁, r₁, hrun, hstore₁, hpresence₁, -, -, -, hid₁⟩ | ⟨_, _, _, -, hcount, -⟩⟩ :=
    hhealthy.attempt hs (by simp) (draws j)
  · have hsame := hstore₁.symm.trans hstore
    exact ⟨n, p', r', log, hretried, j, hj, p₁, r₁, hrun, hsame.principals, hsame.clock,
      hid.trans hid₁.symm, hpresence.trans hpresence₁.symm, hname, hdirty, hsecret, hlog⟩
  · simp [faultCount] at hcount

/-- A new lifetime, in a realm that refuses the first read and then twice the
request to write it. -/
theorem retried_commit_after_three_faults :
    let jdoe : Name := ⟨["jdoe"], "R"⟩
    let s := Realm.session ⟨["admin"], "R"⟩
    let g : PasswordGenerator := ⟨[]⟩
    let r : Realm :=
      { name := "R", principals := TextMap.empty.insert jdoe.text ⟨.named jdoe, [1]⟩,
        faults := fun | .get => [.duplicate] | .modify => [.duplicate, .duplicate] | _ => [] }
    let p := (Edit.maxLifetime (.hours 1)).stage (existing jdoe)
    .unknownPrincipal ∉ r.faults .get ∧ ∃ n p' r' log,
      Retried s.recorded g (fun _ => ⟨fun _ => 0, 0⟩) n (p, (r, [])) (p', (r', log)) ∧
        p'.dirty = .empty := by
  intro jdoe s g r p
  have hp : Reachable p := .after (.existing _) ⟨s, g⟩ (.edit (.maxLifetime (.hours 1))) r
  have hok := eq_ok_of_succeeded (x := (commit s g ⟨fun _ => 0, 0⟩).run (p, r.healthy)) (by decide)
  obtain ⟨n, p', r', log, hretried, -, -, -, -, -, -, -, -, -, -, hdirty, -⟩ :=
    retried_commit rfl hp (by decide) hok fun _ => ⟨fun _ => 0, 0⟩
  exact ⟨by decide, n, p', r', log, hretried, hdirty⟩

end Principal

end RealmAdmin
