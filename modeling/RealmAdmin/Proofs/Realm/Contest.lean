/-
RealmAdmin.Proofs.Realm.Contest — clients that create the same principal.

Between the look whether a name is taken and the commit anything can happen, so
several clients can go on to create one principal. A `Contest` is a realm with
clients that are each halted at their next request. Turns are taken in any order,
and other things happen to the realm in between (`Contest.Step`). What holds in every
contest is `Contest.Sound`: at most one client has created the principal, and every
other that has ended was told that the name is taken.
-/
import Mathlib.Logic.Function.Basic
import Mathlib.Logic.Relation
import RealmAdmin.Proofs.Name.RoundTrip
import RealmAdmin.Proofs.Realm.Calm

namespace RealmAdmin

open Principal Realm

/-! ## Contests -/

/-- A realm, and clients that are each halted at their next request. -/
structure Contest (ι : Type) where
  realm : Realm
  talks : ι → Dialogue Unit

namespace Contest

variable {ι : Type}

/-- The contest in which nobody has asked anything. -/
def start (b : ι → Creator) (r : Realm) : Contest ι := ⟨r, fun i => (b i).dialogue⟩

/-- How far a client has come: it goes on to create the name, or it has ended. -/
inductive Standing (b : Creator) (n : Name) : Dialogue Unit → Prop
  | trying {x : Dialogue Principal} (hx : x.Follows (asking n) (b.Prepares n)) :
    Standing b n (x >>= b.submit)
  | won : Standing b n (.done (.ok ()))
  | lost : Standing b n (.done (.error .alreadyExists))

/-- What holds in every contest. -/
structure Sound (b : ι → Creator) (n : Name) (s : Contest ι) : Prop where
  ready : s.realm.IsReadyFor n
  standing : ∀ i, Standing (b i) n (s.talks i)
  stored : ∀ i, s.talks i = .done (.ok ()) → s.realm.principals.contains n.text = true
  unique : ∀ i j, s.talks i = .done (.ok ()) → s.talks j = .done (.ok ()) → i = j

section

variable {b : Creator} {n : Name}

/-- Who has not sent its last request has not won. -/
theorem bind_submit_ne_won (b : Creator) (x : Dialogue Principal) :
    (x >>= b.submit) ≠ .done (.ok ()) := by
  cases x with
  | done outcome => cases outcome <;> nofun
  | send q next => nofun

/-- The ways to end. -/
theorem Standing.ended {outcome : Except Failure Unit} (h : Standing b n (.done outcome)) :
    outcome = .ok () ∨ outcome = .error .alreadyExists := by
  generalize hd : Dialogue.done outcome = d at h
  cases h with
  | won => exact .inl (by cases hd; rfl)
  | lost => exact .inr (by cases hd; rfl)
  | @trying x hx =>
    match x, hx with
    | .done (.error failure), hx =>
      cases hd
      exact .inr (congrArg Except.error hx)
    | .done (.ok p), hx => cases hd
    | .send q next, hx => cases hd

/-- What a turn makes of a client's standing, and of the name: who wins has found it
free and leaves it stored. -/
theorem Standing.turn (hb : b.IsFor n) {q : Request}
    {next : Except Status q.Answer → Dialogue Unit} (h : Standing b n (.send q next)) {r : Realm}
    (hr : r.IsReadyFor n) :
    let result := ((service b.client).serve q).run r
    Standing b n (next (answerOf result)) ∧
      (r.principals.contains n.text = true →
        (stateOf result).principals.contains n.text = true ∧
          next (answerOf result) ≠ .done (.ok ())) ∧
      (next (answerOf result) = .done (.ok ()) →
        (stateOf result).principals.contains n.text = true) := by
  intro result
  generalize hd : Dialogue.send q next = d at h
  cases h with
  | won => cases hd
  | lost => cases hd
  | @trying x hx =>
    match x, hx with
    | .done (.error failure), hx => cases hd
    | .send q' next', hx =>
      cases hd
      obtain ⟨hq, hnext⟩ := hx
      have hsame : (stateOf result).principals = r.principals :=
        preserves_principals_question hq r rfl
      have hne : (next' (answerOf result)).bind b.submit ≠ .done (.ok ()) := bind_submit_ne_won b _
      rw [hsame]
      exact ⟨.trying (hnext _ ⟨_, r, hr, rfl⟩), fun hstored => ⟨hstored, hne⟩,
        fun hwon => absurd hwon hne⟩
    | .done (.ok p), hx =>
      cases hd
      have hserve := Creator.serve_creation hb hx b.client hr.calm
      change if _ then answerOf result = _ ∧ _ else answerOf result = _ ∧ _ at hserve
      split at hserve
      · next hstored =>
        obtain ⟨hanswer, hsame⟩ := hserve
        rw [hanswer, hsame]
        exact ⟨.lost, fun _ => ⟨hstored, nofun⟩, nofun⟩
      · next hfree =>
        obtain ⟨hanswer, hstored⟩ := hserve
        rw [hanswer]
        exact ⟨.won, fun hstored => absurd hstored hfree, fun _ => hstored⟩

end

theorem Sound.initial {b : ι → Creator} {n : Name} (hb : ∀ i, (b i).IsFor n) {r : Realm}
    (hr : r.IsReadyFor n) : Sound b n (start b r) where
  ready := hr
  standing i := .trying (Creator.follows_preparation (hb i))
  stored i hi := absurd hi (bind_submit_ne_won (b i) (b i).preparation)
  unique i _ hi _ := absurd hi (bind_submit_ne_won (b i) (b i).preparation)

/-! ## Turns -/

variable [DecidableEq ι]

/-- The contest after the request of one client was served, if it has one left. -/
def turn (b : ι → Creator) (s : Contest ι) (i : ι) : Contest ι :=
  match s.talks i with
  | .done _ => s
  | .send q next =>
    let result := ((service (b i).client).serve q).run s.realm
    ⟨stateOf result, Function.update s.talks i (next (answerOf result))⟩

/-- What can happen in a contest: a client takes its turn, or something else happens
to the realm that leaves it ready for the name and does not take the name away. -/
inductive Step (b : ι → Creator) (n : Name) : Contest ι → Contest ι → Prop
  | turn (s : Contest ι) (i : ι) : Step b n s (s.turn b i)
  | outside (s : Contest ι) {r : Realm} (hready : r.IsReadyFor n)
      (hkept : s.realm.principals.contains n.text = true → r.principals.contains n.text = true) :
    Step b n s { s with realm := r }

section

variable {b : ι → Creator} {n : Name} {s s' : Contest ι}

/-- A contest stays sound when one client goes on: where the name was stored it still
is and the client has not won, and if the client has won the name is stored. -/
theorem Sound.update (h : Sound b n s) {i : ι} {d : Dialogue Unit} {r : Realm}
    (hr : r.IsReadyFor n) (hd : Standing (b i) n d)
    (hkept : s.realm.principals.contains n.text = true →
      r.principals.contains n.text = true ∧ d ≠ .done (.ok ()))
    (hwon : d = .done (.ok ()) → r.principals.contains n.text = true) :
    Sound b n ⟨r, Function.update s.talks i d⟩ := by
  have hlate {j : ι} (hj : s.talks j = .done (.ok ())) : d ≠ .done (.ok ()) :=
    (hkept (h.stored j hj)).2
  have htalks (j : ι) : Function.update s.talks i d j = if j = i then d else s.talks j :=
    Function.update_apply ..
  refine ⟨hr, fun j => ?_, fun j hj => ?_, fun j k hj hk => ?_⟩
  · dsimp only
    rw [htalks]
    split
    · next hji => rwa [hji]
    · exact h.standing j
  · dsimp only at hj
    rw [htalks] at hj
    split at hj
    · exact hwon hj
    · exact (hkept (h.stored j hj)).1
  · dsimp only at hj hk
    rw [htalks] at hj hk
    split at hj <;> split at hk
    · next hji hki => rw [hji, hki]
    · exact absurd hj (hlate hk)
    · exact absurd hk (hlate hj)
    · exact h.unique j k hj hk

/-- A turn keeps the contest sound. -/
theorem Sound.turn (h : Sound b n s) (hb : ∀ i, (b i).IsFor n) (i : ι) :
    Sound b n (s.turn b i) := by
  unfold Contest.turn
  cases htalk : s.talks i with
  | done outcome => exact h
  | send q next =>
    have hstanding := h.standing i
    rw [htalk] at hstanding
    obtain ⟨hnext, hkept, hwon⟩ := hstanding.turn (hb i) h.ready
    exact h.update (h.ready.serve (b i).client q) hnext hkept hwon

theorem Sound.step (h : Sound b n s) (hb : ∀ i, (b i).IsFor n) (hstep : Step b n s s') :
    Sound b n s' := by
  cases hstep with
  | turn i => exact h.turn hb i
  | outside hready hkept =>
    exact ⟨hready, h.standing, fun i hi => hkept (h.stored i hi), h.unique⟩

/-- Every contest is sound. -/
theorem Sound.reached (hb : ∀ i, (b i).IsFor n) {r : Realm} (hr : r.IsReadyFor n)
    (hreach : Relation.ReflTransGen (Step b n) (start b r) s) : Sound b n s := by
  induction hreach with
  | refl => exact .initial hb hr
  | tail _ hstep ih => exact ih.step hb hstep

/-- A client that takes all the turns from now on comes to the end that its dialogue
has when it is run. -/
theorem turns_run (b : ι → Creator) (n : Name) (s : Contest ι) (i : ι) :
    let result := ((s.talks i).run (service (b i).client)).run s.realm
    Relation.ReflTransGen (Step b n) s
      ⟨stateOf result, Function.update s.talks i (.done (answerOf result))⟩ := by
  generalize htalk : s.talks i = d
  induction d generalizing s with
  | done outcome =>
    have hsame : Function.update s.talks i (.done outcome) = s.talks := by
      rw [← htalk, Function.update_eq_self]
    cases outcome with
    | ok a =>
      change Relation.ReflTransGen _ s ⟨s.realm, Function.update s.talks i (.done (.ok a))⟩
      rw [hsame]
    | error failure =>
      change Relation.ReflTransGen _ s ⟨s.realm, Function.update s.talks i (.done (.error failure))⟩
      rw [hsame]
  | send q next ih =>
    generalize hresult : ((service (b i).client).serve q).run s.realm = result
    have hturn : s.turn b i =
        ⟨stateOf result, Function.update s.talks i (next (answerOf result))⟩ := by
      unfold Contest.turn
      rw [htalk]
      exact hresult ▸ rfl
    have hrest := ih _ (s.turn b i) (by rw [hturn]; exact Function.update_self ..)
    rw [hturn] at hrest
    dsimp only at hrest ⊢
    rw [Function.update_idem] at hrest
    rw [Dialogue.run_send, hresult]
    exact .head (hturn ▸ .turn s i) hrest

/-- Turns in any order. -/
theorem reached_turns (b : ι → Creator) (n : Name) (turns : List ι) (s : Contest ι) :
    Relation.ReflTransGen (Step b n) s (turns.foldl (Contest.turn b) s) := by
  induction turns generalizing s with
  | nil => exact .refl
  | cons i rest ih => exact .head (.turn s i) (ih _)

/-- Any request of somebody else may come in between, as long as it does not take the
name away. -/
theorem Step.request (b : ι → Creator) {s : Contest ι} (hs : s.realm.IsReadyFor n)
    (client : Name) (q : Request) (hq : ∀ a r, ((service client).serve q).run s.realm = .ok a r →
      q.vacates? ≠ some n.text) :
    Step b n s { s with realm := stateOf (((service client).serve q).run s.realm) } := by
  refine .outside s (hs.serve client q) fun hstored => ?_
  cases hserve : ((service client).serve q).run s.realm with
  | error status r =>
    rw [stateOf_error, principals_of_refused hserve]
    exact hstored
  | ok a r =>
    obtain ⟨e, he⟩ := Option.isSome_iff_exists.mp hstored
    by_contra hgone
    exact hq a r hserve ((carriedOut hserve).vacated he (get?_of_free (by simpa using hgone)))

end

end Contest

/-! ## Names that are created once -/

/-- A renaming that is carried out takes the entry along; besides the name it changes
what the service stamps. -/
theorem Realm.renamed_entry {client source target : Name} {r r' : Realm} {a : Unit}
    (h : ((service client).serve (.rename source target)).run r = .ok a r') :
    ∃ e now, r.principals.get? source.text = some e ∧
      r'.principals.get? target.text = some ⟨{ e.record with
        principal := some target, modifyTime := now, modifier := some client }, e.password⟩ := by
  obtain ⟨-, -, e, he, rfl⟩ := ((serveRename_changes ..).1 r').mp h
  exact ⟨e, r.clock + 1, he, TextMap.get?_insert_self ..⟩

/-- **No entry is overwritten, dropped or half changed, and a name is created once.** A
request that is refused leaves every entry. One that is carried out stores a new
entry only where there was none, takes an entry away only from the key that it says,
leaves the entries of other names, and renames an entry as a whole. So of clients that
create one name, which compiles as a filter, and whose requests are served in any order
while other things happen to the realm, at most one succeeds; every other that ends was
told that the name is taken, and each of them can come to an end. -/
theorem kept_and_created_once :
    (∀ (client : Name) (r : Realm) (q : Request), match ((service client).serve q).run r with
      | .error _ r' => r'.principals = r.principals
      | .ok _ r' =>
        (∀ name, q.fills? = some name → r.principals.get? name.text = none) ∧
        (∀ key e, r.principals.get? key = some e → r'.principals.get? key = none →
          q.vacates? = some key) ∧
        (∀ key, key ∉ q.names.map Name.text → r'.principals.get? key = r.principals.get? key) ∧
        ∀ source target, q = .rename source target → ∃ e now,
          r.principals.get? source.text = some e ∧
          r'.principals.get? target.text = some ⟨{ e.record with
            principal := some target, modifyTime := now, modifier := some client }, e.password⟩) ∧
    (∀ (b : Creator) {σ : Type} (S : Service σ), b.dialogue.run S = b.program S) ∧
    ∀ {ι : Type} [DecidableEq ι] (b : ι → Creator) (n : Name) (r : Realm) (s : Contest ι),
      (∀ i, (b i).IsFor n) → r.IsCalm → r.compiles n.text = true →
      Relation.ReflTransGen (Contest.Step b n) (.start b r) s →
      (∀ i j, s.talks i = .done (.ok ()) → s.talks j = .done (.ok ()) → i = j) ∧
      (∀ i, s.talks i = .done (.ok ()) → s.realm.principals.contains n.text = true) ∧
      (∀ i failure, s.talks i = .done (.error failure) → failure = .alreadyExists) ∧
      ∀ i, ∃ s' outcome, Relation.ReflTransGen (Contest.Step b n) s s' ∧
        s'.talks i = .done outcome := by
  refine ⟨fun client r q => ?_, fun b σ S => b.run_dialogue S,
    fun b n r s hb hr hcompiles hreach => ?_⟩
  · cases hserve : ((service client).serve q).run r with
    | error status r' => exact principals_of_refused hserve
    | ok a r' =>
      have hafter := carriedOut hserve
      refine ⟨fun name => hafter.filled, fun key e => hafter.vacated, fun key => hafter.kept, ?_⟩
      rintro source target rfl
      exact renamed_entry hserve
  · have hsound := Contest.Sound.reached hb ⟨hr, hcompiles⟩ hreach
    refine ⟨hsound.unique, hsound.stored, fun i failure hi => ?_, fun i => ?_⟩
    · rcases (hi ▸ hsound.standing i).ended with hwon | hlost
      · cases hwon
      · exact Except.error.inj hlost
    · exact ⟨_, _, Contest.turns_run b n s i, Function.update_self ..⟩

/-- Two clients look for a name and find it free. The first to commit creates it, and
the other is told so by its commit, after somebody has changed the password. -/
theorem kept_and_created_once_of_two_clients :
    let jdoe : Name := ⟨["jdoe"], "R"⟩
    let admin : Name := ⟨["admin"], "R"⟩
    let e : Entropy := ⟨fun _ => 0, 0⟩
    let b : Bool → Creator := fun i =>
      ⟨admin, "R", "kdc", 749, ⟨[]⟩, "jdoe", some (if i then "one" else "two"),
        [.ask .maxLifetime], e⟩
    let r : Realm := { name := "R" }
    let s := [true, false, true, false, true, false, true, true].foldl (Contest.turn b) (.start b r)
    let changed := stateOf (((service admin).serve (.changePassword jdoe [1])).run s.realm)
    let s' := [false, false].foldl (Contest.turn b) { s with realm := changed }
    (∀ i, (b i).IsFor jdoe) ∧ r.IsCalm ∧ r.compiles jdoe.text = true ∧
      Relation.ReflTransGen (Contest.Step b jdoe) (.start b r) s' ∧
      s'.talks true = .done (.ok ()) ∧ s'.talks false = .done (.error .alreadyExists) ∧
      s'.realm.principals.contains jdoe.text = true := by
  intro jdoe admin e b r s changed s'
  have hb : ∀ i, (b i).IsFor jdoe := by
    intro i
    cases i <;> exact ⟨by decide, by decide⟩
  have hr : r.IsCalm := ⟨fun _ => rfl, by decide, by decide⟩
  have hready : r.IsReadyFor jdoe := ⟨hr, rfl⟩
  have hbefore := Contest.reached_turns b jdoe
    [true, false, true, false, true, false, true, true] (.start b r)
  have hchange : Contest.Step b jdoe s { s with realm := changed } :=
    .request b (Contest.Sound.reached hb hready hbefore).ready admin _
      (by simp [Request.vacates?])
  have hreach := (hbefore.tail hchange).trans (Contest.reached_turns b jdoe [false, false] _)
  obtain ⟨-, hstored, -, -⟩ := kept_and_created_once.2.2 b jdoe r s' hb hr rfl hreach
  have hwon : s'.talks true = .done (.ok ()) := Dialogue.eq_done_iff.mpr (by decide)
  have hrefused : s'.talks false = .done (.error .alreadyExists) :=
    Dialogue.eq_done_iff.mpr (by decide)
  exact ⟨hb, hr, rfl, hreach, hwon, hrefused, hstored true hwon⟩

end RealmAdmin
