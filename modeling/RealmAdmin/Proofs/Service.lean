/-
RealmAdmin.Proofs.Service — requests sent in turn, and a record of them.

`Service.deliver` sends requests one after another and stops at the first
that is refused. `Service.recorded` is the same service with a record of the
requests it got and of what it answered, beside its own state; what delivery
leaves in that record is `Delivery.exchanges`.
-/
import RealmAdmin.Proofs.Work

namespace RealmAdmin

variable {σ : Type}

/-! ## Sending requests in turn -/

/-- What came of sending requests in turn: how many were carried out, the
status of the refusal that ended it, and the state afterwards. -/
structure Delivery (σ : Type) where
  carriedOut : Nat
  refusal : Option Status
  world : σ

/-- Send requests in turn, up to the first that is refused. -/
def Service.deliver (S : Service σ) : List Request → σ → Delivery σ
  | [], w => ⟨0, none, w⟩
  | q :: rest, w =>
    match (S.serve q).run w with
    | .ok _ w' =>
      let d := S.deliver rest w'
      ⟨d.carriedOut + 1, d.refusal, d.world⟩
    | .error status w' => ⟨0, some status, w'⟩

namespace Service

variable {S : Service σ} {w w' : σ} {q : Request} {qs : List Request} {status : Status}

@[simp] theorem deliver_nil : S.deliver [] w = ⟨0, none, w⟩ := rfl

theorem deliver_cons_ok {a : q.Answer} (h : (S.serve q).run w = .ok a w') :
    S.deliver (q :: qs) w =
      ⟨(S.deliver qs w').carriedOut + 1, (S.deliver qs w').refusal, (S.deliver qs w').world⟩ := by
  simp [deliver, h]

theorem deliver_cons_error (h : (S.serve q).run w = .error status w') :
    S.deliver (q :: qs) w = ⟨0, some status, w'⟩ := by
  simp [deliver, h]

/-- Without a refusal every request was carried out. -/
theorem carriedOut_eq_length (h : (S.deliver qs w).refusal = none) :
    (S.deliver qs w).carriedOut = qs.length := by
  induction qs generalizing w with
  | nil => rfl
  | cons q qs ih =>
    cases hq : (S.serve q).run w with
    | ok a w' =>
      rw [deliver_cons_ok hq] at h ⊢
      simp [ih h]
    | error status w' =>
      rw [deliver_cons_error hq] at h
      cases h

/-- With a refusal there is a request that was not carried out. -/
theorem carriedOut_lt_length (h : (S.deliver qs w).refusal ≠ none) :
    (S.deliver qs w).carriedOut < qs.length := by
  induction qs generalizing w with
  | nil => exact absurd rfl h
  | cons q qs ih =>
    cases hq : (S.serve q).run w with
    | ok a w' =>
      rw [deliver_cons_ok hq] at h ⊢
      have hrest := ih h
      simp only [List.length_cons]
      omega
    | error status w' =>
      rw [deliver_cons_error hq]
      simp

/-- When the first part of the requests was carried out, the rest goes on
from there. -/
theorem deliver_append (rs : List Request) (h : (S.deliver qs w).refusal = none) :
    (S.deliver (qs ++ rs) w).refusal = (S.deliver rs (S.deliver qs w).world).refusal ∧
      (S.deliver (qs ++ rs) w).world = (S.deliver rs (S.deliver qs w).world).world := by
  induction qs generalizing w with
  | nil => exact ⟨rfl, rfl⟩
  | cons q qs ih =>
    cases hq : (S.serve q).run w with
    | ok a w' =>
      rw [deliver_cons_ok hq] at h
      rw [List.cons_append, deliver_cons_ok hq, deliver_cons_ok hq]
      exact ih h
    | error status w' =>
      rw [deliver_cons_error hq] at h
      cases h

end Service

/-! ## Keeping a record -/

/-- A request, and the status with which it was refused, if it was. -/
structure Exchange where
  request : Request
  refusal : Option Status := none
  deriving DecidableEq

/-- Whether the exchange is about reading a principal, which changes nothing. -/
def Exchange.IsRead (x : Exchange) : Prop := ∃ name fields, x.request = .get name fields

theorem Exchange.isRead_get (name : Name) (fields : FieldSet) (refusal : Option Status) :
    Exchange.IsRead ⟨.get name fields, refusal⟩ := ⟨name, fields, rfl⟩

/-- The service with a record of its exchanges, the latest one last. -/
def Service.recorded (S : Service σ) : Service (σ × List Exchange) where
  serve q := fun (w, log) =>
    match (S.serve q).run w with
    | .ok a w' => .ok a (w', log ++ [⟨q, none⟩])
    | .error status w' => .error status (w', log ++ [⟨q, some status⟩])

/-- The session with a record of its exchanges. -/
def Session.recorded (s : Session σ) : Session (σ × List Exchange) :=
  ⟨s.service.recorded, s.client, s.realm, s.host, s.port⟩

/-- The exchanges of a delivery: the requests that were carried out, then the
one that was refused. -/
def Delivery.exchanges (d : Delivery σ) (qs : List Request) : List Exchange :=
  (qs.take d.carriedOut).map (⟨·, none⟩) ++
    match d.refusal, qs[d.carriedOut]? with
    | some status, some q => [⟨q, some status⟩]
    | _, _ => []

theorem Delivery.exchanges_of_done {d : Delivery σ} {qs : List Request} (h : d.refusal = none)
    (hlength : d.carriedOut = qs.length) : d.exchanges qs = qs.map (⟨·, none⟩) := by
  simp [exchanges, h, hlength]

theorem Delivery.exchanges_of_refused {d : Delivery σ} {qs : List Request} {status : Status}
    {q : Request} (h : d.refusal = some status) (hq : qs[d.carriedOut]? = some q) :
    d.exchanges qs = (qs.take d.carriedOut).map (⟨·, none⟩) ++ [⟨q, some status⟩] := by
  simp [exchanges, h, hq]

/-- Only requests that were to be sent have exchanges. -/
theorem Delivery.request_mem {d : Delivery σ} {qs : List Request} {x : Exchange}
    (h : x ∈ d.exchanges qs) : x.request ∈ qs := by
  rw [exchanges, List.mem_append] at h
  rcases h with h | h
  · obtain ⟨q, hq, rfl⟩ := List.mem_map.mp h
    exact List.mem_of_mem_take hq
  · split at h
    · next q _ hq =>
      obtain rfl := List.mem_singleton.mp h
      exact List.mem_of_getElem? hq
    · cases h

theorem Service.run_recorded (S : Service σ) (q : Request) (w : σ) (log : List Exchange) :
    (S.recorded.serve q).run (w, log) =
      match (S.serve q).run w with
      | .ok a w' => .ok a (w', log ++ [⟨q, none⟩])
      | .error status w' => .error status (w', log ++ [⟨q, some status⟩]) := rfl

/-- The exchange that comes of sending a request. -/
def Service.exchange (S : Service σ) (q : Request) (w : σ) : Exchange :=
  ⟨q, failureOf ((S.serve q).run w)⟩

/-- A recorded read is the read, with itself put on record. -/
theorem Session.run_fetch?_recorded (s : Session σ) (name : Name) (fields : FieldSet) (w : σ)
    (log : List Exchange) : (s.recorded.fetch? name fields).run (w, log) =
      match (s.fetch? name fields).run w with
      | .ok r w' => .ok r (w', log ++ [s.service.exchange (.get name fields) w])
      | .error f w' => .error f (w', log ++ [s.service.exchange (.get name fields) w]) := by
  have hrun : (s.recorded.service.serve (.get name fields)).run (w, log) = _ :=
    s.service.run_recorded (.get name fields) w log
  rw [run_fetch?, run_fetch?, hrun, Service.exchange]
  cases (s.service.serve (.get name fields)).run w with
  | ok r w' => rfl
  | error status w' => by_cases hs : status = .unknownPrincipal <;> simp [hs]

/-- What a read comes back with says how it was answered. -/
theorem Session.exchange_of_fetch? (s : Session σ) (name : Name) (fields : FieldSet) (w : σ) :
    let x := s.service.exchange (.get name fields) w
    match (s.fetch? name fields).run w with
    | .ok (some _) _ => x = ⟨.get name fields, none⟩
    | .ok none _ => x = ⟨.get name fields, some .unknownPrincipal⟩
    | .error _ _ => ∃ status, x = ⟨.get name fields, some status⟩ ∧ status ≠ .unknownPrincipal := by
  intro x
  simp only [x]
  rw [run_fetch?, Service.exchange]
  cases (s.service.serve (.get name fields)).run w with
  | ok r w' => rfl
  | error status w' => by_cases hs : status = .unknownPrincipal <;> simp [hs]

/-- A read leaves the state that its request leaves. -/
theorem Session.stateOf_fetch? (s : Session σ) (name : Name) (fields : FieldSet) (w : σ) :
    stateOf ((s.fetch? name fields).run w) =
      stateOf ((s.service.serve (.get name fields)).run w) := by
  rw [run_fetch?]
  cases (s.service.serve (.get name fields)).run w with
  | ok r w' => rfl
  | error status w' => by_cases hs : status = .unknownPrincipal <;> simp [hs]

/-- A recorded delivery is the delivery, with its exchanges put on record. -/
theorem Service.deliver_recorded (S : Service σ) (qs : List Request) (w : σ)
    (log : List Exchange) : S.recorded.deliver qs (w, log) =
      ⟨(S.deliver qs w).carriedOut, (S.deliver qs w).refusal,
        ((S.deliver qs w).world, log ++ (S.deliver qs w).exchanges qs)⟩ := by
  induction qs generalizing w log with
  | nil => simp [Delivery.exchanges]
  | cons q qs ih =>
    have hrun := S.run_recorded q w log
    cases hq : (S.serve q).run w with
    | ok a w' =>
      rw [hq] at hrun
      rw [deliver_cons_ok hrun, deliver_cons_ok hq, ih w']
      simp [Delivery.exchanges]
    | error status w' =>
      rw [hq] at hrun
      rw [deliver_cons_error hrun, deliver_cons_error hq]
      simp [Delivery.exchanges]

end RealmAdmin
