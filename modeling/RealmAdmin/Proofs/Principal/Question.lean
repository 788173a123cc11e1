/-
RealmAdmin.Proofs.Principal.Question — what a question about a principal answers.

Every question loads the principal and then looks at what it is
(`Question.run_get`); what it leaves is what the load leaves (`stateOf_ask`).
Most look at one attribute of the snapshot, so records that agree there are
answered alike (`Question.answer_congr`). The attribute of an edit has a
question of its own, and `Edit.readBack` is what the snapshot makes of the
edit's value: its wire form, read again.
-/
import RealmAdmin.Proofs.Principal.Edit

namespace RealmAdmin.Principal

variable {σ : Type}

/-! ## Questions -/

/-- Something to ask about a principal. -/
inductive Question where
  | isStored
  | expireTime
  | passwordExpiration
  | maxLifetime
  | maxRenewableLifetime
  | attributes
  | policy
  | lastPasswordChange
  | modifyTime
  | lastSuccess
  | lastFailure
  | failedAttempts
  | keyVersion
  | modifier
  deriving DecidableEq

/-- Ask it; what the answer is does not matter here. -/
def Question.ask (s : Session σ) : Question → Work σ Unit
  | .isStored => discard (Principal.isStored s)
  | .expireTime => discard (Principal.expireTime s)
  | .passwordExpiration => discard (Principal.passwordExpiration s)
  | .maxLifetime => discard (Principal.maxLifetime s)
  | .maxRenewableLifetime => discard (Principal.maxRenewableLifetime s)
  | .attributes => discard (Principal.attributes s)
  | .policy => discard (Principal.policy s)
  | .lastPasswordChange => discard (Principal.lastPasswordChange s)
  | .modifyTime => discard (Principal.modifyTime s)
  | .lastSuccess => discard (Principal.lastSuccess s)
  | .lastFailure => discard (Principal.lastFailure s)
  | .failedAttempts => discard (Principal.failedAttempts s)
  | .keyVersion => discard (Principal.keyVersion s)
  | .modifier => discard (Principal.modifier s)

namespace Question

/-- The type of a question's answer. -/
abbrev Answer : Question → Type
  | .isStored => Bool
  | .expireTime | .passwordExpiration | .lastPasswordChange | .modifyTime | .lastSuccess
  | .lastFailure => Moment
  | .maxLifetime | .maxRenewableLifetime => Lifetime
  | .attributes => Flags
  | .policy => Option String
  | .failedAttempts | .keyVersion => UInt32
  | .modifier => Option Principal

/-- Ask it for its answer. -/
def get (s : Session σ) : (question : Question) → Work σ question.Answer
  | .isStored => Principal.isStored s
  | .expireTime => Principal.expireTime s
  | .passwordExpiration => Principal.passwordExpiration s
  | .maxLifetime => Principal.maxLifetime s
  | .maxRenewableLifetime => Principal.maxRenewableLifetime s
  | .attributes => Principal.attributes s
  | .policy => Principal.policy s
  | .lastPasswordChange => Principal.lastPasswordChange s
  | .modifyTime => Principal.modifyTime s
  | .lastSuccess => Principal.lastSuccess s
  | .lastFailure => Principal.lastFailure s
  | .failedAttempts => Principal.failedAttempts s
  | .keyVersion => Principal.keyVersion s
  | .modifier => Principal.modifier s

/-- The answer for a principal that is stored with a record. -/
def answer (r : Record) : (question : Question) → question.Answer
  | .isStored => true
  | .expireTime => .ofExpiry r.expireTime
  | .passwordExpiration => .ofExpiry r.passwordExpiration
  | .maxLifetime => .ofSeconds r.maxLife
  | .maxRenewableLifetime => .ofSeconds r.maxRenewableLife
  | .attributes => r.attributes
  | .policy => r.policy
  | .lastPasswordChange => .ofHistory r.lastPasswordChange
  | .modifyTime => .ofHistory r.modifyTime
  | .lastSuccess => .ofHistory r.lastSuccess
  | .lastFailure => .ofHistory r.lastFailure
  | .failedAttempts => r.failedAttempts
  | .keyVersion => r.keyVersion
  | .modifier => r.modifier.map existing

/-- The answer for a principal that is loaded; two questions are about its
presence as well. -/
def answerFor (p : Principal) : (question : Question) → question.Answer
  | .isStored => p.presence = .present
  | .modifier => if p.presence = .present then p.record.modifier.map existing else none
  | question => question.answer p.record

/-- The field whose attribute the answer shows, if it shows one. -/
def field? : Question → Option Field
  | .isStored => none
  | .expireTime => some .expireTime
  | .passwordExpiration => some .passwordExpiration
  | .maxLifetime => some .maxLife
  | .maxRenewableLifetime => some .maxRenewableLife
  | .attributes => some .attributes
  | .policy => some .policy
  | .lastPasswordChange => some .lastPasswordChange
  | .modifyTime => some .modifyTime
  | .lastSuccess => some .lastSuccess
  | .lastFailure => some .lastFailure
  | .failedAttempts => some .failedAttempts
  | .keyVersion => some .keyVersion
  | .modifier => some .modifier

theorem run_ofRecord {α : Type} (s : Session σ) (view : Record → α) (y : Principal × σ) :
    (ofRecord s view).run y =
      match (Principal.load s).run y with
      | .ok _ z => .ok (view z.1.record) z
      | .error f z => .error f z := by
  cases h : (Principal.load s).run y <;> simp [ofRecord, h]

/-- Every question loads the principal and then answers from what it is. -/
theorem run_get (s : Session σ) (question : Question) (y : Principal × σ) :
    (question.get s).run y =
      match (Principal.load s).run y with
      | .ok _ z => .ok (question.answerFor z.1) z
      | .error f z => .error f z := by
  cases question with
  | isStored =>
    cases h : (Principal.load s).run y <;>
      simp [get, Principal.isStored, h, answerFor]
  | modifier =>
    cases h : (Principal.load s).run y with
    | error f z => simp [get, Principal.modifier, Principal.isStored, h]
    | ok a z =>
      by_cases hpresence : z.1.presence = .present <;>
        simp [get, Principal.modifier, Principal.isStored, h, hpresence, answerFor]
  | attributes => exact run_ofRecord s (·.attributes) y
  | policy => exact run_ofRecord s (·.policy) y
  | failedAttempts => exact run_ofRecord s (·.failedAttempts) y
  | keyVersion => exact run_ofRecord s (·.keyVersion) y
  | expireTime => exact run_ofRecord s (fun r => Moment.ofExpiry r.expireTime) y
  | passwordExpiration => exact run_ofRecord s (fun r => Moment.ofExpiry r.passwordExpiration) y
  | maxLifetime => exact run_ofRecord s (fun r => Lifetime.ofSeconds r.maxLife) y
  | maxRenewableLifetime => exact run_ofRecord s (fun r => Lifetime.ofSeconds r.maxRenewableLife) y
  | lastPasswordChange => exact run_ofRecord s (fun r => Moment.ofHistory r.lastPasswordChange) y
  | modifyTime => exact run_ofRecord s (fun r => Moment.ofHistory r.modifyTime) y
  | lastSuccess => exact run_ofRecord s (fun r => Moment.ofHistory r.lastSuccess) y
  | lastFailure => exact run_ofRecord s (fun r => Moment.ofHistory r.lastFailure) y

end Question

theorem stateOf_discard {α : Type} (x : Work σ α) (y : Principal × σ) :
    stateOf ((discard x).run y) = stateOf (x.run y) := by
  have hmap : (discard x).run y = ((fun _ => ()) <$> x).run y := rfl
  rw [hmap, run_map]
  cases x.run y <;> rfl

/-- Every question leaves what a load leaves. -/
theorem stateOf_ask (s : Session σ) (question : Question) (y : Principal × σ) :
    stateOf ((question.ask s).run y) = stateOf ((Principal.load s).run y) := by
  have hget : question.ask s = discard (question.get s) := by cases question <;> rfl
  rw [hget, stateOf_discard, question.run_get]
  cases (Principal.load s).run y <;> rfl

/-! ## Answers -/

namespace Question

/-- What a question answered comes from what its load has left. -/
theorem load_of_get {s : Session σ} {question : Question} {p p' : Principal} {w w' : σ}
    {answer : question.Answer} (h : (question.get s).run (p, w) = .ok answer (p', w')) :
    (Principal.load s).run (p, w) = .ok () (p', w') ∧ answer = question.answerFor p' := by
  rw [run_get] at h
  cases hload : (Principal.load s).run (p, w) with
  | error f z => simp [hload] at h
  | ok a z =>
    obtain ⟨rfl, rfl⟩ : question.answerFor z.1 = answer ∧ z = (p', w') := by simpa [hload] using h
    exact ⟨rfl, rfl⟩

/-- Of a principal that is there, every answer is about the snapshot. -/
theorem answerFor_of_present {p : Principal} (h : p.presence = .present) (question : Question) :
    question.answerFor p = question.answer p.record := by
  cases question <;> simp [answerFor, answer, h]

/-- Records that agree at a question's field are answered alike. -/
theorem answer_congr {a b : Record} {question : Question}
    (h : ∀ f ∈ question.field?, a.AgreeAt b f) : question.answer a = question.answer b := by
  cases question with
  | isStored => rfl
  | expireTime => exact congrArg Moment.ofExpiry (h .expireTime rfl)
  | passwordExpiration => exact congrArg Moment.ofExpiry (h .passwordExpiration rfl)
  | maxLifetime => exact congrArg Lifetime.ofSeconds (h .maxLife rfl)
  | maxRenewableLifetime => exact congrArg Lifetime.ofSeconds (h .maxRenewableLife rfl)
  | attributes => exact h .attributes rfl
  | policy => exact h .policy rfl
  | lastPasswordChange => exact congrArg Moment.ofHistory (h .lastPasswordChange rfl)
  | modifyTime => exact congrArg Moment.ofHistory (h .modifyTime rfl)
  | lastSuccess => exact congrArg Moment.ofHistory (h .lastSuccess rfl)
  | lastFailure => exact congrArg Moment.ofHistory (h .lastFailure rfl)
  | failedAttempts => exact h .failedAttempts rfl
  | keyVersion => exact h .keyVersion rfl
  | modifier => exact congrArg (Option.map existing) (h .modifier rfl)

end Question

/-! ## Edits -/

namespace Edit

/-- The question about the attribute that is changed. -/
def question : Edit → Question
  | .expireTime _ => .expireTime
  | .passwordExpiration _ => .passwordExpiration
  | .maxLifetime _ => .maxLifetime
  | .maxRenewableLifetime _ => .maxRenewableLifetime
  | .attributes _ => .attributes
  | .policy _ => .policy

/-- The value as the service's answer shows it: its wire form, read again. -/
def readBack : (d : Edit) → d.question.Answer
  | .expireTime time => Moment.ofExpiry time.toEpoch
  | .passwordExpiration time => Moment.ofExpiry time.toEpoch
  | .maxLifetime lifetime => Lifetime.ofSeconds lifetime.toSeconds
  | .maxRenewableLifetime lifetime => Lifetime.ofSeconds lifetime.toSeconds
  | .attributes flags => flags
  | .policy name => name

/-- Where a record has the value, the answer shows it. -/
theorem answerFor_of_holds {d : Edit} {p : Principal} (h : d.Holds p.record) :
    d.question.answerFor p = d.readBack := by
  cases d with
  | expireTime time => exact congrArg Moment.ofExpiry h
  | passwordExpiration time => exact congrArg Moment.ofExpiry h
  | maxLifetime lifetime => exact congrArg Lifetime.ofSeconds h
  | maxRenewableLifetime lifetime => exact congrArg Lifetime.ofSeconds h
  | attributes flags => exact h
  | policy name => exact h

end Edit

end RealmAdmin.Principal
