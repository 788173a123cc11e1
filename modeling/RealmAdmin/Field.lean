/-
RealmAdmin.Field — the fields that a request about a principal can name.

There are eighteen, in a fixed order; a field's place in that order is its
bit in a request's mask. The service maintains some fields itself, so a
create request and a modify request may each carry only some of them.
-/

namespace RealmAdmin

/-- A field of a principal, as requests name it. -/
inductive Field where
  | principal
  | expireTime
  | passwordExpiration
  | lastPasswordChange
  | attributes
  | maxLife
  | modifyTime
  | modifier
  | keyVersion
  | masterKeyVersion
  | auxAttributes
  | policy
  | policyClear
  | maxRenewableLife
  | lastSuccess
  | lastFailure
  | failedAttempts
  | keyData
  deriving DecidableEq

namespace Field

/-- Every field, in order. -/
def all : List Field := [
  .principal, .expireTime, .passwordExpiration, .lastPasswordChange, .attributes, .maxLife,
  .modifyTime, .modifier, .keyVersion, .masterKeyVersion, .auxAttributes, .policy, .policyClear,
  .maxRenewableLife, .lastSuccess, .lastFailure, .failedAttempts, .keyData]

/-- The place of a field in the order, which is its bit in a mask. -/
def index : Field → Nat
  | .principal => 0
  | .expireTime => 1
  | .passwordExpiration => 2
  | .lastPasswordChange => 3
  | .attributes => 4
  | .maxLife => 5
  | .modifyTime => 6
  | .modifier => 7
  | .keyVersion => 8
  | .masterKeyVersion => 9
  | .auxAttributes => 10
  | .policy => 11
  | .policyClear => 12
  | .maxRenewableLife => 13
  | .lastSuccess => 14
  | .lastFailure => 15
  | .failedAttempts => 16
  | .keyData => 17

/-- The name of a field. -/
def text : Field → String
  | .principal => "principal"
  | .expireTime => "princ_expire_time"
  | .passwordExpiration => "pw_expiration"
  | .lastPasswordChange => "last_pwd_change"
  | .attributes => "attributes"
  | .maxLife => "max_life"
  | .modifyTime => "mod_time"
  | .modifier => "mod_name"
  | .keyVersion => "kvno"
  | .masterKeyVersion => "mkvno"
  | .auxAttributes => "aux_attributes"
  | .policy => "policy"
  | .policyClear => "policy_clr"
  | .maxRenewableLife => "max_rlife"
  | .lastSuccess => "last_success"
  | .lastFailure => "last_failed"
  | .failedAttempts => "fail_auth_count"
  | .keyData => "key_data"

/-- The field of that name. -/
def ofText? (s : String) : Option Field := all.find? (·.text == s)

/-- Whether a create request may carry the field; the service refuses the
fields that it maintains itself. -/
def allowedOnCreate : Field → Bool
  | .principal | .expireTime | .passwordExpiration | .attributes | .maxLife | .keyVersion
  | .policy | .maxRenewableLife => true
  | .lastPasswordChange | .modifyTime | .modifier | .masterKeyVersion | .auxAttributes
  | .policyClear | .lastSuccess | .lastFailure | .failedAttempts | .keyData => false

/-- Whether a modify request may carry the field; the name changes through a
rename only. -/
def allowedOnModify : Field → Bool
  | .expireTime | .passwordExpiration | .attributes | .maxLife | .keyVersion | .policy
  | .policyClear | .maxRenewableLife | .failedAttempts => true
  | .principal | .lastPasswordChange | .modifyTime | .modifier | .masterKeyVersion
  | .auxAttributes | .lastSuccess | .lastFailure | .keyData => false

theorem index_lt (f : Field) : f.index < 18 := by cases f <;> decide

theorem index_inj {f g : Field} : f.index = g.index ↔ f = g := by
  cases f <;> cases g <;> decide

theorem mem_all (f : Field) : f ∈ all := by cases f <;> decide

/-- Every place below eighteen is some field's place. -/
theorem exists_index {i : Nat} (h : i < 18) : ∃ f : Field, f.index = i := by
  have hall : ∀ i : Fin 18, (all.any fun f => f.index == i.val) = true := by decide
  obtain ⟨f, -, hf⟩ := List.any_eq_true.mp (hall ⟨i, h⟩)
  exact ⟨f, by simpa using hf⟩

end Field

end RealmAdmin
