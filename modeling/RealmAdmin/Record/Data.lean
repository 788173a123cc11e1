/-
RealmAdmin.Record.Data — records as data.

A record is a table of its attributes under their names on the wire. The two
names and the policy are left out when absent, and may be missing or null on
reading; the other attributes have to be there, and have to fit their words.
-/
import RealmAdmin.Record

namespace RealmAdmin.Record

/-- The members of a record as data, in order. -/
def memberNames : List String := [
  "principal", "princExpireTime", "lastPwdChange", "pwExpiration", "maxLife", "modName", "modDate",
  "attributes", "kvno", "mkvno", "policy", "auxAttributes", "maxRenewableLife", "lastSuccess",
  "lastFailed", "failAuthCount"]

/-- A member that is left out when absent. -/
def optionalMember (name : String) : Option Value → List (String × Value)
  | some v => [(name, v)]
  | none => []

/-- A record as a table. -/
def toValue (r : Record) : Value := .table <|
  optionalMember "principal" (r.principal.map Name.toValue) ++
  [("princExpireTime", .ofInt64 r.expireTime), ("lastPwdChange", .ofInt64 r.lastPasswordChange),
    ("pwExpiration", .ofInt64 r.passwordExpiration), ("maxLife", .ofInt64 r.maxLife)] ++
  optionalMember "modName" (r.modifier.map Name.toValue) ++
  [("modDate", .ofInt64 r.modifyTime), ("attributes", .ofUInt32 r.attributes.bits),
    ("kvno", .ofUInt32 r.keyVersion), ("mkvno", .ofUInt32 r.masterKeyVersion)] ++
  optionalMember "policy" (r.policy.map .text) ++
  [("auxAttributes", .ofInt64 r.auxAttributes), ("maxRenewableLife", .ofInt64 r.maxRenewableLife),
    ("lastSuccess", .ofInt64 r.lastSuccess), ("lastFailed", .ofInt64 r.lastFailure),
    ("failAuthCount", .ofUInt32 r.failedAttempts)]

/-- The record that a value holds. -/
def ofValue? (v : Value) : Option Record := do
  let members ← v.allMembers? memberNames
  let wide (name : String) := Value.required Value.int64? (members name)
  let narrow (name : String) := Value.required Value.uint32? (members name)
  let principal ← Value.optional Name.ofValue? (members "principal")
  let expireTime ← wide "princExpireTime"
  let lastPasswordChange ← wide "lastPwdChange"
  let passwordExpiration ← wide "pwExpiration"
  let maxLife ← wide "maxLife"
  let modifier ← Value.optional Name.ofValue? (members "modName")
  let modifyTime ← wide "modDate"
  let attributes ← narrow "attributes"
  let keyVersion ← narrow "kvno"
  let masterKeyVersion ← narrow "mkvno"
  let policy ← Value.optional Value.text? (members "policy")
  let auxAttributes ← wide "auxAttributes"
  let maxRenewableLife ← wide "maxRenewableLife"
  let lastSuccess ← wide "lastSuccess"
  let lastFailure ← wide "lastFailed"
  let failedAttempts ← narrow "failAuthCount"
  return {
    principal, expireTime, lastPasswordChange, passwordExpiration, maxLife, modifier, modifyTime,
    attributes := ⟨attributes⟩, keyVersion, masterKeyVersion, policy, auxAttributes,
    maxRenewableLife, lastSuccess, lastFailure, failedAttempts }

end RealmAdmin.Record
