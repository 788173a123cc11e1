/-
RealmAdmin.Proofs.Config.Endpoint — which server and port the settings mean.

A written admin server is split at its last colon. `Denotes` says which host and port it
has, and `IsMalformed` that a part is missing; every text is the one or the other, and
splitting it tells which (`splitServer_of_denotes`, `splitServer_of_malformed`).

The host and the port are each split off the text anew, but it is one text, so the
parameters are a function of what it denotes (`resolveParams_eq`). Written back as an
admin server, the host and the port that are found denote themselves: a number is read
back from the text that shows it, and there is no colon in that.
-/
import RealmAdmin.Config.Endpoint
import RealmAdmin.Proofs.Text.Numeral
import RealmAdmin.Proofs.Work

namespace RealmAdmin

/-! ## The last colon -/

namespace Text

theorem splitAtLastColon_of_not_mem {cs : List Char} (h : ':' ∉ cs) :
    splitAtLastColon cs = none := by
  induction cs with
  | nil => rfl
  | cons c cs ih =>
    obtain ⟨hc, hcs⟩ := not_or.mp (mt List.mem_cons.mpr h)
    rw [splitAtLastColon, ih hcs]
    exact if_neg (Ne.symm hc)

theorem splitAtLastColon_append {before after : List Char} (h : ':' ∉ after) :
    splitAtLastColon (before ++ ':' :: after) = some (before, after) := by
  induction before with
  | nil =>
    rw [List.nil_append, splitAtLastColon, splitAtLastColon_of_not_mem h]
    rfl
  | cons c before ih => rw [List.cons_append, splitAtLastColon, ih]

/-- A text with a colon has a last one. -/
theorem exists_last_colon {cs : List Char} (h : ':' ∈ cs) :
    ∃ before after, cs = before ++ ':' :: after ∧ ':' ∉ after := by
  obtain ⟨after, before, hcs, hafter⟩ := List.eq_append_cons_of_mem (List.mem_reverse.mpr h)
  refine ⟨before.reverse, after.reverse, ?_, by simpa using hafter⟩
  rw [← List.reverse_reverse cs, hcs]
  simp

end Text

namespace Config

/-! ## Written servers -/

/-- Whether this is the admin server that the settings write for a realm: the session's,
or else the one of the realm, where an empty text counts as none. -/
def IsServer (c : Config) (realm server : String) : Prop :=
  server ≠ "" ∧ (c.adminServer = some server ∨
    (c.adminServer = none ∨ c.adminServer = some "") ∧
      c.realmServers.get? realm = some (some server))

/-- The host of a written admin server, and the port that is written with it: the text
without a colon, or what is before its last colon and the number after it. -/
inductive Denotes (server : String) : String → Option UInt16 → Prop
  | host (h : ':' ∉ server.toList) : Denotes server server none
  | port {host : String} {digits : List Char} {port : UInt16}
      (htext : server.toList = host.toList ++ ':' :: digits) (hlast : ':' ∉ digits)
      (hhost : host ≠ "") (hpositive : 0 < port) (hport : Text.WritesPort digits port) :
      Denotes server host (some port)

/-- Whether there is no host before the last colon of the text, or no port after it. -/
def IsMalformed (server : String) : Prop :=
  ∃ before after, server.toList = before ++ ':' :: after ∧ ':' ∉ after ∧
    (before = [] ∨ ¬ ∃ port, 0 < port ∧ Text.WritesPort after port)

variable {c : Config} {realm server host : String} {written : Option UInt16}

/-- Every text is written as it should be, or malformed. -/
theorem denotes_or_malformed (server : String) :
    (∃ host written, Denotes server host written) ∨ IsMalformed server := by
  by_cases hcolon : ':' ∈ server.toList
  · obtain ⟨before, after, htext, hlast⟩ := Text.exists_last_colon hcolon
    by_cases hbad : before = [] ∨ ¬ ∃ port, 0 < port ∧ Text.WritesPort after port
    · exact .inr ⟨before, after, htext, hlast, hbad⟩
    · obtain ⟨hbefore, hport⟩ := not_or.mp hbad
      obtain ⟨port, hpositive, hport⟩ := not_not.mp hport
      have hhost : String.ofList before ≠ "" := fun h => hbefore (by simpa using h)
      rw [← String.toList_ofList (l := before)] at htext
      exact .inl ⟨_, _, .port htext hlast hhost hpositive hport⟩
  · exact .inl ⟨server, none, .host hcolon⟩

theorem splitServer_of_denotes (h : Denotes server host written) :
    splitServer server = .ok (host, written) := by
  cases h with
  | host hcolon => rw [splitServer, Text.splitAtLastColon_of_not_mem hcolon]
  | @port host digits port htext hlast hhost hpositive hport =>
    have hread : Text.readPort? (String.ofList digits) = some port :=
      Text.readPort?_eq_some.mpr (by rwa [String.toList_ofList])
    have hgood : ¬ (host.toList.isEmpty = true ∨ port = 0) := by
      simpa [hhost] using (UInt16.pos_iff_ne_zero).mp hpositive
    rw [splitServer, htext, Text.splitAtLastColon_append hlast]
    dsimp only
    rw [hread]
    dsimp only
    rw [if_neg hgood, String.ofList_toList]

theorem splitServer_of_malformed (h : IsMalformed server) :
    splitServer server = .error noServer := by
  obtain ⟨before, after, htext, hlast, hbad⟩ := h
  rw [splitServer, htext, Text.splitAtLastColon_append hlast]
  dsimp only
  cases hread : Text.readPort? (String.ofList after) with
  | none => rfl
  | some port =>
    have hport : Text.WritesPort after port := by
      simpa using Text.readPort?_eq_some.mp hread
    have hgone : before.isEmpty = true ∨ port = 0 := by
      refine hbad.imp List.isEmpty_iff.mpr fun hnone => ?_
      by_contra hpositive
      exact hnone ⟨port, UInt16.pos_iff_ne_zero.mpr hpositive, hport⟩
    exact if_pos hgone

/-! ## Settings -/

theorem given?_eq_some {setting : Option String} {text : String} :
    given? setting = some text ↔ setting = some text ∧ text ≠ "" := by
  simp [given?, Option.filter_eq_some_iff]

theorem given?_eq_none {setting : Option String} :
    given? setting = none ↔ setting = none ∨ setting = some "" := by
  cases setting <;> simp [given?, Option.filter]

theorem serverText?_eq_some : c.serverText? realm = some server ↔ c.IsServer realm server := by
  simp only [serverText?, realmServer?, IsServer, Option.or_eq_some_iff, Option.bind_eq_some_iff,
    given?_eq_some, given?_eq_none]
  grind

/-- The port of a server, where one may be written with it: that one, else the session's
if it is positive, else the default one. -/
def portFor (c : Config) (written : Option UInt16) : UInt16 :=
  (written.or (c.port.filter (0 < ·))).getD defaultPort

theorem portFor_of_positive {port : UInt16} (h : c.port = some port) (hpositive : 0 < port) :
    c.portFor none = port := by
  simp [portFor, h, Option.filter, hpositive]

theorem portFor_of_zero (h : ∀ port, c.port = some port → port = 0) :
    c.portFor none = defaultPort := by
  cases hport : c.port with
  | none => simp [portFor, hport]
  | some port => simp [portFor, hport, h port hport, Option.filter]

theorem Denotes.portFor_pos (h : Denotes server host written) : 0 < c.portFor written := by
  cases h with
  | port htext hlast hhost hpositive hport => exact hpositive
  | host hcolon =>
    by_cases hport : ∃ port, c.port = some port ∧ 0 < port
    · obtain ⟨port, hport, hpositive⟩ := hport
      rwa [portFor_of_positive hport hpositive]
    · rw [portFor_of_zero fun port h => ?_]
      · decide
      · by_contra hzero
        exact hport ⟨port, h, UInt16.pos_iff_ne_zero.mpr hzero⟩

theorem Denotes.host_ne (h : Denotes server host written) (hserver : server ≠ "") :
    host ≠ "" := by
  cases h with
  | host hcolon => exact hserver
  | port htext hlast hhost hpositive hport => exact hhost

/-- The parameters are made of the one text that is the admin server. -/
theorem resolveParams_eq (c : Config) (realm : String) :
    c.resolveParams realm =
      match c.serverText? realm with
      | none => .error noServer
      | some server =>
        match splitServer server with
        | .error failure => .error failure
        | .ok (host, written) => .ok ⟨realm, host, c.portFor written⟩ := by
  rw [resolveParams, resolveHost, resolvePort, serverPort?]
  cases c.serverText? realm with
  | none => rfl
  | some server =>
    dsimp only
    cases splitServer server <;> rfl

theorem resolveParams_of_denotes (hserver : c.IsServer realm server)
    (h : Denotes server host written) :
    c.resolveParams realm = .ok ⟨realm, host, c.portFor written⟩ := by
  rw [resolveParams_eq, serverText?_eq_some.mpr hserver]
  dsimp only
  rw [splitServer_of_denotes h]

theorem resolveParams_of_malformed (hserver : c.IsServer realm server) (h : IsMalformed server) :
    c.resolveParams realm = .error noServer := by
  rw [resolveParams_eq, serverText?_eq_some.mpr hserver]
  dsimp only
  rw [splitServer_of_malformed h]

theorem resolveParams_of_missing (h : ¬ ∃ server, c.IsServer realm server) :
    c.resolveParams realm = .error noServer := by
  have hnone : c.serverText? realm = none :=
    Option.eq_none_iff_forall_ne_some.mpr fun server hserver =>
      h ⟨server, serverText?_eq_some.mp hserver⟩
  rw [resolveParams_eq, hnone]

/-- Whether the settings write no admin server for a realm, or a malformed one. -/
def LacksServer (c : Config) (realm : String) : Prop :=
  (¬ ∃ server, c.IsServer realm server) ∨ ∃ server, c.IsServer realm server ∧ IsMalformed server

/-- The parameters are found, or there is no server. -/
theorem resolveParams_cases (c : Config) (realm : String) :
    (∃ server host written, c.IsServer realm server ∧ Denotes server host written ∧
      c.resolveParams realm = .ok ⟨realm, host, c.portFor written⟩) ∨
    c.LacksServer realm ∧ c.resolveParams realm = .error noServer := by
  by_cases hserver : ∃ server, c.IsServer realm server
  · obtain ⟨server, hserver⟩ := hserver
    rcases denotes_or_malformed server with ⟨host, written, h⟩ | h
    · exact .inl ⟨server, host, written, hserver, h, resolveParams_of_denotes hserver h⟩
    · exact .inr ⟨.inr ⟨server, hserver, h⟩, resolveParams_of_malformed hserver h⟩
  · exact .inr ⟨.inl hserver, resolveParams_of_missing hserver⟩

theorem LacksServer.resolveParams (h : c.LacksServer realm) :
    c.resolveParams realm = .error noServer := by
  rcases h with h | ⟨server, hserver, h⟩
  · exact resolveParams_of_missing h
  · exact resolveParams_of_malformed hserver h

/-! ## Writing a server -/

/-- A host and a port, as the settings write them, denote that host and that port. -/
theorem denotes_append (hhost : host ≠ "") {port : UInt16} (hport : 0 < port) :
    Denotes (host ++ ":" ++ toString port.toNat) host (some port) :=
  .port (by simp) ((Text.writes_toString _).not_mem (by decide)) hhost hport
    (Text.writesPort_toString port)

/-- **Which server and port the settings mean.** There is none if no admin server is
written for the realm, or a malformed one; there is no other failure. Else the host is
the one that the text denotes, and so is the port, if there is one in the text; or else it
is that of the session if that is positive, or the default one. Written back as the
session's admin server they mean the same, whatever port the session has. -/
theorem endpoint_resolved (c : Config) (realm : String) :
    ((∃ failure, c.resolveParams realm = .error failure) ↔ c.LacksServer realm) ∧
    (∀ failure, c.resolveParams realm = .error failure →
      failure.cause = .configuration .badServer) ∧
    ∀ params, c.resolveParams realm = .ok params →
      params.realm = realm ∧ params.adminServer ≠ "" ∧
      1 ≤ params.port.toNat ∧ params.port.toNat ≤ 65535 ∧
      (∃ server written, c.IsServer realm server ∧ Denotes server params.adminServer written ∧
        (∀ port, written = some port → params.port = port) ∧
        (written = none → ∀ port, c.port = some port → 0 < port → params.port = port) ∧
        (written = none → (∀ port, c.port = some port → port = 0) → params.port = 749)) ∧
      ∀ port : Option UInt16,
        let server := params.adminServer ++ ":" ++ toString params.port.toNat
        { c with adminServer := some server, port := port }.resolveParams realm = .ok params := by
  rcases resolveParams_cases c realm with ⟨server, host, written, hserver, h, hrun⟩ | ⟨hlacks, hrun⟩
  · refine ⟨⟨fun ⟨failure, hfailed⟩ => ?_, fun hlacks => ⟨_, hlacks.resolveParams⟩⟩,
      fun failure hfailed => ?_, fun params hparams => ?_⟩
    · rw [hrun] at hfailed
      cases hfailed
    · rw [hrun] at hfailed
      cases hfailed
    rw [hrun] at hparams
    obtain rfl := Except.ok.inj hparams
    have hhost := h.host_ne hserver.1
    have hpositive : 0 < c.portFor written := h.portFor_pos
    have hbound := (c.portFor written).toNat_lt
    refine ⟨rfl, hhost, UInt16.lt_iff_toNat_lt.mp hpositive, Nat.le_of_lt_succ hbound,
      ⟨server, written, hserver, h, ?_, ?_, ?_⟩, fun port => ?_⟩
    · rintro port rfl
      rfl
    · rintro rfl port hport hpositive
      exact portFor_of_positive hport hpositive
    · rintro rfl hzero
      exact portFor_of_zero hzero
    · intro server
      have hwritten : IsServer { c with adminServer := some server, port := port } realm server :=
        ⟨by simp [server], .inl rfl⟩
      exact resolveParams_of_denotes hwritten (denotes_append hhost hpositive)
  · refine ⟨⟨fun _ => hlacks, fun _ => ⟨_, hrun⟩⟩, fun failure hfailed => ?_,
      fun params hparams => ?_⟩
    · obtain rfl := Except.error.inj (hrun.symm.trans hfailed)
      decide
    · rw [hrun] at hparams
      cases hparams

/-- The last of several colons counts, and so does the port after it. -/
example : ({ adminServer := some "[::1]:+0464", port := some 17 } : Config).resolveParams "R" =
    .ok ⟨"R", "[::1]", 464⟩ := rfl

end Config

end RealmAdmin
