import RealmAdmin.Config.Load
import RealmAdmin.Connection
import RealmAdmin.LogFormat
import RealmAdmin.Realm.Serve
import RealmAdmin.Record.Data
import RealmAdmin.Proofs.Record
import RealmAdmin.Proofs.Work
import RealmAdmin.Proofs.Service
import RealmAdmin.Proofs.Principal.Load
import RealmAdmin.Proofs.Principal.Stage
import RealmAdmin.Proofs.Principal.Plan
import RealmAdmin.Proofs.Principal.Question
import RealmAdmin.Proofs.Principal.Reachable
import RealmAdmin.Proofs.Principal.Commit
import RealmAdmin.Proofs.Realm.Serve
import RealmAdmin.Proofs.Realm.Load
import RealmAdmin.Proofs.Realm.Unmodified
import RealmAdmin.Proofs.Realm.Deliver
import RealmAdmin.Proofs.Password.Generator
import RealmAdmin.Proofs.Realm.Holds
import RealmAdmin.Proofs.Realm.Retry
import RealmAdmin.Proofs.Realm.Tracks
import RealmAdmin.Proofs.Realm.SoleWriter
import RealmAdmin.Proofs.Realm.Coherence
import RealmAdmin.Proofs.Realm.ReadBack
import RealmAdmin.Proofs.Name.RoundTrip
import RealmAdmin.Proofs.Realm.Masks
import RealmAdmin.Proofs.Realm.Effect
import RealmAdmin.Proofs.Realm.Disjoint
import RealmAdmin.Proofs.Realm.Template
import RealmAdmin.Proofs.Principal.Lazy
import RealmAdmin.Proofs.Principal.Password
import RealmAdmin.Proofs.Refusal
import RealmAdmin.Proofs.Name.Grammar
import RealmAdmin.Proofs.Name.Injective
import RealmAdmin.Proofs.Realm.Keyed
import RealmAdmin.Proofs.Realm.Upkeep
import RealmAdmin.Proofs.Dialogue
import RealmAdmin.Proofs.Principal.Creator
import RealmAdmin.Proofs.Realm.Contest
import RealmAdmin.Proofs.Principal.LoadFailure
import RealmAdmin.Proofs.Connection.Gate
import RealmAdmin.Proofs.Connection.Establish
import RealmAdmin.Proofs.Realm.Stamps
import RealmAdmin.Proofs.Text.Glob
import RealmAdmin.Proofs.Connection.Creation
import RealmAdmin.Proofs.Realm.Settled
import RealmAdmin.Proofs.Realm.Expiry
import RealmAdmin.Proofs.Realm.Lifetime
import RealmAdmin.Proofs.Text.Bytes
import RealmAdmin.Proofs.Connection.Lookup
import RealmAdmin.Proofs.Config.Endpoint
import RealmAdmin.Proofs.Config.Load
import RealmAdmin.Proofs.Connection.Deletion
import RealmAdmin.Proofs.Record.Merge
import RealmAdmin.Proofs.Record.Data
import RealmAdmin.Proofs.Checks
import RealmAdmin.Proofs.Password.Outcome
import RealmAdmin.Proofs.Password.Classes
import RealmAdmin.Proofs.Config.Generator
import RealmAdmin.Proofs.Name.Derived
import RealmAdmin.Proofs.Realm.Address
