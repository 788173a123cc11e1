/-
RealmAdmin.Lifetime — how long a ticket may live.

The service stores a lifetime as seconds, and zero for one without a bound;
so a bounded lifetime of less than a second is stored as if it had none.
-/
import RealmAdmin.Value

namespace RealmAdmin

/-- A length of time, to the nanosecond. -/
structure Duration where
  seconds : Nat
  nanos : Nat
  nanos_lt : nanos < 1000000000
  deriving DecidableEq

/-- A ticket's lifetime. -/
inductive Lifetime where
  | bounded (length : Duration)
  | unbounded
  deriving DecidableEq

namespace Lifetime

/-- The lifetime of so many whole seconds. -/
def wholeSeconds (seconds : Nat) : Lifetime := .bounded ⟨seconds, 0, by decide⟩

def hours (n : Nat) : Lifetime := wholeSeconds (n * 3600)

/-- Read a stored lifetime: without a positive length it has no bound. -/
def ofSeconds (seconds : Int64) : Lifetime :=
  if 0 < seconds then wholeSeconds seconds.toInt.toNat else .unbounded

/-- The longest lifetime that can be stored, in seconds. -/
def maxSeconds : Nat := 9223372036854775807

/-- The wire's form of a lifetime: its whole seconds, as many as can be
stored, and zero without a bound. -/
def toSeconds : Lifetime → Int64
  | .bounded d => Int64.ofNat (min d.seconds maxSeconds)
  | .unbounded => 0

def isUnbounded : Lifetime → Bool
  | .bounded _ => false
  | .unbounded => true

/-- A lifetime as data. -/
def toValue : Lifetime → Value
  | .bounded d =>
    .table [("bounded", .table [("secs", .integer d.seconds), ("nanos", .integer d.nanos)])]
  | .unbounded => .text "unbounded"

end Lifetime

end RealmAdmin
