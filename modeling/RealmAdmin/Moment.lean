/-
RealmAdmin.Moment — points in time, with the two infinities.

The service stores a time as seconds since the epoch, and zero for a time
that is not set. What an unset time means depends on what the time is for:
an expiry that is not set never arrives, and an event without a time never
happened. `Moment.ofExpiry` and `Moment.ofHistory` read the two kinds, and
`Moment.toEpoch` writes both.
-/
import RealmAdmin.Calendar
import RealmAdmin.Value

namespace RealmAdmin

/-! ## Dates and times -/

/-- A date and time in universal time, to the nanosecond. A billion
nanoseconds or more make a leap second, which may follow any second. -/
structure DateTime where
  seconds : Int
  nanos : Nat
  inRange : -8334601228800 ≤ seconds ∧ seconds ≤ 8210266876799
  nanosValid : nanos < 2000000000
  deriving DecidableEq

namespace DateTime

/-- The date and time with these parts, where there is one. A leap second made this
way follows the last second of a minute. -/
def make? (seconds : Int) (nanos : Nat) : Option DateTime :=
  if hr : -8334601228800 ≤ seconds ∧ seconds ≤ 8210266876799 then
    if hn : nanos < 1000000000 ∨ nanos < 2000000000 ∧ seconds % 60 = 59 then
      some ⟨seconds, nanos, hr, by omega⟩
    else none
  else none

/-- The same time without its fraction of a second; a leap second stays
one. -/
def wholeSeconds (t : DateTime) : DateTime where
  seconds := t.seconds
  nanos := t.nanos - t.nanos % 1000000000
  inRange := t.inRange
  nanosValid := Nat.lt_of_le_of_lt (Nat.sub_le _ _) t.nanosValid

/-- Earlier times first; a leap second comes after the second it extends. -/
protected def le (s t : DateTime) : Bool :=
  s.seconds < t.seconds || s.seconds == t.seconds && s.nanos ≤ t.nanos

end DateTime

/-! ## Moments -/

/-- A point in time, perhaps infinitely far off. -/
inductive Moment where
  | negInfinity
  | at (time : DateTime)
  | posInfinity
  deriving DecidableEq

namespace Moment

/-- The moment of a date and time, to the whole second that the service
stores. -/
def ofDateTime (t : DateTime) : Moment := .at t.wholeSeconds

/-- The moment so many seconds after the epoch, where there is a date for it. -/
def ofSeconds? (seconds : Int64) : Option Moment := (DateTime.make? seconds.toInt 0).map .at

/-- Read an expiry: one that is not set, or has no date, never arrives. -/
def ofExpiry (epoch : Int64) : Moment :=
  if 0 < epoch then (ofSeconds? epoch).getD .posInfinity else .posInfinity

/-- Read the time of a past event: without a time, or a date, the event
never happened. -/
def ofHistory (epoch : Int64) : Moment :=
  if 0 < epoch then (ofSeconds? epoch).getD .negInfinity else .negInfinity

/-- The wire's form of a moment: the infinities, and times that are not
after the epoch, are zero. -/
def toEpoch : Moment → Int64
  | .at t => if 0 < t.seconds then Int64.ofInt t.seconds else 0
  | _ => 0

def isInfinite : Moment → Bool
  | .at _ => false
  | _ => true

/-- The seconds after the epoch, of a moment that is not infinite. -/
def seconds? : Moment → Option Int
  | .at t => some t.seconds
  | _ => none

/-- Earlier moments first, the infinities at the two ends. -/
protected def le : Moment → Moment → Bool
  | .negInfinity, _ => true
  | _, .posInfinity => true
  | .at s, .at t => s.le t
  | _, _ => false

/-- A moment as text, with the offset of universal time. -/
def text : Moment → String
  | .negInfinity => "-infinity"
  | .at t => Calendar.timestampText t.seconds t.nanos ++ "+00:00"
  | .posInfinity => "+infinity"

/-- A moment as data, with the letter for universal time. -/
def toValue : Moment → Value
  | .negInfinity => .text "negInfinity"
  | .at t => .table [("at", .text (Calendar.timestampText t.seconds t.nanos ++ "Z"))]
  | .posInfinity => .text "posInfinity"

end Moment

end RealmAdmin
