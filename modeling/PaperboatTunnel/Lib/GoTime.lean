import Mathlib.Data.Int.Basic
import Mathlib.Order.Lattice

/-!
# `GoTime` — Go's `time.Time` and `time.Duration`

A `Time` is an instant together with the location it is displayed in. The comparisons (`after`, `before`,
`equal`) and `sub` only look at the instant; Go's built-in `==`, here Lean's equality, also looks at the
location. Monotonic clock readings are not part of the value: `UTC()` strips them.
-/

namespace GoTime

/-- `time.Duration`: a signed number of nanoseconds. -/
abbrev Duration := Int

namespace Duration

def millisecond : Duration := 1000000
def second : Duration := 1000 * millisecond
def minute : Duration := 60 * second
def hour : Duration := 60 * minute

/-- The largest and the smallest `int64`. -/
def maxDuration : Duration := 9223372036854775807
def minDuration : Duration := -9223372036854775808

/-- `int64` multiplication, with its wrap-around. -/
def mul (a b : Duration) : Duration := Int.bmod (a * b) 18446744073709551616

end Duration

/-- `time.Time`. `nanos` counts from January 1, year 1, 00:00 UTC, so the zero value is Go's zero time;
    location `0` is UTC. -/
structure Time where
  nanos : Int := 0
  loc : Nat := 0
deriving DecidableEq

namespace Time

def isZero (t : Time) : Bool := t.nanos == 0

def after (t u : Time) : Bool := decide (u.nanos < t.nanos)

def before (t u : Time) : Bool := decide (t.nanos < u.nanos)

def equal (t u : Time) : Bool := t.nanos == u.nanos

def add (t : Time) (d : Duration) : Time := { t with nanos := t.nanos + d }

/-- `t.Sub(u)`, saturated at the ends of the `Duration` range. -/
def sub (t u : Time) : Duration := max Duration.minDuration (min Duration.maxDuration (t.nanos - u.nanos))

def utc (t : Time) : Time := { t with loc := 0 }

/-- `time.Unix(0, 0)`, January 1, 1970. -/
def unixEpoch : Time := { nanos := 62135596800 * Duration.second }

variable {t u : Time}

@[simp] theorem after_iff : t.after u = true ↔ u.nanos < t.nanos := by
  simp [after]

@[simp] theorem before_iff : t.before u = true ↔ t.nanos < u.nanos := by
  simp [before]

@[simp] theorem equal_iff : t.equal u = true ↔ t.nanos = u.nanos := by
  simp [equal]

@[simp] theorem isZero_iff {t : Time} : t.isZero = true ↔ t.nanos = 0 := by
  simp [isZero]

end Time

end GoTime
