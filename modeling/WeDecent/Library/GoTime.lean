import Mathlib.Tactic.Common

/-!
# Go's `time.Time`

An instant, counted in nanoseconds from the Unix epoch, with the location it is
shown in. `==` compares the location too, `Before` and `After` only the instant.
The instants are unbounded here; `UnixMilli` agrees with Go's for every time
whose milliseconds fit 64 bits.
-/

namespace GoTime

inductive Zone where
  | utc
  | local
  | fixed (offset : Int)
  deriving DecidableEq

structure Time where
  nanos : Int
  zone : Zone
  deriving DecidableEq

def nanosPerMilli : Int := 1000000

namespace Time

/-- The zero value is the first of January of year 1. -/
def isZero (t : Time) : Bool := t.nanos == -62135596800000000000

def before (t u : Time) : Bool := t.nanos < u.nanos

/-- `t.UTC()` -/
def utc (t : Time) : Time := { t with zone := .utc }

/-- `t.UnixMilli()` -/
def unixMilli (t : Time) : Int := t.nanos / nanosPerMilli

def add (t : Time) (duration : Int) : Time := { t with nanos := t.nanos + duration }

def nanosPerSecond : Int := 1000000000

/-- `t.Unix()` -/
def unix (t : Time) : Int := t.nanos / nanosPerSecond

/-- `t.Truncate(time.Second)` -/
def truncateSecond (t : Time) : Time :=
  { t with nanos := t.nanos / nanosPerSecond * nanosPerSecond }

/-- `time.UnixMilli(msec)` -/
def ofUnixMilli (msec : Int) : Time := ⟨msec * nanosPerMilli, .local⟩

/-- A reading of the UTC clock. -/
def wall (clock : Int) : Time := ⟨clock, .utc⟩

@[simp] theorem utc_nanos (t : Time) : t.utc.nanos = t.nanos := rfl

@[simp] theorem unixMilli_ofUnixMilli (msec : Int) : (ofUnixMilli msec).unixMilli = msec :=
  Int.mul_ediv_cancel msec (by decide)

/-- The milliseconds have passed exactly when the instant they name has. -/
theorem unixMilli_lt_iff {t : Time} {msec : Int} :
    t.unixMilli < msec ↔ t.nanos < (ofUnixMilli msec).nanos :=
  Int.ediv_lt_iff_lt_mul (by decide)

end Time

end GoTime
