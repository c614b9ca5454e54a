import Gatehouse.Text.Decimal

/-!
Spans of time and readings of a monotonic clock. A reading has room for fewer seconds than a
duration, so moving on from one may run out of room.
-/
namespace Gatehouse

/-- A span of time in whole nanoseconds; its seconds fit in 64 bits. -/
structure Duration where
  nanos : Nat
  nanos_lt : nanos < 18446744073709551616000000000
deriving DecidableEq

namespace Duration

def zero : Duration := ⟨0, by decide⟩

instance : Inhabited Duration := ⟨zero⟩

def ofMillis (ms : UInt64) : Duration :=
  ⟨ms.toNat * 1000000, by have := ms.toNat_lt; omega⟩

@[simp] theorem nanos_ofMillis (ms : UInt64) : (ofMillis ms).nanos = ms.toNat * 1000000 := rfl

def longest : Duration := ⟨18446744073709551615999999999, by decide⟩

/-- As many nanoseconds, or the longest duration if they are too many. -/
def clamp (nanos : Nat) : Duration :=
  if h : nanos < 18446744073709551616000000000 then ⟨nanos, h⟩ else longest

def ofParts? (secs : UInt64) (nanos : Nat) : Option Duration :=
  if h : nanos < 1000000000 then
    some ⟨secs.toNat * 1000000000 + nanos, by have := secs.toNat_lt; omega⟩
  else none

def secs (d : Duration) : Nat := d.nanos / 1000000000

def subsecNanos (d : Duration) : Nat := d.nanos % 1000000000

def millis (d : Duration) : Nat := d.nanos / 1000000

def fraction (value places : Nat) : List Char :=
  let digits := Decimal.digits value
  let padded := List.replicate (places - digits.length) '0' ++ digits
  (padded.reverse.dropWhile (· == '0')).reverse

/-- A number of units of `size` nanoseconds, a fraction of up to `places` digits, and the unit. -/
def inUnits (nanos size places : Nat) (unit : String) : String :=
  let tail := fraction (nanos % size) places
  Decimal.text (nanos / size) ++
    (if tail.isEmpty then "" else "." ++ String.ofList tail) ++ unit

/-- The text in the largest unit that leaves a whole part: `20ms`, `1.5s`. -/
def text (d : Duration) : String :=
  if d.nanos ≥ 1000000000 then inUnits d.nanos 1000000000 9 "s"
  else if d.nanos ≥ 1000000 then inUnits d.nanos 1000000 6 "ms"
  else if d.nanos ≥ 1000 then inUnits d.nanos 1000 3 "µs"
  else inUnits d.nanos 1 0 "ns"

end Duration

/-- A reading of the monotonic clock, in nanoseconds since an origin of the clock's own. Nothing is
assumed of the reading at which a run begins. -/
abbrev Instant := Nat

namespace Instant

/-- The end of the range of the clock: its readings are taken to hold their seconds in 63 bits. -/
def limit : Instant := 9223372036854775808 * 1000000000

def after? (now : Instant) (d : Duration) : Option Instant :=
  if now + d.nanos < limit then some (now + d.nanos) else none

theorem after?_eq_some {now later : Instant} {d : Duration} :
    after? now d = some later ↔ now + d.nanos = later ∧ later < limit := by
  unfold after?
  split <;> rename_i h
  · simp only [Option.some.injEq]
    exact ⟨fun e => ⟨e, e ▸ h⟩, fun e => e.1⟩
  · simp only [reduceCtorEq, false_iff]
    exact fun e => h (e.1 ▸ e.2)

def timeLeft (now later : Instant) : Nat := later - now

end Instant

def defaultTimeout : Duration := Duration.ofMillis 30000

/-- A configured limit of zero selects the default. -/
def effectiveTimeout (configured : Duration) : Duration :=
  if configured.nanos = 0 then defaultTimeout else configured

theorem effectiveTimeout_nanos_pos (d : Duration) : 0 < (effectiveTimeout d).nanos := by
  unfold effectiveTimeout
  split
  · decide
  · omega

@[simp] theorem effectiveTimeout_idem (d : Duration) :
    effectiveTimeout (effectiveTimeout d) = effectiveTimeout d := by
  have h := effectiveTimeout_nanos_pos d
  rw [effectiveTimeout, if_neg (by omega)]

def deadlineMessage (timeout : Duration) : String :=
  "handler did not complete within " ++ Decimal.text timeout.millis ++ "ms"

end Gatehouse
